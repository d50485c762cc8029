import ImageBuild.Proofs.Engine.Attempts
import ImageBuild.Proofs.Instant.Order

/-! Failed builds are started again no sooner than their wait is over, and nothing is seen of them until then. -/

namespace ImageBuild

open Run Worker
open Instant (atSecond)

namespace Engine

/-- Whether the wait of a failure is over: as much time has passed since the last attempt, and time that runs
backward is none. -/
def Waited (c : RecoveryConfig) (now : Instant) (f : Failure) : Prop :=
  (((Backoff.ofConfig c).wait f.recovery.attempt).nanos : Int) ≤ max 0 (now.since (lastAttempt f))

/-- The next attempt is due when the wait is over. -/
theorem isDue_iff {c : RecoveryConfig} {now : Instant} {f : Failure} :
    isDue c now f = true ↔ Waited c now f := by
  -- The comparison is one of nanoseconds.
  have passed := Instant.nanos_elapsedSince? now (lastAttempt f)
  simp only [isDue, Bool.not_eq_true', decide_eq_false_iff_not, Waited]
  change ¬((now.elapsedSince? (lastAttempt f)).getD .zero).nanos < _ ↔ _
  omega

/-- A failed build is started again only where attempts are left and the wait is over. -/
theorem Advance.waited {s : Settings} {now : Instant} {b r : Build} (advance : Advance s now b r)
    (failed : b.phase = .failed) (begun : r.phase = .initialization) :
    ∃ f, b.status.failure = some f ∧ ¬f.recovery.attemptMax ≤ f.recovery.attempt ∧
      Waited s.config.recovery now f ∧ r.status.failure = some (attempted now f) := by
  -- Of all steps only a retry leads from a failure to a new beginning.
  cases advance with
  | restarted _ f recorded left due => exact ⟨f, recorded, left, isDue_iff.mp due, rfl⟩
  | _ => simp_all

/-- A failed build of a pod is only looked at. -/
theorem stepWork_of_failed (s : Settings) (now : Instant) {b : Build} (pod : b.spec.strategy = .pod)
    (failed : b.phase = .failed) :
    stepWork s now b = pure (recovered s.config.recovery now b) := by
  -- Recovery is the action that accepts a failed build.
  have accepted : Action.recover.accepts b.phase = true := by
    rw [failed]
    rfl
  rw [stepWork, Action.next?_eq pod accepted]
  rfl

/-- A failed build whose wait is not over stays as it is, and so does one for which there is no action. -/
theorem stepWork_of_early (s : Settings) (now : Instant) {b : Build} {f : Failure}
    (failed : b.phase = .failed) (recorded : b.status.failure = some f)
    (left : ¬f.recovery.attemptMax ≤ f.recovery.attempt)
    (early : ¬Waited s.config.recovery now f) : stepWork s now b = pure b := by
  -- A pod waits until the retry is due, and a routine has no action that retries at all.
  cases strategy : b.spec.strategy with
  | pod =>
    have undue : isDue s.config.recovery now f = false := by
      rw [← Bool.not_eq_true, isDue_iff]
      exact early
    rw [stepWork_of_failed s now strategy failed, recovered, recorded]
    simp only [if_neg left, undue, Bool.not_false, if_true]
  | routine =>
    rw [stepWork, Action.next?, strategy]
    rfl

variable {σ : Type}

section Single

variable [BuildStore σ] (s : Settings) (now : Instant) {b : Build} (g : Engine σ)

/-- Where the work of a step returns the build, so does a reconciliation, and nothing else happens. -/
theorem run_reconcile_of_same (idle : stepWork s now b = pure b) :
    ∃ log, (reconcile s now b).run.run g = (.ok b, { g with log := log }) := by
  -- As nothing has changed, nothing is saved.
  obtain ⟨log, ran⟩ := run_reconcile_work s now b g
  rw [idle] at ran
  exact ⟨log, by rw [ran, run_pure]; exact if_pos rfl⟩

/-- Where the work of a step only changes the build, a reconciliation saves it, and nothing else happens. -/
theorem run_reconcile_of_changed {target : Build} (made : stepWork s now b = pure target)
    (changed : target ≠ b) :
    ∃ log, (reconcile s now b).run.run g = (persist target).run.run { g with log := log } := by
  -- A build that has changed is saved, and its work made no call.
  obtain ⟨log, ran⟩ := run_reconcile_work s now b g
  rw [made] at ran
  exact ⟨log, by rw [ran, run_pure]; exact if_neg changed⟩

/-- A build that does not run in a pod is returned at once. -/
theorem run_reconcile_of_routine (routine : b.spec.strategy = .routine) :
    (reconcile s now b).run.run g = (.ok b, g) := by
  -- No action is for routines.
  have unhandled : Action.next? b = none := by
    rw [Action.next?, routine]
    rfl
  rw [run_reconcile, step, unhandled]
  exact if_pos rfl

variable (pod : b.spec.strategy = .pod) (failed : b.phase = .failed)

include pod failed

/-- The first reconciliation of a failed build saves it with the record of its failure. -/
theorem run_reconcile_of_unrecorded (unrecorded : b.status.failure = none) :
    ∃ log, (reconcile s now b).run.run g =
      (persist (b.noted s.config.recovery now)).run.run { g with log := log } := by
  have noted : recovered s.config.recovery now b = b.noted s.config.recovery now := by
    rw [recovered, unrecorded]
  refine run_reconcile_of_changed s now g (by rw [stepWork_of_failed s now pod failed, noted]) ?_
  -- The build had no record before.
  intro same
  have recorded : (b.noted s.config.recovery now).status.failure ≠ none := Option.some_ne_none _
  rw [same] at recorded
  exact recorded unrecorded

/-- A failed build whose wait is over is saved as one that begins again. -/
theorem run_reconcile_of_waited {f : Failure} (recorded : b.status.failure = some f)
    (left : ¬f.recovery.attemptMax ≤ f.recovery.attempt) (waited : Waited s.config.recovery now f) :
    ∃ log, (reconcile s now b).run.run g =
      (persist (b.restarted now f)).run.run { g with log := log } := by
  have restarted : recovered s.config.recovery now b = b.restarted now f := by
    rw [recovered, recorded]
    simp only [if_neg left, isDue_iff.mpr waited, Bool.not_true, Bool.false_eq_true, if_false]
  refine run_reconcile_of_changed s now g
    (by rw [stepWork_of_failed s now pod failed, restarted]) ?_
  -- The build is in another phase now.
  intro same
  have begun : (b.restarted now f).phase = .initialization := rfl
  rw [same, failed] at begun
  cases begun

end Single

/-- A build as a reconciliation left it, with the settings and the reading of the clock that went into it. -/
structure Stamped where
  settings : Settings
  now : Instant
  build : Build

/-- A reconciliation of a build at a reading of the clock that is not before the last one. -/
inductive Onward (σ : Type) [BuildStore σ] (current later : Stamped) : Prop
  /-- It returned the build as it is now. -/
  | answered {g h : Engine σ} (forward : current.now ≤ later.now)
      (ran : (reconcile later.settings later.now current.build).run.run g = (.ok later.build, h))
  /-- It failed, and the build is still the one that was given to it. -/
  | refused {g h : Engine σ} {e : BuildError} (forward : current.now ≤ later.now)
      (ran : (reconcile later.settings later.now current.build).run.run g = (.error e, h))
      (same : later.build = current.build)

/-- The state in which a failed build was last started again. -/
def lastRetry : List Stamped → Option Stamped
  | later :: earlier :: past =>
    if earlier.build.phase = .failed ∧ later.build.phase = .initialization then some later
    else lastRetry (earlier :: past)
  | _ => none

/-- The clock goes on. -/
theorem Onward.forward [BuildStore σ] {current later : Stamped} (onward : Onward σ current later) :
    current.now ≤ later.now := by
  -- The clock goes on whether the call is answered or not.
  cases onward with
  | answered forward _ => exact forward
  | refused forward _ _ => exact forward

/-- A reconciliation leaves the record of the failure and starts nothing again, or makes the record at its reading of
the clock, or starts the build again then. -/
theorem Onward.failure_cases [BuildStore σ] [FaithfulStore σ] {current later : Stamped}
    (onward : Onward σ current later) :
    (later.build.status.failure = current.build.status.failure ∧
      ¬(current.build.phase = .failed ∧ later.build.phase = .initialization)) ∨
    (current.build.status.failure = none ∧
      ¬(current.build.phase = .failed ∧ later.build.phase = .initialization) ∧
      ∃ f, later.build.status.failure = some f ∧ f.time = later.now) ∨
    ∃ f, current.build.status.failure = some f ∧
      (current.build.phase = .failed ∧ later.build.phase = .initialization) ∧
      Waited later.settings.config.recovery later.now f ∧
      later.build.status.failure = some (attempted later.now f) := by
  cases onward with
  | answered _ ran =>
    -- The store changes nothing that is looked at here.
    obtain ⟨target, version, made, same⟩ := Move.make_ok (m := .reconcile _ _) ran
    have made : Advance later.settings later.now current.build target := made
    rw [same]
    rcases made.failure_cases with kept | ⟨unrecorded, phase, noted⟩ | ⟨f, failed, begun, _⟩
    · exact .inl kept
    · refine .inr (.inl ⟨unrecorded, ?_, _, noted, rfl⟩)
      rintro ⟨_, begun⟩
      cases phase.symm.trans begun
    · obtain ⟨f, recorded, _, waited, counted⟩ := made.waited failed begun
      exact .inr (.inr ⟨f, recorded, ⟨failed, begun⟩, waited, counted⟩)
  -- A refused reconciliation leaves the build in hand.
  | refused _ _ same =>
    rw [same]
    refine .inl ⟨rfl, ?_⟩
    rintro ⟨failed, begun⟩
    cases failed.symm.trans begun

section Courses

variable [BuildStore σ] [FaithfulStore σ] {first current retry : Stamped} {past : List Stamped}

/-- All along a course a build that was started again has the record that it had then, with the reading of the clock
at that time. -/
theorem record_of_lastRetry (course : Course (Onward σ) first (current :: past))
    (last : lastRetry (current :: past) = some retry) :
    ∃ f, current.build.status.failure = some f ∧ retry.build.status.failure = some f ∧
      f.recovery.attemptTime = some retry.now := by
  generalize trace : current :: past = states at course
  -- The induction follows the course, one reconciliation after the other.
  induction course generalizing current past with
  | start =>
    obtain ⟨rfl, rfl⟩ := List.cons.inj trace
    exact nomatch last
  | @next current later past course onward ih =>
    obtain ⟨rfl, rfl⟩ := List.cons.inj trace
    rcases onward.failure_cases with ⟨same, still⟩ | ⟨unrecorded, still, _⟩ | ⟨f, _, begun, _, counted⟩
    · rw [lastRetry, if_neg still] at last
      rw [same]
      exact ih last rfl
    · -- A build that was started again has had a record ever since.
      rw [lastRetry, if_neg still] at last
      obtain ⟨f, recorded, _⟩ := ih last rfl
      cases unrecorded.symm.trans recorded
    -- This tick is the retry, and its record names the time of it.
    · rw [lastRetry, if_pos begun] at last
      obtain rfl := Option.some.inj last
      exact ⟨_, counted, counted, rfl⟩

omit [FaithfulStore σ] in
/-- The last retry of a course ends a course of its own. -/
theorem course_of_lastRetry (course : Course (Onward σ) first (current :: past))
    (last : lastRetry (current :: past) = some retry) :
    ∃ before, Course (Onward σ) first (retry :: before) := by
  generalize trace : current :: past = states at course
  -- Either the last state is the retry, or the retry is that of the course before.
  induction course generalizing current past with
  | start =>
    obtain ⟨rfl, rfl⟩ := List.cons.inj trace
    exact nomatch last
  | @next current later past course onward ih =>
    obtain ⟨rfl, rfl⟩ := List.cons.inj trace
    rw [lastRetry] at last
    split at last
    · obtain rfl := Option.some.inj last
      exact ⟨_, course.next onward⟩
    · exact ih last rfl

/-- All along a course whose readings of the clock begin with no earlier one than that of the record, no failure is
recorded that is still to come. -/
theorem time_le_of_course (course : Course (Onward σ) first (current :: past))
    (known : ∀ f, first.build.status.failure = some f → f.time ≤ first.now) :
    ∀ f, current.build.status.failure = some f → f.time ≤ current.now := by
  generalize trace : current :: past = states at course
  -- The induction follows the course: no step dates a record later than the clock of that step.
  induction course generalizing current past with
  | start =>
    obtain ⟨rfl, rfl⟩ := List.cons.inj trace
    exact known
  | @next current later past course onward ih =>
    obtain ⟨rfl, rfl⟩ := List.cons.inj trace
    intro g recorded
    -- The time of a failure is that of the reading at which it was recorded, and the clock goes on.
    rcases onward.failure_cases with ⟨same, _⟩ | ⟨_, _, f, noted, reading⟩ | ⟨f, found, _, _, counted⟩
    · exact Instant.le_trans (ih rfl g (same ▸ recorded)) onward.forward
    · rw [← Option.some.inj (noted.symm.trans recorded), reading]
      exact Instant.le_refl _
    · rw [← Option.some.inj (counted.symm.trans recorded)]
      exact Instant.le_trans (ih rfl f found) onward.forward

end Courses

/-- The build when it begins for the third time, at the seventeenth second. -/
def twiceRetried : Build := (twiceTimedOut .standard).restarted (atSecond 17) (onceCounted .standard)

/-- The build up to its second failure, the last state first. Its first failure was recorded at the second second, and
the clock was set back to the start afterwards. -/
def untilTwiceTimedOut : List Stamped :=
  [⟨usualSettings, nineSeconds, twiceTimedOut .standard⟩, ⟨usualSettings, sevenSeconds, relaunched .standard⟩,
    ⟨usualSettings, sevenSeconds, (onceRetried .standard).prepared⟩,
    ⟨usualSettings, sevenSeconds, onceRetried .standard⟩, ⟨usualSettings, .epoch, notedTimeout .standard⟩]

/-- A failed build that does not run in a pod, with or without a record of its failure. -/
def routineBuild (failure : Option Failure) : Build :=
  { bareBuild .failed with
    spec := { (bareBuild .failed).spec with strategy := .routine }
    status := { (bareBuild .failed).status with failure := failure } }

/-- A failure from the first moment of 1970-01-02 on. -/
def nextDay : Failure := ⟨"lost", { Instant.epoch with day := 1, day_fits := by decide }, ⟨0, 5, none⟩⟩

/-- Nine tenths into the leap second before that day. -/
def leapSecond : Instant :=
  { atSecond 86399 with nanos := 1900000000, nanos_lt := by decide, leap_ends_minute := by decide }

/-- A half second into that day. -/
def halfSecond : Instant :=
  { nextDay.time with nanos := 500000000, nanos_lt := by decide, leap_ends_minute := by decide }

/-- Waits of half a second. -/
def shortWaits : RecoveryConfig :=
  { RecoveryConfig.standard with
    minWait := ⟨500000000, by decide⟩, maxWait := ⟨500000000, by decide⟩ }

end Engine

end ImageBuild
