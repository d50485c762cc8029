import ImageBuild.Proofs.Engine.Course
import ImageBuild.Proofs.Instant.Order

/-! Failed builds are started again only as often as the record of their first failure allows. -/

namespace ImageBuild

open Worker
open Instant (atSecond)

namespace Build

/-- How often the build has been started again, by its own record. -/
def attempts (b : Build) : Nat :=
  match b.status.failure with
  | some f => f.recovery.attempt.toNat
  | none => 0

/-- Whether the record of the first failure allows for the attempts that it counts. -/
def WithinLimit (b : Build) : Prop :=
  ∀ f, b.status.failure = some f → f.recovery.attempt ≤ f.recovery.attemptMax

/-- Whether a later build still has the first failure of an earlier one. -/
def KeepsFailure (later earlier : Build) : Prop :=
  ∀ f, earlier.status.failure = some f →
    ∃ kept, later.status.failure = some kept ∧ kept.reason = f.reason ∧ kept.time = f.time ∧
      kept.recovery.attemptMax = f.recovery.attemptMax

/-- A build with the same record has the same first failure. -/
theorem KeepsFailure.of_eq {later earlier : Build}
    (same : later.status.failure = earlier.status.failure) : later.KeepsFailure earlier :=
  fun f recorded => ⟨f, same.trans recorded, rfl, rfl, rfl⟩

/-- The first failure is kept over two steps when each of them keeps it. -/
theorem KeepsFailure.trans {last later earlier : Build} (second : last.KeepsFailure later)
    (first : later.KeepsFailure earlier) : last.KeepsFailure earlier := by
  intro f recorded
  -- The record after the first step is the one that the second step keeps.
  obtain ⟨kept, keeps, reason, time, limit⟩ := first f recorded
  obtain ⟨final, ends, reason', time', limit'⟩ := second kept keeps
  exact ⟨final, ends, reason'.trans reason, time'.trans time, limit'.trans limit⟩

end Build

namespace Phase

/-- The workers started in the present attempt, by the phase of the build. -/
def workersStarted : Phase → Nat
  | new | initialization | scheduling => 0
  | _ => 1

end Phase

namespace Engine

variable {σ : Type}

/-- Looking at a pod changes nothing of the record of failures. -/
@[simp] theorem failure_observed (b : Build) (pod : Kubernetes.Pod) (now : Instant) :
    (observed b pod now).status.failure = b.status.failure := by
  -- Whatever the pod reports, its phase is written and not the record of recovery.
  unfold observed
  split <;> rfl

/-- What a step does to the record of failures: nothing, or it makes the record, or it counts an attempt. -/
theorem Advance.failure_cases {s : Settings} {now : Instant} {b r : Build}
    (advance : Advance s now b r) :
    (r.status.failure = b.status.failure ∧ ¬(b.phase = .failed ∧ r.phase = .initialization)) ∨
    (b.status.failure = none ∧ r.phase = .failed ∧
      r.status.failure = some (firstFailure s.config.recovery now b)) ∨
    ∃ f, b.phase = .failed ∧ r.phase = .initialization ∧ b.status.failure = some f ∧
      ¬f.recovery.attemptMax ≤ f.recovery.attempt ∧ r.status.failure = some (attempted now f) := by
  -- A build that stays in its phase is not started again.
  have still : ∀ p : Phase, ¬(p = .failed ∧ p = .initialization) := by
    rintro p ⟨failed, initial⟩
    cases failed.symm.trans initial
  cases advance with
  | prepared starting => exact .inl ⟨rfl, by simp⟩
  | launched scheduled => exact .inl ⟨rfl, by simp⟩
  | overdue active late => exact .inl ⟨rfl, by simp⟩
  | observed active early pod =>
    -- The phase before is an active one, whatever is seen.
    refine .inl ⟨failure_observed b pod now, ?_⟩
    rcases active with phase | phase <;> simp [phase]
  | vanished running early => exact .inl ⟨rfl, by simp⟩
  | noted failed unrecorded => exact .inr (.inl ⟨unrecorded, failed, rfl⟩)
  | exhausted failed f recorded spent => exact .inl ⟨rfl, by simp⟩
  | restarted failed f recorded left due => exact .inr (.inr ⟨f, failed, rfl, recorded, left, rfl⟩)
  | _ => exact .inl ⟨rfl, still _⟩

/-- Every step keeps the first failure. -/
theorem Advance.keepsFailure {s : Settings} {now : Instant} {b r : Build}
    (advance : Advance s now b r) : r.KeepsFailure b := by
  rcases advance.failure_cases with ⟨same, _⟩ | ⟨unrecorded, _⟩ | ⟨f, _, _, recorded, _, counted⟩
  · exact .of_eq same
  · -- There was no failure to be kept.
    intro f recorded
    simp [unrecorded] at recorded
  · -- Counting an attempt changes neither the failure nor the limit.
    intro g found
    have same : f = g := Option.some.inj (recorded.symm.trans found)
    subst same
    exact ⟨attempted now f, counted, rfl, rfl, rfl⟩

/-- Where attempts are left, fewer have been made than the limit allows. -/
theorem attempt_lt_attemptMax {f : Failure} (left : ¬f.recovery.attemptMax ≤ f.recovery.attempt) :
    f.recovery.attempt.toNat < f.recovery.attemptMax.toNat := by
  simpa [UInt32.le_iff_toNat_le] using left

/-- An attempt more within the limit is counted without wrapping around. -/
theorem toNat_attempted {f : Failure} (left : ¬f.recovery.attemptMax ≤ f.recovery.attempt)
    (now : Instant) :
    (attempted now f).recovery.attempt.toNat = f.recovery.attempt.toNat + 1 := by
  -- The limit is a word itself, and an attempt below it has a successor.
  have below := attempt_lt_attemptMax left
  have bound := f.recovery.attemptMax.toNat_lt
  simp only [attempted, UInt32.toNat_add, UInt32.toNat_one]
  omega

/-- Every step keeps the attempts within the limit. -/
theorem Advance.withinLimit {s : Settings} {now : Instant} {b r : Build}
    (advance : Advance s now b r) (within : b.WithinLimit) : r.WithinLimit := by
  rcases advance.failure_cases with ⟨same, _⟩ | ⟨_, _, noted⟩ | ⟨f, _, _, _, left, counted⟩
  · intro g recorded
    exact within g (same.symm.trans recorded)
  · -- A new record counts no attempts.
    intro g recorded
    rw [← Option.some.inj (noted.symm.trans recorded)]
    simp [firstFailure, UInt32.le_iff_toNat_le]
  · -- One more attempt than fewer than the limit is not above it.
    intro g recorded
    rw [← Option.some.inj (counted.symm.trans recorded), UInt32.le_iff_toNat_le,
      toNat_attempted left]
    exact attempt_lt_attemptMax left

/-- A step counts an attempt exactly when it starts a failed build again. -/
theorem Advance.attempts_eq {s : Settings} {now : Instant} {b r : Build}
    (advance : Advance s now b r) :
    r.attempts =
      b.attempts + if b.phase = .failed ∧ r.phase = .initialization then 1 else 0 := by
  -- The three cases are those of the record: kept, new, or with one more attempt.
  rcases advance.failure_cases with
    ⟨same, still⟩ | ⟨unrecorded, phase, noted⟩ | ⟨f, failed, phase, recorded, left, counted⟩
  · simp [Build.attempts, same, still]
  · simp [Build.attempts, unrecorded, noted, phase, firstFailure]
  · simp [Build.attempts, recorded, counted, failed, phase, toNat_attempted left]

/-- Along every edge, a worker more is one that has been started, unless the build begins again. -/
theorem workersStarted_edge {p q : Phase} (edge : q = p ∨ q ∈ p.successors) :
    q.workersStarted + (if p = .failed ∧ q = .initialization then 1 else 0) =
      p.workersStarted + if p = .scheduling ∧ q = .pending then 1 else 0 := by
  -- There are nine phases, and few edges between them.
  revert edge
  cases p <;> cases q <;> decide

/-- A failed build with no attempts left is given up by every step that succeeds. -/
theorem Advance.of_spent {s : Settings} {now : Instant} {b r : Build} {f : Failure}
    (advance : Advance s now b r) (pod : b.spec.strategy = .pod) (failed : b.phase = .failed)
    (recorded : b.status.failure = some f) (spent : f.recovery.attempt = f.recovery.attemptMax) :
    r.phase = .error := by
  cases advance with
  | idle unhandled =>
    simp [Action.next?, Action.forStrategy, pod, Action.forPods, failed, Action.accepts]
      at unhandled
  | exhausted _ _ _ _ => rfl
  | waiting _ g found left early =>
    -- The record is the same one, and nothing is left by it.
    have same : f = g := Option.some.inj (recorded.symm.trans found)
    subst same
    simp [spent] at left
  | restarted _ g found left due =>
    have same : f = g := Option.some.inj (recorded.symm.trans found)
    subst same
    simp [spent] at left
  | _ => simp_all

/-- What the record of a build and its phase say about the course that led to it. -/
structure Counted (first b : Build) (course : List Build) : Prop where
  spec : b.spec = first.spec
  within : b.WithinLimit
  restarts : crossings .failed .initialization course = b.attempts
  workers : crossings .scheduling .pending course = b.attempts + b.phase.workersStarted

/-- A step counts what it crosses. -/
theorem Counted.advance {s : Settings} {now : Instant} {first b target : Build} {past : List Build}
    (counted : Counted first b (b :: past)) (advance : Advance s now b target) (version : UInt64) :
    Counted first (target.atVersion version) (target.atVersion version :: b :: past) where
  spec := by
    rw [Build.spec_atVersion, advance.only_status]
    exact counted.spec
  within := advance.withinLimit counted.within
  restarts := by
    -- The edge of a new attempt is the one that the record counts.
    have attempts := advance.attempts_eq
    have before := counted.restarts
    rw [crossings_cons, Build.phase_atVersion]
    change _ = target.attempts
    omega
  workers := by
    -- Each attempt starts no more than one worker, which the phase tells.
    have attempts := advance.attempts_eq
    have edge := workersStarted_edge advance.moves
    have before := counted.workers
    rw [crossings_cons, Build.phase_atVersion]
    change _ = target.attempts + target.phase.workersStarted
    omega

/-- Whatever becomes of a new build, its record and its phase count what has been crossed. -/
theorem counted_of_course [BuildStore σ] [FaithfulStore σ] {first b : Build} {past : List Build}
    (new : first.status = .fresh) (course : Course (Tick σ) first (b :: past)) :
    Counted first b (b :: past) := by
  generalize trace : b :: past = states at course
  -- The induction follows the course, and its last state is the build in question.
  induction course generalizing b past with
  | start =>
    obtain ⟨rfl, rfl⟩ := List.cons.inj trace
    -- Nothing has been crossed, and nothing is recorded.
    have phase : b.phase = .new := congrArg BuildStatus.phase new
    have unrecorded : b.status.failure = none := congrArg BuildStatus.failure new
    exact {
      spec := rfl
      within := fun f recorded => by simp [unrecorded] at recorded
      restarts := by simp [Build.attempts, unrecorded]
      workers := by simp [Build.attempts, unrecorded, phase, Phase.workersStarted] }
  | @next current later past course followed ih =>
    obtain ⟨rfl, rfl⟩ := List.cons.inj trace
    have counted := ih rfl
    rcases followed.advance with rfl | ⟨s, now, target, version, advance, rfl⟩
    · -- A call that failed crosses nothing.
      refine ⟨counted.spec, counted.within, ?_, ?_⟩
      · rw [crossings_stay (by decide) rfl]
        exact counted.restarts
      · rw [crossings_stay (by decide) rfl]
        exact counted.workers
    · exact counted.advance advance version

/-- Along a course every build keeps the first failure of all builds before it. -/
theorem keepsFailure_of_course [BuildStore σ] [FaithfulStore σ] {first : Build}
    {course : List Build} (run : Course (Tick σ) first course) :
    course.Pairwise Build.KeepsFailure := by
  refine run.pairwise (fun {current later} followed => ?_) Build.KeepsFailure.trans
  -- A tick either fails and changes nothing, or is a step followed by a save.
  rcases followed.advance with rfl | ⟨s, now, target, version, advance, rfl⟩
  · exact .of_eq rfl
  · exact advance.keepsFailure

/-- A new build has no past. -/
theorem status_of_request {q : BuildRequest} {b : Build} (asked : q.build = .ok b) :
    b.status = .fresh ∧ b.spec.strategy = .pod := by
  -- A request that is accepted has been turned into one build, whose fields can be read off.
  obtain ⟨task, rfl⟩ := BuildRequest.build_ok asked
  exact ⟨rfl, rfl⟩

/-- A build keeps its first failure for good, and its record counts and bounds the times it is started again. -/
theorem recovery_is_bounded [BuildStore σ] [FaithfulStore σ] {q : BuildRequest} {first b : Build}
    {past : List Build} (asked : q.build = .ok first)
    (course : Course (Tick σ) first (b :: past)) :
    (b :: past).Pairwise Build.KeepsFailure ∧
    (∀ f, b.status.failure = some f →
      f.recovery.attempt.toNat = crossings .failed .initialization (b :: past) ∧
      f.recovery.attempt ≤ f.recovery.attemptMax ∧
      crossings .failed .initialization (b :: past) ≤ f.recovery.attemptMax.toNat ∧
      crossings .scheduling .pending (b :: past) ≤ f.recovery.attemptMax.toNat + 1) ∧
    (b.status.failure = none →
      crossings .failed .initialization (b :: past) = 0 ∧
      crossings .scheduling .pending (b :: past) ≤ 1) ∧
    (∀ f, b.phase = .failed → b.status.failure = some f →
      f.recovery.attempt = f.recovery.attemptMax →
      ∀ (s : Settings) (now : Instant) (g h : Engine σ) (r : Build),
        (reconcile s now b).run.run g = (.ok r, h) → r.phase = .error) := by
  obtain ⟨new, pod⟩ := status_of_request asked
  have counted := counted_of_course new course
  -- The present attempt adds one worker at most to those of the attempts before it.
  have workers : b.phase.workersStarted ≤ 1 := by
    cases b.phase <;> decide
  have restarted := counted.restarts
  have launched := counted.workers
  refine ⟨keepsFailure_of_course course, ?_, ?_, ?_⟩
  · intro f recorded
    have within := counted.within f recorded
    have bound := UInt32.le_iff_toNat_le.mp within
    have attempts : b.attempts = f.recovery.attempt.toNat := by simp [Build.attempts, recorded]
    exact ⟨by omega, within, by omega, by omega⟩
  · intro unrecorded
    have attempts : b.attempts = 0 := by simp [Build.attempts, unrecorded]
    exact ⟨by omega, by omega⟩
  · intro f failed recorded spent s now g h r ran
    obtain ⟨target, version, made, rfl⟩ := Move.make_ok (m := .reconcile s now) ran
    -- What is to be built never changes, so that the build still runs in a pod.
    have pod : b.spec.strategy = .pod := by rw [counted.spec, pod]
    exact made.of_spent pod failed recorded spent

/-- A request whose worker may run for one second. -/
def hastyRequest : BuildRequest :=
  ⟨"image", "app", ⟨⟨"ns", "platform"⟩,
    { PlatformSpec.unspecified with timeout := some (.ofSeconds 1) }⟩⟩

/-- Settings under which a build is started again only once. -/
def impatientSettings : Settings :=
  { usualSettings with config := { usualSettings.config with
    recovery := { usualSettings.config.recovery with attemptMax := 1 } } }

/-- Two seconds after the start of 1970. -/
def twoSeconds : Instant := atSecond 2

/-- Five seconds later. -/
def sevenSeconds : Instant := atSecond 7

/-- Again two seconds later. -/
def nineSeconds : Instant := atSecond 9

/-- An engine without a store, to which nothing has happened. -/
def storelessEngine : Engine (Option Memory) := ⟨⟨.empty .epoch, []⟩, none⟩

/-- The build once its worker has run for too long. -/
def timedOut (b : Build) (ended : Instant) : Build := b.failedFor (overdueReason b) ended

/-- A build that failed first after two seconds. -/
def firstTimedOut : Build := timedOut (hastyRequest.kanikoBuild.prepared.launched .epoch) twoSeconds

section Retried

variable (c : RecoveryConfig)

/-- The record of that failure. -/
def firstTimeout : Failure := firstFailure c twoSeconds firstTimedOut

/-- The build with that record. -/
def notedTimeout : Build := firstTimedOut.noted c twoSeconds

/-- The build when it begins again, at the seventh second. -/
def onceRetried : Build := (notedTimeout c).restarted sevenSeconds (firstTimeout c)

/-- The record by then. -/
def onceCounted : Failure := attempted sevenSeconds (firstTimeout c)

/-- The build with its second worker. -/
def relaunched : Build := (onceRetried c).prepared.launched sevenSeconds

/-- The build that has failed again. -/
def twiceTimedOut : Build := timedOut (relaunched c) nineSeconds

/-- All that became of the build by then, the last state first. -/
def lifeOfTwiceTimedOut : List Build :=
  [twiceTimedOut c, relaunched c, (onceRetried c).prepared, onceRetried c, notedTimeout c, firstTimedOut,
    hastyRequest.kanikoBuild.prepared.launched .epoch, hastyRequest.kanikoBuild.prepared,
    hastyRequest.kanikoBuild]

end Retried

/-- A build that may be started again once and has run for too long twice has had two workers, and is given up. -/
theorem recovery_is_bounded_hastyRequest :
    let c := impatientSettings.config.recovery
    crossings .failed .initialization (lifeOfTwiceTimedOut c) = 1 ∧
    crossings .scheduling .pending (lifeOfTwiceTimedOut c) ≤ 2 ∧
    ∀ (s : Settings) (now : Instant) (g h : Engine (Option Memory)) (r : Build),
      (reconcile s now (twiceTimedOut c)).run.run g = (.ok r, h) → r.phase = .error := by
  intro c
  -- A reconciliation with an answer is a tick.
  have tick : ∀ (now : Instant) {b r : Build},
      ((reconcile impatientSettings now b).run.run storelessEngine).1.toOption = some r →
        Tick (Option Memory) b r := by
    intro now b r returned
    rcases ran : (reconcile impatientSettings now b).run.run storelessEngine with ⟨result, h⟩
    rw [ran] at returned
    cases result with
    | ok next =>
      obtain rfl := Option.some.inj returned
      exact .answered ran
    | error e => exact nomatch returned
  -- The worker is overdue at the second and the ninth second, and the wait between is over at the seventh.
  have course : Course (Tick (Option Memory)) hastyRequest.kanikoBuild (lifeOfTwiceTimedOut c) :=
    .next (.next (.next (.next (.next (.next (.next (.next .start
      (tick .epoch rfl)) (tick .epoch rfl)) (tick twoSeconds (by decide +kernel))) (tick twoSeconds rfl))
      (tick sevenSeconds (by decide +kernel))) (tick sevenSeconds rfl)) (tick sevenSeconds rfl))
      (tick nineSeconds (by decide +kernel))
  have asked : hastyRequest.build = .ok hastyRequest.kanikoBuild := by rfl
  obtain ⟨_, counts, _, ends⟩ := recovery_is_bounded asked course
  obtain ⟨restarts, _, _, workers⟩ := counts (onceCounted c) rfl
  exact ⟨restarts.symm.trans rfl, workers, ends _ rfl rfl rfl⟩

end Engine

end ImageBuild
