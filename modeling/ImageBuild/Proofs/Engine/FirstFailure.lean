import ImageBuild.Proofs.Engine.Deadline
import ImageBuild.Proofs.Engine.Waiting
import ImageBuild.Proofs.Kubernetes.Reason

/-! The reason that is recorded of a build is the one of its first failure, and stays so. -/

namespace ImageBuild

open Cluster Kubernetes Run Worker

/-- A build still knows for what reason it failed first: by its record, or as nothing has become of it since then but
that it was cancelled. -/
def Build.Recalls (b : Build) (reason : String) : Prop :=
  (∃ f, b.status.failure = some f ∧ f.reason = reason)
    ∨ b.status.failure = none ∧ b.status.error = some reason ∧ (b.phase = .failed ∨ b.phase = .cancelled)

namespace Engine

section

variable {s : Settings} {now : Instant} {b r : Build} {reason : String}

/-- A build fails for the reason that its failed pod tells. -/
theorem observed_of_failed (b : Build) {pod : Pod} (failed : pod.phase = "Failed") (now : Instant) :
    observed b pod now = b.failedFor pod.failureReason now := by
  simp only [observed, failed]

/-- A step leaves the record of a build alone that has not failed. -/
theorem Advance.failure_of_unfailed (advance : Advance s now b r) (unfailed : b.phase ≠ .failed) :
    r.status.failure = b.status.failure := by
  -- The record is only written in the failed phase.
  cases advance with
  | noted failed => exact absurd failed unfailed
  | restarted failed => exact absurd failed unfailed
  | observed _ _ pod => exact failure_observed b pod now
  | _ => rfl

/-- A build that fails gets a reason. -/
theorem Advance.error_of_failing (advance : Advance s now b r) (unfailed : b.phase ≠ .failed)
    (failed : r.phase = .failed) : ∃ reason, r.status.error = some reason := by
  -- There are three ways to fail, and each of them tells a reason.
  cases advance with
  | overdue | vanished => exact ⟨_, rfl⟩
  | observed active _ pod =>
    rw [observed_of_failed b ((phase_observed_eq_failed active pod now).mp failed)]
    exact ⟨_, rfl⟩
  | prepared | launched | exhausted | restarted => exact nomatch failed
  | _ => exact absurd failed unfailed

/-- A step of a build that has failed or been cancelled, but has no record yet, is to make the record at most. -/
theorem Advance.of_unrecorded (advance : Advance s now b r) (unrecorded : b.status.failure = none)
    (stopped : b.phase = .failed ∨ b.phase = .cancelled) : r = b ∨ r = b.noted s.config.recovery now := by
  -- What asks for a record does not apply, and neither does what asks for a build that goes on.
  cases advance with
  | noted => exact .inr rfl
  | exhausted _ f recorded | restarted _ f recorded => exact nomatch unrecorded.symm.trans recorded
  | prepared before | overdue before | observed before =>
    rcases before with before | before <;> rw [before] at stopped <;> exact absurd stopped (by decide)
  | launched before | vanished before =>
    rw [before] at stopped
    exact absurd stopped (by decide)
  | _ => exact .inl rfl

/-- A call keeps the first failure. -/
theorem Move.Becomes.keepsFailure {m : Move} {target : Build} (made : m.Becomes b target) : target.KeepsFailure b := by
  -- A cancellation does not touch the record.
  cases m with
  | reconcile s now => exact Advance.keepsFailure made
  | cancel s =>
    obtain rfl : target = cancelled b := made
    apply Build.KeepsFailure.of_eq
    unfold cancelled
    split <;> rfl

/-- A call leaves the record of a build alone that has not failed, and gives it a reason if it fails now. -/
theorem Move.Becomes.of_unfailed {m : Move} {target : Build} (made : m.Becomes b target)
    (unrecorded : b.status.failure = none) (unfailed : b.phase ≠ .failed) :
    target.status.failure = none
      ∧ (target.phase = .failed → ∃ reason, target.status.error = some reason) := by
  -- A build that has not failed cannot have been given a record.
  cases m with
  | reconcile s now =>
    exact ⟨(Advance.failure_of_unfailed made unfailed).trans unrecorded, Advance.error_of_failing made unfailed⟩
  | cancel s =>
    obtain rfl : target = cancelled b := made
    unfold cancelled
    split
    · exact ⟨unrecorded, fun failed => absurd failed unfailed⟩
    · exact ⟨unrecorded, nofun⟩

/-- What a call makes of a build recalls the first failure as the build did. -/
theorem Move.Becomes.recalls {m : Move} {target : Build} (made : m.Becomes b target) (recalls : b.Recalls reason) :
    target.Recalls reason := by
  obtain ⟨f, recorded, same⟩ | ⟨unrecorded, told, stopped⟩ := recalls
  -- With a record the reason is kept in it.
  · obtain ⟨kept, keeps, kind, _⟩ := made.keepsFailure f recorded
    exact .inl ⟨kept, keeps, kind.trans same⟩
  · -- Without a record the reason stands in the status, from where the record takes it.
    cases m with
    | reconcile s now =>
      obtain rfl | rfl := Advance.of_unrecorded made unrecorded stopped
      · exact .inr ⟨unrecorded, told, stopped⟩
      · refine .inl ⟨_, rfl, ?_⟩
        rw [firstFailure, told, Option.getD_some]
    | cancel s =>
      -- Cancelling leaves the error in the status, from where a record could still take it.
      obtain rfl : target = cancelled b := made
      refine .inr ?_
      unfold cancelled
      split
      · exact ⟨unrecorded, told, stopped⟩
      · exact ⟨unrecorded, told, .inr rfl⟩

end

variable {σ : Type} {b r : Build}

/-- What a call, whatever the engine, the clock and the settings are like by then, leaves of a build. -/
inductive Called (σ : Type) [BuildStore σ] (b : Build) : Build → Prop
  /-- It returned the build as it is now. -/
  | answered (m : Move) {g h : Engine σ} {r : Build} (ran : (m.make b).run.run g = (.ok r, h)) : Called σ b r
  /-- It failed, and the build is still the one that was given to it. -/
  | refused (m : Move) {g h : Engine σ} {e : BuildError} (ran : (m.make b).run.run g = (.error e, h)) :
      Called σ b b

/-- It is the build as it was given, or what a call makes of it. -/
theorem Called.becomes [BuildStore σ] [FaithfulStore σ] (called : Called σ b r) :
    r = b ∨ ∃ (m : Move) (target : Build) (version : UInt64),
      m.Becomes b target ∧ r = target.atVersion version := by
  -- A refused call hands the build back.
  cases called with
  | answered m ran => exact .inr ⟨m, Move.make_ok ran⟩
  | refused => exact .inl rfl

/-- A build is the first one in its course that has failed, and tells the reason. -/
structure FailedFirst (reason : String) (b : Build) (past : List Build) : Prop where
  failed : b.phase = .failed
  told : b.status.error = some reason
  unfailed : ∀ a ∈ past, a.phase ≠ .failed

/-- In its course a build has not failed yet, or it recalls why it failed first. -/
theorem recalls_of_course [BuildStore σ] [FaithfulStore σ] {first : Build} {past : List Build}
    (new : first.status = .fresh) (run : Course (Called σ) first (b :: past)) :
    (b.status.failure = none ∧ ∀ a ∈ b :: past, a.phase ≠ .failed)
      ∨ ∃ later a earlier reason, b :: past = later ++ a :: earlier ∧ FailedFirst reason a earlier
        ∧ b.Recalls reason := by
  generalize trace : b :: past = course at run
  -- Along the course a build has not failed, and from its first failure on it recalls that one.
  induction run generalizing b past with
  | start =>
    obtain ⟨rfl, rfl⟩ := List.cons.inj trace
    refine .inl ⟨by rw [new]; rfl, ?_⟩
    rw [List.forall_mem_singleton, Build.phase, new]
    decide
  | @next current later earlier run called ih =>
    obtain ⟨rfl, rfl⟩ := List.cons.inj trace
    obtain ⟨unrecorded, unfailed⟩ | ⟨since, a, before, reason, shape, fails, recalls⟩ := ih rfl
    · -- The build fails with this call, or it has not failed yet.
      have still : current.phase ≠ .failed := unfailed current List.mem_cons_self
      have kept : b.status.failure = none ∧
          (b.phase = .failed → ∃ reason, b.status.error = some reason) := by
        obtain rfl | ⟨m, target, version, made, rfl⟩ := called.becomes
        · exact ⟨unrecorded, fun failed => absurd failed still⟩
        · exact made.of_unfailed unrecorded still
      -- If it fails now, this is the first failure, and its reason stands in the status.
      by_cases failed : b.phase = .failed
      · obtain ⟨reason, told⟩ := kept.2 failed
        exact .inr ⟨[], b, current :: earlier, reason, rfl, ⟨failed, told, unfailed⟩,
          .inr ⟨kept.1, told, .inl failed⟩⟩
      · exact .inl ⟨kept.1, List.forall_mem_cons.mpr ⟨failed, unfailed⟩⟩
    · -- It was the first then, and still is.
      refine .inr ⟨b :: since, a, before, reason, by rw [shape]; rfl, fails, ?_⟩
      obtain rfl | ⟨m, target, version, made, rfl⟩ := called.becomes
      · exact recalls
      · exact made.recalls recalls

/-- A look at a pod that is found and has failed makes the build fail for its reason. -/
theorem follow_of_failed {s : Settings} {now : Instant} {c : Cluster} {pod : Pod} (early : b.isOverdue now = false)
    (found : ((getPod (podPlace s b)).run.run c).1 = .ok pod) (failed : pod.phase = "Failed") :
    ((follow s now b).run.run c).1 = .ok (b.failedFor pod.failureReason now) := by
  -- The pod is looked at, and its status tells the failure.
  unfold follow
  rw [if_neg (by simp [early]), run_bind, Work.find, Work.run_callUnless, found]
  exact congrArg Except.ok (observed_of_failed b failed now)

/-- A reconciliation of a build whose pod has failed returns what the store makes of the failed build. -/
theorem result_reconcile_of_failed [BuildStore σ] {s : Settings} {now : Instant} {pod : Pod} {g : Engine σ}
    (strategy : b.spec.strategy = .pod) (active : b.phase = .pending ∨ b.phase = .running)
    (early : b.isOverdue now = false) (found : ((getPod (podPlace s b)).run.run g.cluster).1 = .ok pod)
    (failed : pod.phase = "Failed") :
    ((reconcile s now b).run.run g).1 = (BuildStore.save (b.failedFor pod.failureReason now) g.store).result := by
  -- The failed phase is no active one, so that the build has to be saved.
  have changed : b.failedFor pod.failureReason now ≠ b := by
    intro same
    have phase : b.phase = .failed := by rw [← same]; rfl
    rw [phase] at active
    exact absurd active (by decide)
  rw [result_reconcile, stepWork_of_active s now strategy active, follow_of_failed early found failed, filed,
    if_neg changed]

/-- The failure of a pod is its first failed container, by a text that other containers do not influence, and else what
the pod says. That becomes the error of a build which finds its pod failed, and the reason in the record that the next
reconciliation makes. The reason in the record of a build is that of the first time it failed, and stays so. -/
theorem recorded_reason_is_first [BuildStore σ] [FaithfulStore σ] :
    (∀ p : Pod, p.failureReason ≠ "" ∧ ∀ reason, p.Tells reason ↔ reason = p.failureReason) ∧
    (∀ (p q : Pod) (s u : PodStatus), p.status = some s → q.status = some u →
      s.allContainers.filter (·.HasFailed) = u.allContainers.filter (·.HasFailed) → s.message = u.message →
        p.failureReason = q.failureReason) ∧
    (∀ (s : Settings) (now : Instant) (b : Build) (pod : Pod) (g : Engine σ),
      b.spec.strategy = .pod → b.phase = .pending ∨ b.phase = .running → b.isOverdue now = false →
      ((getPod (podPlace s b)).run.run g.cluster).1 = .ok pod → pod.phase = "Failed" →
        ((reconcile s now b).run.run g).1
            = (BuildStore.save (b.failedFor pod.failureReason now) g.store).result ∧
        ∀ r, ((reconcile s now b).run.run g).1 = .ok r →
          r.phase = .failed ∧ r.status.error = some pod.failureReason ∧ r.status.failure = b.status.failure) ∧
    (∀ (s : Settings) (now : Instant) (b : Build) (g : Engine σ),
      b.spec.strategy = .pod → b.phase = .failed → b.status.failure = none →
        ((reconcile s now b).run.run g).1
            = (BuildStore.save (b.noted s.config.recovery now) g.store).result ∧
        ∀ r, ((reconcile s now b).run.run g).1 = .ok r →
          ∃ f, r.status.failure = some f ∧ f.reason = b.status.error.getD "") ∧
    ∀ (first b : Build) (past : List Build), first.status = .fresh → Course (Called σ) first (b :: past) →
      (∀ f, b.status.failure = some f →
        ∃ later a earlier, b :: past = later ++ a :: earlier ∧ FailedFirst f.reason a earlier) ∧
      (b :: past).Pairwise Build.KeepsFailure := by
  refine ⟨fun p => ⟨p.tells_failureReason.ne_empty, fun reason => Pod.tells_iff⟩,
    fun p q s u known other failed message => Pod.failureReason_congr known other failed message, ?_, ?_, ?_⟩
  -- A failed pod is observed once.
  · intro s now b pod g strategy active early found failed
    have result := result_reconcile_of_failed strategy active early found failed
    refine ⟨result, fun r returned => ?_⟩
    obtain ⟨version, rfl⟩ := FaithfulStore.saved (result.symm.trans returned)
    exact ⟨rfl, rfl, rfl⟩
  -- In the next round the reason moves into the record.
  · intro s now b g strategy failed unrecorded
    obtain ⟨log, ran⟩ := run_reconcile_of_unrecorded s now g strategy failed unrecorded
    rw [ran, run_persist]
    refine ⟨rfl, fun r returned => ?_⟩
    obtain ⟨version, rfl⟩ := FaithfulStore.saved returned
    exact ⟨_, rfl, rfl⟩
  · intro first b past new run
    constructor
    -- From then on it is the one that is recalled.
    · intro f recorded
      obtain ⟨unrecorded, _⟩ | ⟨later, a, earlier, reason, shape, fails, recalls⟩ := recalls_of_course new run
      · exact nomatch unrecorded.symm.trans recorded
      · obtain ⟨kept, same, rfl⟩ | ⟨unrecorded, _⟩ := recalls
        · obtain rfl := Option.some.inj (same.symm.trans recorded)
          exact ⟨later, a, earlier, shape, fails⟩
        · exact nomatch unrecorded.symm.trans recorded
    · refine run.pairwise (fun {current later} called => ?_) Build.KeepsFailure.trans
      obtain rfl | ⟨m, target, version, made, rfl⟩ := called.becomes
      · exact .of_eq rfl
      · exact made.keepsFailure

/-- A container that has ended, and what it says of that. -/
def endedContainer (name : String) (exitCode : Int) (message : Option String) : ContainerStatus :=
  ⟨name, some ⟨some ⟨exitCode, none, message, []⟩, []⟩, []⟩

/-- A pod where one container ended well, and two failed after it. -/
def crashedPod : Pod where
  metadata := { Meta.none with scope := some "ns", name := some "podforge-app-builder" }
  spec := none
  status := some ⟨some "Failed", some "evicted", some [endedContainer "context" 0 (some "done")],
    some [endedContainer "kaniko" 1 (some "no space\n"), endedContainer "proxy" 2 none], []⟩

/-- An engine without a store, where the worker of a build has failed. -/
def crashedEngine : Engine (Option Memory) := ⟨⟨(Cluster.empty .epoch).insertPod crashedPod, []⟩, none⟩

/-- A build whose worker could not write its image fails for that, and this is what is recorded next. -/
theorem recorded_reason_is_first_crashedPod :
    let reason := "kaniko: Error (exit code 1): no space"
    let pending := hastyRequest.kanikoBuild.prepared.launched .epoch
    let failed := pending.failedFor reason .epoch
    let noted := failed.noted usualSettings.config.recovery .epoch
    crashedPod.Tells reason ∧
    ((reconcile usualSettings .epoch pending).run.run crashedEngine).1 = .ok failed ∧
    ((reconcile usualSettings .epoch failed).run.run crashedEngine).1 = .ok noted ∧
    ∃ f, noted.status.failure = some f ∧ f.reason = reason ∧
      ∃ later a earlier, [noted, failed, pending, hastyRequest.kanikoBuild.prepared, hastyRequest.kanikoBuild]
        = later ++ a :: earlier ∧ FailedFirst reason a earlier := by
  intro reason pending failed noted
  obtain ⟨reasons, _, fails, notes, lives⟩ := recorded_reason_is_first (σ := Option Memory)
  have same : reason = crashedPod.failureReason := by decide +kernel
  have place : podPlace usualSettings pending = crashedPod.reference := by decide +kernel
  have found : ((getPod (podPlace usualSettings pending)).run.run crashedEngine.cluster).1 = .ok crashedPod := by
    rw [place]
    rfl
  -- The report of the pod makes the build fail, and the next tick notes the failure.
  have crashed : ((reconcile usualSettings .epoch pending).run.run crashedEngine).1 = .ok failed := by
    rw [(fails usualSettings .epoch pending crashedPod crashedEngine rfl (.inl rfl) rfl found rfl).1, ← same]
    rfl
  have latched : ((reconcile usualSettings .epoch failed).run.run crashedEngine).1 = .ok noted :=
    (notes usualSettings .epoch failed crashedEngine rfl rfl rfl).1
  have called : ∀ {b r : Build} (g : Engine (Option Memory)),
      ((reconcile usualSettings .epoch b).run.run g).1 = .ok r → Called (Option Memory) b r := fun g returned =>
    .answered (.reconcile usualSettings .epoch) (Prod.ext returned rfl)
  -- The life of the build is prepared, launched, failed and noted.
  have life : Course (Called (Option Memory)) hastyRequest.kanikoBuild
      [noted, failed, pending, hastyRequest.kanikoBuild.prepared, hastyRequest.kanikoBuild] :=
    .next (.next (.next (.next .start (called storelessEngine rfl)) (called storelessEngine rfl))
      (called crashedEngine crashed)) (called crashedEngine latched)
  exact ⟨((reasons crashedPod).2 reason).mpr same, crashed, latched, _, rfl, rfl, (lives _ _ _ rfl life).1 _ rfl⟩

end Engine

end ImageBuild
