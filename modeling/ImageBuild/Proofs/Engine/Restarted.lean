import ImageBuild.Proofs.Engine.Apart
import ImageBuild.Proofs.Engine.Course
import ImageBuild.Proofs.Engine.Touches

/-! A build that has been seen running goes forward until it is recovered, and gets no other worker; but it goes back,
and gets one, when its pod is said to be pending again. -/

namespace ImageBuild

open Cluster Kubernetes Run Work Worker

/-- How far a build in a phase has come with its attempt. -/
def Phase.stage : Phase → Nat
  | new | initialization => 0
  | scheduling => 1
  | pending => 2
  | running => 3
  | succeeded | failed | cancelled => 4
  | error => 5

/-- All edges lead forward but two: one to the next attempt, and one from a running worker to a pending one. -/
theorem Phase.forward {p q : Phase} (successor : q ∈ p.successors) :
    p.stage ≤ q.stage ∨ (p = .failed ∧ q = .initialization) ∨ (p = .running ∧ q = .pending) := by
  -- The graph of phases is a finite table.
  revert successor
  cases p <;> cases q <;> decide

namespace Engine

section Runs

variable {σ : Type} [BuildStore σ] {b r : Build}

/-- What a reconciliation returns is what has become of the build. -/
theorem Tick.of_result (s : Settings) (now : Instant) (g : Engine σ)
    (returned : ((reconcile s now b).run.run g).1 = .ok r) : Tick σ b r :=
  .answered (Prod.ext returned rfl)

variable [FaithfulStore σ]

/-- A reconciliation leaves what is to be built. -/
theorem Tick.spec (tick : Tick σ b r) : r.spec = b.spec := by
  -- A step writes the status, and a save the version.
  rcases tick.advance with rfl | ⟨s, now, target, version, advance, rfl⟩
  · rfl
  · rw [Build.spec_atVersion, advance.only_status]

/-- A reconciliation goes no step back, unless it begins the next attempt or takes a running build to be pending. -/
theorem Tick.forward (tick : Tick σ b r) :
    b.phase.stage ≤ r.phase.stage ∨ (b.phase = .failed ∧ r.phase = .initialization) ∨
      (b.phase = .running ∧ r.phase = .pending) := by
  rcases tick.advance with rfl | ⟨s, now, target, version, advance, rfl⟩
  · exact .inl (Nat.le_refl _)
  -- A phase that stays is at the same stage, and of the edges only two lead back.
  · rcases advance.moves with stays | moves
    · exact .inl (Nat.le_of_eq (congrArg Phase.stage stays).symm)
    · exact Phase.forward moves

/-- What is to be built is the same all along a course. -/
theorem spec_of_course {course : List Build} (run : Course (Tick σ) b course) :
    ∀ r ∈ course.head?, r.spec = b.spec := by
  -- From tick to tick the same is to be built.
  induction run with
  | start =>
    rintro r ⟨rfl⟩
    rfl
  | @next current later past run followed ih =>
    rintro r ⟨rfl⟩
    exact followed.spec.trans (ih current rfl)

/-- A course that crosses neither edge back leads forward. -/
theorem forward_of_course {course : List Build} (run : Course (Tick σ) b course)
    (same : crossings .failed .initialization course = 0)
    (steadfast : crossings .running .pending course = 0) :
    ∀ r ∈ course.head?, b.phase.stage ≤ r.phase.stage := by
  -- The induction is on the course: what led forward so far is led on by one more reconciliation.
  induction run with
  | start =>
    rintro r ⟨rfl⟩
    exact Nat.le_refl _
  | @next current later past run followed ih =>
    rintro r ⟨rfl⟩
    rw [crossings_cons, Nat.add_eq_zero_iff] at same steadfast
    have before := ih same.2 steadfast.2 current rfl
    rcases followed.forward with onward | ⟨failed, begun⟩ | ⟨running, pending⟩
    · exact Nat.le_trans before onward
    · simp [failed, begun] at same
    · simp [running, pending] at steadfast

end Runs

/-- A worker that is followed is followed by this action. -/
theorem stepWork_of_running (s : Settings) (now : Instant) {b : Build}
    (pod : b.spec.strategy = .pod) (running : b.phase = .running) :
    stepWork s now b = follow s now b := by
  have chosen : Action.next? b = some .monitor := by
    rw [Action.next?, pod, running]
    rfl
  rw [stepWork, chosen]
  rfl

/-- Following a running worker meets a failure, finds that the build has failed, or finds its pod. -/
theorem follow_running (s : Settings) (now : Instant) {b : Build} (running : b.phase = .running)
    (c : Cluster) :
    (c.faults ≠ [] ∧ ∃ e, ((follow s now b).run.run c).1 = .error e) ∨
      (∃ reason, ((follow s now b).run.run c).1 = .ok (b.failedFor reason now)) ∨
      ∃ pod, c.pods.get? (podPlace s b) = some pod ∧
        ((follow s now b).run.run c).1 = .ok (observed b pod now) := by
  have planned : ∀ {e}, c.fault? = some e → c.faults ≠ [] := fun fault =>
    List.ne_nil_of_mem (mem_faults_of_fault? fault)
  unfold follow
  split
  · -- The worker has run for too long, and its pod is deleted whether it is there or not.
    rw [run_bind, run_delete]
    cases fault : c.fault? with
    | some e =>
      simp only
      cases e.isNotFound with
      | true => exact .inr (.inl ⟨_, rfl⟩)
      | false => exact .inl ⟨planned fault, _, rfl⟩
    | none => exact .inr (.inl ⟨_, rfl⟩)
  -- In time the pod is looked at, and a running build without one fails.
  · rw [run_bind, run_find]
    cases fault : c.fault? with
    | some e =>
      simp only
      cases e.isNotFound with
      | true => exact .inr (.inl ⟨_, rfl⟩)
      | false => exact .inl ⟨planned fault, _, rfl⟩
    | none =>
      -- Without a planned failure it is the cluster that decides.
      cases there : c.pods.get? (podPlace s b) with
      | some pod => exact .inr (.inr ⟨pod, rfl, rfl⟩)
      | none => exact .inr (.inl ⟨_, rfl⟩)

/-- A running build is taken to be pending only if its pod says so. -/
theorem phase_of_observed_pending {b : Build} {pod : Pod} {now : Instant} (running : b.phase = .running)
    (pending : (observed b pod now).phase = .pending) : pod.phase = "Pending" := by
  unfold observed at pending
  -- One report alone makes the build pending, and any other leads elsewhere or leaves it running.
  split at pending
  · assumption
  · cases pending
  · cases pending
  · cases pending
  · rw [running] at pending
    cases pending

/-- Whoever carries the build on, wherever and whenever, asks for no pod to be created, and none comes. -/
def StartsNoPod (σ : Type) [BuildStore σ] (b : Build) : Prop :=
  ∀ (s : Settings) (now : Instant) (g : Engine σ),
    (∃ made, Footprint made g.cluster ((reconcile s now b).run.run g).2.cluster ∧
      ∀ p, .createPod p ∉ made) ∧
    ∀ p, g.cluster.pods.get? p = none →
      ((reconcile s now b).run.run g).2.cluster.pods.get? p = none

/-- Whoever carries the build on where its pod is gone is told that it has failed, or of a failed call; and if no call
fails, it is saved as failed. -/
def FailsWithoutPod (σ : Type) [BuildStore σ] (b : Build) : Prop :=
  ∀ (s : Settings) (now : Instant) (g : Engine σ), g.cluster.pods.get? (podPlace s b) = none →
    (∀ r, ((reconcile s now b).run.run g).1 = .ok r → r.phase = .failed) ∧
    (g.cluster.faults = [] → ∃ reason, ((reconcile s now b).run.run g).1 =
      (BuildStore.save (b.failedFor reason now) g.store).result)

/-- Whoever carries the build on and is told that it is pending has a pod that says so. -/
def PendingOnlyIfSaid (σ : Type) [BuildStore σ] (b : Build) : Prop :=
  ∀ (s : Settings) (now : Instant) (g : Engine σ) (r : Build),
    ((reconcile s now b).run.run g).1 = .ok r → r.phase = .pending →
      ∃ pod, g.cluster.pods.get? (podPlace s b) = some pod ∧ pod.phase = "Pending"

section Reconciled

variable (σ : Type) [BuildStore σ] [FaithfulStore σ] {b : Build}

/-- A build that is past the start of its worker gets no pod. -/
theorem startsNoPod_of_past (past : Phase.pending.stage < b.phase.stage) : StartsNoPod σ b := by
  have seen : ¬(b.phase = .scheduling ∨ b.phase = .pending) := by
    rintro (phase | phase) <;> rw [phase] at past <;> exact absurd past (by decide)
  intro s now g
  constructor
  · obtain ⟨made, footprint, touches⟩ := (tidy_reconcile s now b g).calls
    refine ⟨made, footprint, fun p created => ?_⟩
    -- A creation would be among the changes that were asked for.
    have asked : .createPod p ∈ made.filter Call.isWrite := List.mem_filter.mpr ⟨created, rfl⟩
    generalize made.filter Call.isWrite = writes at touches asked
    cases touches with
    | nothing => cases asked
    | deletion => cases List.mem_singleton.mp asked
    | creation unseen => exact seen unseen
  · intro p absent
    rw [cluster_reconcile]
    -- Pods only go.
    refine keeps_stepWork (P := fun c => c.pods.get? p = none) (fun _ _ holds => holds) ?_
      (fun unseen => absurd unseen seen) s now g.cluster absent
    intro c place holds
    rw [get?_podsWithout]
    split
    · rename_i own
      rw [← own, holds]
      split <;> rfl
    · exact holds

variable (pod : b.spec.strategy = .pod) (running : b.phase = .running)

include pod running

/-- A running build fails when its pod vanishes. -/
theorem failsWithoutPod_of_running : FailsWithoutPod σ b := by
  intro s now g gone
  -- A failed build is another one than the running build, and is therefore saved.
  have changed : ∀ reason, b.failedFor reason now ≠ b := by
    intro reason same
    have phase := congrArg Build.phase same
    rw [running] at phase
    cases phase
  rw [result_reconcile, stepWork_of_running s now pod running]
  rcases follow_running s now running g.cluster with ⟨planned, e, failed⟩ | ⟨reason, failed⟩ |
    ⟨found, there, _⟩
  · rw [failed]
    refine ⟨fun r returned => ?_, fun calm => absurd calm planned⟩
    cases returned
  · rw [failed, filed, if_neg (changed reason)]
    refine ⟨fun r saved => ?_, fun _ => ⟨reason, rfl⟩⟩
    obtain ⟨version, rfl⟩ := FaithfulStore.saved saved
    rfl
  -- Nothing can have been reported by a pod that is gone.
  · rw [gone] at there
    cases there

/-- A running build goes back to be pending only if its pod says so. -/
theorem pendingOnlyIfSaid_of_running : PendingOnlyIfSaid σ b := by
  intro s now g r returned pending
  rw [result_reconcile, stepWork_of_running s now pod running] at returned
  -- Without a pod the build would have failed, so that there was one and it said so.
  rcases follow_running s now running g.cluster with ⟨_, e, failed⟩ | ⟨reason, failed⟩ |
    ⟨found, there, seen⟩
  · rw [failed] at returned
    cases returned
  · rw [failed] at returned
    obtain ⟨version, rfl⟩ := filed_ok returned
    cases pending
  · rw [seen] at returned
    obtain ⟨version, rfl⟩ := filed_ok returned
    exact ⟨found, there, phase_of_observed_pending running pending⟩

end Reconciled

/-- A build that was running gets no other worker in its attempt, and fails if its pod vanishes, as long as it has not
been taken to be pending again; and that only happens where its pod says that it is. -/
theorem restarted_only_if_pending_again {σ : Type} [BuildStore σ] [FaithfulStore σ] {b r : Build}
    {past : List Build} (course : Course (Tick σ) b (r :: past)) (pod : b.spec.strategy = .pod)
    (running : b.phase = .running)
    (same : crossings .failed .initialization (r :: past) = 0) :
    (crossings .running .pending (r :: past) = 0 →
      b.phase.stage ≤ r.phase.stage ∧ StartsNoPod σ r) ∧
    (r.phase = .running → FailsWithoutPod σ r ∧ PendingOnlyIfSaid σ r) := by
  constructor
  · intro steadfast
    -- A build that never went back is past being pending, where no pod is started.
    have forward := forward_of_course course same steadfast r rfl
    refine ⟨forward, startsNoPod_of_past σ ?_⟩
    rw [running] at forward
    exact Nat.lt_of_lt_of_le (by decide) forward
  · intro still
    have strategy : r.spec.strategy = .pod := by rw [spec_of_course course r rfl, pod]
    exact ⟨failsWithoutPod_of_running σ strategy still, pendingOnlyIfSaid_of_running σ strategy still⟩

/-- The engine where the worker pod of the build of a name is said to be in a phase. -/
def saying (g : Engine Memory) (name phase : String) : Engine Memory :=
  let place := podPlace usualSettings (buildNamed name)
  { g with cluster := (g.cluster.setPodStatus? place (.ofPhase phase)).getD g.cluster }

/-- The engine where the worker pod of the build of a name is gone. -/
def missing (g : Engine Memory) (name : String) : Engine Memory :=
  { g with cluster := { g.cluster with
    pods := g.cluster.pods.erase (podPlace usualSettings (buildNamed name)) } }

/-- The build of a name once its worker has been started. -/
def pendingNamed (name : String) : Build :=
  ((buildNamed name).nextVersion.prepared.nextVersion.launched .epoch).nextVersion

/-- The build of a name once its worker has been seen running. -/
def runningNamed (name : String) : Build := ((pendingNamed name).withPhase .running).nextVersion

/-- The build of a name once it has been taken to be pending again. -/
def fallenNamed (name : String) : Build := ((runningNamed name).withPhase .pending).nextVersion

/-- The engine after the worker of a name was seen running. -/
def runningEngine (name : String) : Engine Memory :=
  ((reconcile usualSettings .epoch (pendingNamed name)).run.run
    ((launchedEngine name).saying name "Running")).2

/-- The engine after the worker of a name was said to be pending again. -/
def fallenEngine (name : String) : Engine Memory :=
  ((reconcile usualSettings .epoch (runningNamed name)).run.run
    ((runningEngine name).saying name "Pending")).2

/-- A build that was seen running twice gets no pod when its worker is gone, and has failed then. -/
theorem restarted_only_if_pending_again_app :
    ((reconcile usualSettings .epoch (runningNamed "app")).run.run
      ((runningEngine "app").missing "app")).2.cluster.pods.get? ⟨"ns", "podforge-app-builder"⟩ = none ∧
    ∀ r, ((reconcile usualSettings .epoch (runningNamed "app")).run.run
      ((runningEngine "app").missing "app")).1 = .ok r → r.phase = .failed := by
  -- The pod is there for one more tick, and gone after it.
  have again : Tick Memory (runningNamed "app") (runningNamed "app") :=
    .of_result usualSettings .epoch (runningEngine "app") (by decide +kernel)
  obtain ⟨steadfast, running⟩ :=
    restarted_only_if_pending_again (.next .start again) rfl rfl rfl
  have gone : ((runningEngine "app").missing "app").cluster.pods.get?
      (podPlace usualSettings (runningNamed "app")) = none := by decide +kernel
  exact ⟨((steadfast rfl).2 usualSettings .epoch _).2 _ gone,
    ((running rfl).1 usualSettings .epoch _ gone).1⟩

/-- The worker of a build that was seen running is said to be pending, and then it is gone: the build gets another one
in the same attempt, and has not failed. -/
theorem running_worker_is_replaced :
    (pendingNamed "app").phase = .pending ∧
    ((reconcile usualSettings .epoch (pendingNamed "app")).run.run
      ((launchedEngine "app").saying "app" "Running")).1 = .ok (runningNamed "app") ∧
    (runningNamed "app").phase = .running ∧
    ((reconcile usualSettings .epoch (runningNamed "app")).run.run
      ((runningEngine "app").saying "app" "Pending")).1 = .ok (fallenNamed "app") ∧
    ((fallenEngine "app").missing "app").cluster.pods.get? ⟨"ns", "podforge-app-builder"⟩ = none ∧
    let last := (reconcile usualSettings .epoch (fallenNamed "app")).run.run
      ((fallenEngine "app").missing "app")
    last.1 = .ok (fallenNamed "app") ∧ (fallenNamed "app").phase = .pending ∧
      ∃ pod, last.2.cluster.pods.get? ⟨"ns", "podforge-app-builder"⟩ = some pod := by
  refine ⟨rfl, ?_, rfl, ?_, ?_, ?_, rfl, Option.isSome_iff_exists.mp ?_⟩ <;> decide +kernel

end Engine

end ImageBuild
