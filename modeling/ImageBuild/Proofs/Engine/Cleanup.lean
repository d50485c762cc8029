import ImageBuild.Proofs.Engine.Cancelled
import ImageBuild.Proofs.Engine.Waiting
import ImageBuild.Proofs.Store.Kept

/-! A cancellation is saved or has not happened, and later reconciliations make good what it may have left behind: they
delete the worker of the build, and change nothing else, however often they fail. -/

namespace ImageBuild

open Cluster Kubernetes Run Worker

/-- No pod has come to a place: if there is one it was there before, and stays deleted if it was. -/
def Cluster.NoneNew (place : Reference) (c d : Cluster) : Prop :=
  ∀ pod, d.pods.get? place = some pod →
    ∃ old, c.pods.get? place = some old ∧ (old.isTerminating = true → pod.isTerminating = true)

namespace Engine

variable {σ : Type} [BuildStore σ]

/-- A cancellation of a build that has not ended comes to what its save comes to, and only once that has succeeded the
worker is deleted, whether that succeeds or not. -/
theorem run_cancel_of_going (s : Settings) {b : Build} (going : b.phase.isTerminal = false)
    (g : Engine σ) :
    let saved := BuildStore.save (b.withPhase .cancelled) g.store
    ∃ log, (cancel s b).run.run g = (saved.result,
      { g with
        cluster := match saved.result with
          | .ok r => ((deletePod s r).run.run g.cluster).2
          | .error _ => g.cluster
        store := saved.store
        log := log }) := by
  -- What is logged does not matter here.
  obtain ⟨notes, _, ran⟩ := run_cancel s going g
  exact ⟨_, ran⟩

/-- What may happen once a build has been cancelled: it is carried on, at any time and under any settings, or anything
else, but that a pod comes to the place of its worker. -/
inductive Afterwards (place : Reference) (b : Build) (g : Engine σ) : Engine σ → Prop
  | reconciled (s : Settings) (now : Instant) : Afterwards place b g ((reconcile s now b).run.run g).2
  | elsewhere {h : Engine σ} (around : NoneNew place g.cluster h.cluster) : Afterwards place b g h

section

variable {place : Reference} {b : Build} {g h : Engine σ} (phase : b.phase = .cancelled)

include phase

/-- A place without a worker stays so after the build has been cancelled. -/
theorem Afterwards.idle (afterwards : Afterwards place b g h) (idle : g.cluster.Idle place) :
    h.cluster.Idle place := by
  cases afterwards with
  | elsewhere around => exact idle.of_get? around
  | reconciled s now =>
    rw [cluster_reconcile]
    -- A cancelled build needs no pod.
    refine keeps_stepWork (P := Idle place) (fun _ _ holds => holds)
      (fun _ p holds => holds.podsWithout p) ?_ s now _ idle
    rw [phase]
    rintro (needed | needed) <;> cases needed

/-- However long it goes on. -/
theorem idle_of_afterwards (run : Relation.ReflTransGen (Afterwards place b) g h)
    (idle : g.cluster.Idle place) : h.cluster.Idle place := by
  -- The induction is on what happens afterwards, none of which starts a worker.
  induction run with
  | refl => exact idle
  | tail _ next ih => exact next.idle phase ih

variable (pod : b.spec.strategy = .pod) (s : Settings) (now : Instant)

include pod

/-- A cancelled build is carried on by deleting its worker, and comes to what that comes to. -/
theorem result_reconcile_of_cancelled (g : Engine σ) :
    ((reconcile s now b).run.run g).1 = ((deletePod s b).run.run g.cluster).1.map fun _ => b := by
  have accepted : Action.cleanUp.accepts b.phase = true := by
    rw [phase]
    rfl
  -- The phase calls for the cleaning up.
  have work : stepWork s now b = cleanUp s b := by
    rw [stepWork, Action.next?_eq pod accepted]
    rfl
  obtain ⟨log, ran⟩ := run_reconcile_work s now b g
  rw [ran, work, cleanUp, run_bind]
  rcases (deletePod s b).run.run g.cluster with ⟨result, c⟩
  cases result with
  | error e => rfl
  | ok done =>
    simp only
    rw [run_pure]
    exact congrArg Prod.fst (if_pos rfl)

/-- Where no call fails a cancelled build is returned. -/
theorem result_reconcile_of_calm (calm : g.cluster.fault? = none) :
    ((reconcile s now b).run.run g).1 = .ok b := by
  -- Without a failure the deletion succeeds, whether there is a pod or not.
  rw [result_reconcile_of_cancelled phase pod, run_delete, calm]
  rfl

/-- Once a cancelled build has been returned its worker is gone or has been deleted. -/
theorem idle_of_reconciled (honest : ∀ e, g.cluster.fault? = some e → e.isNotFound = false)
    (ran : (reconcile s now b).run.run g = (.ok b, h)) : h.cluster.Idle (podPlace s b) := by
  cases planned : g.cluster.fault? with
  | none =>
    have idle := idle_of_cleanUp s now pod phase planned
    rw [ran] at idle
    exact idle
  | some e =>
    -- The failure of the deletion is passed on.
    have result := result_reconcile_of_cancelled phase pod s now g
    rw [ran, run_delete, planned] at result
    simp [honest e planned, Except.map] at result

end

/-- A cancellation fails as its save does: it has made no call, and every build in the store is as before. One that
succeeds has saved the build as cancelled. No reconciliation of what it returned saves or returns anything else, in
whatever state it finds the engine and whichever of its calls fail; and after the first one that succeeds the worker is
gone, or has been deleted, for as long as nobody puts another one in its place. -/
theorem cancellation_is_atomic [FaithfulStore σ] [AtomicStore σ] (s : Settings) {b : Build}
    (going : b.phase.isTerminal = false) (g : Engine σ) :
    (∀ e h, (cancel s b).run.run g = (.error e, h) → h.cluster = g.cluster ∧
      (BuildStore.save (b.withPhase .cancelled) g.store).result = .error e ∧
      h.store = (BuildStore.save (b.withPhase .cancelled) g.store).store ∧
      (AtomicStore.Sound g.store → AtomicStore.Admits g.store b.reference →
        ∀ place, AtomicStore.Admits g.store place →
          BuildStore.load place h.store = BuildStore.load place g.store)) ∧
    (∀ r h, (cancel s b).run.run g = (.ok r, h) →
      (∃ version, r = (b.withPhase .cancelled).atVersion version) ∧
      (AtomicStore.Sound g.store → AtomicStore.Admits g.store b.reference →
        BuildStore.load b.reference h.store = .ok r) ∧
      ∀ v : Engine σ,
        (∀ (t : Settings) (now : Instant), ((reconcile t now r).run.run v).2.store = v.store ∧
          ∀ c, ((reconcile t now r).run.run v).1 = .ok c → c = r) ∧
        (b.spec.strategy = .routine → ∀ (t : Settings) (now : Instant),
          (reconcile t now r).run.run v = (.ok r, v)) ∧
        (b.spec.strategy = .pod → ∀ (t : Settings) (now : Instant), t.config = s.config →
          (v.cluster.fault? = none → ((reconcile t now r).run.run v).1 = .ok r) ∧
          ∀ w u, (∀ e, v.cluster.fault? = some e → e.isNotFound = false) →
            (reconcile t now r).run.run v = (.ok r, w) →
            Relation.ReflTransGen (Afterwards (podPlace s b) r) w u →
              u.cluster.Idle (podPlace s b))) := by
  -- The outcome of the cancellation is that of its save.
  obtain ⟨log, ran⟩ := run_cancel_of_going s going g
  constructor
  · intro e h failed
    rw [ran] at failed
    obtain ⟨refused, rfl⟩ := Prod.mk.inj failed
    refine ⟨by simp only [refused], refused, rfl, fun sound admits place admitted => ?_⟩
    exact AtomicStore.load_of_failed (b := b.withPhase .cancelled) sound admits refused place admitted
  · intro r h answered
    rw [ran] at answered
    obtain ⟨saved, rfl⟩ := Prod.mk.inj answered
    obtain ⟨version, same⟩ := FaithfulStore.saved saved
    have phase : r.phase = .cancelled := by
      rw [same]
      rfl
    have strategy : r.spec.strategy = b.spec.strategy := by
      rw [same]
      rfl
    refine ⟨⟨version, same⟩, fun sound admits => ?_,
      fun v => ⟨fun t now => ?_, fun routine t now => ?_, fun pod t now configured => ?_⟩⟩
    · exact AtomicStore.load_of_saved (b := b.withPhase .cancelled) sound admits saved
    -- A terminal build is neither changed nor saved.
    · exact Move.make_ended (.reconcile t now) (by rw [phase]; rfl) v
    · exact run_reconcile_of_routine t now v (strategy.trans routine)
    · refine ⟨result_reconcile_of_calm phase (strategy.trans pod) t now, fun w u honest ran run => ?_⟩
      -- Neither the version nor the phase is part of the name of the worker.
      have named : podPlace t r = podPlace s b := by
        rw [podPlace, podPlace, configured, same]
        rfl
      have idle := idle_of_reconciled phase (strategy.trans pod) t now honest ran
      exact idle_of_afterwards phase run (named ▸ idle)

/-- An engine with the worker of a build, where the next calls fail in some ways. -/
def failingEngine (faults : List ClusterError) : Engine Memory :=
  ⟨⟨{ (Cluster.empty .epoch).insertPod leftoverPod with faults := faults.map some }, []⟩, .empty⟩

/-- The place of that worker. -/
def workerPlace : Reference := ⟨"ns", "podforge-app-builder"⟩

/-- The engine after the cancellation of a build. -/
def cancelledEngine (b : Build) (faults : List ClusterError) : Engine Memory :=
  ((cancel usualSettings b).run.run (failingEngine faults)).2

/-- A build once it has been cancelled and saved. -/
def savedCancelled (b : Build) : Build := (b.withPhase .cancelled).nextVersion

/-- A directory in which another writer has left things behind. -/
def litteredEngine : Engine Directory := ⟨⟨.empty .epoch, []⟩, Directory.litteredDirectory⟩

/-- The directory takes a build under its last version. -/
theorem litteredEngine_saves :
    (BuildStore.save (Directory.unsavedBuild.nextVersion.withPhase .cancelled)
      litteredEngine.store).result = .ok (savedCancelled Directory.unsavedBuild.nextVersion) := by
  -- The stored version is that of the build.
  change (Directory.litteredDirectory.save _).result = _
  decide +kernel

/-- The directory takes it under no other version. -/
theorem litteredEngine_refuses :
    (BuildStore.save (Directory.unsavedBuild.withPhase .cancelled) litteredEngine.store).result =
      .error (.conflict "ns/a.json" 1 0) := by
  -- The build in hand is one version behind.
  change (Directory.litteredDirectory.save _).result = _
  decide +kernel

/-- A worker that could not be deleted at first is deleted later; and in a littered directory a build is cancelled
under its last version, and under no other. -/
theorem cancellation_is_atomic_litteredEngine :
    ((reconcile usualSettings .epoch (savedCancelled (bareBuild .running))).run.run
      (cancelledEngine (bareBuild .running) [.api 503 "down"])).2.cluster.Idle workerPlace ∧
    (∃ h, (cancel usualSettings Directory.unsavedBuild.nextVersion).run.run litteredEngine =
        (.ok (savedCancelled Directory.unsavedBuild.nextVersion), h) ∧
      BuildStore.load Directory.unsavedBuild.reference h.store =
        .ok (savedCancelled Directory.unsavedBuild.nextVersion)) ∧
    ∃ h, (cancel usualSettings Directory.unsavedBuild).run.run litteredEngine =
        (.error (.conflict "ns/a.json" 1 0), h) ∧
      BuildStore.load Directory.unsavedBuild.reference h.store =
        BuildStore.load Directory.unsavedBuild.reference litteredEngine.store := by
  -- A stale lock and a temporary file that was left behind disturb no arrangement.
  have sound : AtomicStore.Sound litteredEngine.store := ⟨_, Directory.litteredDirectory_arranged⟩
  have admits : AtomicStore.Admits litteredEngine.store Directory.unsavedBuild.reference :=
    { Directory.emptyDirectory_admits with near := Directory.emptyDirectory_admits.near }
  -- A deletion that failed and is made up for, a save that succeeds, and one that is refused.
  refine ⟨?_, ?_, ?_⟩
  · obtain ⟨_, _, later⟩ := (cancellation_is_atomic usualSettings (b := bareBuild .running) rfl
      (failingEngine [.api 503 "down"])).2 _ (cancelledEngine (bareBuild .running) [.api 503 "down"]) rfl
    obtain ⟨_, _, cleaned⟩ := later (cancelledEngine (bareBuild .running) [.api 503 "down"])
    exact (cleaned rfl usualSettings .epoch rfl).2 _ _ (fun _ planned => nomatch planned) rfl .refl
  · obtain ⟨log, ran⟩ := run_cancel_of_going usualSettings
      (b := Directory.unsavedBuild.nextVersion) rfl litteredEngine
    simp only [litteredEngine_saves] at ran
    obtain ⟨_, stored, _⟩ := (cancellation_is_atomic usualSettings
      (b := Directory.unsavedBuild.nextVersion) rfl litteredEngine).2 _ _ ran
    exact ⟨_, ran, stored sound admits⟩
  · obtain ⟨log, ran⟩ := run_cancel_of_going usualSettings (b := Directory.unsavedBuild) rfl
      litteredEngine
    simp only [litteredEngine_refuses] at ran
    obtain ⟨_, _, _, kept⟩ := (cancellation_is_atomic usualSettings (b := Directory.unsavedBuild) rfl
      litteredEngine).1 _ _ ran
    exact ⟨_, ran, kept sound admits _ admits⟩

/-- A call that fails, and one of which the failure says that a worker is missing. -/
def misled : List ClusterError := [.api 503 "down", .notFound .pod workerPlace]

/-- A build for which there are no actions is returned without a call, so that its worker stays if it could not be
deleted at once; and so does a worker that is said to be missing. -/
theorem worker_outlives_cancellation :
    ((routineBuild none).phase.isTerminal = false ∧
      ((cancel usualSettings (routineBuild none)).run.run (failingEngine [.api 503 "down"])).1 =
        .ok (savedCancelled (routineBuild none)) ∧
      (reconcile usualSettings .epoch (savedCancelled (routineBuild none))).run.run
          (cancelledEngine (routineBuild none) [.api 503 "down"]) =
        (.ok (savedCancelled (routineBuild none)),
          cancelledEngine (routineBuild none) [.api 503 "down"]) ∧
      ¬(cancelledEngine (routineBuild none) [.api 503 "down"]).cluster.Idle workerPlace) ∧
    ((bareBuild .running).phase.isTerminal = false ∧
      ((cancel usualSettings (bareBuild .running)).run.run (failingEngine misled)).1 =
        .ok (savedCancelled (bareBuild .running)) ∧
      ((reconcile usualSettings .epoch (savedCancelled (bareBuild .running))).run.run
        (cancelledEngine (bareBuild .running) misled)).1 = .ok (savedCancelled (bareBuild .running)) ∧
      ¬((reconcile usualSettings .epoch (savedCancelled (bareBuild .running))).run.run
        (cancelledEngine (bareBuild .running) misled)).2.cluster.Idle workerPlace) := by
  -- A routine build has no actions, and a failed deletion can claim that there is no pod.
  refine ⟨⟨rfl, rfl, rfl, fun idle => ?_⟩, rfl, rfl, rfl, fun idle => ?_⟩ <;>
    cases idle leftoverPod rfl

end Engine

end ImageBuild
