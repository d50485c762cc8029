import ImageBuild.Proofs.Engine.Recovery
import ImageBuild.Proofs.Engine.Workers

/-! Every attempt of a build starts a worker of its own: what the worker of an earlier attempt came to is never
read as the outcome of a later one. -/

namespace ImageBuild

open Kubernetes Worker

namespace Action

/-- A build of a pod goes on with the action that accepts its phase. -/
theorem next?_eq {b : Build} {action : Action} (pod : b.spec.strategy = .pod)
    (accepted : action.accepts b.phase = true) : next? b = some action := by
  -- No phase is accepted by two actions.
  rw [next?, pod, forStrategy]
  revert accepted
  cases action <;> cases b.phase <;> decide

end Action

namespace Engine

open Cluster Run

/-- Room has been made only when no pod is left in the place. -/
theorem vacant_of_prepare {s : Settings} {b r : Build} {c d : Cluster} (sincere : c.Sincere)
    (ran : (prepare s b).run.run c = (.ok r, d)) (changed : r ≠ b) :
    d.pods.get? (podPlace s b) = none := by
  unfold prepare at ran
  obtain ⟨_, c', deleted, ran⟩ := bind_ok ran
  obtain ⟨found, d', looked, ran⟩ := bind_ok ran
  -- The failures that are left when the pod is looked for are sincere, too.
  have sincere : c'.Sincere := by
    have kept := keeps_delete (fun _ call holds => holds.called call) (fun _ _ holds => holds)
      s b c sincere
    rw [deleted] at kept
    exact kept
  rw [run_find] at looked
  cases fault : c'.fault? with
  | some e =>
    -- A call that fails does not say that the pod is missing.
    have harmless := (sincere.of_fault? fault).1
    simp only [fault, harmless] at looked
    cases looked
  | none =>
    rw [fault, Prod.mk.injEq] at looked
    obtain ⟨answer, rfl⟩ := looked
    -- A pod that is found leaves the build as it was.
    cases found with
    | some pod => exact absurd (pure_ok ran).1 changed
    | none =>
      rw [(pure_ok ran).2]
      exact Except.ok.inj answer

/-- A worker that is started where there is no pod has one that has just been created; one that cannot be
started leaves no pod. -/
theorem launch_vacant (s : Settings) (now : Instant) {b : Build} {c : Cluster} (sincere : c.Sincere)
    (vacant : c.pods.get? (podPlace s b) = none) :
    match (launch s now b).run.run c with
    | (.error _, d) => d.pods = c.pods
    | (.ok _, d) => ∃ built, ((pod s b).run.run c).1 = .ok built ∧
        d.pods = c.pods.insert (podPlace s b) (built.bornAt c.clock) := by
  have created := create_cases s b c
  unfold launch
  rw [run_bind]
  rcases ran : (createPod s b).run.run c with ⟨result, d⟩
  rw [ran] at created
  simp only at created
  generalize pods : d.pods = after at created
  -- The creation fails, finds the place taken, or makes the pod.
  cases created with
  | failed e => exact pods
  | kept taken =>
    -- Nothing stands in the place, and no failure pretends that something does.
    rcases taken with there | ⟨e, planned, exists_⟩
    · obtain ⟨pod, found⟩ := (Dict.contains_iff _ _).mp there
      cases vacant.symm.trans found
    · cases exists_.symm.trans (ClusterError.harmful_of_isTransient (sincere e planned)).2
  | made assembled free => exact ⟨_, assembled, pods⟩

/-- A scheduled build of a pod is launched. -/
theorem stepWork_of_scheduled (s : Settings) (now : Instant) {b : Build}
    (pod : b.spec.strategy = .pod) (scheduled : b.phase = .scheduling) :
    stepWork s now b = launch s now b := by
  -- The phase selects the launch.
  have accepted : Action.launch.accepts b.phase = true := by
    rw [scheduled]
    rfl
  rw [stepWork, Action.next?_eq pod accepted]
  rfl

/-- A build of a pod that has not been started yet is prepared. -/
theorem stepWork_of_starting (s : Settings) (now : Instant) {b : Build}
    (pod : b.spec.strategy = .pod) (starting : b.phase = .new ∨ b.phase = .initialization) :
    stepWork s now b = prepare s b := by
  -- Both phases select the preparation.
  have accepted : Action.prepare.accepts b.phase = true := by
    rcases starting with phase | phase <;> rw [phase] <;> rfl
  rw [stepWork, Action.next?_eq pod accepted]
  rfl

variable {σ : Type} [BuildStore σ]

/-- Without a store a reconciliation is the work of a step. -/
theorem run_reconcile_storeless (s : Settings) (now : Instant) (b : Build) (t : Site) :
    ∃ log, (reconcile s now b).run.run (⟨t, none⟩ : Engine (Option σ)) =
      (((stepWork s now b).run.run t.cluster).1,
        ⟨⟨((stepWork s now b).run.run t.cluster).2, log⟩, none⟩) := by
  obtain ⟨log, ran⟩ := run_reconcile_work s now b (⟨t, none⟩ : Engine (Option σ))
  rw [ran]
  rcases (stepWork s now b).run.run t.cluster with ⟨result, c⟩
  -- Without a store the build is handed on, whether it has changed or not.
  cases result with
  | error e => exact ⟨log, rfl⟩
  | ok target =>
    simp only
    split
    · rename_i same
      exact ⟨log, by rw [same]⟩
    · -- A build that is not saved is returned as it is.
      rw [run_persist]
      exact ⟨_, rfl⟩

/-- The settings of a call. -/
def Move.settings : Move → Settings
  | reconcile s _ => s
  | cancel s => s

/-- What may happen next to a build and to the cluster around it, under one configuration: nobody but the
engine puts a pod in the place of its worker. -/
inductive Round (config : EngineConfig) : Engine (Option σ) × Build → Engine (Option σ) × Build → Prop
  /-- A call returned the build as it is now. -/
  | answered (m : Move) (configured : m.settings.config = config) {g h : Engine (Option σ)}
      {b r : Build} (ran : (m.make b).run.run g = (.ok r, h)) : Round config (g, b) (h, r)
  /-- A call failed, and the build is still the one that was given to it. -/
  | refused (m : Move) (configured : m.settings.config = config) {g h : Engine (Option σ)}
      {b : Build} {e : BuildError} (ran : (m.make b).run.run g = (.error e, h)) :
      Round config (g, b) (h, b)
  /-- Others did something to the cluster. -/
  | disturbed {g : Engine (Option σ)} {b : Build} {c : Cluster}
      (around : Disturbed (place config.podNamePrefix b) g.cluster c) :
      Round config (g, b) ({ g with cluster := c }, b)

/-- What holds of a build and the cluster around it, after any round. -/
structure Vacated (config : EngineConfig) (t : Engine (Option σ) × Build) : Prop where
  storeless : t.1.store = none
  sincere : t.1.cluster.Sincere
  pod : t.2.spec.strategy = .pod
  /-- A build is scheduled only while nothing stands in the place of its worker. -/
  vacant : t.2.phase = .scheduling → t.1.cluster.pods.get? (place config.podNamePrefix t.2) = none

/-- A call that has no store gets none. -/
theorem Move.storeless (m : Move) (b : Build) {g : Engine (Option σ)} (storeless : g.store = none) :
    ((m.make b).run.run g).2.store = none := by
  -- No move sets up a store.
  have ends := m.ends b g
  rw [storeless] at ends
  generalize ((m.make b).run.run g).1 = result, ((m.make b).run.run g).2.store = after at ends
  cases ends <;> rfl

/-- A call on a build leaves failures sincere. -/
theorem Move.sincere (m : Move) (b : Build) {g : Engine σ} (sincere : g.cluster.Sincere) :
    ((m.make b).run.run g).2.cluster.Sincere := by
  have noted : ∀ (c : Cluster) (call : Call), c.Sincere → (c.called call).Sincere :=
    fun _ call holds => holds.called call
  -- Failures are only used up, so those that are left are sincere.
  cases m with
  | reconcile s now =>
    rw [make, cluster_reconcile]
    exact keeps_stepWork noted (fun _ _ holds => holds) (fun _ _ _ _ holds => holds) s now _ sincere
  | cancel s => exact keeps_cancel noted (fun _ _ holds => holds) s b sincere

/-- Builds of one name have their workers in one place. -/
theorem place_congr (stem : String) {b r : Build} (same : r.reference = b.reference) :
    place stem r = place stem b := by
  rw [place, place, same]

/-- A cancellation puts no pod anywhere. -/
theorem vacant_of_cancel (s : Settings) (b : Build) {g : Engine σ} {p : Reference}
    (vacant : g.cluster.pods.get? p = none) :
    ((cancel s b).run.run g).2.cluster.pods.get? p = none := by
  refine keeps_cancel (P := fun c => c.pods.get? p = none) (fun _ _ holds => holds) ?_ s b vacant
  -- All that a deletion leaves was there before.
  intro c other vacant
  rw [Option.eq_none_iff_forall_ne_some]
  intro pod there
  obtain ⟨old, before, _⟩ := get?_of_podsWithout there
  cases vacant.symm.trans before

/-- A reconciliation that schedules a build has found nothing in the place of its worker. -/
theorem vacant_of_scheduled {s : Settings} {now : Instant} {b r : Build} {g h : Engine (Option σ)}
    (storeless : g.store = none) (pod : b.spec.strategy = .pod) (sincere : g.cluster.Sincere)
    (ran : (reconcile s now b).run.run g = (.ok r, h)) (scheduled : r.phase = .scheduling) :
    h.cluster.pods.get? (podPlace s b) = none := by
  obtain ⟨t, _⟩ := g
  obtain rfl := storeless
  obtain ⟨log, worked⟩ := run_reconcile_storeless (σ := σ) s now b t
  rw [worked, Prod.mk.injEq] at ran
  obtain ⟨result, rfl⟩ := ran
  rcases stepped : (stepWork s now b).run.run t.cluster with ⟨outcome, c⟩
  rw [stepped] at result
  obtain rfl : outcome = .ok r := result
  have advance := stepWork_ok stepped
  -- The only way into the phase is that of a build which has not been started yet.
  have starting : b.phase = .new ∨ b.phase = .initialization := by
    rcases advance.moves with same | edge
    · have pending := advance.of_scheduled pod (same ▸ scheduled)
      cases scheduled.symm.trans pending
    · rw [scheduled] at edge
      revert edge
      cases b.phase <;> decide
  -- A build that has been prepared is another one, so that the pod was seen to be gone.
  have changed : r ≠ b := by
    rintro rfl
    rcases starting with phase | phase <;> cases scheduled.symm.trans phase
  rw [stepWork_of_starting s now pod starting] at stepped
  exact vacant_of_prepare sincere stepped changed

/-- A reconciliation of a scheduled build, with nothing in the place of its worker, creates the worker or
leaves the pods as they are. -/
theorem launched_of_scheduled (s : Settings) (now : Instant) {b : Build} {g : Engine (Option σ)}
    (storeless : g.store = none) (pod : b.spec.strategy = .pod) (scheduled : b.phase = .scheduling)
    (sincere : g.cluster.Sincere) (vacant : g.cluster.pods.get? (podPlace s b) = none) :
    match (reconcile s now b).run.run g with
    | (.error _, h) => h.cluster.pods = g.cluster.pods
    | (.ok r, h) => r.phase = .pending ∧
        ∃ built, ((Worker.pod s b).run.run g.cluster).1 = .ok built ∧
          h.cluster.pods = g.cluster.pods.insert (podPlace s b) (built.bornAt g.cluster.clock) := by
  obtain ⟨t, _⟩ := g
  obtain rfl := storeless
  have launch := launch_vacant s now sincere vacant
  -- Without a store, a reconciliation comes to what its work comes to.
  obtain ⟨log, worked⟩ := run_reconcile_storeless (σ := σ) s now b t
  rw [worked]
  rw [← stepWork_of_scheduled s now pod scheduled] at launch
  rcases stepped : (stepWork s now b).run.run t.cluster with ⟨result, c⟩
  rw [stepped] at launch
  cases result with
  | error e => exact launch
  | ok r => exact ⟨(stepWork_ok stepped).of_scheduled pod scheduled, launch⟩

/-- Whatever happens, the build has its name, and what is to be built stays. -/
theorem Round.same [FaithfulStore σ] {config : EngineConfig} {t u : Engine (Option σ) × Build}
    (round : Round config t u) : u.2.reference = t.2.reference ∧ u.2.spec = t.2.spec := by
  -- A move changes nothing but the status.
  cases round with
  | answered m configured ran =>
    obtain ⟨target, version, made, rfl⟩ := Move.make_ok ran
    rw [Move.only_status made]
    exact ⟨rfl, rfl⟩
  | refused m configured ran => exact ⟨rfl, rfl⟩
  | disturbed around => exact ⟨rfl, rfl⟩

/-- Every round keeps the place of a scheduled build vacant. -/
theorem Round.vacated [FaithfulStore σ] {config : EngineConfig} {t u : Engine (Option σ) × Build}
    (round : Round config t u) (before : Vacated config t) : Vacated config u := by
  obtain ⟨storeless, sincere, pod, vacant⟩ := before
  obtain ⟨reference, spec⟩ := round.same
  cases round with
  | @answered m configured g h b r ran =>
    have store := m.storeless b storeless
    have planned := m.sincere b sincere
    rw [ran] at store planned
    refine ⟨store, planned, spec ▸ pod, fun scheduled => ?_⟩
    rw [place_congr _ reference]
    cases m with
    | reconcile s now =>
      obtain rfl := configured
      exact vacant_of_scheduled storeless pod sincere ran scheduled
    | cancel s =>
      -- A build is not scheduled after a cancellation, whatever it was before.
      obtain ⟨target, version, made, rfl⟩ := Move.make_ok ran
      have same : target = cancelled b := made
      have scheduled : target.phase = .scheduling := scheduled
      rw [same, cancelled] at scheduled
      split at scheduled
      · rename_i finished
        rw [scheduled] at finished
        cases finished
      · cases scheduled
  | @refused m configured g h b e ran =>
    have store := m.storeless b storeless
    have planned := m.sincere b sincere
    rw [ran] at store planned
    refine ⟨store, planned, pod, fun scheduled => ?_⟩
    -- A refused round leaves the phase, so that the place was vacant before it.
    have vacant := vacant scheduled
    cases m with
    | reconcile s now =>
      obtain rfl := configured
      -- A launch that fails has created nothing.
      have kept := launched_of_scheduled s now storeless pod scheduled sincere vacant
      have ran : (reconcile s now b).run.run g = (.error e, h) := ran
      rw [ran] at kept
      have same : h.cluster.pods = g.cluster.pods := kept
      rw [same]
      exact vacant
    | cancel s =>
      have kept := vacant_of_cancel s b vacant
      have ran : (cancel s b).run.run g = (.error e, h) := ran
      rw [ran] at kept
      exact kept
  | disturbed around =>
    exact ⟨storeless, around.sincere sincere, pod, fun scheduled => around.vacant (vacant scheduled)⟩

/-- A build has an active worker only if it had one before the round or was scheduled then. -/
theorem Round.entered [FaithfulStore σ] {config : EngineConfig} {t u : Engine (Option σ) × Build}
    (round : Round config t u) (active : u.2.phase = .pending ∨ u.2.phase = .running) :
    (t.2.phase = .pending ∨ t.2.phase = .running) ∨ t.2.phase = .scheduling := by
  cases round with
  | @answered m configured g h b r ran =>
    obtain ⟨target, version, made, rfl⟩ := Move.make_ok ran
    have active : target.phase = .pending ∨ target.phase = .running := active
    -- Only reconciling leads into an active phase, and only from the one before it.
    cases m with
    | reconcile s now =>
      rcases Advance.moves made with same | edge
      · exact .inl (same ▸ active)
      · -- Of all edges only those from these phases lead to an active one.
        change (b.phase = .pending ∨ b.phase = .running) ∨ b.phase = .scheduling
        rcases active with phase | phase <;> rw [phase] at edge <;> revert edge <;>
          cases b.phase <;> decide
    | cancel s =>
      -- A cancelled build is not active, unless nothing was cancelled.
      have same : target = cancelled b := made
      rw [same, cancelled] at active
      split at active
      · exact .inl active
      · rcases active with phase | phase <;> cases phase
  | refused m configured ran => exact .inl active
  | disturbed around => exact .inl active

section

variable [FaithfulStore σ] {config : EngineConfig} {first : Build} {site : Site}
  (new : first.phase = .new) (pod : first.spec.strategy = .pod) (sincere : site.cluster.Sincere)

include new pod sincere

/-- After every round of a course the place of a scheduled build is vacant. -/
theorem vacated_of_course {t : Engine (Option σ) × Build} {past : List (Engine (Option σ) × Build)}
    (course : Course (Round config) (⟨site, none⟩, first) (t :: past)) : Vacated config t := by
  generalize trace : t :: past = states at course
  induction course generalizing t past with
  | start =>
    obtain ⟨rfl, rfl⟩ := List.cons.inj trace
    -- A new build has not been scheduled.
    exact ⟨rfl, sincere, pod, fun scheduled => by cases new.symm.trans scheduled⟩
  | @next current later past course followed ih =>
    obtain ⟨rfl, rfl⟩ := List.cons.inj trace
    exact followed.vacated (ih rfl)

/-- Since a build with an active worker was scheduled, when nothing stood in the place of the worker, it has
had an active worker all the time. -/
theorem started_of_course {t : Engine (Option σ) × Build} {past : List (Engine (Option σ) × Build)}
    (course : Course (Round config) (⟨site, none⟩, first) (t :: past))
    (active : t.2.phase = .pending ∨ t.2.phase = .running) :
    ∃ recent start older, t :: past = recent ++ start :: older ∧
      start.2.phase = .scheduling ∧
      start.1.cluster.pods.get? (place config.podNamePrefix t.2) = none ∧
      ∀ u ∈ recent, u.2.phase = .pending ∨ u.2.phase = .running := by
  generalize trace : t :: past = states at course
  -- The induction goes back to the round in which the worker was started.
  induction course generalizing t past with
  | start =>
    obtain ⟨rfl, rfl⟩ := List.cons.inj trace
    rcases active with phase | phase <;> cases new.symm.trans phase
  | @next current later past course followed ih =>
    obtain ⟨rfl, rfl⟩ := List.cons.inj trace
    have reference := followed.same.1
    rcases followed.entered active with before | scheduled
    · obtain ⟨recent, start, older, split, phase, vacant, since⟩ := ih before rfl
      refine ⟨t :: recent, start, older, by rw [split, List.cons_append], phase, ?_, ?_⟩
      · rw [place_congr _ reference]
        exact vacant
      · intro u member
        rcases List.mem_cons.mp member with rfl | earlier
        · exact active
        · exact since u earlier
    -- Here the worker has just been started.
    · refine ⟨[t], current, past, rfl, scheduled, ?_, ?_⟩
      · rw [place_congr _ reference]
        exact (vacated_of_course new pod sincere course).vacant scheduled
      · intro u member
        rw [List.mem_singleton.mp member]
        exact active

end

/-- A build is scheduled only while nothing stands in the place of its worker, and goes on from there only
with a worker that has just been created; what is seen of the worker is about that one. -/
theorem attempts_start_without_pod [FaithfulStore σ] {q : BuildRequest} {first b : Build}
    {config : EngineConfig} {site : Site} {g : Engine (Option σ)}
    {past : List (Engine (Option σ) × Build)} (asked : q.build = .ok first)
    (sincere : site.cluster.Sincere)
    (course : Course (Round config) (⟨site, none⟩, first) ((g, b) :: past)) :
    (b.phase = .scheduling →
      g.cluster.pods.get? (place config.podNamePrefix b) = none ∧
      ∀ (proxy : Proxy) (now : Instant) (r : Build) (h : Engine (Option σ)),
        (reconcile ⟨config, proxy⟩ now b).run.run g = (.ok r, h) →
          r.phase = .pending ∧
          ∃ built, ((Worker.pod ⟨config, proxy⟩ b).run.run g.cluster).1 = .ok built ∧
            built.status = none ∧ built.isTerminating = false ∧
            h.cluster.pods = g.cluster.pods.insert (place config.podNamePrefix b)
              (built.bornAt g.cluster.clock)) ∧
    (b.phase = .pending ∨ b.phase = .running →
      ∃ recent start older, (g, b) :: past = recent ++ start :: older ∧
        start.2.phase = .scheduling ∧
        start.1.cluster.pods.get? (place config.podNamePrefix b) = none ∧
        ∀ t ∈ recent, t.2.phase = .pending ∨ t.2.phase = .running) := by
  obtain ⟨status, pod⟩ := status_of_request asked
  have new : first.phase = .new := congrArg BuildStatus.phase status
  refine ⟨fun scheduled => ?_, started_of_course new pod sincere course⟩
  -- The place of the pod has been vacant since the phase was entered, so that the launch makes a pod.
  obtain ⟨storeless, planned, pod, vacant⟩ := vacated_of_course new pod sincere course
  have vacant := vacant scheduled
  refine ⟨vacant, fun proxy now r h ran => ?_⟩
  have launched := launched_of_scheduled ⟨config, proxy⟩ now storeless pod scheduled planned vacant
  rw [ran] at launched
  obtain ⟨pending, built, assembled, inserted⟩ := launched
  obtain ⟨_, unseen, kept⟩ := pod_ok (Prod.ext assembled rfl)
  exact ⟨pending, built, assembled, unseen, kept, inserted⟩

/-- A failed worker that somebody else has left in the place of the usual one. -/
def leftoverPod : Pod where
  metadata := { Meta.none with scope := some "ns", name := some "podforge-app-builder" }
  spec := none
  status := some ⟨some "Failed", none, none, none, []⟩

/-- An engine around a cluster where deleted pods linger, and where there is one that has failed. -/
def crowdedEngine : Engine (Option Memory) :=
  ⟨⟨((Cluster.empty .epoch).insertPod leftoverPod).setLingering true, []⟩, none⟩

/-- The engine after it has deleted the pod, which lingers. -/
def waitingEngine : Engine (Option Memory) :=
  ((reconcile usualSettings .epoch hastyRequest.kanikoBuild).run.run crowdedEngine).2

/-- The engine after the pod has gone, and the build has been scheduled. -/
def vacatedEngine : Engine (Option Memory) :=
  ((reconcile usualSettings .epoch hastyRequest.kanikoBuild).run.run
    { waitingEngine with cluster := waitingEngine.cluster.reap }).2

/-- A build whose place was taken by a failed worker is scheduled once that one has gone, and goes on with a
worker of its own. -/
theorem attempts_start_without_pod_leftover :
    vacatedEngine.cluster.pods.get? ⟨"ns", "podforge-app-builder"⟩ = none ∧
    (∀ (proxy : Proxy) (now : Instant) (r : Build) (h : Engine (Option Memory)),
      (reconcile ⟨.standard, proxy⟩ now hastyRequest.kanikoBuild.prepared).run.run vacatedEngine
        = (.ok r, h) → r.phase = .pending) := by
  have asked : hastyRequest.build = .ok hastyRequest.kanikoBuild := by rfl
  have sincere : crowdedEngine.cluster.Sincere := fun e planned => by cases planned
  -- The leftover pod is deleted, lingers for a round, and is reaped before the build is prepared.
  have course : Course (Round EngineConfig.standard) (crowdedEngine, hastyRequest.kanikoBuild)
      [(vacatedEngine, hastyRequest.kanikoBuild.prepared),
        ({ waitingEngine with cluster := waitingEngine.cluster.reap }, hastyRequest.kanikoBuild),
        (waitingEngine, hastyRequest.kanikoBuild), (crowdedEngine, hastyRequest.kanikoBuild)] :=
    .next (.next (.next .start
      (.answered (.reconcile usualSettings .epoch) rfl (Prod.ext rfl rfl)))
      (.disturbed .reaped))
      (.answered (.reconcile usualSettings .epoch) rfl (Prod.ext rfl rfl))
  obtain ⟨vacant, launched⟩ := (attempts_start_without_pod asked sincere course).1 rfl
  exact ⟨vacant, fun proxy now r h ran => (launched proxy now r h ran).1⟩

end Engine

end ImageBuild
