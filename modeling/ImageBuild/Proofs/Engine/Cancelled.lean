import ImageBuild.Proofs.Context.Replaced
import ImageBuild.Proofs.Engine.Attempts
import ImageBuild.Proofs.Engine.Versions

/-! What may become of the worker of a build that has been cancelled while clients still hold earlier copies of
the build. -/

namespace ImageBuild

open Kubernetes Run Work Worker

namespace Cluster

/-- No pod stands in a place, except one that has been deleted and lingers. -/
def Idle (place : Reference) (c : Cluster) : Prop :=
  ∀ pod, c.pods.get? place = some pod → pod.isTerminating = true

variable {place : Reference} {c d : Cluster}

/-- A place stays idle when all pods in it were there before, and stay deleted. -/
theorem Idle.of_get? (idle : c.Idle place) (before : ∀ pod, d.pods.get? place = some pod →
    ∃ old, c.pods.get? place = some old ∧ (old.isTerminating = true → pod.isTerminating = true)) :
    d.Idle place := by
  -- A pod that is there now was ending before, and an ending pod stays one.
  intro pod there
  obtain ⟨old, found, ended⟩ := before pod there
  exact ended (idle old found)

/-- A deletion, of whatever pod, keeps a place idle. -/
theorem Idle.podsWithout (idle : c.Idle place) (p : Reference) :
    Idle place { c with pods := c.podsWithout p } :=
  idle.of_get? (fun _ there => get?_of_podsWithout there)

/-- Others keep a place idle as long as they put no pod there. -/
theorem Disturbed.idle (disturbed : Disturbed place c d) (idle : c.Idle place) : d.Idle place :=
  idle.of_get? (fun _ there => disturbed.get? there)

/-- The place of a pod is idle once the pod has been deleted. -/
theorem idle_podsWithout (c : Cluster) (place : Reference) :
    Idle place { c with pods := c.podsWithout place } := by
  -- The deletion has reached the place itself.
  intro pod there
  have there : (c.podsWithout place).get? place = some pod := there
  rw [get?_podsWithout, if_pos rfl] at there
  split at there
  · -- Where deleted pods linger, the pod is one of them by now.
    obtain ⟨old, _, rfl⟩ := Option.map_eq_some_iff.mp there
    exact old.isTerminating_ended _
  · cases there

end Cluster

namespace Engine

open Cluster Journal

/-- A schedule whose first save is refused leaves the pods alone. -/
theorem pods_schedule_refused {σ : Type} [BuildStore σ] (s : Settings) (now : Instant) {d : Draft}
    {g : Engine σ} {e : BuildError} (refused : (BuildStore.save d.build g.store).result = .error e) :
    ((schedule s now d).run.run g).2.cluster.pods = g.cluster.pods := by
  -- Before the build is saved only its context is written, and that is no pod.
  have kept := Context.pods_replace s.config.podNamePrefix d.build d.files g.cluster
  rw [cluster_schedule, refused]
  rcases ran : (Context.replace s.config.podNamePrefix d.build d.files).run.run g.cluster
    with ⟨result, c⟩
  rw [ran] at kept
  cases result <;> exact kept

namespace Operation

/-- An operation on builds of one name, under one configuration. -/
def About (config : EngineConfig) (b : Build) : Operation → Prop
  | schedule s _ d => s.config = config ∧ d.build.reference = b.reference
  | load place => place = b.reference
  | move m c => m.settings.config = config ∧ c.reference = b.reference

/-- Whether an operation may start a worker: it carries a copy on that is scheduled or pending. -/
def MayStart : Operation → Prop
  | move (.reconcile _ _) c => c.phase = .scheduling ∨ c.phase = .pending
  | _ => False

/-- Only a reconciliation may start a worker. -/
theorem MayStart.exists {o : Operation} (starts : o.MayStart) :
    ∃ s now c, o = .move (.reconcile s now) c ∧ (c.phase = .scheduling ∨ c.phase = .pending) := by
  -- Only reconciling can start a worker.
  cases o with
  | schedule s now d => exact absurd starts id
  | load place => exact absurd starts id
  | move m c =>
    cases m with
    | reconcile s now => exact ⟨s, now, c, rfl, starts⟩
    | cancel s => exact absurd starts id

end Operation

namespace Scene

/-- The scene after an operation. -/
def after (t : Scene) (o : Operation) : Scene :=
  match o.perform.run.run t.engine with
  | (.ok b, g) => ⟨g, b :: t.copies⟩
  | (.error _, g) => ⟨g, t.copies⟩

/-- The engine is as the operation leaves it. -/
theorem engine_after (t : Scene) (o : Operation) :
    (t.after o).engine = (o.perform.run.run t.engine).2 := by
  -- The copies that are handed out are no part of the engine.
  unfold after
  rcases o.perform.run.run t.engine with ⟨result, g⟩
  cases result <;> rfl

/-- An operation that is permitted may happen next. -/
theorem next_after (t : Scene) {o : Operation} (permitted : o.Permitted t.copies) :
    Next t (t.after o) := by
  obtain ⟨g, copies⟩ := t
  unfold after
  rcases ran : o.perform.run.run g with ⟨result, h⟩
  -- A success hands out a copy, and a failure does not.
  cases result with
  | ok b => exact .answered permitted ran
  | error e => exact .refused permitted ran

/-- What may happen next around one build: clients hold drafts, and do to the build whatever they want, with
whatever copy; others do not put a pod in the place of its worker. -/
inductive Onward (config : EngineConfig) (b : Build) (t : Scene) : Scene → Prop
  /-- A client looks at the build of a draft. -/
  | drafted {d : Draft} (asked : d.Asked) : Onward config b t ⟨t.engine, d.build :: t.copies⟩
  /-- Others did something to the cluster. -/
  | disturbed {c : Cluster}
      (around : Disturbed (place config.podNamePrefix b) t.engine.cluster c) :
      Onward config b t ⟨{ t.engine with cluster := c }, t.copies⟩
  /-- An operation on the build has succeeded or failed. -/
  | performed {o : Operation} (about : o.About config b)
      (permitted : o.Permitted t.copies) : Onward config b t (t.after o)

/-- All of this may happen next. -/
theorem Onward.next {config : EngineConfig} {b : Build} {t u : Scene} (onward : Onward config b t u) :
    Next t u := by
  -- Going onward is one of the steps of a scene.
  cases onward with
  | drafted asked => exact .drafted _ _ asked
  | disturbed around => exact .disturbed _ _ _
  | performed about permitted => exact t.next_after permitted

/-- A cancelled build stands in the store, and every copy in hand is known there. -/
structure Stopped (b : Build) (t : Scene) : Prop where
  sound : t.Sound
  within : (t.engine.store.savesOf b.reference.key).length < 2 ^ 64
  stored : t.engine.store.store.load b.reference = .ok b
  phase : b.phase = .cancelled

namespace Stopped

variable {b : Build} {t : Scene}

/-- What stands in the store has been saved there. -/
theorem version_ne_zero (stopped : Stopped b t) : b.version ≠ 0 := by
  intro unsaved
  have last := stopped.sound.journal.last b.reference
  have count := stopped.sound.journal.toNat_version b.reference stopped.within
  rw [stopped.stored] at last count
  -- The version counts the saves of the key, and one of them is the last.
  have none : t.engine.store.savesOf b.reference.key = [] := by
    rw [← List.length_eq_zero_iff, ← count]
    simp [Except.toOption, unsaved]
  rw [none] at last
  cases last

/-- The store refuses what became of any other version. -/
theorem refuses (stopped : Stopped b t) {target : Build} (reference : target.reference = b.reference)
    (stale : target.version ≠ b.version) :
    ∃ e, (BuildStore.save target t.engine.store).result = .error e := by
  -- An accepted build would have the version of the stored one.
  cases saved : (BuildStore.save target t.engine.store).result with
  | error e => exact ⟨e, rfl⟩
  | ok r =>
    obtain ⟨_, current, _⟩ := save_ok saved
    have current : ((t.engine.store.store.load target.reference).toOption.map Build.version).getD 0
      = target.version := current
    rw [reference, stopped.stored] at current
    exact absurd current.symm stale

/-- Another copy of the build is one of another version. -/
theorem version_ne (stopped : Stopped b t) {c : Build} (handed : c ∈ t.copies)
    (reference : c.reference = b.reference) (other : c ≠ b) : c.version ≠ b.version := by
  intro same
  -- What is loaded from the store is known there, as all copies in hand are.
  have known := (stopped.sound.journal.knows_loaded stopped.stored).1
  exact other (stopped.sound.journal.eq_of_version stopped.within known
    (stopped.sound.known c handed) (congrArg Reference.key reference) same
    stopped.version_ne_zero).symm

/-- Whatever is done to the build, with whatever copy, nothing is saved any more. -/
theorem store_after (stopped : Stopped b t) {config : EngineConfig} {o : Operation}
    (about : o.About config b) (permitted : o.Permitted t.copies) :
    (t.after o).engine.store = t.engine.store := by
  rw [engine_after]
  -- A draft is unsaved, a load writes nothing, and of the copies only the cancelled one is up to date.
  cases o with
  | schedule s now d =>
    have scheduled := schedule_ends s now d t.engine
    obtain ⟨e, refused⟩ := stopped.refuses about.2
      (by rw [Draft.Asked.version permitted]; exact stopped.version_ne_zero.symm)
    change ((Engine.schedule s now d).run.run t.engine).2.store = _
    generalize ((Engine.schedule s now d).run.run t.engine).1 = result,
      ((Engine.schedule s now d).run.run t.engine).2.store = last at scheduled
    cases scheduled with
    | unready e => rfl
    | refused e refused => exact save_refused refused
    | carried saved ends => cases refused.symm.trans saved
  | load place =>
    rw [Operation.perform, run_load]
  | move m c =>
    have ends := m.ends c t.engine
    change ((m.make c).run.run t.engine).2.store = _
    by_cases same : c = b
    · -- The cancelled build is terminal, and no call changes it.
      subst same
      exact (m.make_ended (by rw [stopped.phase]; rfl) t.engine).1
    · have stale := stopped.version_ne permitted about.2 same
      generalize ((m.make c).run.run t.engine).1 = result,
        ((m.make c).run.run t.engine).2.store = last at ends
      -- A stale copy is not even saved, or its save is refused.
      cases ends with
      | failed e => rfl
      | kept made => rfl
      | saved target made changed =>
        obtain ⟨reference, version⟩ := Move.becomes_same made
        obtain ⟨e, refused⟩ := stopped.refuses (reference.trans about.2) (version ▸ stale)
        exact save_refused refused

/-- A build that has been cancelled stays so, whatever happens around it. -/
theorem onward (stopped : Stopped b t) {config : EngineConfig} {u : Scene}
    (onward : Onward config b t u) : Stopped b u := by
  have sound := onward.next.sound stopped.sound
  -- Neither drafts nor the cluster have a part in the store.
  have store : u.engine.store = t.engine.store := by
    cases onward with
    | drafted asked => rfl
    | disturbed around => rfl
    | performed about permitted => exact stopped.store_after about permitted
  exact ⟨sound, store ▸ stopped.within, store ▸ stopped.stored, stopped.phase⟩

/-- An operation keeps the place of the worker idle, unless it may start one. -/
theorem idle_after (stopped : Stopped b t) {config : EngineConfig} {o : Operation}
    (about : o.About config b) (permitted : o.Permitted t.copies) (harmless : ¬o.MayStart)
    (idle : t.engine.cluster.Idle (place config.podNamePrefix b)) :
    (t.after o).engine.cluster.Idle (place config.podNamePrefix b) := by
  have removed : ∀ (c : Cluster) (p : Reference), c.Idle (place config.podNamePrefix b) →
      Idle (place config.podNamePrefix b) { c with pods := c.podsWithout p } :=
    fun _ p idle => idle.podsWithout p
  rw [engine_after]
  cases o with
  | schedule s now d =>
    -- A draft has no version, so that its save is refused and no pod is started for it.
    obtain ⟨e, refused⟩ := stopped.refuses about.2
      (by rw [Draft.Asked.version permitted]; exact stopped.version_ne_zero.symm)
    have same := pods_schedule_refused s now refused
    intro pod there
    exact idle pod (same ▸ there)
  | load p =>
    rw [Operation.perform, run_load]
    exact idle
  | move m c =>
    cases m with
    | reconcile s now =>
      change ((reconcile s now c).run.run t.engine).2.cluster.Idle _
      rw [cluster_reconcile]
      -- A copy that is neither scheduled nor pending needs no pod.
      exact keeps_stepWork (fun _ _ holds => holds) removed
        (fun needed => absurd needed harmless) s now _ idle
    | cancel s => exact keeps_cancel (fun _ _ holds => holds) removed s c idle

end Stopped

end Scene

/-- A reconciliation of a cancelled build deletes its worker, unless the call fails. -/
theorem idle_of_cleanUp {σ : Type} [BuildStore σ] (s : Settings) (now : Instant) {b : Build}
    {g : Engine σ} (pod : b.spec.strategy = .pod) (phase : b.phase = .cancelled)
    (calm : g.cluster.fault? = none) :
    ((reconcile s now b).run.run g).2.cluster.Idle (podPlace s b) := by
  -- The phase calls for the cleaning up, which deletes the pod.
  have idle := idle_podsWithout g.cluster (podPlace s b)
  have accepted : Action.cleanUp.accepts b.phase = true := by
    rw [phase]
    rfl
  rw [cluster_reconcile, stepWork, Action.next?_eq pod accepted]
  change ((cleanUp s b).run.run g.cluster).2.Idle _
  unfold cleanUp
  rw [run_bind, run_delete, calm]
  exact idle

/-- Once a build has been cancelled and its worker is gone, nothing more is saved of it, and there is a worker
again only after an earlier copy that was scheduled or pending has been carried on. -/
theorem worker_returns_by_stale_copy {site : Site} {t u : Scene} {config : EngineConfig} {b : Build}
    (reached : Relation.ReflTransGen Scene.Next (Scene.opening site) t)
    (within : (t.engine.store.savesOf b.reference.key).length < 2 ^ 64)
    (stored : t.engine.store.store.load b.reference = .ok b) (phase : b.phase = .cancelled)
    (idle : t.engine.cluster.Idle (place config.podNamePrefix b))
    (later : Relation.ReflTransGen (Scene.Onward config b) t u) :
    u.engine.store.store.load b.reference = .ok b ∧
    (∀ o : Operation, o.About config b → o.Permitted u.copies →
      (u.after o).engine.store = u.engine.store) ∧
    (∀ (s : Settings) (now : Instant), s.config = config → b.spec.strategy = .pod →
      u.engine.cluster.fault? = none →
        (u.after (.move (.reconcile s now) b)).engine.cluster.Idle
          (place config.podNamePrefix b)) ∧
    (u.engine.cluster.Idle (place config.podNamePrefix b) ∨
      ∃ (v : Scene) (s : Settings) (now : Instant) (c : Build),
        Relation.ReflTransGen (Scene.Onward config b) t v ∧
        v.engine.cluster.Idle (place config.podNamePrefix b) ∧
        s.config = config ∧ c ∈ v.copies ∧ c.reference = b.reference ∧
        (c.phase = .scheduling ∨ c.phase = .pending) ∧
        ¬(v.after (.move (.reconcile s now) c)).engine.cluster.Idle
          (place config.podNamePrefix b) ∧
        Relation.ReflTransGen (Scene.Onward config b) (v.after (.move (.reconcile s now) c)) u) := by
  -- The version of the cancelled build is the last one, so that no save is accepted any more.
  have start : t.Stopped b := ⟨Scene.sound_of_run reached, within, stored, phase⟩
  suffices Scene.Stopped b u ∧ _ from
    ⟨this.1.stored, fun o about permitted => this.1.store_after about permitted,
      fun s now configured pod calm => by
        rw [Scene.engine_after]
        exact configured ▸ idle_of_cleanUp s now pod phase calm, this.2⟩
  -- The last worker that came where there was none tells which copy was carried on.
  induction later with
  | refl => exact ⟨start, .inl idle⟩
  | @tail v w run onward ih =>
    obtain ⟨stopped, before⟩ := ih
    refine ⟨stopped.onward onward, ?_⟩
    rcases before with idle | ⟨x, s, now, c, first, quiet, same, handed, about, needed, busy, rest⟩
    · by_cases kept : w.engine.cluster.Idle (place config.podNamePrefix b)
      · exact .inl kept
      cases onward with
      | drafted asked => exact absurd idle kept
      | disturbed around => exact absurd (around.idle idle) kept
      | @performed o about permitted =>
        -- Without a start an idle place stays idle.
        by_cases starts : o.MayStart
        · obtain ⟨s, now, c, rfl, needed⟩ := starts.exists
          exact .inr ⟨v, s, now, c, run, idle, about.1, permitted, about.2, needed, kept, .refl⟩
        · exact absurd (stopped.idle_after about permitted starts idle) kept
    · exact .inr ⟨x, s, now, c, first, quiet, same, handed, about, needed, busy, rest.tail onward⟩

/-- The build of the draft once it has been saved and scheduled. -/
def scheduledBuild : Build := hastyDraft.build.nextVersion.prepared.nextVersion

/-- The build once its worker has been started. -/
def pendingBuild : Build := (scheduledBuild.launched .epoch).nextVersion

/-- The build once it has been cancelled. -/
def cancelledBuild : Build := (pendingBuild.withPhase .cancelled).nextVersion

/-- One client has scheduled the build and carried it on. -/
def pendingScene : Scene :=
  (Scene.after ⟨journaledEngine, [hastyDraft.build]⟩ (.schedule usualSettings .epoch hastyDraft)).after
    (.move (.reconcile usualSettings .epoch) scheduledBuild)

/-- Another client has cancelled the build. -/
def cancelledScene : Scene := pendingScene.after (.move (.cancel usualSettings) pendingBuild)

/-- The first client has carried on the copy that it still holds. -/
def staleScene : Scene := cancelledScene.after (.move (.reconcile usualSettings .epoch) pendingBuild)

/-- All this can happen. -/
theorem cancelledScene_reached :
    Relation.ReflTransGen Scene.Next (.opening journaledEngine.toSite) cancelledScene := by
  -- The scene is reached by drafting, scheduling, launching and cancelling.
  have asked : hastyDraft.Asked := .ofRequest (c := .standard) (q := hastyRequest) rfl
  have drafted : Scene.Next (.opening journaledEngine.toSite)
      ⟨journaledEngine, [hastyDraft.build]⟩ := .drafted _ _ asked
  have scheduled := Scene.next_after ⟨journaledEngine, [hastyDraft.build]⟩
    (o := .schedule usualSettings .epoch hastyDraft) asked
  have launched : Scene.Next _ pendingScene := Scene.next_after _ List.mem_cons_self
  have cancelled : Scene.Next pendingScene cancelledScene :=
    Scene.next_after _ List.mem_cons_self
  exact (((Relation.ReflTransGen.single drafted).tail scheduled).tail launched).tail cancelled

/-- No pod is left by the cancellation. -/
theorem cancelledScene_idle : cancelledScene.engine.cluster.Idle ⟨"ns", "podforge-app-builder"⟩ := by
  -- The pod has been deleted, and none lingers.
  have vacant : cancelledScene.engine.cluster.pods.get? ⟨"ns", "podforge-app-builder"⟩ = none := rfl
  intro pod there
  cases vacant.symm.trans there

/-- The worker of a cancelled build is there again after the first client has gone on, who is told nothing
about the cancellation. -/
theorem cancelled_worker_returns :
    Relation.ReflTransGen Scene.Next (.opening journaledEngine.toSite) cancelledScene ∧
    ((cancel usualSettings pendingBuild).run.run pendingScene.engine).1 = .ok cancelledBuild ∧
    cancelledScene.engine.store.store.load ⟨"ns", "app"⟩ = .ok cancelledBuild ∧
    cancelledBuild.phase = .cancelled ∧
    cancelledScene.engine.cluster.Idle ⟨"ns", "podforge-app-builder"⟩ ∧
    pendingBuild ∈ cancelledScene.copies ∧
    ((reconcile usualSettings .epoch pendingBuild).run.run cancelledScene.engine).1
      = .ok pendingBuild ∧
    ¬staleScene.engine.cluster.Idle ⟨"ns", "podforge-app-builder"⟩ := by
  -- The copy from before the cancellation is still in someone's hands.
  refine ⟨cancelledScene_reached, rfl, rfl, rfl, cancelledScene_idle,
    List.mem_cons_of_mem _ List.mem_cons_self, rfl, fun idle => ?_⟩
  cases idle _ rfl

/-- What was saved last is still that the build is cancelled, and the worker goes when that one is carried on. -/
theorem worker_returns_by_stale_copy_staleScene :
    staleScene.engine.store.store.load ⟨"ns", "app"⟩ = .ok cancelledBuild ∧
    (staleScene.after (.move (.reconcile usualSettings .epoch) cancelledBuild)).engine.cluster.Idle
      ⟨"ns", "podforge-app-builder"⟩ := by
  have stale : Scene.Onward EngineConfig.standard cancelledBuild cancelledScene staleScene :=
    .performed ⟨rfl, rfl⟩ (List.mem_cons_of_mem _ List.mem_cons_self)
  -- Four saves have been made, which is far from the last version there is.
  have four : (cancelledScene.engine.store.savesOf "ns/app").length = 4 := by decide
  obtain ⟨stored, _, cleaned, _⟩ := worker_returns_by_stale_copy (b := cancelledBuild)
    cancelledScene_reached (by rw [show cancelledBuild.reference.key = "ns/app" from rfl, four]; decide)
    rfl rfl cancelledScene_idle (.single stale)
  exact ⟨stored, cleaned usualSettings .epoch rfl rfl rfl⟩

end Engine

end ImageBuild
