import ImageBuild.Proofs.Context.Replaced
import ImageBuild.Proofs.Engine.Cancelled
import ImageBuild.Proofs.Store.Steady

/-! Schedules that end before their build has been saved: what they have done by then. -/

namespace ImageBuild.Engine

open Cluster Kubernetes Run Work Worker

variable {σ : Type} [BuildStore σ] {s : Settings} {d : Draft} {g h : Engine σ} {now : Instant}
  {result : Except BuildError Build}

/-- Keeps the files of a draft. -/
def keepFiles (s : Settings) (d : Draft) : Work Unit :=
  Context.replace s.config.podNamePrefix d.build d.files

/-- The place of the context of a draft. -/
def contextPlace (s : Settings) (d : Draft) : Reference :=
  Context.place s.config.podNamePrefix d.build

/-- Whether a schedule ends before its build has been saved: the files of the draft are not kept, or the store
does not take the build. -/
def Unsaved (s : Settings) (d : Draft) (g : Engine σ) : Prop :=
  ∀ b, (((keepFiles s d).run.run g.cluster).1 >>= fun _ => (BuildStore.save d.build g.store).result) ≠
    .ok b

/-- A schedule that does not save its build fails as its files do or else as its save does, and leaves behind what
these leave. -/
theorem Unsaved.ended (unsaved : Unsaved s d g)
    (ran : (schedule s now d).run.run g = (result, h)) :
    (∃ e, result = .error e) ∧
    result = (((keepFiles s d).run.run g.cluster).1 >>= fun _ =>
      (BuildStore.save d.build g.store).result) ∧
    h.cluster = ((keepFiles s d).run.run g.cluster).2 ∧
    (h.store = g.store ∨ (∃ e, (BuildStore.save d.build g.store).result = .error e) ∧
      h.store = (BuildStore.save d.build g.store).store) := by
  unfold Unsaved at unsaved
  unfold schedule at ran
  rw [run_bind, run_atSite, Site.run_work, ← keepFiles] at ran
  rcases tried : (keepFiles s d).run.run g.cluster with ⟨kept, c⟩
  rw [tried] at ran unsaved
  cases kept with
  | error e =>
    obtain ⟨rfl, rfl⟩ := Prod.mk.inj ran
    exact ⟨⟨e, rfl⟩, rfl, rfl, .inl rfl⟩
  | ok done =>
    -- The store is asked only now that the files are kept.
    simp only at ran
    rw [run_bind, run_persist] at ran
    simp only at ran
    cases saved : (BuildStore.save d.build g.store).result with
    | error e =>
      rw [saved] at ran
      obtain ⟨rfl, rfl⟩ := Prod.mk.inj ran
      exact ⟨⟨e, rfl⟩, rfl, rfl, .inr ⟨⟨e, rfl⟩, rfl⟩⟩
    | ok r =>
      -- A save that succeeds is excluded.
      rw [saved] at unsaved
      exact absurd rfl (unsaved r)

/-- A schedule that ends before its build has been saved leaves alone all builds in the store, and all objects but
the context of the build. That stays as it was, or is gone, or holds the files of the draft, and the last is so
whenever it was the store that did not take the build. -/
theorem unsaved_schedule_disturbs_context_only [SteadyStore σ] (unsaved : Unsaved s d g)
    (sound : SteadyStore.Sound g.store) (admits : SteadyStore.Admits g.store d.build.reference)
    (ran : (schedule s now d).run.run g = (result, h)) :
    (∃ e, result = .error e) ∧
    (∀ p, SteadyStore.Admits g.store p → BuildStore.load p h.store = BuildStore.load p g.store) ∧
    (∃ made, Footprint made g.cluster h.cluster ∧ ∀ call ∈ made,
      call = .deleteConfigMap (contextPlace s d) ∨ call = .createConfigMap (contextPlace s d)) ∧
    h.cluster.pods = g.cluster.pods ∧
    (∀ p, p ≠ contextPlace s d → h.cluster.configMaps.get? p = g.cluster.configMaps.get? p) ∧
    ((d.files = [] ∨ ∃ e, Context.Contents.ofFiles d.files = .error e) → h.cluster = g.cluster) ∧
    ∃ kept, Context.Replaced s.config.podNamePrefix d.build d.files
        (g.cluster.configMaps.get? (contextPlace s d)) kept
        (h.cluster.configMaps.get? (contextPlace s d)) ∧
      result = (kept >>= fun _ => (BuildStore.save d.build g.store).result) := by
  obtain ⟨failed, same, cluster, store⟩ := unsaved.ended ran
  obtain ⟨made, own, footprint⟩ :=
    Context.replace_calls s.config.podNamePrefix d.build d.files g.cluster
  rw [← keepFiles, ← cluster] at footprint
  -- What is left is read off the calls of keeping the files, which are all that was done.
  refine ⟨failed, ?_, ⟨made, footprint, own⟩, ?_, ?_, ?_, ?_⟩
  · intro p admitted
    rcases store with kept | ⟨⟨e, refused⟩, kept⟩
    · rw [kept]
    · rw [kept]
      exact SteadyStore.load_of_refused sound admits refused p admitted
  · rw [cluster]
    exact Context.pods_replace _ _ _ _
  · intro p other
    refine footprint.configMaps p (fun member => ?_) (fun member => ?_)
    · rcases own _ member with call | call
      · cases call
      · exact other (Call.createConfigMap.inj call)
    · rcases own _ member with call | call
      · exact other (Call.deleteConfigMap.inj call)
      · cases call
  · rw [cluster, keepFiles]
    -- Either there is nothing to keep, or the files are refused before any call.
    rintro (nothing | ⟨e, refused⟩)
    · rw [nothing]
      rfl
    · rw [Context.run_replace_refused refused]
  · refine ⟨((keepFiles s d).run.run g.cluster).1, ?_, same⟩
    rw [cluster]
    exact Context.replace_cases _ _ _ _

/-- A draft of one build, with a file of some bytes. -/
def draftWith (content : Bytes) : Draft := ⟨hastyRequest.kanikoBuild, [⟨"Dockerfile", content⟩]⟩

/-- The engine after the build was scheduled with a first file. -/
def storedEngine : Engine Memory :=
  ((schedule usualSettings .epoch (draftWith [102, 49])).run.run freshEngine).2

/-- The engine after the build was scheduled again with another file, in vain. -/
def refusedEngine : Engine Memory :=
  ((schedule usualSettings .epoch (draftWith [102, 50])).run.run storedEngine).2

/-- The file that is kept for the build. -/
def keptFile? (g : Engine Memory) : Option String :=
  (g.cluster.configMaps.get? (contextPlace usualSettings (draftWith []))).bind fun map =>
    map.data.bind fun data => data.get? "Dockerfile"

/-- The second schedule saves nothing. -/
theorem storedEngine_unsaved :
    Unsaved usualSettings (draftWith [102, 50]) storedEngine := by
  intro b saved
  -- The stored build has gone on to version 2 where the draft knows of none.
  have refused : Except.error (BuildError.conflict "ns/app" 2 0) = Except.ok b := saved
  cases refused

/-- The second schedule is refused for its conflict with the stored build, and the pods are as they were. -/
theorem unsaved_schedule_disturbs_context_only_conflict :
    (∃ e, ((schedule usualSettings .epoch (draftWith [102, 50])).run.run storedEngine).1 = .error e) ∧
    refusedEngine.store.load ⟨"ns", "app"⟩ = storedEngine.store.load ⟨"ns", "app"⟩ ∧
    refusedEngine.cluster.pods = storedEngine.cluster.pods := by
  have ran : (schedule usualSettings .epoch (draftWith [102, 50])).run.run storedEngine =
      (((schedule usualSettings .epoch (draftWith [102, 50])).run.run storedEngine).1, refusedEngine) :=
    rfl
  -- The store in memory is sound as it is, and admits every place.
  obtain ⟨failed, loads, -, pods, -⟩ :=
    unsaved_schedule_disturbs_context_only storedEngine_unsaved trivial trivial ran
  exact ⟨failed, loads ⟨"ns", "app"⟩ trivial, pods⟩

/-- A schedule that is refused because the build is stored already has replaced the files that its worker is going
to be given. -/
theorem conflict_replaces_context :
    ((schedule usualSettings .epoch (draftWith [102, 50])).run.run storedEngine).1 =
      .error (.conflict "ns/app" 2 0) ∧
    storedEngine.store.load ⟨"ns", "app"⟩ = refusedEngine.store.load ⟨"ns", "app"⟩ ∧
    keptFile? storedEngine = some "f1" ∧ keptFile? refusedEngine = some "f2" :=
  ⟨rfl, rfl, rfl, rfl⟩

end ImageBuild.Engine
