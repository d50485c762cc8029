import ImageBuild.Proofs.Engine.Journaled
import ImageBuild.Proofs.Engine.Recovery
import Mathlib.Logic.Relation

/-! Any number of clients share one engine, and none of them overwrites what it has not seen: the saves of a
build are made one after another, each from the version that the one before it stored. -/

namespace ImageBuild

open Worker

/-- A draft of a new build, as it can be asked for. -/
inductive Draft.Asked : Draft → Prop
  | ofRequest {c : EngineConfig} {q : BuildRequest} {d : Draft}
      (made : Draft.ofRequest c q = .ok d) : Asked d
  | addFile {d : Draft} (asked : Asked d) (file : ContextFile) : Asked (d.addFile file)
  | withCache {d : Draft} (asked : Asked d) (cache : LayerCache) : Asked (d.withCache cache)
  | withResources {d : Draft} (asked : Asked d) (resources : ResourceRequirements) :
      Asked (d.withResources resources)
  | withFlags {d : Draft} (asked : Asked d) (flags : List String) : Asked (d.withFlags flags)

/-- The build of a draft has never been saved, and has not begun. -/
theorem Draft.Asked.unbegun {d : Draft} (asked : d.Asked) : d.build.version = 0 ∧ d.build.phase = .new := by
  -- All that can be set in a draft lies in its task, its files and its limit of time.
  induction asked with
  | @ofRequest c q d made =>
    unfold Draft.ofRequest at made
    split at made
    · cases made
    · rename_i b answered
      cases made
      obtain ⟨task, rfl⟩ := BuildRequest.build_ok answered
      exact ⟨rfl, rfl⟩
  | addFile _ _ ih => exact ih
  | withCache _ _ ih => exact ih
  | withResources _ _ ih => exact ih
  | withFlags _ _ ih => exact ih

/-- The build of a draft has no version yet. -/
theorem Draft.Asked.version {d : Draft} (asked : d.Asked) : d.build.version = 0 := asked.unbegun.1

namespace Engine

variable {σ : Type}

/-- What a client may ask of an engine. -/
inductive Operation
  | schedule (s : Settings) (now : Instant) (d : Draft)
  | load (place : Reference)
  | move (m : Move) (b : Build)

namespace Operation

/-- The operation on an engine. -/
def perform [BuildStore σ] : Operation → EngineM σ Build
  | schedule s now d => Engine.schedule s now d
  | load place => Engine.load place
  | move m b => m.make b

/-- The build that the client passes. -/
def source : Operation → Option Build
  | schedule _ _ d => some d.build
  | load _ => none
  | move _ b => some b

/-- The key of the build that the operation is about. -/
def key : Operation → String
  | schedule _ _ d => d.build.reference.key
  | load place => place.key
  | move _ b => b.reference.key

/-- Clients pass drafts as they were made, and builds as they were handed out. -/
def Permitted (copies : List Build) : Operation → Prop
  | schedule _ _ d => d.Asked
  | load _ => True
  | move _ b => b ∈ copies

/-- An operation does the same with a journal and without it. -/
theorem mirrors [BuildStore σ] (o : Operation) : Mirrors (σ := σ) o.perform o.perform := by
  -- Each operation is the same program over the journal as over the store alone.
  cases o with
  | schedule s now d => exact mirrors_schedule s now d
  | load place => exact mirrors_load place
  | move m b => exact m.mirrors b

end Operation

/-- An engine with the builds that it has handed out so far. -/
structure Scene where
  engine : Engine (Journal Memory)
  copies : List Build

/-- What may happen next. -/
inductive Scene.Next : Scene → Scene → Prop
  /-- A client looks at the build of a draft. -/
  | drafted (g : Engine (Journal Memory)) (copies : List Build) {d : Draft} (asked : d.Asked) :
      Next ⟨g, copies⟩ ⟨g, d.build :: copies⟩
  /-- The cluster changes in some way, or is about to fail. -/
  | disturbed (g : Engine (Journal Memory)) (copies : List Build) (cluster : Cluster) :
      Next ⟨g, copies⟩ ⟨{ g with cluster := cluster }, copies⟩
  /-- An operation succeeds, and hands out a build. -/
  | answered {o : Operation} {g h : Engine (Journal Memory)} {copies : List Build} {b : Build}
      (permitted : o.Permitted copies) (ran : o.perform.run.run g = (.ok b, h)) :
      Next ⟨g, copies⟩ ⟨h, b :: copies⟩
  /-- An operation fails. -/
  | refused {o : Operation} {g h : Engine (Journal Memory)} {copies : List Build} {e : BuildError}
      (permitted : o.Permitted copies) (ran : o.perform.run.run g = (.error e, h)) :
      Next ⟨g, copies⟩ ⟨h, copies⟩

/-- An engine with an empty store, and no builds handed out. -/
def Scene.opening (site : Site) : Scene := ⟨⟨site, ⟨.empty, []⟩⟩, []⟩

/-- What a call makes of a build keeps its place and its version. -/
theorem Move.becomes_same {m : Move} {b target : Build} (made : m.Becomes b target) :
    target.reference = b.reference ∧ target.version = b.version := by
  -- Place and version are no part of the status.
  rw [Move.only_status made]
  exact ⟨rfl, rfl⟩

open Journal

/-- A call that fails leaves memory and journal as they are. -/
theorem Ends.refused {Becomes : Build → Prop} {b : Build} {j k : Journal Memory} {e : BuildError}
    (ends : Ends Becomes b j (.error e) k) : k = j := by
  generalize result : (Except.error e : Except BuildError Build) = outcome at ends
  -- Either nothing was to be saved, or the journal refused what was.
  cases ends with
  | failed e => rfl
  | kept made => rfl
  | saved target made changed => exact save_refused result.symm

/-- The journal grows by what became of the build that is passed in a call. -/
theorem Ends.grows {Becomes : Build → Prop} {b : Build} {j k : Journal Memory}
    {result : Except BuildError Build} (ends : Ends Becomes b j result k)
    (same : ∀ target, Becomes target →
      target.reference = b.reference ∧ target.version = b.version) :
    Grows (some b) b.reference.key j k := by
  cases ends with
  | failed e => exact .refl _ _ _
  | kept made => exact .refl _ _ _
  | saved target made changed =>
    -- What is saved stands under the key and the version of the build that was passed.
    obtain ⟨reference, version⟩ := same target made
    cases saved : (BuildStore.save target j).result with
    | error e =>
      rw [save_refused saved]
      exact .refl _ _ _
    | ok r => exact .of_saved reference version saved (.refl _ _ _)

/-- A call keeps the journal sound, and what it hands out is known from then on. -/
theorem Ends.sound {Becomes : Build → Prop} {b : Build} {j k : Journal Memory}
    {result : Except BuildError Build} (ends : Ends Becomes b j result k) (sound : j.Sound)
    (known : j.Knows b) : k.Sound ∧ ∀ r, result = .ok r → k.Knows r := by
  cases ends with
  | failed e => exact ⟨sound, fun r handed => by cases handed⟩
  -- The build that was passed is handed out once more.
  | kept made => exact ⟨sound, fun r handed => Except.ok.inj handed ▸ known⟩
  | saved target made changed =>
    cases saved : (BuildStore.save target j).result with
    | error e =>
      rw [save_refused saved]
      exact ⟨sound, fun r handed => by cases handed⟩
    | ok r =>
      refine ⟨sound.save saved, fun handed returned => ?_⟩
      rw [← Except.ok.inj returned]
      exact knows_saved saved

/-- The journal grows by a new build, and by what became of it. -/
theorem Scheduled.grows {s : Settings} {now : Instant} {b : Build} {j k : Journal Memory}
    {result : Except BuildError Build} (scheduled : Scheduled s now b j result k) :
    Grows (some b) b.reference.key j k := by
  cases scheduled with
  | unready e => exact .refl _ _ _
  | refused e refused =>
    rw [save_refused refused]
    exact .refl _ _ _
  | carried saved ends =>
    -- Saving changes the version, so that the later save is still one under the same key.
    have later := ends.grows (fun target made => Move.becomes_same (m := .reconcile s now) made)
    obtain ⟨rfl, _, _⟩ := save_ok saved
    exact .of_saved rfl rfl saved later

/-- A schedule keeps the journal sound, and what it hands out is known from then on. -/
theorem Scheduled.sound {s : Settings} {now : Instant} {b : Build} {j k : Journal Memory}
    {result : Except BuildError Build} (scheduled : Scheduled s now b j result k)
    (sound : j.Sound) : k.Sound ∧ ∀ r, result = .ok r → k.Knows r := by
  cases scheduled with
  | unready e => exact ⟨sound, fun r handed => by cases handed⟩
  | refused e refused =>
    rw [save_refused refused]
    exact ⟨sound, fun r handed => by cases handed⟩
  -- The step starts from the build that has just been saved.
  | carried saved ends => exact ends.sound (sound.save saved) (knows_saved saved)

/-- The first save of a schedule has been made, and nothing else. -/
def Operation.FirstSaved (o : Operation) (j k : Journal Memory) : Prop :=
  ∃ s now d b, o = .schedule s now d ∧ (BuildStore.save d.build j).result = .ok b ∧
    b.version = 1 ∧ k = (BuildStore.save d.build j).store ∧
    BuildStore.load d.build.reference k = .ok b

/-- A schedule that fails has saved nothing, or the new build only. -/
theorem Scheduled.refused_or_firstSaved {s : Settings} {now : Instant} {d : Draft}
    {j k : Journal Memory} {e : BuildError} (scheduled : Scheduled s now d.build j (.error e) k)
    (asked : d.Asked) : k = j ∨ (Operation.schedule s now d).FirstSaved j k := by
  generalize result : (Except.error e : Except BuildError Build) = outcome at scheduled
  cases scheduled with
  | unready e => exact .inl rfl
  | refused e refused => exact .inl (save_refused refused)
  | @carried r _ _ saved ends =>
    subst result
    -- The step failed, so that the store is as the first save left it.
    have kept := ends.refused
    obtain ⟨next, _, store⟩ := save_ok saved
    -- A draft has no version yet, so that its first save gives it the version 1.
    have version : r.version = 1 := by
      rw [next, Build.nextVersion, asked.version]
      rfl
    have loaded : BuildStore.load d.build.reference (BuildStore.save d.build j).store = .ok r := by
      rw [store]
      change (j.store.save d.build).store.load d.build.reference = _
      rw [Memory.load_of_saved (b := d.build) (m := j.store) saved, if_pos rfl]
    exact .inr ⟨s, now, d, r, rfl, saved, version, kept, kept ▸ loaded⟩

namespace Operation

/-- The journal grows by what became of the build that is passed in an operation. -/
theorem grows (o : Operation) (g : Engine (Journal Memory)) :
    Grows o.source o.key g.store (o.perform.run.run g).2.store := by
  -- Loading writes nothing, and the other two write as their ends say.
  cases o with
  | schedule s now d => exact (schedule_ends s now d g).grows
  | load place =>
    rw [perform, run_load]
    exact .refl _ _ _
  | move m b => exact (m.ends b g).grows (fun target made => m.becomes_same made)

/-- An operation keeps the journal sound, and what it hands out is known from then on. -/
theorem sound (o : Operation) (g : Engine (Journal Memory)) {copies : List Build}
    (permitted : o.Permitted copies) (before : g.store.Sound)
    (known : ∀ b ∈ copies, g.store.Knows b) :
    (o.perform.run.run g).2.store.Sound ∧
      ∀ r, (o.perform.run.run g).1 = .ok r → (o.perform.run.run g).2.store.Knows r := by
  -- A draft was never saved, and any other build is one that the journal knows.
  cases o with
  | schedule s now d => exact (schedule_ends s now d g).sound before
  | load place =>
    rw [perform, run_load]
    exact ⟨before, fun r loaded => (before.knows_loaded loaded).1⟩
  | move m b => exact (m.ends b g).sound before (known b permitted)

/-- An operation that fails changes nothing in the store, except that a schedule keeps its first save. -/
theorem refused (o : Operation) (g : Engine (Journal Memory)) {copies : List Build}
    (permitted : o.Permitted copies) {e : BuildError} (failed : (o.perform.run.run g).1 = .error e) :
    (o.perform.run.run g).2.store = g.store ∨
      o.FirstSaved g.store (o.perform.run.run g).2.store := by
  cases o with
  | schedule s now d =>
    have scheduled := schedule_ends s now d g
    change ((Engine.schedule s now d).run.run g).1 = .error e at failed
    rw [failed] at scheduled
    exact scheduled.refused_or_firstSaved permitted
  | load place =>
    rw [perform, run_load]
    exact .inl rfl
  | move m b =>
    -- A move saves once, so that its failure leaves the journal as it was.
    have ends := m.ends b g
    change ((m.make b).run.run g).1 = .error e at failed
    rw [failed] at ends
    exact .inl ends.refused

end Operation

/-- The journal of a scene is sound, and all builds that were handed out are known from it. -/
structure Scene.Sound (t : Scene) : Prop where
  journal : t.engine.store.Sound
  known : ∀ b ∈ t.copies, t.engine.store.Knows b

/-- Whatever happens next, the journal stays sound and the builds in hand are known. -/
theorem Scene.Next.sound {t u : Scene} (next : Next t u) (before : t.Sound) : u.Sound := by
  -- No operation takes anything back from the journal.
  have grown : ∀ (o : Operation) (g : Engine (Journal Memory)),
      g.store.saves ⊆ (o.perform.run.run g).2.store.saves := by
    intro o g
    obtain ⟨es, grown, _⟩ := (o.grows g).saves
    rw [grown]
    exact List.subset_append_left _ _
  cases next with
  | @drafted g copies d asked =>
    refine ⟨before.journal, fun b member => ?_⟩
    rcases List.mem_cons.mp member with same | older
    · -- The build of a draft was never saved.
      exact fun saved => absurd (same ▸ asked.version) saved
    · exact before.known b older
  | disturbed g copies cluster => exact ⟨before.journal, before.known⟩
  | @answered o g h copies b permitted ran =>
    -- What an operation hands out the journal knows, and what was handed out before it still knows.
    obtain ⟨journal, handed⟩ := o.sound g permitted before.journal before.known
    have grown := grown o g
    rw [ran] at journal handed grown
    refine ⟨journal, fun c member => ?_⟩
    rcases List.mem_cons.mp member with same | older
    · exact same ▸ handed b rfl
    · exact (before.known c older).mono grown
  | @refused o g h copies e permitted ran =>
    obtain ⟨journal, _⟩ := o.sound g permitted before.journal before.known
    have grown := grown o g
    rw [ran] at journal grown
    exact ⟨journal, fun c older => (before.known c older).mono grown⟩

/-- However clients and cluster take turns, the journal is sound and all builds in hand are known. -/
theorem Scene.sound_of_run {site : Site} {t : Scene}
    (run : Relation.ReflTransGen Next (opening site) t) : t.Sound := by
  -- At first nothing is saved and nothing is in hand.
  induction run with
  | refl => exact ⟨sound_empty, by simp [opening]⟩
  | tail _ next ih => exact next.sound ih

/-- However many clients take turns with whatever copies, the saves of a build are made one after another,
its version tells what it is, and an operation that fails leaves the store alone. -/
theorem saves_are_serial {site : Site} {t : Scene}
    (reached : Relation.ReflTransGen Scene.Next (Scene.opening site) t) :
    (∀ place, (t.engine.store.store.load place).toOption =
      (t.engine.store.savesOf place.key).getLast?.map Save.stored) ∧
    (∀ key, (t.engine.store.savesOf key).length < 2 ^ 64 →
      (t.engine.store.savesOf key).map Save.number =
        List.range' 1 (t.engine.store.savesOf key).length ∧
      (∀ e ∈ t.engine.store.savesOf key, e.given.version = e.versionBefore) ∧
      ∀ b ∈ t.copies, ∀ c ∈ t.copies, b.reference.key = key → c.reference.key = key →
        c.version = b.version → 1 ≤ b.version → c = b) ∧
    (∀ (o : Operation) (result : Except BuildError Build) (h : Engine (Journal Memory)),
      o.Permitted t.copies → o.perform.run.run t.engine = (result, h) →
        o.perform.run.run t.engine.forget = (result, h.forget) ∧
        Grows o.source o.key t.engine.store h.store ∧
        ∀ e, result = .error e →
          h.store = t.engine.store ∨ o.FirstSaved t.engine.store h.store) := by
  obtain ⟨journal, known⟩ := Scene.sound_of_run reached
  refine ⟨journal.last, ?_, ?_⟩
  · intro key within
    refine ⟨journal.numbered key within, ?_, ?_⟩
    · intro e member
      exact (journal.current e (List.mem_filter.mp member).1).1
    · -- Both copies are known from a save, and one number belongs to one save.
      rintro b handed c handedToo rfl same version saved
      have saved : b.version ≠ 0 := by
        rintro unsaved
        rw [unsaved] at saved
        exact absurd saved (by decide)
      exact (journal.eq_of_version within (known b handed) (known c handedToo) same version
        saved).symm
  · intro o result h permitted ran
    -- Each of these holds of the run of the operation, whatever its outcome.
    have mirrored := o.mirrors t.engine
    have grows := o.grows t.engine
    have refused := fun e => o.refused t.engine permitted (e := e)
    rw [ran] at mirrored grows refused
    exact ⟨mirrored, grows, refused⟩

/-- The draft of a build without files. -/
def hastyDraft : Draft := ⟨hastyRequest.kanikoBuild, []⟩

/-- An engine to which nothing has happened, and whose store keeps a journal. -/
def journaledEngine : Engine (Journal Memory) := ⟨⟨.empty .epoch, []⟩, ⟨.empty, []⟩⟩

/-- The engine after the draft was scheduled. -/
def scheduledEngine : Engine (Journal Memory) :=
  ((schedule usualSettings .epoch hastyDraft).run.run journaledEngine).2

/-- A schedule saves two versions, and a cancellation of the draft is refused after it. -/
theorem saves_are_serial_hastyDraft :
    (scheduledEngine.store.savesOf "ns/app").map Save.number = [1, 2] ∧
    ((cancel usualSettings hastyDraft.build).run.run scheduledEngine).2.store =
      scheduledEngine.store := by
  have asked : hastyDraft.Asked := .ofRequest (c := .standard) (q := hastyRequest) rfl
  have drafted : Scene.Next (.opening journaledEngine.toSite)
      ⟨journaledEngine, [hastyDraft.build]⟩ := .drafted _ _ asked
  have scheduled : Scene.Next ⟨journaledEngine, [hastyDraft.build]⟩
      ⟨scheduledEngine, [(hastyDraft.build.nextVersion.prepared).nextVersion, hastyDraft.build]⟩ :=
    .answered (o := .schedule usualSettings .epoch hastyDraft) asked (Prod.ext rfl rfl)
  obtain ⟨_, numbered, kept⟩ := saves_are_serial (.tail (.single drafted) scheduled)
  -- The build was saved as it was drafted, and again as it was prepared.
  have two : (scheduledEngine.store.savesOf "ns/app").length = 2 := by decide
  refine ⟨?_, ?_⟩
  · have numbers := (numbered "ns/app" (by rw [two]; decide)).1
    rw [two] at numbers
    exact numbers
  · obtain ⟨_, _, refused⟩ := kept (.move (.cancel usualSettings) hastyDraft.build)
      (.error (.conflict "ns/app" 2 0)) _ (by simp [Operation.Permitted]) (Prod.ext rfl rfl)
    -- Only a schedule could have kept a first save.
    rcases refused _ rfl with same | ⟨_, _, _, _, schedule, _⟩
    · exact same
    · cases schedule

end Engine

end ImageBuild
