import ImageBuild.Proofs.Store.Faithful
import Mathlib.Algebra.Group.Nat.Defs
import Mathlib.Data.List.Nodup

/-! A journal of what was saved in a store, and what it tells about the versions of builds in a memory. -/

namespace ImageBuild

/-- One successful save: the build in the store before, the build that was given, and the build that was
stored. -/
structure Save where
  before : Option Build
  given : Build
  stored : Build

/-- The version in the store just before a save. -/
def Save.versionBefore (e : Save) : UInt64 := (e.before.map Build.version).getD 0

/-- The version under which a save stored the build, as a number. -/
def Save.number (e : Save) : Nat := e.stored.version.toNat

/-- A store with its successful saves, the oldest first. -/
structure Journal (σ : Type) where
  store : σ
  saves : List Save

/-- Whatever the store does is done, and what it saves is noted. -/
instance {σ : Type} [BuildStore σ] : BuildStore (Journal σ) where
  load place j := BuildStore.load place j.store
  save b j :=
    let saved := BuildStore.save b j.store
    -- Only a save that succeeds is noted, with what was stored before it.
    let saves := match saved.result with
      | .ok r => j.saves ++ [⟨(BuildStore.load b.reference j.store).toOption, b, r⟩]
      | .error _ => j.saves
    ⟨saved.result, ⟨saved.store, saves⟩, saved.events⟩

namespace Journal

/-- The saves of a key. -/
def savesOf {σ : Type} (j : Journal σ) (key : String) : List Save :=
  j.saves.filter (fun e => e.stored.reference.key = key)

/-- A journal of a memory: what the memory holds is what was saved last, under versions that were never
skipped. -/
structure Sound (j : Journal Memory) : Prop where
  /-- Under every key stands what was saved there last. -/
  last : ∀ place, (j.store.load place).toOption = (j.savesOf place.key).getLast?.map Save.stored
  /-- Every save was made under the version in the store, and stored the next one. -/
  current : ∀ e ∈ j.saves, e.given.version = e.versionBefore ∧ e.stored = e.given.nextVersion
  /-- Saves of a key are counted by their versions, as long as these do not run out. -/
  numbered : ∀ key, (j.savesOf key).length < 2 ^ 64 →
    (j.savesOf key).map Save.number = List.range' 1 (j.savesOf key).length

/-- A build that has been saved is known from its save. -/
def Knows (j : Journal Memory) (b : Build) : Prop := b.version ≠ 0 → ∃ e ∈ j.saves, e.stored = b

/-- Nothing has been saved in an empty memory. -/
theorem sound_empty : Sound ⟨.empty, []⟩ where
  -- Nothing is stored, and nothing has been saved.
  last := fun _ => rfl
  current := by simp
  numbered := by simp [savesOf]

/-- What is known stays known when more is saved. -/
theorem Knows.mono {j k : Journal Memory} {b : Build} (known : j.Knows b)
    (grown : j.saves ⊆ k.saves) : k.Knows b := by
  -- The save that stored the build is still in the list.
  intro numbered
  obtain ⟨e, member, same⟩ := known numbered
  exact ⟨e, grown member, same⟩

/-- What is loaded has been saved. -/
theorem Sound.knows_loaded {j : Journal Memory} (sound : j.Sound) {place : Reference} {b : Build}
    (loaded : j.store.load place = .ok b) : j.Knows b ∧ b.reference.key = place.key := by
  -- What stands under the key was stored by the last save of it.
  have last := sound.last place
  rw [loaded] at last
  obtain ⟨e, final, same⟩ := Option.map_eq_some_iff.mp last.symm
  have member := List.mem_filter.mp (List.mem_of_getLast? final)
  subst same
  exact ⟨fun _ => ⟨e, member.1, rfl⟩, of_decide_eq_true member.2⟩

/-- A refused build leaves the memory and its journal as they are. -/
theorem save_refused {j : Journal Memory} {b : Build} {e : BuildError}
    (refused : (BuildStore.save b j).result = .error e) : (BuildStore.save b j).store = j := by
  -- Neither the memory nor the list of saves is changed by a refusal.
  have refused : (j.store.save b).result = .error e := refused
  obtain ⟨store, saves⟩ := j
  change Journal.mk (store.save b).store (match (store.save b).result with
    | .ok r => saves ++ [⟨(store.load b.reference).toOption, b, r⟩]
    | .error _ => saves) = _
  rw [refused, Memory.store_of_refused refused]

/-- The save of a build that the memory took. -/
def noted (j : Journal Memory) (b : Build) : Save :=
  ⟨(j.store.load b.reference).toOption, b, b.nextVersion⟩

/-- A build that the memory takes is stored under its next version, and its save is noted. -/
theorem save_ok {j : Journal Memory} {b r : Build} (saved : (BuildStore.save b j).result = .ok r) :
    r = b.nextVersion ∧ (j.noted b).versionBefore = b.version ∧
    (BuildStore.save b j).store = ⟨(j.store.save b).store, j.saves ++ [j.noted b]⟩ := by
  -- A save that succeeds agrees with the stored version, and is noted.
  have saved : (j.store.save b).result = .ok r := saved
  obtain ⟨current, rfl⟩ := Memory.of_saved saved
  refine ⟨rfl, current, ?_⟩
  change Journal.mk (j.store.save b).store (match (j.store.save b).result with
    | .ok r => j.saves ++ [⟨(j.store.load b.reference).toOption, b, r⟩]
    | .error _ => j.saves) = _
  rw [saved]
  rfl

/-- A save is the last one of its key, and no other key has one more. -/
theorem savesOf_noted (j : Journal Memory) (b : Build) (store : Memory) (key : String) :
    savesOf ⟨store, j.saves ++ [j.noted b]⟩ key =
      if key = b.reference.key then j.savesOf key ++ [j.noted b] else j.savesOf key := by
  -- The new save counts for its own key only.
  by_cases same : key = b.reference.key
  · simp [savesOf, noted, Build.nextVersion, same]
  · simp [savesOf, noted, Build.nextVersion, same, Ne.symm same]

/-- The version under a key is the number of its saves, as long as versions do not run out. -/
theorem Sound.toNat_version {j : Journal Memory} (sound : j.Sound) (place : Reference)
    (within : (j.savesOf place.key).length < 2 ^ 64) :
    (((j.store.load place).toOption.map Build.version).getD 0).toNat =
      (j.savesOf place.key).length := by
  -- The numbers run up to that of the last save, which is the version in the memory.
  have numbers := congrArg List.getLast? (sound.numbered place.key within)
  rw [List.getLast?_map, List.getLast?_range'] at numbers
  rw [sound.last]
  cases final : (j.savesOf place.key).getLast? with
  | none => simp [List.getLast?_eq_none_iff.mp final]
  | some e =>
    -- The number of the last save is that of all saves up to it.
    have nonempty : 0 < (j.savesOf place.key).length :=
      List.length_pos_of_mem (List.mem_of_getLast? final)
    rw [final, if_neg (by omega), Option.map_some, Option.some.injEq] at numbers
    change e.number = _
    omega

/-- A journal stays sound when one more save is noted in it. -/
theorem Sound.save {j : Journal Memory} {b r : Build} (sound : j.Sound)
    (saved : (BuildStore.save b j).result = .ok r) : (BuildStore.save b j).store.Sound := by
  obtain ⟨rfl, current, store⟩ := save_ok saved
  have loads := Memory.load_of_saved (b := b) (m := j.store) saved
  rw [store]
  -- The saves of its key grow by one, and those of other keys stay.
  have own := fun key (same : key = b.reference.key) =>
    (savesOf_noted j b (j.store.save b).store key).trans (if_pos same)
  have other := fun key (different : key ≠ b.reference.key) =>
    (savesOf_noted j b (j.store.save b).store key).trans (if_neg different)
  refine ⟨?_, ?_, ?_⟩
  · intro place
    -- Only under its own key the memory has another build than before.
    by_cases same : place.key = b.reference.key
    · rw [own _ same, loads, if_pos same]
      simp [noted, Except.toOption]
    · rw [other _ same, loads, if_neg same, sound.last]
  · intro e member
    rcases List.mem_append.mp member with before | new
    · exact sound.current e before
    · rw [List.mem_singleton.mp new]
      exact ⟨current.symm, rfl⟩
  · intro key within
    by_cases same : key = b.reference.key
    · rw [own _ same] at within ⊢
      rw [List.length_append, List.length_singleton] at within ⊢
      -- If versions last for one more save, they lasted for those before it.
      have before : (j.savesOf key).length < 2 ^ 64 := by omega
      -- The new save raises the version, which was the number of the saves before.
      have version : b.version.toNat = (j.savesOf key).length := by
        rw [← current, same]
        exact sound.toNat_version b.reference (same ▸ before)
      have number : (j.noted b).number = 1 + (j.savesOf key).length := by
        change (b.version + 1).toNat = _
        rw [UInt64.toNat_add, version, Nat.mod_eq_of_lt (by simpa using within)]
        simp [Nat.add_comm]
      rw [List.map_append, sound.numbered key before, List.range'_concat]
      simp [number]
    · rw [other _ same] at within ⊢
      exact sound.numbered key within

/-- A build that the memory took is known from then on. -/
theorem knows_saved {j : Journal Memory} {b r : Build}
    (saved : (BuildStore.save b j).result = .ok r) : (BuildStore.save b j).store.Knows r := by
  -- The last save is the one that stored the build.
  obtain ⟨rfl, _, store⟩ := save_ok saved
  rw [store]
  exact fun _ => ⟨j.noted b, by simp, rfl⟩

/-- Known builds of one key and one version are one build, as long as versions do not run out. -/
theorem Sound.eq_of_version {j : Journal Memory} (sound : j.Sound) {b c : Build}
    (within : (j.savesOf b.reference.key).length < 2 ^ 64) (knowsLeft : j.Knows b)
    (knowsRight : j.Knows c) (key : c.reference.key = b.reference.key)
    (version : c.version = b.version) (saved : b.version ≠ 0) : b = c := by
  obtain ⟨e, memberLeft, rfl⟩ := knowsLeft saved
  obtain ⟨f, memberRight, rfl⟩ := knowsRight (version ▸ saved)
  -- No two saves of the key have one number, so that both builds are from one save.
  have distinct : ((j.savesOf e.stored.reference.key).map Save.number).Nodup := by
    rw [sound.numbered _ within]
    exact List.nodup_range'
  have left : e ∈ j.savesOf e.stored.reference.key := List.mem_filter.mpr ⟨memberLeft, by simp⟩
  have right : f ∈ j.savesOf e.stored.reference.key :=
    List.mem_filter.mpr ⟨memberRight, by simp [key]⟩
  have number : e.number = f.number := congrArg UInt64.toNat version.symm
  rw [List.inj_on_of_nodup_map distinct left right number]

/-- Saves of what became of a build: each is made under the version of the build that the one before it
stored, as the version in the store. -/
inductive Follows : Option Build → List Save → Prop
  | nothing {source : Option Build} : Follows source []
  | save {b : Build} {e : Save} {rest : List Save} (reference : e.given.reference = b.reference)
      (version : e.given.version = b.version) (current : e.versionBefore = b.version)
      (later : Follows (some e.stored) rest) : Follows (some b) (e :: rest)

/-- A journal grows by saves of what became of a build, under no more than one key. -/
structure Grows (source : Option Build) (key : String) (j k : Journal Memory) : Prop where
  /-- The saves follow from the build, and without them nothing changes. -/
  saves : ∃ es, k.saves = j.saves ++ es ∧ Follows source es ∧ (es = [] → k = j)
  /-- What is stored under another key stays. -/
  others : ∀ place, place.key ≠ key → k.store.load place = j.store.load place

/-- A journal may stay as it is. -/
theorem Grows.refl (source : Option Build) (key : String) (j : Journal Memory) :
    Grows source key j j :=
  ⟨⟨[], by simp, .nothing, fun _ => rfl⟩, fun _ _ => rfl⟩

/-- A journal grows by a save, and then by saves that follow from what was stored. -/
theorem Grows.of_saved {j k : Journal Memory} {b target r : Build}
    (reference : target.reference = b.reference) (version : target.version = b.version)
    (saved : (BuildStore.save target j).result = .ok r)
    (later : Grows (some r) b.reference.key (BuildStore.save target j).store k) :
    Grows (some b) b.reference.key j k := by
  obtain ⟨rfl, current, store⟩ := save_ok saved
  have loads := Memory.load_of_saved (b := target) (m := j.store) saved
  -- The save comes first, and those that follow from it come after it.
  obtain ⟨⟨es, grown, follows, _⟩, others⟩ := later
  rw [store] at grown others
  -- The save is added in front, for the same key, so that other places stay as they were.
  refine ⟨⟨j.noted target :: es, ?_, ?_, ?_⟩, ?_⟩
  · simp [grown]
  · exact .save reference version (current.trans version) follows
  · simp
  · intro place other
    rw [others place other]
    change (j.store.save target).store.load place = _
    rw [loads, if_neg (reference ▸ other)]

end Journal

end ImageBuild
