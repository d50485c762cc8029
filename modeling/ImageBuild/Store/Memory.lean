import ImageBuild.Dict.Laws
import ImageBuild.Store.Basic

/-! A store that forgets. -/

namespace ImageBuild

/-- Builds by key. -/
structure Memory where
  builds : Dict String Build

namespace Memory

/-- A store without builds. -/
def empty : Memory := ⟨.empty⟩

/-- The build of a key. -/
def load (place : Reference) (m : Memory) : Except BuildError Build :=
  match m.builds.get? place.key with
  | some b => .ok b
  | none => .error (.notFound place.key)

/-- Saves a build in place of its last version. -/
def save (b : Build) (m : Memory) : Saved Memory :=
  match b.conflict? (m.builds.get? b.reference.key) with
  -- A refused build leaves the store as it is.
  | some e => ⟨.error e, m, []⟩
  | none => ⟨.ok b.nextVersion, ⟨m.builds.insert b.reference.key b.nextVersion⟩, []⟩

/-- A refused build leaves the store as it is. -/
theorem store_of_refused {b : Build} {m : Memory} {e : BuildError}
    (refused : (m.save b).result = .error e) : (m.save b).store = m := by
  -- The map is changed only together with an answer that is no failure.
  unfold save at refused ⊢
  split
  · rfl
  · rename_i current
    simp [current] at refused

/-- A saved build is the one that is loaded under its key, and all others stay. -/
theorem load_of_saved {b stored : Build} {m : Memory} (saved : (m.save b).result = .ok stored)
    (place : Reference) :
    (m.save b).store.load place =
      if place.key = b.reference.key then .ok stored else m.load place := by
  unfold save at saved ⊢
  split
  · rename_i conflict
    simp [conflict] at saved
  · rename_i current
    simp only [current, Except.ok.injEq] at saved
    -- What is under the key now is the build that the caller was given.
    subst saved
    by_cases same : place.key = b.reference.key <;> simp [load, same]

end Memory

instance : BuildStore Memory := ⟨Memory.load, Memory.save⟩

end ImageBuild
