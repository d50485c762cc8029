import ImageBuild.Dict.Laws
import ImageBuild.FileTree.Basic

/-! What changes of a tree of files do to its entries. -/

namespace ImageBuild.FileTree

/-- The root is always a directory. -/
@[simp] theorem get?_root (t : FileTree) : t.get? [] = some .directory := rfl

/-- Putting an entry into a place changes that place only, and never the root. -/
theorem get?_put (t : FileTree) (p q : Path) (e : Entry) :
    (t.put p e).get? q = if q = p ∧ p ≠ [] then some e else t.get? q := by
  -- The root is a directory that always is there, and is neither set nor asked for among the entries.
  by_cases root : p = []
  · simp [put, root]
  · by_cases asked : q = []
    · -- The root is no place to put an entry into.
      simp [asked, Ne.symm root]
    · simp [put, get?, root, asked]

/-- Erasing a place changes that place only, and never the root. -/
theorem get?_erase (t : FileTree) (p q : Path) :
    (t.erase p).get? q = if q = p ∧ p ≠ [] then none else t.get? q := by
  -- The root is answered without looking at the entries, and every other path is one of them or not.
  by_cases asked : q = []
  · simp [asked, eq_comm]
  · by_cases same : q = p
    · simp [erase, get?, ← same, asked]
    · simp [erase, get?, asked, same]

end ImageBuild.FileTree
