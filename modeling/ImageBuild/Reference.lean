/-! The place of a named thing among the things of its kind. -/

namespace ImageBuild

/-- A name, and the namespace in which it is unique. -/
structure Reference where
  scope : String
  name : String
  deriving DecidableEq, Inhabited

namespace Reference

/-- The namespace and the name with a slash between them. -/
def key (r : Reference) : String := r.scope ++ "/" ++ r.name

instance : Ord Reference := ⟨compareLex (compareOn scope) (compareOn name)⟩

instance : Std.TransOrd Reference :=
  inferInstanceAs (Std.TransCmp (compareLex (compareOn scope) (compareOn name)))

instance : Std.LawfulEqOrd Reference where
  eq_of_compare := by
    intro a b same
    -- Both parts compare as equal, and equal texts are one text.
    obtain ⟨scopes, names⟩ := Ordering.then_eq_eq.mp
      (show (compare a.scope b.scope).then (compare a.name b.name) = .eq from same)
    cases a
    cases b
    simp only [Reference.mk.injEq]
    exact ⟨Std.LawfulEqOrd.eq_of_compare scopes, Std.LawfulEqOrd.eq_of_compare names⟩

end Reference

end ImageBuild
