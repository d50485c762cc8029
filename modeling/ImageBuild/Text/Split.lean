/-! Texts cut at a character. -/

namespace ImageBuild.Text

/-- The parts of a list between the copies of a separator; there is always at least one. -/
def splitAll {α : Type} [BEq α] (separator : α) : List α → List (List α)
  | [] => [[]]
  | a :: rest =>
    if a == separator then [] :: splitAll separator rest
    else match splitAll separator rest with
      | part :: parts => (a :: part) :: parts
      | [] => [[a]]

/-- There is always a part. -/
theorem splitAll_ne_nil {α : Type} [BEq α] (separator : α) (l : List α) :
    splitAll separator l ≠ [] := by
  -- Even no members at all are one part, which is empty.
  cases l with
  | nil => simp [splitAll]
  | cons a rest =>
    rw [splitAll]
    split
    · simp
    · split <;> simp

/-- The parts with the separator between them are the list again. -/
theorem intercalate_splitAll {α : Type} [BEq α] [LawfulBEq α] (separator : α) (l : List α) :
    [separator].intercalate (splitAll separator l) = l := by
  -- The induction is on the list, where the parts of the rest begin with the one that its first member may join.
  induction l with
  | nil => rfl
  | cons a rest ih =>
    obtain ⟨part, parts, cut⟩ := List.exists_cons_of_ne_nil (splitAll_ne_nil separator rest)
    rw [splitAll, cut]
    rw [cut] at ih
    split
    · -- A separator ends an empty part.
      rename_i here
      rw [List.intercalate_cons_cons, ih, eq_of_beq here]
      rfl
    · -- Any other member goes to the front of the next part.
      cases parts with
      | nil => simp_all [List.intercalate]
      | cons next parts =>
        rw [List.intercalate_cons_cons] at ih ⊢
        simp [← ih]

/-- No part holds the separator. -/
theorem not_mem_of_mem_splitAll {α : Type} [BEq α] [LawfulBEq α] (separator : α) (l : List α) :
    ∀ part ∈ splitAll separator l, separator ∉ part := by
  -- A member joins a part only if it is no separator.
  induction l with
  | nil => simp [splitAll]
  | cons a rest ih =>
    obtain ⟨part, parts, cut⟩ := List.exists_cons_of_ne_nil (splitAll_ne_nil separator rest)
    rw [splitAll, cut]
    rw [cut] at ih
    split
    · simpa using ih
    · rename_i other
      have other : separator ≠ a := fun same => other (by simp [same])
      simpa [other] using ih

/-- The parts before and after the first copy of a separator. -/
def splitFirst? {α : Type} [BEq α] (separator : α) : List α → Option (List α × List α)
  | [] => none
  | a :: rest =>
    if a == separator then some ([], rest)
    else (splitFirst? separator rest).map (fun parts => (a :: parts.1, parts.2))

/-- A list is cut where the separator stands for the first time. -/
theorem splitFirst?_eq_some_iff {α : Type} [BEq α] [LawfulBEq α] {separator : α}
    {l before after : List α} :
    splitFirst? separator l = some (before, after) ↔
      l = before ++ separator :: after ∧ separator ∉ before := by
  -- The part before grows member by member until the first separator is found.
  induction l generalizing before after with
  | nil => simp [splitFirst?]
  | cons a rest ih =>
    rw [splitFirst?]
    by_cases here : a == separator
    · -- The first copy is the first member, so nothing comes before it.
      rw [if_pos here, ← eq_of_beq here]
      cases before with
      | nil => simp
      | cons b before => simp +contextual
    · -- Another first member belongs to the part before.
      have other : separator ≠ a := fun same => here (by simp [same])
      rw [if_neg here]
      cases before with
      | nil => simp [Ne.symm other]
      | cons b before =>
        simp only [Option.map_eq_some_iff, Prod.exists, Prod.mk.injEq, ih, List.cons_append,
          List.cons.injEq, List.mem_cons, not_or]
        -- What is found in the rest is found here, with one member more in front.
        constructor
        · rintro ⟨p, q, ⟨rfl, absent⟩, ⟨rfl, rfl⟩, rfl⟩
          exact ⟨⟨rfl, rfl⟩, other, absent⟩
        · rintro ⟨⟨rfl, rfl⟩, -, absent⟩
          exact ⟨before, after, ⟨rfl, absent⟩, ⟨rfl, rfl⟩, rfl⟩

/-- The texts between the copies of a character. -/
def split (separator : Char) (s : String) : List String :=
  (splitAll separator s.toList).map String.ofList

/-- The texts before and after the first copy of a character. -/
def splitOnce? (separator : Char) (s : String) : Option (String × String) :=
  (splitFirst? separator s.toList).map (fun parts => (String.ofList parts.1, String.ofList parts.2))

end ImageBuild.Text
