import ImageBuild.Proofs.FileTree.Paths

/-! Lists that are made up of parts with a separator between any two. -/

namespace ImageBuild.Text

variable {α : Type} {separator : α}

/-- A member of some part is one of the list that the parts make up. -/
theorem mem_intercalate {parts : List (List α)} {part : List α} {a : α} (inside : part ∈ parts)
    (member : a ∈ part) : a ∈ [separator].intercalate parts := by
  -- The induction is on the parts; the last one has no separator after it.
  induction parts with
  | nil => cases inside
  | cons first rest ih =>
    cases rest with
    | nil =>
      obtain rfl := List.mem_singleton.mp inside
      simpa [List.intercalate] using member
    | cons next rest =>
      rw [List.intercalate_cons_cons, List.mem_append, List.mem_append]
      rcases List.mem_cons.mp inside with rfl | later
      · exact .inl (.inl member)
      · exact .inr (ih later)

/-- A member of the list that parts make up is the separator or one of theirs. -/
theorem of_mem_intercalate {parts : List (List α)} {a : α}
    (member : a ∈ [separator].intercalate parts) : a = separator ∨ ∃ part ∈ parts, a ∈ part := by
  induction parts with
  | nil => cases member
  | cons first rest ih =>
    cases rest with
    | nil => exact .inr ⟨first, by simp, by simpa [List.intercalate] using member⟩
    | cons next rest =>
      rw [List.intercalate_cons_cons, List.mem_append, List.mem_append] at member
      -- A character comes from the first part, from the separator after it or from the rest.
      rcases member with (here | between) | later
      · exact .inr ⟨first, by simp, here⟩
      · exact .inl (List.mem_singleton.mp between)
      · rcases ih later with between | ⟨part, inside, member⟩
        · exact .inl between
        · exact .inr ⟨part, List.mem_cons_of_mem _ inside, member⟩

/-- Two lists of parts make up one list, with the separator between what each of them makes up. -/
theorem intercalate_append {parts more : List (List α)} (first : parts ≠ []) (last : more ≠ []) :
    [separator].intercalate (parts ++ more)
      = [separator].intercalate parts ++ separator :: [separator].intercalate more := by
  -- The induction is on the first parts, of which there is at least one.
  induction parts with
  | nil => exact absurd rfl first
  | cons part rest ih =>
    cases rest with
    | nil =>
      obtain ⟨next, more, rfl⟩ := List.exists_cons_of_ne_nil last
      rw [List.singleton_append, List.intercalate_cons_cons]
      simp [List.intercalate]
    | cons next rest =>
      rw [List.cons_append, List.cons_append, List.intercalate_cons_cons, ← List.cons_append,
        ih (List.cons_ne_nil _ _), List.intercalate_cons_cons]
      simp

/-- What comes after the first part is the same whatever that part is. -/
theorem exists_intercalate_cons (separator : α) (rest : List (List α)) :
    ∃ rear, ∀ part, [separator].intercalate (part :: rest) = part ++ rear := by
  -- What follows the first part does not depend on it.
  cases rest with
  | nil => exact ⟨[], fun part => by simp [List.intercalate_singleton]⟩
  | cons next rest =>
    refine ⟨separator :: [separator].intercalate (next :: rest), fun part => ?_⟩
    rw [List.intercalate_cons_cons, List.append_assoc, List.singleton_append]

/-- What comes before the last part is the same whatever that part is. -/
theorem exists_intercalate_concat (separator : α) (before : List (List α)) :
    ∃ front, ∀ part, [separator].intercalate (before ++ [part]) = front ++ part := by
  -- What precedes the last part does not depend on it.
  by_cases alone : before = []
  · exact ⟨[], fun part => by rw [alone, List.nil_append, List.intercalate_singleton, List.nil_append]⟩
  · refine ⟨[separator].intercalate before ++ [separator], fun part => ?_⟩
    rw [intercalate_append alone (List.cons_ne_nil _ _), List.intercalate_singleton,
      List.append_assoc, List.singleton_append]

variable [BEq α] [LawfulBEq α]

/-- Parts without the separator are found again. -/
theorem splitAll_intercalate {parts : List (List α)} (some_ : parts ≠ [])
    (without : ∀ part ∈ parts, separator ∉ part) :
    splitAll separator ([separator].intercalate parts) = parts := by
  -- Each part ends at the first separator after it, as it has none of its own.
  induction parts with
  | nil => exact absurd rfl some_
  | cons part rest ih =>
    have alone := splitAll_of_not_mem (without part List.mem_cons_self)
    cases rest with
    | nil => simpa [List.intercalate] using alone
    | cons next rest =>
      rw [List.intercalate_cons_cons, List.append_assoc, List.singleton_append, splitAll_append,
        alone, ih (by simp) fun p member => without p (List.mem_cons_of_mem _ member)]
      rfl

/-- A list begins another one and ends before a separator just if its parts are some of the first ones of the other. -/
theorem append_separator_prefix_iff {l r : List α} :
    l ++ [separator] <+: r ↔ ∃ way, way ≠ [] ∧ splitAll separator r = splitAll separator l ++ way := by
  constructor
  · rintro ⟨rest, rfl⟩
    refine ⟨splitAll separator rest, splitAll_ne_nil _ _, ?_⟩
    rw [List.append_assoc, List.singleton_append, splitAll_append]
  · rintro ⟨way, proper, same⟩
    -- Both lists are made up of their parts again.
    refine ⟨[separator].intercalate way, ?_⟩
    rw [← intercalate_splitAll separator r, same, intercalate_append (splitAll_ne_nil _ _) proper,
      intercalate_splitAll, List.append_assoc, List.singleton_append]

end ImageBuild.Text
