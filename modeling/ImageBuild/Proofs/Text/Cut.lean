import ImageBuild.Proofs.Text.Parts

/-! Lists cut where a mark of several members stands; a mark may be a word of its own among words. -/

namespace ImageBuild.Text

variable {α : Type} [BEq α]

/-- The parts of a list between the copies of a mark, from the left; members that belong to a mark are passed over. -/
def cutAll (mark : List α) : Nat → List α → List (List α)
  | _, [] => [[]]
  | passed + 1, _ :: rest => cutAll mark passed rest
  | 0, a :: rest =>
    if mark.isPrefixOf (a :: rest) then [] :: cutAll mark (mark.length - 1) rest
    else (cutAll mark 0 rest).modifyHead (a :: ·)

/-- The texts between the copies of another text. -/
def cut (mark s : String) : List String := (cutAll mark.toList 0 s.toList).map String.ofList

variable {mark : List α}

/-- The rest of a mark is passed over. -/
theorem cutAll_passed (passed rest : List α) :
    cutAll mark passed.length (passed ++ rest) = cutAll mark 0 rest := by
  -- The induction is on what is passed over, which is dropped.
  induction passed with
  | nil => rfl
  | cons a passed ih => exact ih

/-- There is always a part, and the first one of a list that is not in a mark begins it. -/
theorem exists_cutAll_eq_cons (mark l : List α) (passed : Nat) :
    ∃ part parts, cutAll mark passed l = part :: parts ∧ (passed = 0 → part <+: l) := by
  -- The induction is on the list, for however much of a mark is still to be passed over.
  induction l generalizing passed with
  | nil => exact ⟨[], [], by rw [cutAll], fun _ => List.nil_prefix⟩
  | cons a rest ih =>
    cases passed with
    | succ passed =>
      obtain ⟨part, parts, same, _⟩ := ih passed
      exact ⟨part, parts, same, nofun⟩
    | zero =>
      rw [cutAll]
      split
      · exact ⟨[], _, rfl, fun _ => List.nil_prefix⟩
      · obtain ⟨part, parts, same, first⟩ := ih 0
        rw [same]
        exact ⟨a :: part, parts, rfl, fun _ => List.cons_prefix_cons.mpr ⟨rfl, first rfl⟩⟩

variable [LawfulBEq α]

/-- A member with which no mark begins goes to the front of the next part. -/
theorem cutAll_cons {a : α} {rest : List α} (other : ¬mark <+: a :: rest) :
    cutAll mark 0 (a :: rest) = (cutAll mark 0 rest).modifyHead (a :: ·) := by
  -- Where no mark begins, the character goes to the first part.
  rw [cutAll, if_neg]
  rwa [List.isPrefixOf_iff_prefix]

/-- A mark ends a part. -/
theorem cutAll_mark (some_ : mark ≠ []) (rest : List α) :
    cutAll mark 0 (mark ++ rest) = [] :: cutAll mark 0 rest := by
  -- The first character of the mark starts the cut, and the others are passed over.
  obtain ⟨a, after, rfl⟩ := List.exists_cons_of_ne_nil some_
  rw [List.cons_append, cutAll, if_pos, List.length_cons, Nat.add_sub_cancel, cutAll_passed]
  rw [List.isPrefixOf_iff_prefix]
  exact List.prefix_append _ _

/-- No part holds the mark. -/
theorem not_infix_of_mem_cutAll (some_ : mark ≠ []) {l : List α} {passed : Nat} :
    ∀ part ∈ cutAll mark passed l, ¬mark <:+: part := by
  -- Members go to the front of the first part, so that it may hold the mark only at its front.
  induction l generalizing passed with
  | nil =>
    intro part member
    rw [cutAll, List.mem_singleton] at member
    rwa [member, List.infix_nil]
  | cons a rest ih =>
    cases passed with
    | succ passed => exact ih
    | zero =>
      rw [cutAll]
      split
      · intro part member
        rcases List.mem_cons.mp member with rfl | later
        · rwa [List.infix_nil]
        · exact ih part later
      · rename_i other
        rw [List.isPrefixOf_iff_prefix] at other
        obtain ⟨part, parts, same, first⟩ := exists_cutAll_eq_cons mark rest 0
        have unmarked : ∀ part ∈ cutAll mark 0 rest, ¬mark <:+: part := ih
        rw [same, List.forall_mem_cons] at unmarked
        rw [same, List.modifyHead_cons, List.forall_mem_cons]
        refine ⟨fun inside => ?_, unmarked.2⟩
        -- The longer part would hold the mark at its front, where the list has none, or further on.
        rcases List.infix_cons_iff.mp inside with front | later
        · exact other (front.trans (List.cons_prefix_cons.mpr ⟨rfl, first rfl⟩))
        · exact unmarked.1 later

/-- Of two marks that share a member only the first one is found. -/
example : cut " && " "a && b && && c" = ["a", "b", "&& c"] := by decide +kernel

section Words

variable {separator : α} {sign : List α}

/-- The mark that a word makes when it stands between two others. -/
def between (separator : α) (sign : List α) : List α := separator :: sign ++ [separator]

omit [BEq α] [LawfulBEq α] in
theorem between_ne_nil : between separator sign ≠ [] := List.cons_ne_nil _ _

/-- A word goes to the front of the next part, for a mark begins with a separator. -/
theorem cutAll_word {word : List α} (without : separator ∉ word) (rest : List α) :
    cutAll (between separator sign) 0 (word ++ rest)
      = (cutAll (between separator sign) 0 rest).modifyHead (word ++ ·) := by
  -- A mark begins with the separator, so none begins inside of a word without it.
  induction word with
  | nil => exact (congrFun List.modifyHead_id _).symm
  | cons a word ih =>
    rw [List.mem_cons, not_or] at without
    rw [List.cons_append, cutAll_cons, ih without.2, List.modifyHead_modifyHead]
    · rfl
    · exact fun front => without.1 (List.cons_prefix_cons.mp front).1

/-- A list that is at its end, or has come to the end of a word. -/
def AtEnd (separator : α) (rest : List α) : Prop := rest = [] ∨ ∃ later, rest = separator :: later

omit [BEq α] [LawfulBEq α] in
/-- At a mark a word has come to its end. -/
theorem atEnd_between (rest : List α) : AtEnd separator (between separator sign ++ rest) :=
  .inr ⟨_, rfl⟩

/-- Where another word than the sign stands there is no mark. -/
theorem not_between_prefix (plain : separator ∉ sign) {word rest : List α}
    (without : separator ∉ word) (other : word ≠ sign) (ends : AtEnd separator rest) :
    ¬between separator sign <+: separator :: (word ++ rest) := by
  rintro ⟨after, same⟩
  have same : word ++ rest = sign ++ separator :: after := by
    simpa [between] using same.symm
  rcases ends with rfl | ⟨later, rfl⟩
  · -- The last word would hold the separator after the sign.
    refine without ?_
    rw [List.append_nil] at same
    rw [same]
    exact List.mem_append_right _ List.mem_cons_self
  · -- The word and the sign both end at the first separator.
    have first := splitFirst?_eq_some_iff.mpr ⟨same, plain⟩
    rw [splitFirst?_eq_some_iff.mpr ⟨rfl, without⟩] at first
    exact other (congrArg Prod.fst (Option.some.inj first))

/-- Words other than the sign stay in one part. -/
theorem cutAll_words (plain : separator ∉ sign) {words : List (List α)} (some_ : words ≠ [])
    (good : ∀ word ∈ words, separator ∉ word ∧ word ≠ sign) (rest : List α)
    (ends : AtEnd separator rest) :
    cutAll (between separator sign) 0 ([separator].intercalate words ++ rest)
      = (cutAll (between separator sign) 0 rest).modifyHead ([separator].intercalate words ++ ·) := by
  -- Each word is followed by the next one, or by what comes after them all.
  induction words with
  | nil => exact absurd rfl some_
  | cons word words ih =>
    have first := good word List.mem_cons_self
    cases words with
    | nil =>
      rw [List.intercalate_singleton]
      exact cutAll_word first.1 rest
    | cons next words =>
      have later := ih (by simp) fun w member => good w (List.mem_cons_of_mem _ member)
      have second := good next (List.mem_cons_of_mem _ List.mem_cons_self)
      -- After the first word comes a separator, and after that the next word, which is not the sign.
      have none : ¬between separator sign
          <+: separator :: ([separator].intercalate (next :: words) ++ rest) := by
        cases words with
        | nil =>
          rw [List.intercalate_singleton]
          exact not_between_prefix plain second.1 second.2 ends
        | cons third words =>
          rw [List.intercalate_cons_cons, List.append_assoc, List.append_assoc]
          exact not_between_prefix plain second.1 second.2 (.inr ⟨_, rfl⟩)
      rw [List.intercalate_cons_cons, List.append_assoc, List.append_assoc, List.singleton_append,
        cutAll_word first.1, cutAll_cons none, later, List.modifyHead_modifyHead,
        List.modifyHead_modifyHead]
      congr 1
      funext part
      simp

/-- Lines of such words are found again. -/
theorem cutAll_lines (plain : separator ∉ sign) {lines : List (List (List α))} (some_ : lines ≠ [])
    (nonempty : ∀ words ∈ lines, words ≠ [])
    (good : ∀ words ∈ lines, ∀ word ∈ words, separator ∉ word ∧ word ≠ sign) :
    cutAll (between separator sign) 0
        ((between separator sign).intercalate (lines.map [separator].intercalate))
      = lines.map [separator].intercalate := by
  -- Each line ends at a mark, which comes off before the next line is cut.
  induction lines with
  | nil => exact absurd rfl some_
  | cons words lines ih =>
    have first := cutAll_words plain (nonempty words List.mem_cons_self)
      (good words List.mem_cons_self)
    cases lines with
    | nil =>
      -- The last line has no mark behind it.
      have alone := first [] (.inl rfl)
      rw [List.append_nil] at alone
      rw [List.map_singleton, List.intercalate_singleton, alone, cutAll, List.modifyHead_cons,
        List.append_nil]
    | cons next lines =>
      have later := ih (by simp) (fun w member => nonempty w (List.mem_cons_of_mem _ member))
        fun w member => good w (List.mem_cons_of_mem _ member)
      rw [List.map_cons] at later
      rw [List.map_cons, List.map_cons, List.intercalate_cons_cons, List.append_assoc,
        first _ (atEnd_between _), cutAll_mark between_ne_nil, later, List.modifyHead_cons,
        List.append_nil]

end Words

omit [BEq α] [LawfulBEq α] in
/-- A word between others stands between separators in what they make up. -/
theorem between_infix_intercalate {separator : α} {word : List α} {before after : List (List α)}
    (first : before ≠ []) (last : after ≠ []) :
    between separator word <:+: [separator].intercalate (before ++ word :: after) := by
  -- With words on both sides the word stands between two separators.
  refine ⟨[separator].intercalate before, [separator].intercalate after, ?_⟩
  rw [intercalate_append first (List.cons_ne_nil _ _), List.intercalate_cons_of_ne_nil last]
  simp [between]

end ImageBuild.Text
