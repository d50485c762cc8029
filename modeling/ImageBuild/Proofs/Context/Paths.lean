import ImageBuild.Context
import ImageBuild.Proofs.Text.Parts
import Mathlib.Data.List.TakeWhile

/-! The paths that the targets of context files mean, and the keys that no two of them share. -/

namespace ImageBuild.Context

/-- The path of a key, character by character. -/
def decodeKey : List Char → List Char
  | '_' :: '_' :: rest => '_' :: decodeKey rest
  | '_' :: '-' :: rest => '/' :: decodeKey rest
  | c :: rest => c :: decodeKey rest
  | [] => []

/-- A character is told from the characters that it is written as. -/
private theorem decodeKey_append (c : Char) (rest : List Char) :
    decodeKey (encodeChar c ++ rest) = c :: decodeKey rest := by
  -- Decoding undoes the encoding of the first character, and a plain one is not an underscore.
  unfold encodeChar
  split
  · rfl
  · rfl
  · rename_i underscore slash
    rw [List.singleton_append, decodeKey]
    · rintro more rfl
      exact absurd rfl underscore
    · rintro more rfl
      exact absurd rfl underscore

/-- A key tells the path that it is made of. -/
theorem decodeKey_flatMap (path : List Char) : decodeKey (path.flatMap encodeChar) = path := by
  -- The induction is on the path; each character is decoded before the rest.
  induction path with
  | nil => rfl
  | cons c rest ih => rw [List.flatMap_cons, decodeKey_append, ih]

/-- Different paths have different keys. -/
theorem key_injective : Function.Injective key := by
  -- Decoding is a left inverse of encoding.
  intro path other same
  have chars : path.toList.flatMap encodeChar = other.toList.flatMap encodeChar :=
    String.ofList_injective same
  have decoded := congrArg decodeKey chars
  rw [decodeKey_flatMap, decodeKey_flatMap] at decoded
  exact String.toList_injective decoded

/-- Texts without a slash where each underscore belongs to a pair of its own: two underscores, or one before a dash. -/
inductive Escaped : List Char → Prop
  | nil : Escaped []
  | underscore {rest : List Char} (later : Escaped rest) : Escaped ('_' :: '_' :: rest)
  | slash {rest : List Char} (later : Escaped rest) : Escaped ('_' :: '-' :: rest)
  | other {c : Char} {rest : List Char} (underscore : c ≠ '_') (slash : c ≠ '/')
      (later : Escaped rest) : Escaped (c :: rest)

/-- What a path is written as is such a text, whatever characters follow each other in it. -/
theorem escaped_flatMap (path : List Char) : Escaped (path.flatMap encodeChar) := by
  induction path with
  | nil => exact .nil
  | cons c rest ih =>
    rw [List.flatMap_cons]
    -- Each character brings its whole pair, so that none is shared with what comes after it.
    unfold encodeChar
    split
    · exact .underscore ih
    · exact .slash ih
    · rename_i underscore slash
      exact .other underscore slash ih

/-- There is no slash in such a text. -/
theorem Escaped.slash_not_mem {text : List Char} (escaped : Escaped text) : '/' ∉ text := by
  -- None of the rules adds a slash.
  induction escaped with
  | nil => exact List.not_mem_nil
  | underscore later ih => simpa using ih
  | slash later ih => simpa using ih
  | other underscore slash later ih => simpa [eq_comm, slash] using ih

/-- Such a text is what its own path is written as. -/
theorem Escaped.flatMap_decodeKey {text : List Char} (escaped : Escaped text) :
    (decodeKey text).flatMap encodeChar = text := by
  induction escaped with
  | nil => rfl
  | underscore later ih => rw [decodeKey, List.flatMap_cons, ih]; rfl
  | slash later ih => rw [decodeKey, List.flatMap_cons, ih]; rfl
  | @other c rest underscore slash later ih =>
    -- A character that begins no pair stands for itself, and is written as itself.
    have alone : encodeChar c = [c] := by
      unfold encodeChar
      split
      · exact absurd rfl underscore
      · exact absurd rfl slash
      · rfl
    have read : decodeKey (c :: rest) = c :: decodeKey rest := by
      simpa [alone] using decodeKey_append c rest
    rw [read, List.flatMap_cons, ih, alone, List.singleton_append]

/-- These texts are the keys, and no others. -/
theorem exists_key_eq_iff {text : String} : (∃ path, key path = text) ↔ Escaped text.toList := by
  -- The path of a well-formed key is what it is decoded to.
  constructor
  · rintro ⟨path, rfl⟩
    rw [key, String.toList_ofList]
    exact escaped_flatMap path.toList
  · intro escaped
    refine ⟨String.ofList (decodeKey text.toList), ?_⟩
    rw [key, String.toList_ofList, escaped.flatMap_decodeKey, String.ofList_toList]

/-- Keys are uniquely decodable: no two paths share one, none holds a slash, and each is read back from left to
right as its path. -/
theorem keys_are_uniquely_decodable :
    Function.Injective key ∧ ∀ path : String,
      '/' ∉ (key path).toList ∧ String.ofList (decodeKey (key path).toList) = path := by
  -- Keys are well-formed, which excludes slashes, and decoding returns the path.
  refine ⟨key_injective, fun path => ⟨?_, ?_⟩⟩
  · exact (exists_key_eq_iff.mp ⟨path, rfl⟩).slash_not_mem
  · rw [key, String.toList_ofList, decodeKey_flatMap, String.ofList_toList]

/-- Underscores and slashes that touch in different orders keep their paths apart. -/
example : ["src/app.json", "src_app.json", "src/_app.json", "src_/app.json"].map key =
    ["src_-app.json", "src__app.json", "src_-__app.json", "src___-app.json"] := by
  decide +kernel

/-- A character of the names of files and directories in a context. -/
def IsNameChar (c : Char) : Prop := c.isAlphanum = true ∨ c = '.' ∨ c = '_' ∨ c = '-'

/-- A name that stands for a file or a directory of its own. -/
structure IsName (part : List Char) : Prop where
  some_ : part ≠ []
  here : part ≠ ['.']
  above : part ≠ ['.', '.']
  chars : ∀ c ∈ part, IsNameChar c

/-- A target means a path when it is slashes before names with a slash between any two. -/
def Means (target path : String) : Prop :=
  ∃ slashes parts, target.toList = List.replicate slashes '/' ++ path.toList ∧
    path.toList = ['/'].intercalate parts ∧ parts ≠ [] ∧ ∀ part ∈ parts, IsName part

/-- A slash is no character of a name. -/
theorem slash_not_mem {part : List Char} (name : IsName part) : '/' ∉ part := by
  -- The slash is none of the characters that names may have.
  intro member
  have allowed := name.chars _ member
  unfold IsNameChar at allowed
  revert allowed
  decide

private theorem isPathChar_iff {c : Char} : isPathChar c = true ↔ IsNameChar c ∨ c = '/' := by
  -- Both sides list the same characters, in another order.
  simp only [isPathChar, IsNameChar, Name.isAlphanumeric, Char.isAlphanum, Bool.or_eq_true,
    decide_eq_true_eq]
  grind

private theorem isStep_iff {part : List Char} :
    isStep part = true ↔ part ≠ [] ∧ part ≠ ['.'] ∧ part ≠ ['.', '.'] := by
  simp [isStep, and_assoc]

/-- The slashes before a path are not part of it. -/
private theorem dropWhile_slashes {parts : List (List Char)} (some_ : parts ≠ [])
    (names : ∀ part ∈ parts, IsName part) (slashes : Nat) :
    (List.replicate slashes '/' ++ ['/'].intercalate parts).dropWhile (· == '/') =
      ['/'].intercalate parts := by
  rw [List.dropWhile_append_of_pos (fun c member => by simp [List.eq_of_mem_replicate member])]
  obtain ⟨first, rest, rfl⟩ := List.exists_cons_of_ne_nil some_
  have name := names first List.mem_cons_self
  obtain ⟨c, more, rfl⟩ := List.exists_cons_of_ne_nil name.some_
  -- The path begins with the first character of its first name.
  have begins : ∃ after, ['/'].intercalate ((c :: more) :: rest) = c :: after := by
    cases rest with
    | nil => exact ⟨more, by simp [List.intercalate]⟩
    | cons next rest => exact ⟨_, by rw [List.intercalate_cons_cons, List.append_assoc]; rfl⟩
  obtain ⟨after, path⟩ := begins
  have other : c ≠ '/' := fun same => slash_not_mem name (same ▸ List.mem_cons_self)
  rw [path, List.dropWhile_cons_of_neg (by simp [other])]

/-- The path that is kept is the one that the target means, if it means any. -/
theorem path?_eq_some_iff {target path : String} : path? target = some path ↔ Means target path := by
  unfold path?
  constructor
  · intro kept
    simp only [Option.ite_none_right_eq_some, Bool.and_eq_true, List.all_eq_true] at kept
    obtain ⟨⟨chars, steps⟩, same⟩ := kept
    -- The target is the slashes before the path and the path itself.
    have cut := List.takeWhile_append_dropWhile (p := (· == '/')) (l := target.toList)
    have slashes : target.toList.takeWhile (· == '/') =
        List.replicate (target.toList.takeWhile (· == '/')).length '/' :=
      List.eq_replicate_of_mem fun c member => by simpa using List.mem_takeWhile_imp member
    generalize target.toList.dropWhile (· == '/') = rest at *
    obtain rfl := Option.some.inj same
    refine ⟨(target.toList.takeWhile (· == '/')).length, Text.splitAll '/' rest, ?_, ?_,
      Text.splitAll_ne_nil _ _, fun part inside => ?_⟩
    · rw [String.toList_ofList, ← slashes, cut]
    · rw [String.toList_ofList, Text.intercalate_splitAll]
    · obtain ⟨some_, here, above⟩ := isStep_iff.mp (steps part inside)
      refine ⟨some_, here, above, fun c member => ?_⟩
      have within : c ∈ rest := by
        rw [← Text.intercalate_splitAll '/' rest]
        exact Text.mem_intercalate inside member
      refine (isPathChar_iff.mp (chars c within)).resolve_right ?_
      rintro rfl
      exact Text.not_mem_of_mem_splitAll _ _ part inside member
  · rintro ⟨slashes, parts, before, joined, some_, names⟩
    -- Without its slashes the target is the path, which consists of names and is split into them again.
    have rest : target.toList.dropWhile (· == '/') = path.toList := by
      rw [before, joined, dropWhile_slashes some_ names]
    have chars : path.toList.all isPathChar = true := by
      rw [joined, List.all_eq_true]
      intro c member
      rcases Text.of_mem_intercalate member with rfl | ⟨part, inside, member⟩
      · exact isPathChar_iff.mpr (.inr rfl)
      · exact isPathChar_iff.mpr (.inl ((names part inside).chars c member))
    have steps : (Text.splitAll '/' path.toList).all isStep = true := by
      rw [joined, Text.splitAll_intercalate some_ fun part inside => slash_not_mem (names part inside),
        List.all_eq_true]
      exact fun part inside =>
        isStep_iff.mpr ⟨(names part inside).some_, (names part inside).here, (names part inside).above⟩
    simp only [rest, chars, steps, Bool.and_self, if_true, String.ofList_toList]

end ImageBuild.Context
