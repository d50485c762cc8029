import ImageBuild.FileTree.Laws

/-! Where the texts of paths lead, name by name, and what of that stays when files come and go. -/

namespace ImageBuild

namespace Text

/-- What is written can be read as a text. -/
@[simp] theorem ofBytes?_toBytes (s : String) : ofBytes? (toBytes s) = some s := by
  -- The bytes of a text are valid, so they decode to it.
  have bytes : (⟨s.toByteArray.data.toList.toArray⟩ : ByteArray) = s.toByteArray := by simp
  rw [ofBytes?, toBytes, bytes, String.fromUTF8?, dif_pos s.isValidUTF8]
  rfl

/-- A list without the separator is one part. -/
theorem splitAll_of_not_mem {α : Type} [BEq α] [LawfulBEq α] {separator : α} {l : List α}
    (absent : separator ∉ l) : splitAll separator l = [l] := by
  -- No element is cut off, so there is one part.
  induction l with
  | nil => rfl
  | cons a rest ih =>
    have other : (a == separator) = false := by
      rw [beq_eq_false_iff_ne]
      rintro rfl
      exact absent List.mem_cons_self
    rw [splitAll, other, ih (fun member => absent (List.mem_cons_of_mem _ member))]
    rfl

/-- The parts on both sides of a separator are those of the lists on its sides. -/
theorem splitAll_append {α : Type} [BEq α] [LawfulBEq α] (separator : α) (l r : List α) :
    splitAll separator (l ++ separator :: r) = splitAll separator l ++ splitAll separator r := by
  induction l with
  | nil => simp [splitAll]
  | cons a rest ih =>
    obtain ⟨part, parts, cut⟩ := List.exists_cons_of_ne_nil (splitAll_ne_nil separator rest)
    rw [List.cons_append, splitAll, splitAll, ih, cut]
    -- The first member is a separator itself, or the beginning of the first part.
    split <;> rfl

/-- What holds no separator goes to the end of the last part. -/
theorem exists_splitAll_append {α : Type} [BEq α] [LawfulBEq α] (separator : α) (l : List α) :
    ∃ parts last, ∀ whole, separator ∉ whole →
      splitAll separator (l ++ whole) = parts ++ [last ++ whole] := by
  -- The induction is on what stands before; its last part is the one that goes on.
  induction l with
  | nil => exact ⟨[], [], fun whole absent => splitAll_of_not_mem absent⟩
  | cons a rest ih =>
    obtain ⟨parts, last, cut⟩ := ih
    by_cases here : a == separator
    · -- A separator makes a part of its own before all others.
      refine ⟨[] :: parts, last, fun whole absent => ?_⟩
      rw [List.cons_append, splitAll, if_pos here, cut whole absent]
      rfl
    · cases parts with
      | nil =>
        refine ⟨[], a :: last, fun whole absent => ?_⟩
        rw [List.cons_append, splitAll, if_neg here, cut whole absent]
        rfl
      | cons part parts =>
        -- Any other character belongs to the first part, which may be the last one too.
        refine ⟨(a :: part) :: parts, last, fun whole absent => ?_⟩
        rw [List.cons_append, splitAll, if_neg here, cut whole absent]
        rfl

end Text

namespace FileTree

/-- A way is gone in two parts. -/
theorem follow_append (t : FileTree) (p : Path) (way rest : List String) :
    t.follow p (way ++ rest) = (t.follow p way).bind (fun q => t.follow q rest) := by
  induction way generalizing p with
  | nil => rfl
  | cons name way ih =>
    -- The first step of both ways is the same, and what follows is the induction hypothesis.
    rw [List.cons_append, follow, follow]
    cases t.get? p with
    | none => rfl
    | some e =>
      -- A file ends either way, and in a directory the name decides where to go on.
      cases e with
      | file content => rfl
      | directory =>
        simp only
        split
        · exact ih p
        · split
          · exact ih p.dropLast
          · split
            · rfl
            · exact ih (p ++ [name])

/-- An empty name asks only for a directory, and so does every name after it. -/
theorem follow_blank (t : FileTree) (p : Path) (name : String) (rest : List String) :
    (t.follow p [""]).bind (fun q => t.follow q (name :: rest)) = t.follow p (name :: rest) := by
  -- An empty name stays where it is, provided there is a directory; otherwise both ways fail alike.
  cases there : t.get? p with
  | none =>
    have blank : t.follow p [""] = .error .missing := by rw [follow, there]
    have named : t.follow p (name :: rest) = .error .missing := by rw [follow, there]
    rw [blank, named]
    rfl
  | some e =>
    cases e with
    | file content =>
      have blank : t.follow p [""] = .error .notDirectory := by rw [follow, there]
      have named : t.follow p (name :: rest) = .error .notDirectory := by rw [follow, there]
      rw [blank, named]
      rfl
    | directory =>
      have blank : t.follow p [""] = .ok p := by
        rw [follow, there]
        rfl
      rw [blank]
      rfl

/-- A name that a directory can hold. -/
structure IsName (name : String) : Prop where
  nonempty : name ≠ ""
  here : name ≠ "."
  back : name ≠ ".."
  whole : '/' ∉ name.toList
  plain : '\x00' ∉ name.toList
  short : name.utf8ByteSize ≤ maxNameLength

/-- A name leads from a directory to the place below it. -/
theorem follow_name {t : FileTree} {p : Path} {name : String} (legal : IsName name)
    (directory : t.get? p = some .directory) : t.follow p [name] = .ok (p ++ [name]) := by
  -- A plain name is neither of the dots, and it is short enough.
  rw [follow, directory]
  simp only
  rw [if_neg (by simp [legal.nonempty, legal.here]), if_neg legal.back,
    if_neg (Nat.not_lt.mpr legal.short)]
  rfl

/-- The text of a path that goes on by a name is that of the path, a slash and the name. -/
theorem toList_joined {base name : String} (nonempty : base ≠ "") (whole : '/' ∉ name.toList) :
    ∃ l, (joined base name).toList = l ++ '/' :: name.toList ∧
      (base.toList = l ∨ base.toList = l ++ ['/']) := by
  have relative : ¬name.toList.head? = some '/' := fun slash => whole (List.mem_of_mem_head? slash)
  have base_nonempty : base.isEmpty = false := by simpa using nonempty
  rw [joined, if_neg (by simp [relative, base_nonempty])]
  split
  · rename_i slash
    have slash : base.toList.getLast? = some '/' := by simpa [endsInSlash] using slash
    -- The slash at the end of the path is the one before the name.
    obtain ⟨l, same⟩ := List.getLast?_eq_some_iff.mp slash
    exact ⟨l, by simp [same], .inr same⟩
  · exact ⟨base.toList, by simp, .inl rfl⟩

/-- The path is no longer than what goes on from it. -/
theorem utf8ByteSize_le_joined {base name : String} (whole : '/' ∉ name.toList) :
    base.utf8ByteSize ≤ (joined base name).utf8ByteSize := by
  -- The name is put after the base, as it does not begin with a slash.
  have relative : ¬name.toList.head? = some '/' := fun slash => whole (List.mem_of_mem_head? slash)
  unfold joined
  split
  · rename_i alone
    have empty : base = "" := by simpa [relative] using alone
    simp [empty]
  · split <;> simp only [String.utf8ByteSize_append] <;> omega

/-- A path that goes on by a name starts where the path starts, and goes its way before the name. -/
structure GoesOn (base name : String) (way : List String) : Prop where
  nonempty : (joined base name).isEmpty = false
  head : (joined base name).toList.head? = base.toList.head?
  null : (joined base name).toList.any (· == '\x00') = base.toList.any (· == '\x00')
  parts : Text.split '/' (joined base name) = way ++ [name]
  /-- A slash at the end of the path is no part of the way. -/
  before : Text.split '/' base = way ∨ Text.split '/' base = way ++ [""]

/-- Every path can go on by a name. -/
theorem goesOn {base name : String} (nonempty : base ≠ "") (whole : '/' ∉ name.toList)
    (plain : '\x00' ∉ name.toList) : ∃ way, GoesOn base name way := by
  -- The path is the base with a slash behind it, which is added only where it is missing.
  obtain ⟨l, path, same⟩ := toList_joined nonempty whole
  refine ⟨(Text.splitAll '/' l).map String.ofList, ?_, ?_, ?_, ?_, ?_⟩
  · rw [Bool.eq_false_iff, ne_eq, String.isEmpty_iff, ← String.toList_eq_nil_iff, path]
    simp
  · rw [path]
    cases l with
    | nil =>
      -- An empty path does not go on, so that this one is a slash.
      rcases same with same | same
      · exact absurd (String.toList_eq_nil_iff.mp same) nonempty
      · rw [same]
        rfl
    | cons c rest => rcases same with same | same <;> rw [same] <;> rfl
  -- A name without a null character adds none to the path.
  · have alone : name.toList.any (· == '\x00') = false := by
      rw [Bool.eq_false_iff]
      intro found
      obtain ⟨c, member, null⟩ := List.any_eq_true.mp found
      exact plain (eq_of_beq null ▸ member)
    rcases same with same | same <;> simp [path, same, alone]
  · rw [Text.split, path, Text.splitAll_append, Text.splitAll_of_not_mem whole]
    simp
  · rcases same with same | same
    · exact .inl (by rw [Text.split, same])
    · refine .inr ?_
      rw [Text.split, same, Text.splitAll_append, List.map_append]
      rfl

/-- A path that goes on by a name leads where the name leads from the end of the path. -/
theorem place_joined (t : FileTree) {base name : String} (nonempty : base ≠ "")
    (whole : '/' ∉ name.toList) (plain : '\x00' ∉ name.toList)
    (short : (joined base name).utf8ByteSize < pathLengthLimit) :
    t.place (joined base name) = (t.place base).bind (fun p => t.follow p [name]) := by
  have shorter : base.utf8ByteSize < pathLengthLimit :=
    Nat.lt_of_le_of_lt (utf8ByteSize_le_joined whole) short
  have base_nonempty : base.isEmpty = false := by simpa using nonempty
  obtain ⟨way, goes⟩ := goesOn nonempty whole plain
  rw [place, place, goes.nonempty, base_nonempty, goes.null, goes.head, goes.parts,
    if_neg (Nat.not_le.mpr short), if_neg (Nat.not_le.mpr shorter)]
  -- A null in the base spoils both paths.
  cases base.toList.any (· == '\x00') with
  | true => rfl
  | false =>
    simp only [Bool.false_eq_true, if_false]
    -- The way of the joined path is that of the base and the name after it.
    rw [follow_append]
    rcases goes.before with same | same
    · rw [same]
    · rw [same, follow_append]
      cases t.follow (if base.toList.head? = some '/' then [] else t.here) way with
      | error fault => rfl
      | ok q => exact (t.follow_blank q name []).symm

/-- The path before the last name. -/
theorem parentPath_joined {base name : String} (nonempty : base ≠ "")
    (slashless : endsInSlash base = false) (whole : '/' ∉ name.toList) :
    parentPath (joined base name) = base := by
  have relative : ¬name.toList.head? = some '/' := fun slash => whole (List.mem_of_mem_head? slash)
  have base_nonempty : base.isEmpty = false := by simpa using nonempty
  have last : base.toList.reverse.head? ≠ some '/' := by
    rw [List.head?_reverse]
    simpa [endsInSlash] using slashless
  have path : (joined base name).toList = base.toList ++ '/' :: name.toList := by
    rw [joined, if_neg (by simp [relative, base_nonempty]), slashless]
    simp
  -- The name is dropped from the end, and then the slash before it.
  have dropped : ((joined base name).toList.reverse.dropWhile (· ≠ '/')).reverse =
      base.toList ++ ['/'] := by
    rw [path, List.reverse_append, List.reverse_cons, List.append_assoc,
      List.dropWhile_append_of_pos (by
        intro c member
        have other : c ≠ '/' := by
          rintro rfl
          exact whole (List.mem_reverse.mp member)
        simpa using other)]
    simp
  have bare : Text.dropEndWhile (· == '/') (base.toList ++ ['/']) = base.toList := by
    rw [Text.dropEndWhile, List.reverse_append, List.reverse_singleton, List.singleton_append,
      List.dropWhile_cons_of_pos (by simp)]
    cases rest : base.toList.reverse with
    | nil =>
      rw [List.reverse_eq_nil_iff.mp rest]
      rfl
    | cons c cs =>
      have other : (c == '/') = false := by
        rw [rest, List.head?_cons] at last
        simpa using last
      rw [List.dropWhile_cons_of_neg (by simp [other]), ← rest, List.reverse_reverse]
  simp only [parentPath]
  rw [dropped, bare]
  -- What is left is the base, which is not empty.
  cases chars : base.toList with
  | nil => exact absurd (String.toList_eq_nil_iff.mp chars) nonempty
  | cons c cs =>
    simp only
    rw [← chars, String.ofList_toList]

/-- A path that goes on by a name ends in a slash only if the name does. -/
theorem endsInSlash_joined {base name : String} (nonempty : base ≠ "") (named : name ≠ "")
    (whole : '/' ∉ name.toList) : endsInSlash (joined base name) = false := by
  obtain ⟨l, path, _⟩ := toList_joined nonempty whole
  rw [endsInSlash, path, decide_eq_false_iff_not]
  intro slash
  -- The last character of the path is that of the name.
  have last : (l ++ '/' :: name.toList).getLast? = name.toList.getLast? := by
    rw [List.getLast?_append, List.getLast?_cons]
    cases chars : name.toList with
    | nil => exact absurd (String.toList_eq_nil_iff.mp chars) named
    | cons c cs => simp [List.getLast?_cons]
  rw [last] at slash
  exact whole (List.mem_of_mem_getLast? slash)

/-- Only directories are gone through. -/
theorem directory_of_follow {t : FileTree} {p q : Path} {name : String} {rest : List String}
    (led : t.follow p (name :: rest) = .ok q) : t.get? p = some .directory := by
  -- Without a directory at the place the first name cannot be followed.
  rw [follow] at led
  cases there : t.get? p with
  | none =>
    rw [there] at led
    cases led
  | some e =>
    cases e with
    | file content =>
      rw [there] at led
      cases led
    | directory => rfl

/-- An ending after which a name is one that a directory can hold, unless it is too long. -/
structure IsEnding (ending : String) : Prop where
  long : 2 < ending.toList.length
  whole : '/' ∉ ending.toList
  plain : '\x00' ∉ ending.toList

/-- A name with an ending leads from a directory to the place below it, unless it is too long. -/
theorem follow_ending {ending : String} (legal : IsEnding ending) (t : FileTree) (p : Path)
    (stem : String) :
    t.follow p [stem ++ ending] =
      match t.get? p with
      | none => .error .missing
      | some (.file _) => .error .notDirectory
      | some .directory =>
        if maxNameLength < (stem ++ ending).utf8ByteSize then .error .nameTooLong
        else .ok (p ++ [stem ++ ending]) := by
  -- The ending alone is longer than the names that lead nowhere else.
  have other : ∀ name : String, name.toList.length ≤ 2 → stem ++ ending ≠ name := by
    rintro name short rfl
    have long := legal.long
    rw [String.toList_append, List.length_append] at short
    omega
  rw [follow]
  cases t.get? p with
  | none => rfl
  | some e =>
    -- Such a name is looked for in a directory, where nothing but its length can be wrong.
    cases e with
    | file content => rfl
    | directory =>
      simp only
      rw [if_neg (by simp [other "" (by decide), other "." (by decide)]),
        if_neg (other ".." (by decide))]
      rfl

/-- A path with an ending goes the way of its stem, and from there by a name with the ending. -/
theorem exists_place_append (t : FileTree) (stem : String) :
    ∃ (way : Except FileFault Path) (last : String), ∀ ending, IsEnding ending →
      t.place (stem ++ ending) =
        if stem.toList.any (· == '\x00') then .error .badName
        else if pathLengthLimit ≤ (stem ++ ending).utf8ByteSize then .error .nameTooLong
        else way.bind (fun p => t.follow p [last ++ ending]) := by
  obtain ⟨parts, last, cut⟩ := Text.exists_splitAll_append '/' stem.toList
  refine ⟨t.follow (if stem.toList.head? = some '/' then [] else t.here) (parts.map String.ofList),
    String.ofList last, fun ending legal => ?_⟩
  have some_ : ending.toList ≠ [] := List.ne_nil_of_length_pos (Nat.zero_lt_of_lt legal.long)
  have nonempty : (stem ++ ending).isEmpty = false := by
    rw [Bool.eq_false_iff, ne_eq, String.isEmpty_iff, ← String.toList_eq_nil_iff, String.toList_append]
    simp [some_]
  -- An ending contains no null character.
  have null : (stem ++ ending).toList.any (· == '\x00') = stem.toList.any (· == '\x00') := by
    have alone : ending.toList.any (· == '\x00') = false := by
      rw [List.any_eq_false]
      intro c member same
      exact legal.plain (eq_of_beq same ▸ member)
    rw [String.toList_append, List.any_append, alone, Bool.or_false]
  -- An ending does not begin with a slash, so that the path starts where its stem does.
  have start : (stem ++ ending).toList.head? = some '/' ↔ stem.toList.head? = some '/' := by
    rw [String.toList_append, List.head?_append]
    cases stem.toList with
    | nil =>
      have other : ending.toList.head? ≠ some '/' := fun slash =>
        legal.whole (List.mem_of_mem_head? slash)
      simp [other]
    | cons c rest => simp
  -- It contains no slash either, and so ends the last name of the stem.
  have split : Text.split '/' (stem ++ ending) =
      parts.map String.ofList ++ [String.ofList last ++ ending] := by
    rw [Text.split, String.toList_append, cut _ legal.whole, List.map_append, List.map_singleton,
      String.ofList_append, String.ofList_toList]
  rw [place, nonempty, null, split, follow_append]
  simp only [start, Bool.false_eq_true, if_false]

/-- Where one path leads, each path of the same stem leads to a place beside it, or is too long. -/
theorem place_beside {t : FileTree} {stem ending : String} {p : Path} (legal : IsEnding ending)
    (led : t.place (stem ++ ending) = .ok p) :
    ∃ q last, ∀ other, IsEnding other →
      t.place (stem ++ other) = .ok (q ++ [last ++ other]) ∨
        t.place (stem ++ other) = .error .nameTooLong := by
  obtain ⟨way, last, places⟩ := t.exists_place_append stem
  rw [places ending legal] at led
  split at led
  · cases led
  rename_i plain
  split at led
  · cases led
  cases way with
  | error fault => cases led
  | ok q =>
    -- The first ending has led somewhere, so that it stands in a directory.
    have directory : t.get? q = some .directory := directory_of_follow led
    refine ⟨q, last, fun other legal => ?_⟩
    rw [places other legal, if_neg plain]
    split
    · exact .inr rfl
    · -- The way ends in a directory, whatever the ending is.
      change t.follow q [last ++ other] = _ ∨ t.follow q [last ++ other] = _
      rw [follow_ending legal, directory]
      simp only
      split
      · exact .inr rfl
      · exact .inl rfl

section

variable {t u : FileTree} (kept : ∀ p, t.get? p = some .directory → u.get? p = some .directory)

include kept

/-- A way leads to the same place as long as no directory goes. -/
theorem follow_mono {p q : Path} {way : List String} (led : t.follow p way = .ok q) :
    u.follow p way = .ok q := by
  -- The induction is on the way, with the place it starts from left open.
  induction way generalizing p with
  | nil => exact led
  | cons name way ih =>
    -- There is a directory at every step but the last, and it is still there.
    have directory := directory_of_follow led
    rw [follow, directory] at led
    rw [follow, kept p directory]
    simp only at led ⊢
    split at led
    · rename_i blank
      rw [if_pos blank]
      exact ih led
    · rename_i proper
      rw [if_neg proper]
      split at led
      · rename_i back
        rw [if_pos back]
        exact ih led
      · rename_i down
        rw [if_neg down]
        split at led
        · cases led
        · rename_i short
          rw [if_neg short]
          exact ih led

/-- A path leads to the same place as long as no directory goes. -/
theorem place_mono (here : u.here = t.here) {path : String} {q : Path}
    (led : t.place path = .ok q) : u.place path = .ok q := by
  -- The checks of the text are the same in both trees, so only the way has to be followed.
  unfold place at led ⊢
  rw [here]
  split at led
  · cases led
  · rename_i some_
    rw [if_neg some_]
    split at led
    · cases led
    · rename_i plain
      rw [if_neg plain]
      split at led
      · cases led
      · rename_i short
        rw [if_neg short]
        exact follow_mono kept led

end

/-- Directories that are there already need not be made. -/
theorem makeFrom_append {t : FileTree} {p q : Path} {way : List String}
    (led : t.follow p way = .ok q) (directory : t.get? q = some .directory) (rest : List String) :
    t.makeFrom p (way ++ rest) = t.makeFrom q rest := by
  -- The induction is on the part of the way that exists already, which makes nothing.
  induction way generalizing p with
  | nil =>
    obtain rfl := Except.ok.inj led
    rfl
  | cons name way ih =>
    have steps := t.follow_append p [name] way
    rw [List.singleton_append, led] at steps
    rw [List.cons_append, makeFrom]
    cases first : t.follow p [name] with
    | error fault =>
      rw [first] at steps
      cases steps
    | ok r =>
      rw [first] at steps
      have later : t.follow r way = .ok q := steps.symm
      -- Whether the way goes on or not, the place after the name is a directory.
      have there : t.get? r = some .directory := by
        cases way with
        | nil =>
          obtain rfl := Except.ok.inj later
          exact directory
        | cons next way => exact directory_of_follow later
      simp only
      rw [there]
      exact ih later

/-- A directory can be made in a directory that is there. -/
theorem makeDirectory_joined {t : FileTree} {base name : String} {p : Path} (legal : IsName name)
    (led : t.place base = .ok p) (directory : t.get? p = some .directory)
    (absent : t.get? (p ++ [name]) = none) :
    t.makeDirectory (joined base name) = .ok (t.put (p ++ [name]) .directory) := by
  unfold place at led
  split at led
  · cases led
  rename_i some_
  have nonempty : base ≠ "" := by simpa using some_
  split at led
  · cases led
  rename_i plain
  split at led
  · cases led
  -- The base is taken apart into the way to it, and the name is the one step that is new.
  obtain ⟨way, goes⟩ := goesOn nonempty legal.whole legal.plain
  -- A slash at the end of the base makes no other way of it.
  have way_led : t.follow (if base.toList.head? = some '/' then [] else t.here) way = .ok p := by
    rcases goes.before with same | same
    · rw [← same]
      exact led
    · rw [same, follow_append] at led
      cases first : t.follow (if base.toList.head? = some '/' then [] else t.here) way with
      | error fault =>
        rw [first] at led
        cases led
      | ok q =>
        rw [first] at led
        have blank : t.follow q [""] = .ok p := led
        rw [follow, directory_of_follow blank] at blank
        exact blank
  rw [makeDirectory, goes.nonempty, goes.null, goes.head, goes.parts]
  rw [if_neg (by simp), if_neg plain, makeFrom_append way_led directory, makeFrom,
    follow_name legal directory]
  simp only [absent]
  rfl

/-- Paths start from the same directory as before. -/
@[simp] theorem here_put (t : FileTree) (p : Path) (e : Entry) : (t.put p e).here = t.here := by
  -- The root cannot be put, and then the tree is the old one.
  unfold put
  split <;> rfl

/-- Putting a file where no directory is makes no directory go. -/
theorem directory_put_file {t : FileTree} {p : Path} (free : t.get? p ≠ some .directory)
    (content : Bytes) (q : Path) (directory : t.get? q = some .directory) :
    (t.put p (.file content)).get? q = some .directory := by
  -- The file is put where there is no directory, so none is overwritten.
  rw [get?_put, if_neg]
  · exact directory
  · rintro ⟨rfl, _⟩
    exact free directory

/-- A text is read where bytes are read that encode one. -/
theorem readText_of_read {t : FileTree} {path : String} {content : Bytes}
    (read : t.read path = .ok content) : t.readText path =
      match Text.ofBytes? content with
      | some text => .ok text
      | none => .error .notText := by
  -- Reading a text is reading its bytes and decoding them.
  rw [readText, read]
  rfl

section

variable {t : FileTree} {path : String} {p : Path} (led : t.place path = .ok p)

include led

/-- An empty path leads nowhere. -/
theorem nonempty_of_place : path ≠ "" := by
  -- An empty path leads nowhere.
  rintro rfl
  cases led

/-- Under a path is what is where the path leads. -/
theorem find?_of_place : t.find? path = .ok (t.get? p) := by
  -- Finding is looking at the place that the path leads to.
  rw [find?, led]
  rfl

/-- There is an entry under a path if there is one where the path leads. -/
theorem contains_of_place : t.contains path = (t.get? p).isSome := by
  -- What is there may be a file or a directory.
  rw [contains, find?_of_place led]
  cases t.get? p <;> rfl

/-- A file is read where its path leads. -/
theorem read_of_place {content : Bytes} (there : t.get? p = some (.file content)) :
    t.read path = .ok content := by
  rw [read, find?_of_place led, there]

/-- A file is written where its path leads, unless there is a directory. -/
theorem write_of_place (free : t.get? p ≠ some .directory) (slashless : endsInSlash path = false)
    (content : Bytes) : t.write path content = .ok (t.put p (.file content)) := by
  -- Neither of the two refusals of a write applies.
  rw [write, led]
  change (if t.get? p = some .directory ∨ endsInSlash path then _ else _) = _
  rw [if_neg (by simp [free, slashless])]

/-- A file is created where its path leads, if nothing is there. -/
theorem create_of_place (absent : t.get? p = none) (slashless : endsInSlash path = false)
    (content : Bytes) : t.create path content = .ok (t.put p (.file content)) := by
  -- Where there is nothing, creating is writing.
  rw [create, led]
  change (if (t.get? p).isSome then _ else t.write path content) = _
  rw [absent]
  exact write_of_place led (by simp [absent]) slashless content

/-- A file is not created where something is. -/
theorem create_of_taken {e : Entry} (there : t.get? p = some e) (content : Bytes) :
    t.create path content = .error .taken := by
  -- Creating looks before it writes.
  rw [create, led]
  change (if (t.get? p).isSome then _ else t.write path content) = _
  rw [there]
  rfl

/-- What is read is what is where the path leads. -/
theorem read_eq_of_place : t.read path =
    match t.get? p with
    | none => .error .missing
    | some .directory => .error .isDirectory
    | some (.file content) => .ok content := by
  -- Only a file has bytes to read.
  rw [read, find?_of_place led]
  cases t.get? p with
  | none => rfl
  | some e => cases e <;> rfl

/-- A file is removed where its path leads. -/
theorem remove_of_place {content : Bytes} (there : t.get? p = some (.file content)) :
    t.remove path = .ok (t.erase p) := by
  -- A file is removed from its place.
  rw [remove, led]
  simp only [bind, Except.bind, there]

/-- A file is copied from where one path leads to where another one does. -/
theorem copy_of_place {target : String} {q : Path} {content : Bytes} (ledTo : t.place target = .ok q)
    (there : t.get? p = some (.file content)) (free : t.get? q ≠ some .directory)
    (slashless : endsInSlash target = false) :
    t.copy path target = .ok (t.put q (.file content)) := by
  -- The bytes are read first and then written to the other place.
  rw [copy, read_of_place led there]
  exact write_of_place ledTo free slashless content

/-- A file is moved from where one path leads to where another one does. -/
theorem move_of_place {target : String} {q : Path} {content : Bytes} (ledTo : t.place target = .ok q)
    (there : t.get? p = some (.file content)) (free : t.get? q ≠ some .directory)
    (slashless : endsInSlash target = false) (apart : p ≠ q) :
    t.move path target = .ok ((t.put q (.file content)).erase p) := by
  rw [move, read_of_place led there]
  change (t.write target content >>= fun u => u.remove path) = _
  rw [write_of_place ledTo free slashless content]
  -- The file is still in its old place when it has been written to the new one.
  have still : (t.put q (.file content)).get? p = some (.file content) := by
    rw [get?_put, if_neg (fun same => apart same.1), there]
  exact remove_of_place (place_mono (directory_put_file free content) (t.here_put q _) led) still

end

end FileTree

end ImageBuild
