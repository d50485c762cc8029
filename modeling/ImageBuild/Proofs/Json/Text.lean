import ImageBuild.Json.Printer
import ImageBuild.Json.Reader
import ImageBuild.Proofs.Text.Digits

/-! What is printed of a value, on one line or on many, is read as that value. -/

namespace ImageBuild.Json

namespace Reader

open Text (digitsValue)

/-- A digit in base sixteen has the value that it was written for. -/
private theorem hexValue?_hexDigit : ∀ n < 16, hexValue? (hexDigit n) = some n := by decide

/-- A unit that is no half of a character is the character with its number. -/
private theorem characters?_unit {n : Nat} (whole : n < 0xD800) (pieces : List Piece) :
    characters? (.unit n :: pieces) = (characters? pieces).map (Char.ofNat n :: ·) := by
  -- A unit below the surrogates stands for itself, whatever follows it.
  have noHigh : ¬(0xD800 ≤ n ∧ n < 0xDC00) := by omega
  have noLow : ¬(0xDC00 ≤ n ∧ n < 0xE000) := by omega
  have noHalf : ¬(0xD800 ≤ n ∧ n < 0xE000) := by omega
  match pieces with
  | [] => rw [characters?.eq_4, if_neg noHalf]; nofun
  | .char c :: rest => rw [characters?.eq_4, if_neg noHalf]; nofun
  | .unit low :: rest => rw [characters?, if_neg noHigh, if_neg noLow]

/-- A letter after a backslash stands for its character. -/
private theorem pieces?_letter {e c : Char} (short : shortEscape? e = some c) (rest : List Char) :
    pieces? ('\\' :: e :: rest) = (pieces? rest).map (fun r => (.char c :: r.1, r.2)) := by
  -- A short escape is not the one with four digits.
  have letter : e ≠ 'u' := by
    rintro rfl
    cases short
  rw [pieces?.eq_4, short]
  · cases pieces? rest <;> rfl
  · rintro a b c d more rfl
    exact absurd rfl letter

/-- A character is read as a piece that stands for it: by its letter, by its number or as it is. -/
private theorem exists_piece (c : Char) : ∃ piece,
    (∀ rest, pieces? (escape c ++ rest) = (pieces? rest).map (fun r => (piece :: r.1, r.2))) ∧
      ∀ pieces, characters? (piece :: pieces) = (characters? pieces).map (c :: ·) := by
  unfold escape
  -- Seven characters have a short escape; of the others those below the blank are escaped by their number.
  split
  · exact ⟨.char '"', pieces?_letter rfl, fun _ => rfl⟩
  · exact ⟨.char '\\', pieces?_letter rfl, fun _ => rfl⟩
  · exact ⟨.char '\x08', pieces?_letter rfl, fun _ => rfl⟩
  · exact ⟨.char '\x0c', pieces?_letter rfl, fun _ => rfl⟩
  · exact ⟨.char '\n', pieces?_letter rfl, fun _ => rfl⟩
  · exact ⟨.char '\r', pieces?_letter rfl, fun _ => rfl⟩
  · exact ⟨.char '\t', pieces?_letter rfl, fun _ => rfl⟩
  · rename_i quote backslash _ _ _ _ _
    split
    next control =>
      -- The two digits are those of a number below 32.
      have high := hexValue?_hexDigit (c.toNat / 16) (by omega)
      have low := hexValue?_hexDigit (c.toNat % 16) (by omega)
      have zero : hexValue? '0' = some 0 := rfl
      have value : (0 * 16 + 0) * 256 + c.toNat / 16 * 16 + c.toNat % 16 = c.toNat := by omega
      refine ⟨.unit c.toNat, fun rest => ?_, fun pieces => ?_⟩
      · rw [List.cons_append, List.cons_append, List.cons_append, List.cons_append,
          List.cons_append, List.cons_append, List.nil_append, pieces?, zero, high, low]
        simp only [Option.bind_eq_bind, Option.bind_some, value]
        cases pieces? rest <;> rfl
      · rw [characters?_unit (by omega), Char.ofNat_toNat]
    next printed =>
      refine ⟨.char c, fun rest => ?_, fun _ => rfl⟩
      have plain : ¬(c.toNat < 0x20 ∨ c = '\\') := not_or.mpr ⟨printed, backslash⟩
      rw [List.singleton_append, pieces?.eq_5, if_neg plain]
      · cases pieces? rest <;> rfl
      · exact quote
      · rintro a b d e more rfl
        exact absurd rfl backslash
      · rintro e more rfl
        exact absurd rfl backslash

/-- A string is read from its characters and its closing quote. -/
theorem exists_pieces (text rest : List Char) : ∃ pieces,
    pieces? (text.flatMap escape ++ '"' :: rest) = some (pieces, rest) ∧
      characters? pieces = some text := by
  -- The induction is on the text, each of whose characters is one piece.
  induction text with
  | nil => exact ⟨[], by simp [pieces?], rfl⟩
  | cons c more ih =>
    obtain ⟨pieces, read, value⟩ := ih
    obtain ⟨piece, reads, stands⟩ := exists_piece c
    refine ⟨piece :: pieces, ?_, ?_⟩
    · rw [List.flatMap_cons, List.append_assoc, reads, read]
      rfl
    · rw [stands, value]
      rfl

/-- What may follow a number without going on with it. -/
def Ends (rest : List Char) : Prop :=
  ∀ c ∈ rest.head?, c.isDigit = false ∧ c ≠ '.' ∧ c ≠ 'e' ∧ c ≠ 'E'

private theorem wholeDigits?_toDigits (n : Nat) {rest : List Char} (ends : Ends rest) :
    wholeDigits? (Nat.toDigits 10 n ++ rest) = some (Nat.toDigits 10 n, rest) := by
  have digits : (Nat.toDigits 10 n ++ rest).takeWhile Char.isDigit = Nat.toDigits 10 n := by
    rw [List.takeWhile_append_of_pos (fun _ => Text.isDigit_of_mem_toDigits)]
    cases rest with
    | nil => simp
    | cons c more => rw [List.takeWhile_cons_of_neg (by simp [(ends c rfl).1]), List.append_nil]
  -- A number has at least one digit and no leading zero, unless it is zero.
  rw [wholeDigits?, digits]
  simp only [List.drop_left]
  split
  · rename_i none_
    obtain ⟨c, more, some_⟩ := Text.exists_toDigits_eq_cons n
    rw [some_] at none_
    cases none_
  · rename_i zero
    exact absurd zero (Text.toDigits_ne_zero_cons n _ _)
  · rfl

private theorem digitsValue_toDigits (n : Nat) : digitsValue (Nat.toDigits 10 n) = n := by
  -- Writing a number in base ten and reading it are inverse.
  rw [Text.digitsValue_eq_ofDigitChars]
  exact Nat.ofDigitChars_ten_toDigits

/-- Digits are read as the whole number that they are written for. -/
private theorem number?_digits (negative : Bool) (n : Nat) {rest : List Char} (ends : Ends rest) :
    number? ((if negative then ['-'] else []) ++ Nat.toDigits 10 n ++ rest) =
      some (⟨negative, n, 0, true⟩, rest) := by
  -- What follows is neither a fraction nor a power of ten.
  have part : partDigits? rest = some (none, rest) := by
    cases rest with
    | nil => rfl
    | cons c more =>
      rw [partDigits?.eq_2]
      rintro more same
      exact (ends c rfl).2.1 (List.cons.inj same).1
  have power : power? rest = some (none, rest) := by
    cases rest with
    | nil => rfl
    | cons c more =>
      have other := ends c rfl
      unfold power?
      exact if_pos ⟨other.2.2.1, other.2.2.2⟩
  -- Up to its end the text is a whole number.
  have whole := wholeDigits?_toDigits n ends
  obtain ⟨c, more, digits⟩ := Text.exists_toDigits_eq_cons n
  have digit : c.isDigit = true := Text.isDigit_of_mem_toDigits (digits ▸ List.mem_cons_self)
  have unsigned : c ≠ '-' := by
    rintro rfl
    cases digit
  -- The reader takes a sign away and starts at a digit else, with the same digits in both cases.
  cases negative with
  | true =>
    change (wholeDigits? (Nat.toDigits 10 n ++ rest)).bind _ = _
    rw [whole]
    simp [part, power, digitsValue_toDigits]
  | false =>
    rw [if_neg Bool.false_ne_true, List.nil_append]
    rw [digits, List.cons_append] at whole ⊢
    unfold number?
    split
    rename_i signed
    split at signed
    · rename_i minus
      exact absurd (List.cons.inj minus).1 unsigned
    · obtain ⟨rfl, rfl⟩ := Prod.mk.inj signed
      simp [whole, part, power, ← digits, digitsValue_toDigits]

/-- Blanks between the parts of a value. -/
def Gap (cs : List Char) : Prop := ∀ c ∈ cs, c = ' ' ∨ c = '\n'

theorem gap_nil : Gap [] := nofun

theorem skipGap_append {gap : List Char} (blank : Gap gap) (rest : List Char) :
    skipGap (gap ++ rest) = skipGap rest := by
  -- The induction is on the gap, whose characters are skipped one by one.
  induction gap with
  | nil => rfl
  | cons c more ih =>
    have first : isGap c = true := by
      rcases blank c List.mem_cons_self with rfl | rfl <;> decide
    rw [List.cons_append, skipGap, List.dropWhile_cons, if_pos first]
    exact ih fun d member => blank d (List.mem_cons_of_mem _ member)

private theorem ends_mark {c : Char} (mark : c.isDigit = false ∧ c ≠ '.' ∧ c ≠ 'e' ∧ c ≠ 'E')
    (rest : List Char) : Ends (c :: rest) := by
  -- What ends the number is the mark itself.
  intro d head
  obtain rfl : c = d := Option.some.inj head
  exact mark

/-- Blanks do not go on with a number, and what follows them does not join it. -/
private theorem ends_append {gap : List Char} (blank : Gap gap) {c : Char}
    (mark : c.isDigit = false ∧ c ≠ '.' ∧ c ≠ 'e' ∧ c ≠ 'E') (rest : List Char) :
    Ends (gap ++ c :: rest) := by
  -- Either the gap ends the number or, when there is none, the mark does.
  cases gap with
  | nil => exact ends_mark mark rest
  | cons b more =>
    refine ends_mark ?_ _
    rcases blank b List.mem_cons_self with rfl | rfl <;> decide

end Reader

/-- The numbers that are whole and fit a word, as they are written digit by digit. -/
structure Number.IsWord (n : Number) : Prop where
  integral : n.integral = true
  exponent : n.exponent = 0
  fits : n.toInt?.isSome = true

mutual

/-- The texts of a value, with any blanks between its parts. -/
inductive Spells : Json → List Char → Prop
  | null : Spells .null "null".toList
  | bool (b : Bool) : Spells (.bool b) (if b then "true" else "false").toList
  | number {n : Number} (word : n.IsWord) : Spells (.number n) n.text.toList
  | string (s : String) : Spells (.string s) (quote s)
  | noItems : Spells (.array []) ['[', ']']
  | array {items : List Json} {gap cs : List Char} (blank : Reader.Gap gap)
      (spelled : SpellItems items cs) : Spells (.array items) ('[' :: (gap ++ cs))
  | noMembers : Spells (.object []) ['\x7b', '\x7d']
  | object {members : List (String × Json)} {gap cs : List Char} (blank : Reader.Gap gap)
      (spelled : SpellMembers members cs) : Spells (.object members) ('\x7b' :: (gap ++ cs))

/-- The texts of the items of an array, with its end. -/
inductive SpellItems : List Json → List Char → Prop
  | last {item : Json} {cs gap : List Char} (spelled : Spells item cs) (blank : Reader.Gap gap) :
      SpellItems [item] (cs ++ (gap ++ [']']))
  | next {item : Json} {items : List Json} {cs gap ds : List Char} (spelled : Spells item cs)
      (blank : Reader.Gap gap) (more : SpellItems items ds) :
      SpellItems (item :: items) (cs ++ ',' :: (gap ++ ds))

/-- The texts of the members of an object, with its end. -/
inductive SpellMembers : List (String × Json) → List Char → Prop
  | last {name : String} {value : Json} {before cs gap : List Char} (early : Reader.Gap before)
      (spelled : Spells value cs) (blank : Reader.Gap gap) :
      SpellMembers [(name, value)] (quote name ++ ':' :: (before ++ (cs ++ (gap ++ ['\x7d']))))
  | next {name : String} {value : Json} {members : List (String × Json)}
      {before cs gap ds : List Char} (early : Reader.Gap before) (spelled : Spells value cs)
      (blank : Reader.Gap gap) (more : SpellMembers members ds) :
      SpellMembers ((name, value) :: members)
        (quote name ++ ':' :: (before ++ (cs ++ ',' :: (gap ++ ds))))

end

open Reader

/-- A number of a word is written with its sign and its digits. -/
private theorem Number.IsWord.toList_text {n : Number} (word : n.IsWord) :
    n.text.toList = (if n.negative then ['-'] else []) ++ Nat.toDigits 10 n.digits := by
  -- A whole number is written without a fraction.
  rw [text, if_pos word.integral, String.toList_append, Text.toList_toString]
  split <;> rfl

private theorem skipGap_mark {c : Char} (mark : c = '-' ∨ c.isDigit = true) (more : List Char) :
    skipGap (c :: more) = c :: more := by
  -- Neither a sign nor a digit belongs to a gap.
  have other : c ≠ ' ' ∧ c ≠ '\n' ∧ c ≠ '\t' ∧ c ≠ '\r' := by
    rcases mark with rfl | digit
    · decide
    · refine ⟨?_, ?_, ?_, ?_⟩ <;> (rintro rfl; cases digit)
  simp [skipGap, isGap, other]

/-- How a number begins. -/
private theorem Number.IsWord.exists_cons {n : Number} (word : n.IsWord) :
    ∃ c rest, n.text.toList = c :: rest ∧ (c = '-' ∨ c.isDigit = true) := by
  -- The text begins with the sign or, without one, with a digit.
  rw [word.toList_text]
  cases n.negative with
  | true => exact ⟨_, _, rfl, .inl rfl⟩
  | false =>
    obtain ⟨c, more, digits⟩ := Text.exists_toDigits_eq_cons n.digits
    exact ⟨c, more, digits, .inr (Text.isDigit_of_mem_toDigits (digits ▸ List.mem_cons_self))⟩

/-- What begins like a number is read as one. -/
private theorem value?_number (fuel : Nat) {c : Char} (mark : c = '-' ∨ c.isDigit = true)
    (more : List Char) : value? (fuel + 1) (c :: more) = (number? (c :: more)).map
      (fun r => (if r.1.inRange then .number r.1 else .unreadable, r.2)) := by
  -- The marks with which other values begin are neither signs nor digits.
  have other : ∀ d, d ≠ '-' → d.isDigit = false → c ≠ d := by
    rintro d sign digit rfl
    rcases mark with rfl | isDigit
    · exact sign rfl
    · rw [digit] at isDigit
      cases isDigit
  rw [value?, skipGap_mark mark]
  -- All the other values are told by their first character.
  split
  all_goals rename_i same
  · cases same
  · exact absurd (List.cons.inj same).1 (other _ (by decide) rfl)
  · exact absurd (List.cons.inj same).1 (other _ (by decide) rfl)
  · exact absurd (List.cons.inj same).1 (other _ (by decide) rfl)
  · exact absurd (List.cons.inj same).1 (other _ (by decide) rfl)
  · exact absurd (List.cons.inj same).1 (other _ (by decide) rfl)
  · exact absurd (List.cons.inj same).1 (other _ (by decide) rfl)
  · obtain ⟨rfl, rfl⟩ := List.cons.inj same
    cases number? (c :: more) <;> rfl

/-- How the text of a value begins: with no blank and with no closing mark. -/
private theorem Spells.exists_cons {j : Json} {cs : List Char} (spelled : Spells j cs) :
    ∃ c rest, cs = c :: rest ∧ c ≠ ']' ∧ ∀ more, skipGap (c :: more) = c :: more := by
  -- Each kind of value begins with a character of its own, none of which is skipped or closes an array.
  cases spelled with
  | null => exact ⟨_, _, rfl, by decide, fun _ => rfl⟩
  | bool b => cases b <;> exact ⟨_, _, rfl, by decide, fun _ => rfl⟩
  | number word =>
    obtain ⟨c, rest, text, mark⟩ := word.exists_cons
    refine ⟨c, rest, text, ?_, skipGap_mark mark⟩
    rintro rfl
    rcases mark with sign | digit
    · cases sign
    · cases digit
  | string s => exact ⟨_, _, rfl, by decide, fun _ => rfl⟩
  | noItems => exact ⟨_, _, rfl, by decide, fun _ => rfl⟩
  | array => exact ⟨_, _, rfl, by decide, fun _ => rfl⟩
  | noMembers => exact ⟨_, _, rfl, by decide, fun _ => rfl⟩
  | object => exact ⟨_, _, rfl, by decide, fun _ => rfl⟩

private theorem SpellItems.exists_cons {items : List Json} {cs : List Char}
    (spelled : SpellItems items cs) :
    ∃ c rest, cs = c :: rest ∧ c ≠ ']' ∧ ∀ more, skipGap (c :: more) = c :: more := by
  -- The text of the items begins with that of the first one.
  cases spelled with
  | last spelled | next spelled =>
    obtain ⟨c, rest, rfl, start⟩ := spelled.exists_cons
    exact ⟨c, _, rfl, start⟩

private theorem SpellMembers.exists_cons {members : List (String × Json)} {cs : List Char}
    (spelled : SpellMembers members cs) : ∃ rest, cs = '"' :: rest := by
  -- A member begins with its quoted name.
  cases spelled with
  | last | next => exact ⟨_, rfl⟩

/-- Blanks before a value are passed over. -/
private theorem value?_append (fuel : Nat) {gap : List Char} (blank : Gap gap) (cs : List Char) :
    value? fuel (gap ++ cs) = value? fuel cs := by
  -- A value skips the gap before it.
  cases fuel with
  | zero => rfl
  | succ fuel => rw [value?, value?, skipGap_append blank]

/-- Blanks before items are those before the first of them. -/
private theorem items?_append (fuel : Nat) {gap : List Char} (blank : Gap gap) (cs : List Char) :
    items? fuel (gap ++ cs) = items? fuel cs := by
  -- The first item does.
  cases fuel with
  | zero => rfl
  | succ fuel => rw [items?, items?, value?_append fuel blank]

private theorem members?_append (fuel : Nat) {gap : List Char} (blank : Gap gap) (cs : List Char) :
    Reader.members? fuel (gap ++ cs) = Reader.members? fuel cs := by
  -- The first name is looked for after the gap.
  cases fuel with
  | zero => rfl
  | succ fuel => rw [Reader.members?, Reader.members?, skipGap_append blank]

/-- An array is read from its items when it does not end at once. -/
private theorem value?_array (fuel : Nat) {c : Char} (closing : c ≠ ']') {cs more : List Char}
    (start : skipGap cs = c :: more) :
    value? (fuel + 1) ('[' :: cs) = (items? fuel (c :: more)).map (fun r => (.array r.1, r.2)) := by
  -- An array that does not close at once has items.
  have bracket : skipGap ('[' :: cs) = '[' :: cs := rfl
  rw [value?, bracket]
  simp only [start]
  split
  · rename_i same
    exact absurd (List.cons.inj same).1 closing
  · rfl

/-- An object is read from its members, whose names are all readable when they are written. -/
private theorem value?_object (fuel : Nat) {cs more rest : List Char}
    (start : skipGap cs = '"' :: more) {members : List (String × Json)}
    (read : Reader.members? fuel ('"' :: more) =
      some (members.map (fun m => (some m.1, m.2)), rest)) :
    value? (fuel + 1) ('\x7b' :: cs) = some (.object members, rest) := by
  have brace : skipGap ('\x7b' :: cs) = '\x7b' :: cs := rfl
  -- Every name is known, so none of the members is dropped.
  have named : (members.map (fun m => (some m.1, m.2))).mapM
      (fun m : Option String × Json => m.1.map (·, m.2)) = some members := by
    -- The induction is on the members alone.
    clear read
    induction members with
    | nil => rfl
    | cons m others ih =>
      rw [List.map_cons, List.mapM_cons, ih]
      rfl
  rw [value?, brace]
  simp only [start]
  change (Reader.members? fuel ('"' :: more)).bind _ = _
  rw [read, Option.bind_some]
  simp only [named]

/-- A member is read up to what follows its value. -/
private theorem members?_member (fuel : Nat) (name : String) {before : List Char}
    (early : Gap before) (cs : List Char) :
    Reader.members? (fuel + 1) (quote name ++ ':' :: (before ++ cs)) =
      (value? fuel cs).bind (fun r =>
        match skipGap r.2 with
        | ',' :: rest => (Reader.members? fuel rest).map (fun m => ((some name, r.1) :: m.1, m.2))
        | '\x7d' :: rest => some ([(some name, r.1)], rest)
        | _ => none) := by
  obtain ⟨pieces, read, value⟩ := exists_pieces name.toList (':' :: (before ++ cs))
  have colon : skipGap (':' :: (before ++ cs)) = ':' :: (before ++ cs) := rfl
  -- A name begins with a quote, so there is nothing to skip before it.
  have quoted : skipGap (quote name ++ ':' :: (before ++ cs)) =
      '"' :: (name.toList.flatMap escape ++ '"' :: ':' :: (before ++ cs)) := by
    simp [quote, skipGap, isGap]
  rw [Reader.members?, quoted]
  simp only [read, Option.bind_eq_bind, Option.bind_some, colon, value, Option.map_some,
    String.ofList_toList]
  exact congrArg (Option.bind · _) (value?_append fuel early cs)

mutual

/-- A value is read from each of its texts. -/
theorem Spells.read {j : Json} {cs : List Char} (spelled : Spells j cs) {fuel : Nat}
    (enough : cs.length < fuel) {rest : List Char} (ends : Ends rest) :
    value? fuel (cs ++ rest) = some (j, rest) := by
  obtain ⟨fuel, rfl⟩ : ∃ more, fuel = more + 1 := ⟨fuel - 1, by omega⟩
  -- The induction is on the spelling; fuel that exceeds the length of the text is enough for all that is inside.
  cases spelled with
  | null => rfl
  | bool b => cases b <;> rfl
  | number word =>
    rename_i n
    obtain ⟨c, more, text, mark⟩ := word.exists_cons
    have digits := number?_digits n.negative n.digits ends
    -- A word is its sign and its digits, and nothing else.
    have same : n = ⟨n.negative, n.digits, 0, true⟩ := by
      rw [← word.integral, ← word.exponent]
    have within : n.inRange = true := by
      rw [Number.inRange, word.fits, Bool.true_or]
    rw [← word.toList_text, ← same, text, List.cons_append] at digits
    rw [text, List.cons_append, value?_number fuel mark, digits, Option.map_some]
    simp only [within, if_true]
  | string s =>
    obtain ⟨pieces, read, value⟩ := exists_pieces s.toList rest
    change (pieces? (s.toList.flatMap escape ++ ['"'] ++ rest)).bind _ = _
    rw [List.append_assoc, List.singleton_append, read, Option.bind_some]
    simp only [value, String.ofList_toList]
  | noItems => rfl
  | array blank items =>
    simp only [List.length_cons, List.length_append] at enough
    -- The items are shorter than the array, so that what is left of the fuel is enough for them.
    have within : items? fuel _ = some (_, rest) := items.read (by omega) rest
    obtain ⟨c, more, text, closing, start⟩ := items.exists_cons
    rw [text, List.cons_append] at within
    rw [text, List.cons_append, List.append_assoc, List.cons_append,
      value?_array fuel closing ((skipGap_append blank _).trans (start _)), within,
      Option.map_some]
  | noMembers => rfl
  | object blank members =>
    simp only [List.length_cons, List.length_append] at enough
    have within : Reader.members? fuel _ = some (_, rest) := members.read (by omega) rest
    obtain ⟨more, text⟩ := members.exists_cons
    rw [text, List.cons_append] at within
    rw [text, List.cons_append, List.append_assoc, List.cons_append]
    exact value?_object fuel ((skipGap_append blank _).trans rfl) within

/-- The items of an array are read from each of their texts. -/
theorem SpellItems.read {items : List Json} {cs : List Char} (spelled : SpellItems items cs)
    {fuel : Nat} (enough : cs.length < fuel) (rest : List Char) :
    items? fuel (cs ++ rest) = some (items, rest) := by
  obtain ⟨fuel, rfl⟩ : ∃ more, fuel = more + 1 := ⟨fuel - 1, by omega⟩
  cases spelled with
  | last spelled blank =>
    simp only [List.length_append, List.length_cons] at enough
    -- After blanks or none there comes the end of the array, with which no number goes on.
    have item : value? fuel _ = some (_, _) :=
      spelled.read (by omega) (ends_append blank (c := ']') (by decide) rest)
    have close : skipGap (']' :: rest) = ']' :: rest := rfl
    rw [List.append_assoc, List.append_assoc, List.singleton_append, items?, item]
    simp only [Option.bind_eq_bind, Option.bind_some, skipGap_append blank, close]
  | next spelled blank more =>
    rename_i items cs gap ds
    simp only [List.length_append, List.length_cons] at enough
    have item : value? fuel _ = some (_, ',' :: (gap ++ (ds ++ rest))) :=
      spelled.read (by omega) (ends_mark (by decide) _)
    -- The other items are shorter than all of them together.
    have others : items? fuel _ = some (_, rest) := more.read (by omega) rest
    have comma : skipGap (',' :: (gap ++ (ds ++ rest))) = ',' :: (gap ++ (ds ++ rest)) := rfl
    rw [List.append_assoc, List.cons_append, List.append_assoc, items?, item]
    simp only [Option.bind_eq_bind, Option.bind_some, comma, items?_append fuel blank, others,
      Option.map_some]

/-- The members of an object are read from each of their texts. -/
theorem SpellMembers.read {members : List (String × Json)} {cs : List Char}
    (spelled : SpellMembers members cs) {fuel : Nat} (enough : cs.length < fuel)
    (rest : List Char) :
    Reader.members? fuel (cs ++ rest) = some (members.map (fun m => (some m.1, m.2)), rest) := by
  obtain ⟨fuel, rfl⟩ : ∃ more, fuel = more + 1 := ⟨fuel - 1, by omega⟩
  cases spelled with
  | last early spelled blank =>
    rename_i name value before cs gap
    simp only [List.length_append, List.length_cons] at enough
    -- The value ends where the object closes.
    have item : value? fuel _ = some (_, _) :=
      spelled.read (by omega) (ends_append blank (c := '\x7d') (by decide) rest)
    have close : skipGap ('\x7d' :: rest) = '\x7d' :: rest := rfl
    have text : quote name ++ ':' :: (before ++ (cs ++ (gap ++ ['\x7d']))) ++ rest =
        quote name ++ ':' :: (before ++ (cs ++ (gap ++ '\x7d' :: rest))) := by simp
    rw [text, members?_member fuel name early, item, Option.bind_some]
    simp only [skipGap_append blank, close]
    rfl
  | next early spelled blank more =>
    rename_i name value members before cs gap ds
    simp only [List.length_append, List.length_cons] at enough
    have item : value? fuel _ = some (_, ',' :: (gap ++ (ds ++ rest))) :=
      spelled.read (by omega) (ends_mark (by decide) _)
    -- After the comma come the other members, for which there is fuel enough.
    have others : Reader.members? fuel _ = some (_, rest) := more.read (by omega) rest
    have comma : skipGap (',' :: (gap ++ (ds ++ rest))) = ',' :: (gap ++ (ds ++ rest)) := rfl
    have text : quote name ++ ':' :: (before ++ (cs ++ ',' :: (gap ++ ds))) ++ rest =
        quote name ++ ':' :: (before ++ (cs ++ ',' :: (gap ++ (ds ++ rest)))) := by simp
    rw [text, members?_member fuel name early, item, Option.bind_some]
    simp only [comma, members?_append fuel blank, others, Option.map_some]
    rfl

end

/-- A text that spells a value denotes it. -/
theorem Spells.read?_ofList {j : Json} {cs : List Char} (spelled : Spells j cs) :
    read? (String.ofList cs) = some j := by
  -- The reader starts with fuel for twice the length.
  have ends : Ends [] := nofun
  have read : value? (2 * cs.length + 2) _ = some (_, _) := spelled.read (by omega) ends
  rw [List.append_nil] at read
  rw [read?, String.toList_ofList]
  simp only [read, Option.bind_eq_bind, Option.bind_some]
  rfl

mutual

/-- Values that have a text: they are readable, and their numbers are words. -/
def Plain : Json → Prop
  | .unreadable => False
  | .number n => n.IsWord
  | .array items => AllPlain items
  | .object members => MembersPlain members
  | _ => True

/-- Items that have a text. -/
def AllPlain : List Json → Prop
  | [] => True
  | item :: rest => Plain item ∧ AllPlain rest

/-- Members that have a text. -/
def MembersPlain : List (String × Json) → Prop
  | [] => True
  | (_, value) :: rest => Plain value ∧ MembersPlain rest

end

mutual

/-- The text on one line is one of the texts of a value. -/
theorem spells_compactChars : ∀ j : Json, Plain j → Spells j (compactChars j)
  | .null, _ => .null
  | .bool b, _ => .bool b
  | .number _, word => .number word
  | .string s, _ => .string s
  | .array [], _ => .noItems
  | .array (item :: rest), plain => .array gap_nil (spells_compactItems item rest plain)
  | .object [], _ => .noMembers
  | .object (m :: rest), plain => .object gap_nil (spells_compactMembers m rest plain)
termination_by j => sizeOf j

theorem spells_compactItems : ∀ (item : Json) (rest : List Json), AllPlain (item :: rest) →
    SpellItems (item :: rest) (compactItems (item :: rest))
  | item, [], plain => .last (spells_compactChars item plain.1) gap_nil
  | item, next :: rest, plain =>
    .next (spells_compactChars item plain.1) gap_nil
      (spells_compactItems next rest plain.2)
termination_by item rest => sizeOf (item :: rest)

theorem spells_compactMembers : ∀ (m : String × Json) (rest : List (String × Json)),
    MembersPlain (m :: rest) → SpellMembers (m :: rest) (compactMembers (m :: rest))
  | (name, value), [], plain => by
    have spelled := spells_compactChars value plain.1
    have text : SpellMembers [(name, value)] _ := .last gap_nil spelled gap_nil
    simpa [compactMembers] using text
  | (name, value), next :: rest, plain => by
    have spelled := spells_compactChars value plain.1
    have more := spells_compactMembers next rest plain.2
    have text : SpellMembers ((name, value) :: _) _ := .next gap_nil spelled gap_nil more
    simpa [compactMembers] using text
termination_by m rest => sizeOf (m :: rest)

end

/-- The start of a line is blank. -/
private theorem gap_newline (depth : Nat) : Gap (newline depth) := by
  -- A line break and blanks.
  intro c member
  rcases List.mem_cons.mp member with rfl | blank
  · exact .inr rfl
  · exact .inl (List.eq_of_mem_replicate blank)

private theorem gap_blank : Gap [' '] := by
  -- One blank.
  intro c member
  exact .inl (List.mem_singleton.mp member)

mutual

/-- The text on many lines is one of the texts of a value, wherever it stands. -/
theorem spells_prettyChars : ∀ (depth : Nat) (j : Json), Plain j → Spells j (prettyChars depth j)
  | _, .null, _ => .null
  | _, .bool b, _ => .bool b
  | _, .number _, word => .number word
  | _, .string s, _ => .string s
  | _, .array [], _ => .noItems
  | depth, .array (item :: rest), plain => by
    have items := spells_prettyItems depth item rest plain
    simpa [prettyChars] using Spells.array (gap_newline (depth + 1)) items
  | _, .object [], _ => .noMembers
  | depth, .object (m :: rest), plain => by
    have members := spells_prettyMembers depth m rest plain
    simpa [prettyChars] using Spells.object (gap_newline (depth + 1)) members
termination_by _ j => sizeOf j

theorem spells_prettyItems : ∀ (depth : Nat) (item : Json) (rest : List Json),
    AllPlain (item :: rest) →
      SpellItems (item :: rest) (prettyChars (depth + 1) item ++ prettyItems depth rest)
  | depth, item, [], plain =>
    .last (spells_prettyChars (depth + 1) item plain.1) (gap_newline depth)
  | depth, item, next :: rest, plain => by
    have spelled := spells_prettyChars (depth + 1) item plain.1
    have more := spells_prettyItems depth next rest plain.2
    simpa [prettyItems] using SpellItems.next spelled (gap_newline (depth + 1)) more
termination_by _ item rest => sizeOf (item :: rest)

theorem spells_prettyMembers : ∀ (depth : Nat) (m : String × Json) (rest : List (String × Json)),
    MembersPlain (m :: rest) → SpellMembers (m :: rest)
      (quote m.1 ++ ':' :: ' ' :: (prettyChars (depth + 1) m.2 ++ prettyMembers depth rest))
  | depth, (name, value), [], plain => by
    have spelled := spells_prettyChars (depth + 1) value plain.1
    -- The last member is followed by the closing brace.
    have text : SpellMembers [(name, value)] _ := .last gap_blank spelled (gap_newline depth)
    simpa [prettyMembers] using text
  | depth, (name, value), next :: rest, plain => by
    have spelled := spells_prettyChars (depth + 1) value plain.1
    -- The other members are spelled by recursion.
    have more := spells_prettyMembers depth next rest plain.2
    have text : SpellMembers ((name, value) :: _) _ :=
      .next gap_blank spelled (gap_newline (depth + 1)) more
    simpa [prettyMembers] using text
termination_by _ m rest => sizeOf (m :: rest)

end

/-- The text on one line denotes the value that it is printed for. -/
theorem Plain.read?_compact {j : Json} (plain : Plain j) : read? j.compact = some j :=
  (spells_compactChars j plain).read?_ofList

/-- The text on many lines denotes the value that it is printed for. -/
theorem Plain.read?_pretty {j : Json} (plain : Plain j) : read? j.pretty = some j :=
  (spells_prettyChars 0 j plain).read?_ofList

end ImageBuild.Json
