import ImageBuild.Proofs.Context.Mountable
import ImageBuild.Proofs.Worker.Places
import Mathlib.Computability.Language
import Mathlib.Order.CompletePartialOrder

/-! The grammar of the names that builds may have, and what it makes of the names of their objects. -/

namespace ImageBuild.Name

open scoped Computability

section Languages

/-- One of some characters. -/
def oneOf (chars : Set Char) : Language Char := {word | ∃ c ∈ chars, word = [c]}

/-- `[ends]([inner]*[ends])?`: words of inner characters that begin and end with characters fit for it. -/
def enclosed (ends inner : Set Char) : Language Char := oneOf ends * (1 + (oneOf inner)∗ * oneOf ends)

/-- Words of some characters and dashes, without a dash at their ends. -/
def label (ends : Set Char) : Language Char := enclosed ends (insert '-' ends)

/-- `part(\.part)*`: parts with a point between any two. -/
def dotted (part : Language Char) : Language Char := part * (oneOf {'.'} * part)∗

/-- The letters and digits of ASCII: `[A-Za-z0-9]`. -/
def alphanumeric : Set Char := {c | 'A' ≤ c ∧ c ≤ 'Z' ∨ 'a' ≤ c ∧ c ≤ 'z' ∨ '0' ≤ c ∧ c ≤ '9'}

/-- The small letters and digits of ASCII: `[a-z0-9]`. -/
def smallAlphanumeric : Set Char := {c | 'a' ≤ c ∧ c ≤ 'z' ∨ '0' ≤ c ∧ c ≤ '9'}

/-- `(([A-Za-z0-9][-A-Za-z0-9_.]*)?[A-Za-z0-9])?`: the values of labels of a cluster, of any length. -/
def labelValue : Language Char :=
  1 + (1 + oneOf alphanumeric * (oneOf ({'-', '_', '.'} ∪ alphanumeric))∗) * oneOf alphanumeric

end Languages

/-- The names of objects of a cluster: DNS-1123 subdomains in lower case. -/
structure IsSubdomain (name : String) : Prop where
  grammar : name.toList ∈ dotted (label smallAlphanumeric)
  length : name.length ≤ 253

/-- The values of labels of a cluster. -/
structure IsLabelValue (value : String) : Prop where
  grammar : value.toList ∈ labelValue
  length : value.length ≤ 63

variable {ends inner : Set Char} {part : Language Char} {word : List Char}

/-- A word of some characters is one for which all its characters are fit. -/
theorem mem_kstar_oneOf {chars : Set Char} : word ∈ (oneOf chars)∗ ↔ ∀ c ∈ word, c ∈ chars := by
  rw [Language.mem_kstar]
  -- A word over a set of characters is a sequence of words of one character each.
  constructor
  · rintro ⟨singles, rfl, each⟩ c member
    obtain ⟨single, inside, member⟩ := List.mem_flatten.mp member
    obtain ⟨d, fit, rfl⟩ := each single inside
    rwa [List.mem_singleton.mp member]
  · intro each
    refine ⟨word.map ([·]), by simp [← List.flatMap_def], fun single inside => ?_⟩
    obtain ⟨c, member, rfl⟩ := List.mem_map.mp inside
    exact ⟨c, each c member, rfl⟩

/-- An enclosed word is one of inner characters whose first and whose last one are fit for the ends. -/
theorem mem_enclosed_iff (within : ends ⊆ inner) :
    word ∈ enclosed ends inner ↔
      (∃ first ∈ ends, word.head? = some first) ∧ (∃ last ∈ ends, word.getLast? = some last) ∧
        ∀ c ∈ word, c ∈ inner := by
  simp only [enclosed, Language.mem_mul, Language.mem_add, Language.mem_one, mem_kstar_oneOf]
  constructor
  · rintro ⟨_, ⟨first, fit, rfl⟩, _, rfl | ⟨middle, between, _, ⟨last, lastFit, rfl⟩, rfl⟩, rfl⟩
    · -- A single character is both the first and the last one.
      exact ⟨⟨first, fit, rfl⟩, ⟨first, fit, rfl⟩, by simpa using within fit⟩
    -- Every character is the first one, a middle one or the last one.
    · have ended : ((first :: middle) ++ [last]).getLast? = some last := List.getLast?_concat
      refine ⟨⟨first, fit, rfl⟩, ⟨last, lastFit, ended⟩, fun c member => ?_⟩
      simp only [List.singleton_append, List.mem_cons, List.mem_append, List.not_mem_nil,
        or_false] at member
      rcases member with rfl | member | rfl
      · exact within fit
      · exact between c member
      · exact within lastFit
  · rintro ⟨⟨first, fit, begun⟩, ⟨last, lastFit, ended⟩, all⟩
    obtain ⟨rest, rfl⟩ := List.head?_eq_some_iff.mp begun
    refine ⟨[first], ⟨first, fit, rfl⟩, rest, ?_, rfl⟩
    rcases rest.eq_nil_or_concat with rfl | ⟨middle, c, rfl⟩
    · exact .inl rfl
    · -- What comes after the first character ends with the last one.
      rw [List.concat_eq_append] at ended all ⊢
      obtain rfl : c = last := by
        rw [← List.cons_append, List.getLast?_concat] at ended
        exact Option.some.inj ended
      exact .inr ⟨middle, fun d member => all d (by simp [member]), [c], ⟨c, lastFit, rfl⟩, rfl⟩

/-- Dotted words are made up of parts with points between them. -/
theorem mem_dotted_iff : word ∈ dotted part ↔
    ∃ parts, parts ≠ [] ∧ (∀ p ∈ parts, p ∈ part) ∧ word = ['.'].intercalate parts := by
  -- Every part but the first one comes after a point.
  have pointed : ∀ (first : List Char) (rest : List (List Char)),
      ['.'].intercalate (first :: rest) = first ++ (rest.map ('.' :: ·)).flatten := by
    intro first rest
    induction rest generalizing first with
    | nil => simp [List.intercalate]
    | cons next rest ih => rw [List.intercalate_cons_cons, ih]; simp
  simp only [dotted, Language.mem_mul, Language.mem_kstar]
  constructor
  · rintro ⟨first, fit, _, ⟨chunks, rfl, each⟩, rfl⟩
    -- Each chunk is a part with a point before it.
    obtain ⟨rest, rfl, fits⟩ : ∃ rest : List (List Char), chunks = rest.map ('.' :: ·) ∧
        ∀ p ∈ rest, p ∈ part := by
      induction chunks with
      | nil => exact ⟨[], rfl, nofun⟩
      | cons chunk chunks ih =>
        obtain ⟨rest, rfl, fits⟩ := ih fun c member => each c (List.mem_cons_of_mem _ member)
        obtain ⟨_, ⟨_, rfl, rfl⟩, p, pFit, rfl⟩ := Language.mem_mul.mp (each _ List.mem_cons_self)
        exact ⟨p :: rest, rfl, List.forall_mem_cons.mpr ⟨pFit, fits⟩⟩
    exact ⟨first :: rest, List.cons_ne_nil _ _, List.forall_mem_cons.mpr ⟨fit, fits⟩,
      (pointed first rest).symm⟩
  · rintro ⟨parts, some_, each, rfl⟩
    obtain ⟨first, rest, rfl⟩ := List.exists_cons_of_ne_nil some_
    rw [List.forall_mem_cons] at each
    refine ⟨first, each.1, _, ⟨rest.map ('.' :: ·), rfl, fun chunk inside => ?_⟩,
      (pointed first rest).symm⟩
    obtain ⟨p, member, rfl⟩ := List.mem_map.mp inside
    exact Language.mem_mul.mpr ⟨['.'], ⟨'.', rfl, rfl⟩, p, each.2 p member, rfl⟩

/-- What may come before a part may come before dotted ones. -/
theorem append_mem_dotted {front : List Char} (fits : ∀ p ∈ part, front ++ p ∈ part)
    (member : word ∈ dotted part) : front ++ word ∈ dotted part := by
  rw [mem_dotted_iff] at member ⊢
  obtain ⟨parts, some_, each, rfl⟩ := member
  obtain ⟨first, rest, rfl⟩ := List.exists_cons_of_ne_nil some_
  rw [List.forall_mem_cons] at each
  -- What is put before the word goes into its first part.
  obtain ⟨rear, joined⟩ := Text.exists_intercalate_cons '.' rest
  refine ⟨(front ++ first) :: rest, List.cons_ne_nil _ _,
    List.forall_mem_cons.mpr ⟨fits first each.1, each.2⟩, ?_⟩
  rw [joined, joined, List.append_assoc]

/-- What may come after a part may come after dotted ones. -/
theorem mem_dotted_append {rear : List Char} (fits : ∀ p ∈ part, p ++ rear ∈ part)
    (member : word ∈ dotted part) : word ++ rear ∈ dotted part := by
  rw [mem_dotted_iff] at member ⊢
  obtain ⟨parts, some_, each, rfl⟩ := member
  obtain ⟨before, last, rfl⟩ := (parts.eq_nil_or_concat').resolve_left some_
  rw [List.forall_mem_append, List.forall_mem_singleton] at each
  -- What is put after it goes into the last part.
  obtain ⟨front, joined⟩ := Text.exists_intercalate_concat '.' before
  refine ⟨before ++ [last ++ rear], by simp,
    List.forall_mem_append.mpr ⟨each.1, List.forall_mem_singleton.mpr (fits last each.2)⟩, ?_⟩
  rw [joined, joined, List.append_assoc]

/-- Some characters and dashes may come before a label, if they begin like one. -/
theorem append_mem_label {front : List Char} (begun : ∃ first ∈ ends, front.head? = some first)
    (all : ∀ c ∈ front, c ∈ insert '-' ends) :
    ∀ p ∈ label ends, front ++ p ∈ label ends := by
  intro p member
  obtain ⟨first, fit, begun⟩ := begun
  obtain ⟨-, ⟨last, lastFit, ended⟩, inside⟩ := (mem_enclosed_iff (Set.subset_insert _ _)).mp member
  -- The longer word ends like the shorter one, which is not empty.
  refine (mem_enclosed_iff (Set.subset_insert _ _)).mpr
    ⟨⟨first, fit, by simp [begun]⟩, ⟨last, lastFit, by simp [ended]⟩, ?_⟩
  exact List.forall_mem_append.mpr ⟨all, inside⟩

/-- Some characters and dashes may come after a label, if they end like one. -/
theorem mem_label_append {rear : List Char} (ended : ∃ last ∈ ends, rear.getLast? = some last)
    (all : ∀ c ∈ rear, c ∈ insert '-' ends) :
    ∀ p ∈ label ends, p ++ rear ∈ label ends := by
  intro p member
  -- The first character stays, and the last one is now that of the addition.
  obtain ⟨last, fit, ended⟩ := ended
  obtain ⟨⟨first, firstFit, begun⟩, -, inside⟩ := (mem_enclosed_iff (Set.subset_insert _ _)).mp member
  refine (mem_enclosed_iff (Set.subset_insert _ _)).mpr
    ⟨⟨first, firstFit, by simp [begun]⟩, ⟨last, fit, by simp [ended]⟩, ?_⟩
  exact List.forall_mem_append.mpr ⟨inside, all⟩

/-- Dotted labels begin and end like labels, and hold points besides. -/
theorem dotted_le_enclosed : dotted (label ends) ≤ enclosed ends ({'-', '_', '.'} ∪ ends) := by
  intro word member
  obtain ⟨parts, some_, each, rfl⟩ := mem_dotted_iff.mp member
  have each : ∀ p ∈ parts, _ := fun p inside =>
    (mem_enclosed_iff (Set.subset_insert _ _)).mp (each p inside)
  refine (mem_enclosed_iff Set.subset_union_right).mpr ⟨?_, ?_, fun c member => ?_⟩
  · -- The first part is where the word begins.
    obtain ⟨p, rest, rfl⟩ := List.exists_cons_of_ne_nil some_
    obtain ⟨⟨first, fit, begun⟩, -, -⟩ := each p List.mem_cons_self
    obtain ⟨rear, joined⟩ := Text.exists_intercalate_cons '.' rest
    exact ⟨first, fit, by simp [joined, begun]⟩
  -- The last part is where it ends.
  · obtain ⟨before, p, rfl⟩ := (parts.eq_nil_or_concat').resolve_left some_
    obtain ⟨-, ⟨last, fit, ended⟩, -⟩ := each p (by simp)
    obtain ⟨front, joined⟩ := Text.exists_intercalate_concat '.' before
    exact ⟨last, fit, by simp [joined, ended]⟩
  -- Each character is a point between two parts or belongs to one of them.
  · rcases Text.of_mem_intercalate member with rfl | ⟨p, inside, member⟩
    · simp
    · rcases (each p inside).2.2 c member with rfl | fit
      · simp
      · exact .inr fit

/-- An enclosed word with nothing said about its end is followed by one that ends it. -/
theorem labelValue_eq : labelValue = 1 + enclosed alphanumeric ({'-', '_', '.'} ∪ alphanumeric) := by
  simp only [labelValue, enclosed, add_mul, mul_add, one_mul, mul_one, mul_assoc]

theorem isAlphanumeric_iff {c : Char} : isAlphanumeric c = true ↔ c ∈ alphanumeric := by
  -- The tests of the library are the ranges of the grammar, in another order.
  have letter : c.isAlpha = (decide ('A'.val ≤ c.val ∧ c.val ≤ 'Z'.val) ||
      decide ('a'.val ≤ c.val) && decide (c.val ≤ 'z'.val)) := rfl
  simp only [isAlphanumeric, letter, Char.isDigit, Bool.or_eq_true, Bool.and_eq_true,
    decide_eq_true_eq, alphanumeric, Set.mem_ofPred_eq, Char.le_def, or_assoc]

/-- A part that the check allows is a label. -/
theorem isSegment_iff : isSegment word = true ↔ word ∈ label alphanumeric := by
  rw [label, mem_enclosed_iff (Set.subset_insert _ _)]
  unfold isSegment
  split
  -- With a first and a last character, these are tested and then all the others.
  · rename_i first last begun ended
    simp only [begun, ended, Bool.and_eq_true, List.all_eq_true, Bool.or_eq_true, decide_eq_true_eq,
      isAlphanumeric_iff, Set.mem_insert_iff, Option.some.injEq, and_assoc]
    simp [or_comm]
  · -- A word without a first or a last character is empty.
    rename_i missing
    simp only [Bool.false_eq_true, false_iff, not_and]
    rintro ⟨first, -, begun⟩ ⟨last, -, ended⟩
    exact (missing first last begun ended).elim

/-- The lower case of a letter or digit is a small letter or a digit. -/
theorem toLower_mem {c : Char} (member : c ∈ alphanumeric) : c.toLower ∈ smallAlphanumeric := by
  simp only [alphanumeric, smallAlphanumeric, Set.mem_ofPred_eq, Char.le_def,
    UInt32.le_iff_toNat_le, Char.toNat_val, Char.reduceToNat] at member ⊢
  by_cases capital : c.val ≥ 'A'.val ∧ c.val ≤ 'Z'.val
  · -- Capitals lie at one distance before their small letters.
    have code : c.toLower.toNat = (c.toNat + 32) % 2 ^ 32 :=
      congrArg Char.toNat (dif_pos capital)
    simp only [ge_iff_le, UInt32.le_iff_toNat_le, Char.toNat_val, Char.reduceToNat] at capital
    omega
  -- Anything else is left as it is.
  · have code : c.toLower = c := dif_neg capital
    simp only [ge_iff_le, UInt32.le_iff_toNat_le, Char.toNat_val, Char.reduceToNat] at capital
    rw [code]
    omega

section Monotone

variable {wider widerInner : Set Char}

theorem oneOf_mono (within : ends ⊆ wider) : oneOf ends ≤ oneOf wider :=
  fun _ ⟨c, fit, same⟩ => ⟨c, within fit, same⟩

/-- More characters make more words. -/
theorem enclosed_mono (within : ends ⊆ wider) (withinInner : inner ⊆ widerInner) :
    enclosed ends inner ≤ enclosed wider widerInner :=
  -- Every part of the expression is monotone.
  mul_le_mul' (oneOf_mono within)
    (add_le_add_right (mul_le_mul' (kstar_mono (oneOf_mono withinInner)) (oneOf_mono within)) 1)

/-- More parts make more words. -/
theorem dotted_mono {more : Language Char} (within : part ≤ more) : dotted part ≤ dotted more :=
  mul_le_mul' within (kstar_mono (mul_le_mul' le_rfl within))

end Monotone

/-- The lower case of dotted labels consists of dotted labels. -/
theorem map_toLower_le :
    Language.map Char.toLower (dotted (label alphanumeric)) ≤ dotted (label smallAlphanumeric) := by
  have single (chars : Set Char) :
      Language.map Char.toLower (oneOf chars) = oneOf (Char.toLower '' chars) := by
    ext word
    constructor
    · rintro ⟨_, ⟨c, fit, rfl⟩, rfl⟩
      exact ⟨_, ⟨c, fit, rfl⟩, rfl⟩
    · rintro ⟨_, ⟨c, fit, rfl⟩, rfl⟩
      exact ⟨_, ⟨c, fit, rfl⟩, rfl⟩
  -- Lower case goes through the grammar, whose point and dash it leaves as they are.
  have lowered : Language.map Char.toLower (dotted (label alphanumeric)) =
      dotted (enclosed (Char.toLower '' alphanumeric) (Char.toLower '' insert '-' alphanumeric)) := by
    simp only [dotted, label, enclosed, map_mul, map_add, map_one, Language.map_kstar, single,
      Set.image_singleton]
    rfl
  -- Letters become small ones, and digits stay.
  have within : Char.toLower '' alphanumeric ⊆ smallAlphanumeric := by
    rintro _ ⟨c, fit, rfl⟩
    exact toLower_mem fit
  rw [lowered, Set.image_insert_eq]
  exact dotted_mono (enclosed_mono within (Set.insert_subset_insert within))

section Valid

variable {name : String}

/-- A name is allowed just if it has from one byte to as many as a label may have, and follows the grammar. -/
theorem isValid_iff : isValid name = true ↔
    (1 ≤ name.utf8ByteSize ∧ name.utf8ByteSize ≤ 63) ∧ name.toList ∈ dotted (label alphanumeric) := by
  -- No label has a point in it, so that the name splits at the points into its labels.
  have pointless : ∀ p ∈ label alphanumeric, '.' ∉ p := fun p member point =>
    absurd (((mem_enclosed_iff (Set.subset_insert _ _)).mp member).2.2 '.' point)
      (by simp [alphanumeric, Char.le_def])
  have grammar : (∀ p ∈ Text.splitAll '.' name.toList, isSegment p = true) ↔
      name.toList ∈ dotted (label alphanumeric) := by
    simp only [isSegment_iff, mem_dotted_iff]
    constructor
    · intro each
      exact ⟨_, Text.splitAll_ne_nil _ _, each, (Text.intercalate_splitAll _ _).symm⟩
    · rintro ⟨parts, some_, each, made⟩
      rwa [made, Text.splitAll_intercalate some_ fun p inside => pointless p (each p inside)]
  -- A name has a byte exactly when it is not empty.
  have some_ : name.isEmpty = false ↔ 1 ≤ name.utf8ByteSize := by
    rw [Nat.one_le_iff_ne_zero, Ne, String.utf8ByteSize_eq_zero_iff, ← String.isEmpty_iff,
      Bool.not_eq_true]
  simp only [isValid, Bool.and_eq_true, Bool.not_eq_true', decide_eq_true_eq, List.all_eq_true,
    some_, grammar]
  rfl

/-- A name that a build may have is the value of a label. -/
theorem isLabelValue_of_isValid (valid : isValid name = true) : IsLabelValue name := by
  -- The grammar of names is contained in that of label values, and the characters are no more than the bytes.
  obtain ⟨⟨-, short⟩, grammar⟩ := isValid_iff.mp valid
  refine ⟨?_, (Context.length_le_utf8ByteSize name).trans short⟩
  rw [labelValue_eq, Language.mem_add]
  exact .inr (dotted_le_enclosed grammar)

/-- Lower case leaves a name as long as it is. -/
theorem length_surrounded (valid : isValid name = true) (stem ending : String) :
    (stem ++ "-" ++ Text.lower name ++ ending).length
      = stem.length + 1 + name.length + ending.length := by
  -- Lower case keeps the number of characters.
  have lowered : (Text.lower name).length = name.length := by
    rw [← String.length_toList, Text.toList_lower_of_ascii (ascii_of_isValid valid), List.length_map,
      String.length_toList]
  simp only [String.length_append, lowered]
  rfl

/-- Names of objects are made of the name of a build in lower case, which fits between a label and an ending. -/
theorem isSubdomain_of_isValid {stem ending : String} (valid : isValid name = true)
    (stemmed : stem.toList ∈ label smallAlphanumeric) (short : stem.length ≤ 181)
    (ended : ∃ last ∈ smallAlphanumeric, ending.toList.getLast? = some last)
    (all : ∀ c ∈ ending.toList, c ∈ insert '-' smallAlphanumeric) (eight : ending.length = 8) :
    IsSubdomain (stem ++ "-" ++ Text.lower name ++ ending) := by
  obtain ⟨⟨-, few⟩, grammar⟩ := isValid_iff.mp valid
  constructor
  -- The stem goes into the first label of the name, and the ending into the last one.
  · have lower : (Text.lower name).toList ∈ dotted (label smallAlphanumeric) := by
      rw [Text.toList_lower_of_ascii (ascii_of_isValid valid)]
      exact map_toLower_le ⟨_, grammar, rfl⟩
    obtain ⟨⟨first, fit, begun⟩, -, inside⟩ := (mem_enclosed_iff (Set.subset_insert _ _)).mp stemmed
    have front : ∀ c ∈ stem.toList ++ ['-'], c ∈ insert '-' smallAlphanumeric :=
      List.forall_mem_append.mpr ⟨inside, by simp⟩
    simp only [String.toList_append]
    exact mem_dotted_append (mem_label_append ended all)
      (append_mem_dotted (append_mem_label ⟨first, fit, by simp [begun]⟩ front) lower)
  -- Stem, dash, name and ending: 181, 1, 63 and 8 characters at most.
  · have few := (Context.length_le_utf8ByteSize name).trans few
    rw [length_surrounded valid]
    omega

end Valid

/-- A name is allowed just if it has 1 to 63 bytes and matches the grammar of names, and any allowed name is the value
of a label, and makes names of a pod and a ConfigMap that a cluster accepts, behind whatever label of at most 181
characters. -/
theorem allowed_names_are_grammar (name : String) :
    (isValid name = true ↔
      (1 ≤ name.utf8ByteSize ∧ name.utf8ByteSize ≤ 63) ∧ name.toList ∈ dotted (label alphanumeric)) ∧
    (isValid name = true → IsLabelValue name ∧
      ∀ stem : String, stem.toList ∈ label smallAlphanumeric → stem.length ≤ 181 →
        IsSubdomain (workerPod stem name) ∧ IsSubdomain (contextMap stem name)) := by
  refine ⟨isValid_iff, fun valid => ⟨isLabelValue_of_isValid valid, fun stem stemmed short => ?_⟩⟩
  -- Both endings have eight characters and end with a letter.
  refine ⟨isSubdomain_of_isValid valid stemmed short ⟨'r', ?_, rfl⟩ ?_ rfl,
    isSubdomain_of_isValid valid stemmed short ⟨'t', ?_, rfl⟩ ?_ rfl⟩
  all_goals simp [smallAlphanumeric, Char.le_def]

/-- The longest name, in two parts, and of both cases. -/
def longestName : String := String.ofList (List.replicate 31 'a' ++ '.' :: List.replicate 31 'Z')

/-- A stem that is one letter, time and again. -/
def repeatedStem (n : Nat) : String := String.ofList (List.replicate n 'a')

theorem repeatedStem_mem (n : Nat) (some_ : n ≠ 0) :
    (repeatedStem n).toList ∈ label smallAlphanumeric := by
  rw [repeatedStem, String.toList_ofList, label, mem_enclosed_iff (Set.subset_insert _ _)]
  have fit : 'a' ∈ smallAlphanumeric := by simp [smallAlphanumeric, Char.le_def]
  -- All characters are the same letter, the first and the last one included.
  refine ⟨⟨'a', fit, ?_⟩, ⟨'a', fit, ?_⟩, fun c member => ?_⟩
  · rw [List.head?_replicate, if_neg some_]
  · rw [List.getLast?_replicate, if_neg some_]
  · rw [List.eq_of_mem_replicate member]
    exact .inr fit

theorem length_repeatedStem (n : Nat) : (repeatedStem n).length = n := by
  rw [repeatedStem, String.length_ofList, List.length_replicate]

/-- The longest name behind the longest stem makes a name of as many characters as there may be. -/
theorem allowed_names_are_grammar_longestName :
    isValid longestName = true ∧ IsLabelValue longestName ∧
    (repeatedStem 181).toList ∈ label smallAlphanumeric ∧ (repeatedStem 181).length ≤ 181 ∧
    IsSubdomain (workerPod (repeatedStem 181) longestName) ∧
    (workerPod (repeatedStem 181) longestName).length = 253 ∧
    IsSubdomain (contextMap (repeatedStem 181) longestName) := by
  -- The longest stem and the longest name together reach the limit of a subdomain.
  have valid : isValid longestName = true := by decide +kernel
  have stemmed := repeatedStem_mem 181 (by decide)
  have short : (repeatedStem 181).length ≤ 181 := (length_repeatedStem 181).le
  obtain ⟨value, subdomains⟩ := (allowed_names_are_grammar longestName).2 valid
  obtain ⟨pod, map⟩ := subdomains (repeatedStem 181) stemmed short
  have length : (workerPod (repeatedStem 181) longestName).length = 253 := by
    have named : longestName.length = 63 := by decide +kernel
    rw [workerPod, length_surrounded valid, length_repeatedStem, named]
    rfl
  exact ⟨valid, value, stemmed, short, pod, length, map⟩

end ImageBuild.Name
