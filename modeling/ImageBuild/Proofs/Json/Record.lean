import ImageBuild.Json.Record
import Mathlib.Algebra.Group.Nat.Defs
import Mathlib.Data.List.Nodup

/-! Objects that are written member by member read back value by value. -/

namespace ImageBuild.Json

variable {α : Type}

/-- What is written of a value is read as that value, and is not the null of a missing one. -/
structure Inverse (read : Json → Option α) (write : α → Json) : Prop where
  read_write : ∀ a, read (write a) = some a
  write_ne_null : ∀ a, write a ≠ .null

/-- Values that read back are written differently. -/
theorem Inverse.injective {read : Json → Option α} {write : α → Json} (inverse : Inverse read write) :
    Function.Injective write := by
  -- Reading is a left inverse.
  intro a b same
  have read := inverse.read_write a
  rw [same, inverse.read_write b] at read
  exact (Option.some.inj read).symm

theorem inverse_string : Inverse string? .string := ⟨fun _ => rfl, fun _ => nofun⟩

theorem inverse_bool : Inverse bool? .bool := ⟨fun _ => rfl, fun _ => nofun⟩

/-- A natural number of so many bits is read as that number, where a word has them. -/
private theorem unsigned?_ofNat {n bits : Nat} (below : n < 2 ^ bits) (word : bits ≤ 64) :
    unsigned? bits (ofNat n) = some n := by
  -- The number is within the bits asked for, and so within a word.
  have fits : n < 2 ^ 64 := Nat.lt_of_lt_of_le below (Nat.pow_le_pow_right (by decide) word)
  have read : Number.toInt? (.ofNat n) = some (n : Int) := if_pos fits
  have within : (0 : Int) ≤ n ∧ (n : Int) < (Nat.pow 2 bits : Nat) :=
    ⟨Int.natCast_nonneg n, Int.ofNat_lt.mpr below⟩
  change Option.map Int.toNat ((Number.toInt? (.ofNat n)).bind _) = _
  rw [read, Option.bind_some, if_pos within, Option.map_some, Int.toNat_natCast]

theorem inverse_uint32 : Inverse uint32? (fun n => ofNat n.toNat) where
  -- A word of 32 bits is written as its number.
  read_write n := by
    rw [uint32?, unsigned?_ofNat n.toNat_lt (by decide), Option.map_some]
    simp
  write_ne_null _ := nofun

theorem inverse_uint64 : Inverse uint64? (fun n => ofNat n.toNat) where
  -- As with 32 bits.
  read_write n := by
    rw [uint64?, unsigned?_ofNat n.toNat_lt (by decide), Option.map_some]
    simp
  write_ne_null _ := nofun

/-- A list reads back where its items do. -/
theorem Inverse.list {read : Json → Option α} {write : α → Json} (inverse : Inverse read write) :
    Inverse (list? read) (fun l => .array (l.map write)) where
  read_write l := by
    -- Each item is read by itself, and none of them fails.
    have items : (l.map write).mapM read = some l := by
      induction l with
      | nil => rfl
      | cons a rest ih => simp [inverse.read_write a, ih]
    exact items
  write_ne_null _ := nofun

/-- The names of members. -/
def namesOf (members : List (String × Json)) : List String := members.map (·.1)

@[simp] theorem namesOf_nil : namesOf [] = [] := rfl

@[simp] theorem namesOf_cons (name : String) (value : Json) (rest : List (String × Json)) :
    namesOf ((name, value) :: rest) = name :: namesOf rest := rfl

@[simp] theorem namesOf_append (l r : List (String × Json)) : namesOf (l ++ r) = namesOf l ++ namesOf r :=
  List.map_append

/-- A member that may be left out has no other name than its own. -/
@[simp] theorem mem_namesOf_field? {name other : String} {value : Option Json} :
    other ∈ namesOf (field? name value) ↔ other = name ∧ value.isSome = true := by
  cases value <;> simp [field?]

theorem mem_field? {name : String} {value : Option Json} {m : String × Json} :
    m ∈ field? name value ↔ m.1 = name ∧ value = some m.2 := by
  -- A field without a value is no member.
  cases value with
  | none => simp [field?]
  | some v => simp [field?, Prod.ext_iff, eq_comm]

@[simp] theorem nodup_namesOf_field? (name : String) (value : Option Json) :
    (namesOf (field? name value)).Nodup := by
  cases value <;> simp [field?]

namespace Record

@[simp] theorem get?_nil (name : String) : get? ⟨[]⟩ name = none := rfl

@[simp] theorem get?_cons (first name : String) (value : Json) (rest : List (String × Json)) :
    get? ⟨(first, value) :: rest⟩ name = if first = name then some value else get? ⟨rest⟩ name := by
  by_cases same : first = name <;> simp [get?, same]

@[simp] theorem get?_append (l r : List (String × Json)) (name : String) :
    get? ⟨l ++ r⟩ name = (get? ⟨l⟩ name).or (get? ⟨r⟩ name) := by
  -- The first of the two lists is searched first.
  simp only [get?, List.find?_append]
  cases l.find? (fun field => field.1 = name) <;> rfl

@[simp] theorem get?_field? (first name : String) (value : Option Json) :
    get? ⟨field? first value⟩ name = if first = name then value else none := by
  cases value <;> simp [field?]

theorem get?_of_not_mem {members : List (String × Json)} {name : String}
    (absent : name ∉ namesOf members) : get? ⟨members⟩ name = none := by
  -- A member found would bear the name.
  rw [get?, List.find?_eq_none.mpr, Option.map_none]
  exact fun m member same => absent (List.mem_map.mpr ⟨m, member, of_decide_eq_true same⟩)

/-- A selection of members by name keeps what stands under these names. -/
theorem get?_filter {names : List String} (members : List (String × Json)) {name : String}
    (known : name ∈ names) :
    get? ⟨members.filter (fun m => names.contains m.1)⟩ name = get? ⟨members⟩ name := by
  -- The name looked for is one of those that are kept.
  have asked : (fun m : String × Json => decide (names.contains m.1 = true ∧ decide (m.1 = name) = true)) =
      fun m => decide (m.1 = name) := by
    funext m
    by_cases same : m.1 = name <;> simp [same, known]
  rw [get?, get?, List.find?_filter, asked]

/-- The order of members of different names does not matter. -/
theorem get?_reverse {members : List (String × Json)} (distinct : (namesOf members).Nodup)
    (name : String) : get? ⟨members.reverse⟩ name = get? ⟨members⟩ name := by
  -- The induction is on the members; the first of them comes last in the reversed list.
  induction members with
  | nil => rfl
  | cons m rest ih =>
    obtain ⟨first, value⟩ := m
    obtain ⟨other, distinct⟩ := List.nodup_cons.mp distinct
    rw [List.reverse_cons, get?_append, ih distinct, get?_cons, get?_cons]
    by_cases same : first = name
    · -- The name is that of the first member only.
      have absent : get? ⟨rest⟩ name = none := get?_of_not_mem (same ▸ other)
      rw [absent, if_pos same, if_pos same, Option.none_or]
    · rw [if_neg same, if_neg same, get?_nil, Option.or_none]

variable {r : Record} {name : String} {read : Json → Option α} {write : α → Json}

theorem required_of_get? (inverse : Inverse read write) {a : α} (found : r.get? name = some (write a)) :
    r.required name read = some a := by
  rw [required, found, Option.bind_some, inverse.read_write]

theorem withDefault_of_get? (inverse : Inverse read write) {a : α} (default : α)
    (found : r.get? name = some (write a)) : r.withDefault name default read = some a := by
  -- A member that is there is read, and the default is not used.
  rw [withDefault, found]
  exact inverse.read_write a

/-- A value that is left out when it is the default is read in either case. -/
theorem withDefault_of_get?_ite (inverse : Inverse read write) {a default : α} {p : Prop} [Decidable p]
    (found : r.get? name = if p then none else some (write a)) (usual : p → a = default) :
    r.withDefault name default read = some a := by
  -- A member is left out only where it would have the default value.
  by_cases missing : p
  · rw [withDefault, found, if_pos missing, usual missing]
  · exact withDefault_of_get? inverse default (found.trans (if_neg missing))

/-- A value that may be missing is read in either case, since it is never written as null. -/
theorem optional_of_get? (inverse : Inverse read write) {value : Option α}
    (found : r.get? name = value.map write) : r.optional name read = some value := by
  cases value with
  | none => rw [optional, found]; rfl
  | some a =>
    -- A value that is written as null would be taken for a missing one.
    have there := inverse.write_ne_null a
    have reads := inverse.read_write a
    rw [optional, found, Option.map_some]
    cases written : write a with
    | null => exact absurd written there
    | _ => rw [written] at reads; simp [reads]

end Record

@[simp] theorem fits_string (depth : Nat) (s : String) : fits depth (.string s) = true := by
  simp [fits]

@[simp] theorem fits_bool (depth : Nat) (b : Bool) : fits depth (.bool b) = true := by simp [fits]

/-- Members fit where the value of each does. -/
theorem membersFit_iff {depth : Nat} {members : List (String × Json)} :
    membersFit depth members = true ↔ ∀ m ∈ members, fits depth m.2 = true := by
  -- The members are checked one after the other.
  induction members with
  | nil => simp [membersFit]
  | cons m rest ih => simp [membersFit, ih]

/-- Members of different names can be told apart, also after a selection. -/
private theorem Record.ofMembers?_of_nodup {members : List (String × Json)}
    (distinct : (namesOf members).Nodup) (names : List String) :
    Record.ofMembers? names members = some ⟨members.filter (fun m => names.contains m.1)⟩ :=
  if_pos (distinct.sublist (List.filter_sublist.map _))

section Objects

variable {members : List (String × Json)}

/-- An object is read as a record of what stands under the known names. -/
theorem exists_namedRecord? (names : List String) (distinct : (namesOf members).Nodup) :
    ∃ r, namedRecord? names (.object members) = some r ∧
      ∀ name ∈ names, r.get? name = Record.get? ⟨members⟩ name :=
  ⟨_, Record.ofMembers?_of_nodup distinct names, fun _ => Record.get?_filter members⟩

/-- What is made of an object is made of what stands under the known names. -/
theorem record?_bind {names : List String} {make : Record → Option α} {a : α}
    (distinct : (namesOf members).Nodup)
    (made : ∀ r, (∀ name ∈ names, r.get? name = Record.get? ⟨members⟩ name) → make r = some a) :
    (record? names (.object members)).bind make = some a := by
  -- The record that is read answers for its names as the members do.
  obtain ⟨r, read, found⟩ := exists_namedRecord? names distinct
  have read : record? names (.object members) = some r := read
  rw [read, Option.bind_some, made r found]

/-- Where the other members have to be readable within a depth, the object is read if they are. -/
theorem exists_openRecord? (depth : Nat) (names : List String) (distinct : (namesOf members).Nodup)
    (fit : ∀ m ∈ members, m.1 ∉ names → fits depth m.2 = true) :
    ∃ r, openRecord? depth names (.object members) = some r ∧
      ∀ name ∈ names, r.get? name = Record.get? ⟨members⟩ name := by
  obtain ⟨r, read, found⟩ := exists_namedRecord? names distinct
  -- The members that the record does not know are only checked for their depth.
  have fitting : membersFit depth (members.filter (fun m => !names.contains m.1)) = true := by
    refine membersFit_iff.mpr fun m member => ?_
    obtain ⟨inside, other⟩ := List.mem_filter.mp member
    exact fit m inside (by simpa using other)
  exact ⟨r, (if_pos fitting).trans read, found⟩

end Objects

end ImageBuild.Json
