import ImageBuild.Json.Basic

/-! Reading values by the names of their members. -/

namespace ImageBuild.Json

/-- The values under the known names of an object, each at most once. -/
structure Record where
  fields : List (String × Json)

/-- The members with known names, unless one comes twice. -/
def Record.ofMembers? (names : List String) (members : List (String × Json)) : Option Record :=
  let known := members.filter (fun m => names.contains m.1)
  -- Which of two values of one name is meant cannot be told.
  if (known.map (·.1)).Nodup then some ⟨known⟩ else none

/-- An object by its known names; other members are passed over. -/
def namedRecord? (names : List String) : Json → Option Record
  | .object members => Record.ofMembers? names members
  | _ => none

/-- An object by its known names, or an array that gives their values in order. -/
def record? (names : List String) : Json → Option Record
  | .object members => Record.ofMembers? names members
  | .array items => if items.length ≤ names.length then some ⟨names.zip items⟩ else none
  | _ => none

/-- An object by its known names, where also the other members have to be readable within a depth. -/
def openRecord? (depth : Nat) (names : List String) : Json → Option Record
  | .object members =>
    let others := members.filter (fun m => !names.contains m.1)
    if membersFit depth others then Record.ofMembers? names members else none
  | _ => none

namespace Record

variable {α : Type}

/-- The value under a name. -/
def get? (r : Record) (name : String) : Option Json :=
  (r.fields.find? (fun field => field.1 = name)).map (·.2)

/-- A value that has to be there. -/
def required (r : Record) (name : String) (read : Json → Option α) : Option α :=
  (r.get? name).bind read

/-- A value that has a default. -/
def withDefault (r : Record) (name : String) (default : α) (read : Json → Option α) : Option α :=
  match r.get? name with
  | some j => read j
  | none => some default

/-- A value that may be missing or null. -/
def optional (r : Record) (name : String) (read : Json → Option α) : Option (Option α) :=
  match r.get? name with
  | none | some .null => some none
  | some j => (read j).map some

end Record

/-- A text. -/
def string? : Json → Option String
  | .string s => some s
  | _ => none

/-- A truth value. -/
def bool? : Json → Option Bool
  | .bool b => some b
  | _ => none

/-- An integer within bounds, the upper one excluded. -/
def int? (low high : Int) : Json → Option Int
  | .number n => n.toInt?.bind (fun i => if low ≤ i ∧ i < high then some i else none)
  | _ => none

/-- An integer of some bits, one of them for the sign. -/
def signed? (bits : Nat) (j : Json) : Option Int :=
  let bound : Int := Nat.pow 2 (bits - 1)
  j.int? (-bound) bound

/-- A natural number of some bits. -/
def unsigned? (bits : Nat) (j : Json) : Option Nat := (j.int? 0 (Nat.pow 2 bits)).map Int.toNat

/-- A natural number of 32 bits. -/
def uint32? (j : Json) : Option UInt32 := (j.unsigned? 32).map Nat.toUInt32

/-- A natural number of 64 bits. -/
def uint64? (j : Json) : Option UInt64 := (j.unsigned? 64).map Nat.toUInt64

/-- A list of values of one kind. -/
def list? {α : Type} (read : Json → Option α) : Json → Option (List α)
  | .array items => items.mapM read
  | _ => none

/-- Members of one kind, in their order. -/
def members? {α : Type} (read : Json → Option α) : Json → Option (List (String × α))
  | .object members => members.mapM (fun m => (read m.2).map (m.1, ·))
  | _ => none

/-- The name of a choice without contents: a text, or the only member, which is null. -/
def choice? : Json → Option String
  | .string s => some s
  | .object [(name, .null)] => some name
  | _ => none

/-- A member that is written only when its value is there. -/
def field? (name : String) (value : Option Json) : List (String × Json) :=
  match value with
  | some value => [(name, value)]
  | none => []

end ImageBuild.Json
