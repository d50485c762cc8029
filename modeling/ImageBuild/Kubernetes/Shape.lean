import ImageBuild.Build.Json
import ImageBuild.Text.Base64

/-! Shapes of values in Kubernetes objects, and the one form in which a value of a shape is written. -/

namespace ImageBuild.Kubernetes

/-- What a value looks like. A field of a record has a name, and a value that stands for a missing one
where it has to be there. -/
inductive Shape
  | text
  | bool
  | int (bits : Nat)
  | time
  | microTime
  | bytes
  | intOrText
  | any
  | list (item : Shape)
  | dict (value : Shape)
  | record (fields : List (String × Option Json × Shape))

namespace Shape

/-- A field that may be missing. -/
def may (name : String) (shape : Shape) : String × Option Json × Shape := (name, none, shape)

/-- A field that is written always, by a default where it is missing. -/
def must (name : String) (default : Json) (shape : Shape) : String × Option Json × Shape :=
  (name, some default, shape)

/-- Text fields that may be missing. -/
def texts (names : List String) : List (String × Option Json × Shape) := names.map (may · .text)

/-- Truth values that may be missing. -/
def flags (names : List String) : List (String × Option Json × Shape) := names.map (may · .bool)

/-- A text field that is written always. -/
def name (name : String) : String × Option Json × Shape := must name (.string "") .text

/-- The last value under a name that is not null. -/
def given? (name : String) (members : List (String × Json)) : Option Json :=
  match members.reverse.find? (fun m => m.1 = name) with
  | some (_, .null) | none => none
  | some (_, value) => some value

/-- The texts of a dictionary by increasing key, of which the last of one name counts. -/
def sorted (members : List (String × Json)) : List (String × Json) := (Dict.ofList members).entries

mutual

/-- The written form of a value, if it has the shape. -/
def normal? : Shape → Json → Option Json
  | .text, j => j.string?.map .string
  | .bool, j => j.bool?.map .bool
  | .int bits, j => (j.signed? bits).map .ofInt
  | .time, j => (Instant.ofJson? j).map (fun t => .string t.toSecondsText)
  | .microTime, j => (Instant.ofJson? j).map (fun t => .string t.toMicrosText)
  | .bytes, j => (j.string?.bind Text.Base64.decode?).map (fun b => .string (Text.Base64.encode b))
  | .intOrText, j =>
    match j with
    | .string s => some (.string s)
    | j => (j.signed? 32).map .ofInt
  | .any, j => if j.fits 126 then some j else none
  | .list item, .array items => (items.mapM (normal? item)).map .array
  | .dict value, .object members =>
    (members.mapM (fun m => (normal? value m.2).map (m.1, ·))).map (fun l => .object (sorted l))
  | .record fields, .object members => (fields? fields members).map .object
  | _, _ => none

/-- The written forms of the fields of a record; other members are dropped. -/
def fields? : List (String × Option Json × Shape) → List (String × Json) →
    Option (List (String × Json))
  | [], _ => some []
  | (name, default, shape) :: rest, members => do
    -- A missing value is no fault: where it has to be there its default is written.
    let value ← match given? name members with
      | some j => (normal? shape j).map some
      | none => some default
    let more ← fields? rest members
    some (Json.field? name value ++ more)

end

end Shape

/-- The known fields of an object that nothing but its readers and writers look at. -/
abbrev Others := List (String × Json)

/-- An object for reading: its members, where the last of one name counts and null stands for none. -/
structure Members where
  entries : List (String × Json)

namespace Members

variable {α : Type}

/-- The members of an object. -/
def ofJson? : Json → Option Members
  | .object members => some ⟨members⟩
  | _ => none

/-- A value that may be missing. -/
def may (m : Members) (name : String) (read : Json → Option α) : Option (Option α) :=
  match Shape.given? name m.entries with
  | some j => (read j).map some
  | none => some none

/-- A value with a default. -/
def must (m : Members) (name : String) (default : α) (read : Json → Option α) : Option α :=
  (m.may name read).map (·.getD default)

/-- The fields that are kept as they are. -/
def others (m : Members) (fields : List (String × Option Json × Shape)) : Option Others :=
  Shape.fields? fields m.entries

/-- Whether a member that names the kind of the object names the right one, if it is there at all. -/
def names (m : Members) (name value : String) : Bool :=
  (m.entries.filter (fun e => e.1 = name)).all (fun e => e.2.string? = some value)

end Members

/-- A dictionary as JSON. -/
def dictToJson {α : Type} (write : α → Json) (d : Dict String α) : Json :=
  .object (d.entries.map (fun e => (e.1, write e.2)))

/-- The dictionary that JSON denotes. -/
def dictOfJson? {α : Type} (read : Json → Option α) (j : Json) : Option (Dict String α) :=
  (j.members? read).map Dict.ofList

/-- Bytes as JSON. -/
def bytesToJson (b : Bytes) : Json := .string (Text.Base64.encode b)

/-- The bytes that JSON denotes. -/
def bytesOfJson? (j : Json) : Option Bytes := j.string?.bind Text.Base64.decode?

/-- A list as JSON. -/
def listToJson {α : Type} (write : α → Json) (l : List α) : Json := .array (l.map write)

/-- A moment as it is written in objects. -/
def timeToJson (t : Instant) : Json := .string t.toSecondsText

end ImageBuild.Kubernetes
