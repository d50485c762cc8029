import ImageBuild.Yaml.Document
import ImageBuild.Yaml.Scalar

/-! Reading the nodes of a document by the names of their entries. -/

namespace ImageBuild.Yaml

namespace Node

mutual

/-- The number of steps in which a node is read. -/
def steps : Node → Nat
  | .empty | .alias _ | .scalar .. => 1
  | .anchored _ content => steps content
  | .sequence _ items => 2 + itemSteps items
  | .mapping _ entries => 2 + entrySteps entries

/-- The number of steps in which items are read. -/
def itemSteps : List Node → Nat
  | [] => 0
  | item :: rest => steps item + itemSteps rest

/-- The number of steps in which entries are read. -/
def entrySteps : List (Node × Node) → Nat
  | [] => 0
  | (key, value) :: rest => steps key + steps value + entrySteps rest

end

end Node

/-- The tag of a kind of scalars. -/
def coreTag (name : String) : String := "tag:yaml.org,2002:" ++ name

/-- Whether a scalar may be read as what it denotes: plain, or in lines with the tag of the kind. -/
def isPlainly (name : String) (tag : Option String) (style : Style) : Bool :=
  style = .plain || (style = .literal && tag = some (coreTag name))

/-- The values under the known names of a mapping, each at most once. -/
structure Record where
  document : Document
  fields : List (String × Node)

namespace Document

/-- The text of a scalar of any style. -/
def text? (d : Document) (n : Node) : Option String :=
  match d.resolve? n with
  | some (.scalar _ _ text) => some text
  | _ => none

/-- The truth value of a scalar. -/
def bool? (d : Document) (n : Node) : Option Bool :=
  match d.resolve? n with
  | some (.scalar tag style text) => if isPlainly "bool" tag style then truth? text else none
  | _ => none

/-- The natural number of 32 bits of a scalar. -/
def uint32? (d : Document) (n : Node) : Option UInt32 :=
  match d.resolve? n with
  | some (.scalar tag style text) =>
    if isPlainly "int" tag style then
      ((uint64? text).filter (· < Nat.pow 2 32)).map Nat.toUInt32
    else none
  | _ => none

/-- The floating-point number of a scalar. -/
def float? (d : Document) (n : Node) : Option Binary64 :=
  match d.resolve? n with
  | some (.scalar tag style text) => if isPlainly "float" tag style then Yaml.float? text else none
  | _ => none

/-- Whether a node is there but says nothing, or whether that cannot be told. -/
def isNothing? (d : Document) (n : Node) : Option Bool :=
  match d.resolve? n with
  | none => none
  | some .empty => some true
  | some (.scalar (some tag) _ text) =>
    -- A tag that promises null has to be right.
    if tag = coreTag "null" then (if isNull text then some true else none)
    else some false
  | some (.scalar none style text) => some (style = .plain && (text.isEmpty || isNull text))
  | some _ => some false

/-- The name of a choice without contents: a text, or a local tag on nothing. -/
def choice? (d : Document) (n : Node) : Option String :=
  match d.resolve? n with
  | some (.scalar tag style text) =>
    match tag.map String.toList with
    | some ('!' :: name) =>
      if style = .plain ∧ (text.isEmpty ∨ isNull text) then some (String.ofList name) else none
    | _ => some text
  | _ => none

/-- The entries of a mapping, of which a node without any text has none. -/
def entries? (d : Document) (n : Node) : Option (List (Node × Node)) :=
  match d.resolve? n with
  | some .empty => some []
  | some (.mapping _ entries) => some entries
  | some (.scalar _ .plain text) => if text.isEmpty then some [] else none
  | _ => none

/-- The entries of a mapping with the texts of their keys. -/
def members? (d : Document) (n : Node) : Option (List (String × Node)) := do
  (← d.entries? n).mapM (fun entry => (d.text? entry.1).map (·, entry.2))

/-- A mapping by its known names; other entries are passed over. -/
def record? (d : Document) (names : List String) (n : Node) : Option Record := do
  let known := (← d.members? n).filter (fun m => names.contains m.1)
  if (known.map (·.1)).Nodup then some ⟨d, known⟩ else none

/-- The kind of a scalar with its tag, if it has one that can be read without knowing what is wanted. -/
def kind? (tag : Option String) (style : Style) (text : String) : Option Kind :=
  match tag with
  | none => some (if style = .plain then kind text else .text)
  | some tag =>
    if tag.toList.head? = some '!' then none
    else if tag = coreTag "bool" then (truth? text).map (fun _ => .bool)
    else if tag = coreTag "int" then intKind? text
    else if tag = coreTag "float" then (Yaml.float? text).map (fun _ => .float)
    else if tag = coreTag "null" then (if isNull text then some .null else none)
    else some .text

/-- Whether a tag lets a collection be read without knowing what is wanted. -/
def isOpenTag (tag : Option String) : Bool :=
  match tag with
  | some tag => tag.toList.head? ≠ some '!'
  | none => true

/-- The aliases that may still be followed after a node has been read without knowing what is wanted:
not too deep, no integer too wide, no local tag. -/
def follow? (d : Document) : Nat → Nat → Node → Option Nat
  | depth, left, n => do
    let isAlias := match n with
      | .alias _ => true
      | _ => false
    -- Aliases of aliases could make a short text long, so only so many are followed.
    let left ← if isAlias then (if left = 0 then none else some (left - 1)) else some left
    match ← d.resolve? n with
    | .scalar tag style text =>
      let kind ← kind? tag style text
      -- A value that is kept for later holds integers of 64 bits at most.
      if kind = .wideInt then none else some left
    | .sequence tag items =>
      match depth with
      | 0 => none
      | depth + 1 =>
        if isOpenTag tag then items.foldlM (fun left item => follow? d depth left item) left else none
    | .mapping tag entries =>
      match depth with
      | 0 => none
      | depth + 1 =>
        if isOpenTag tag then
          entries.foldlM
            (fun left entry => do follow? d depth (← follow? d depth left entry.1) entry.2) left
        else none
    | _ => some left

/-- The aliases that may be followed while a document is read. -/
def followLimit (d : Document) : Nat := 100 * d.root.steps

/-- A text that is one whatever is wanted. -/
def plainText? (d : Document) (n : Node) : Option String :=
  match d.resolve? n with
  | some (.scalar tag style text) => if kind? tag style text = some .text then some text else none
  | _ => none

end Document

namespace Record

variable {α : Type}

/-- The value under a name. -/
def get? (r : Record) (name : String) : Option Node :=
  (r.fields.find? (fun field => field.1 = name)).map (·.2)

/-- A value that has to be there. -/
def required (r : Record) (name : String) (read : Document → Node → Option α) : Option α :=
  (r.get? name).bind (read r.document)

/-- A value that has a default. -/
def withDefault (r : Record) (name : String) (default : α) (read : Document → Node → Option α) :
    Option α :=
  match r.get? name with
  | some n => read r.document n
  | none => some default

/-- A value that may be missing or say nothing. -/
def optional (r : Record) (name : String) (read : Document → Node → Option α) :
    Option (Option α) :=
  match r.get? name with
  | some n => do if ← r.document.isNothing? n then some none else (read r.document n).map some
  | none => some none

end Record

end ImageBuild.Yaml
