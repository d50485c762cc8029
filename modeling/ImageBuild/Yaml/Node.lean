import ImageBuild.Yaml.Token.Basic

/-! The nodes of a YAML document, made of its tokens. -/

namespace ImageBuild.Yaml

/-- A node. A tag is there only when it is written, and stands in full length. -/
inductive Node
  | empty
  | alias (id : Nat)
  | anchored (id : Nat) (content : Node)
  | scalar (tag : Option String) (style : Style) (text : String)
  | sequence (tag : Option String) (items : List Node)
  | mapping (tag : Option String) (entries : List (Node × Node))
  deriving Inhabited

namespace Node

/-- The scalar that stands where nothing is written. -/
def missing : Node := .scalar none .plain ""

/-- What is known while nodes are read: the handles of tags, the numbers of anchors, the tokens left. -/
structure Reading where
  handles : List (String × String)
  anchors : List (String × Nat)
  tokens : List Token

/-- The handles that are known without a directive. -/
def standardHandles : List (String × String) := [("!", "!"), ("!!", "tag:yaml.org,2002:")]

namespace Reading

/-- The reading after the next token. -/
def skip (r : Reading) : Reading := { r with tokens := r.tokens.drop 1 }

/-- The reading with a number for an anchor; names that are used again keep their count. -/
def anchor (r : Reading) (name : String) : Nat × Reading :=
  let id := r.anchors.length
  (id, { r with anchors := (name, id) :: r.anchors.filter (fun a => a.1 ≠ name) })

/-- The number of an anchor. -/
def anchor? (r : Reading) (name : String) : Option Nat :=
  (r.anchors.find? (fun a => a.1 = name)).map (·.2)

/-- The full form of a tag. -/
def tag? (r : Reading) (handle rest : String) : Option String :=
  if handle.isEmpty then some rest
  else (r.handles.find? (fun h => h.1 = handle)).map (fun h => h.2 ++ rest)

/-- Whether the next token is one of some, or the tokens have ended. -/
def isAt (r : Reading) (stops : List Token) : Bool :=
  match r.tokens with
  | t :: _ => stops.contains t
  | [] => true

end Reading

/-- The properties before a node: its anchor and its tag, in either order. -/
def properties? (r : Reading) : Option (Option String × Option String × Reading) :=
  match r.tokens with
  | .anchor name :: .tag handle rest :: tokens | .tag handle rest :: .anchor name :: tokens => do
    let tag ← r.tag? handle rest
    some (some name, some tag, { r with tokens := tokens })
  | .anchor name :: tokens => some (some name, none, { r with tokens := tokens })
  | .tag handle rest :: tokens => do
    let tag ← r.tag? handle rest
    some (none, some tag, { r with tokens := tokens })
  | _ => some (none, none, r)

/-- The tag of a written scalar, which an exclamation mark alone does not give. -/
def scalarTag (tag : Option String) : Option String := tag.filter (fun t => t ≠ "!" && !t.isEmpty)

mutual

/-- A node at the start of the tokens. Inside a block its collections may be blocks, and as a value
also a sequence at the indentation of its key. -/
def node? : Nat → Bool → Bool → Reading → Option (Node × Reading)
  | 0, _, _, _ => none
  | fuel + 1, block, indentless, r =>
    match r.tokens with
    | .alias name :: _ => (r.anchor? name).map (fun id => (.alias id, r.skip))
    | _ => do
      let (name, tag, r) ← properties? r
      match name with
      | none => content? fuel block indentless tag tag.isSome r
      | some name =>
        let (id, r) := r.anchor name
        let (content, r) ← content? fuel block indentless tag true r
        some (.anchored id content, r)

/-- What follows the properties of a node; where there are some it may be nothing. -/
def content? : Nat → Bool → Bool → Option String → Bool → Reading → Option (Node × Reading)
  | 0, _, _, _, _, _ => none
  | fuel + 1, block, indentless, tag, mayMiss, r =>
    -- An anchor or a tag may stand before nothing, which is an empty scalar then.
    let nothing := if mayMiss then some (.scalar tag .plain "", r) else none
    match r.tokens with
    | .scalar text style :: _ => some (.scalar (scalarTag tag) style text, r.skip)
    | .flowSequenceStart :: _ =>
      (flowItems? fuel true r.skip).map (fun p => (.sequence tag p.1, p.2))
    | .flowMappingStart :: _ =>
      (flowEntries? fuel true r.skip).map (fun p => (.mapping tag p.1, p.2))
    | .blockEntry :: _ =>
      if indentless then (looseItems? fuel r).map (fun p => (.sequence tag p.1, p.2)) else nothing
    | .blockSequenceStart :: _ =>
      if block then (blockItems? fuel r.skip).map (fun p => (.sequence tag p.1, p.2)) else nothing
    | .blockMappingStart :: _ =>
      if block then (blockEntries? fuel r.skip).map (fun p => (.mapping tag p.1, p.2)) else nothing
    | _ => nothing

/-- The items of a block sequence up to its end. -/
def blockItems? : Nat → Reading → Option (List Node × Reading)
  | 0, _ => none
  | fuel + 1, r =>
    match r.tokens with
    | .blockEntry :: _ => do
      let (item, r) ← nodeUnless? fuel true false [.blockEntry, .blockEnd] r.skip
      (blockItems? fuel r).map (fun p => (item :: p.1, p.2))
    | .blockEnd :: _ => some ([], r.skip)
    | _ => none

/-- The items of a sequence at the indentation of a key. -/
def looseItems? : Nat → Reading → Option (List Node × Reading)
  | 0, _ => none
  | fuel + 1, r =>
    match r.tokens with
    | .blockEntry :: _ => do
      let (item, r) ← nodeUnless? fuel true false [.blockEntry, .key, .value, .blockEnd] r.skip
      (looseItems? fuel r).map (fun p => (item :: p.1, p.2))
    | _ => some ([], r)

/-- The entries of a block mapping up to its end. -/
def blockEntries? : Nat → Reading → Option (List (Node × Node) × Reading)
  | 0, _ => none
  | fuel + 1, r =>
    match r.tokens with
    | .key :: _ => do
      let (key, r) ← nodeUnless? fuel true true [.key, .value, .blockEnd] r.skip
      let (value, r) ←
        match r.tokens with
        | .value :: _ => nodeUnless? fuel true true [.key, .value, .blockEnd] r.skip
        | _ => some (missing, r)
      (blockEntries? fuel r).map (fun p => ((key, value) :: p.1, p.2))
    | .blockEnd :: _ => some ([], r.skip)
    | _ => none

/-- The items of a sequence in brackets up to its end; a pair of key and value is a mapping. -/
def flowItems? : Nat → Bool → Reading → Option (List Node × Reading)
  | 0, _, _ => none
  | fuel + 1, first, r =>
    match r.tokens with
    | .flowSequenceEnd :: _ => some ([], r.skip)
    | t :: _ =>
      if ¬first ∧ t ≠ .flowEntry then none
      else
        let r := if first then r else r.skip
        match r.tokens with
        | .flowSequenceEnd :: _ => some ([], r.skip)
        | .key :: _ => do
          let (key, r) ← pairKey? fuel r.skip
          let (value, r) ←
            match r.tokens with
            | .value :: _ => nodeUnless? fuel false false [.flowEntry, .flowSequenceEnd] r.skip
            | _ => some (missing, r)
          (flowItems? fuel false r).map (fun p => (.mapping none [(key, value)] :: p.1, p.2))
        | _ => do
          let (item, r) ← node? fuel false false r
          (flowItems? fuel false r).map (fun p => (item :: p.1, p.2))
    | [] => none

/-- The key of a pair in a sequence; where it is missing the next token goes with it. -/
def pairKey? : Nat → Reading → Option (Node × Reading)
  | 0, _ => none
  | fuel + 1, r =>
    -- The token that shows the key to be missing is used up, be it what it may.
    if r.isAt [.value, .flowEntry, .flowSequenceEnd] then some (missing, r.skip)
    else node? fuel false false r

/-- The entries of a mapping in braces up to its end. -/
def flowEntries? : Nat → Bool → Reading → Option (List (Node × Node) × Reading)
  | 0, _, _ => none
  | fuel + 1, first, r =>
    match r.tokens with
    | .flowMappingEnd :: _ => some ([], r.skip)
    | t :: _ =>
      if ¬first ∧ t ≠ .flowEntry then none
      else
        let r := if first then r else r.skip
        match r.tokens with
        | .flowMappingEnd :: _ => some ([], r.skip)
        | .key :: _ => do
          let (key, r) ← nodeUnless? fuel false false [.value, .flowEntry, .flowMappingEnd] r.skip
          let (value, r) ←
            match r.tokens with
            | .value :: _ => nodeUnless? fuel false false [.flowEntry, .flowMappingEnd] r.skip
            | _ => some (missing, r)
          (flowEntries? fuel false r).map (fun p => ((key, value) :: p.1, p.2))
        | _ => do
          let (key, r) ← node? fuel false false r
          (flowEntries? fuel false r).map (fun p => ((key, missing) :: p.1, p.2))
    | [] => none

/-- A node, or nothing where one of some tokens follows. -/
def nodeUnless? : Nat → Bool → Bool → List Token → Reading → Option (Node × Reading)
  | 0, _, _, _, _ => none
  | fuel + 1, block, indentless, stops, r =>
    if r.isAt stops then some (missing, r) else node? fuel block indentless r

end

mutual

/-- The anchored nodes inside a node, in the order of their starts. -/
def anchors : Node → List (Nat × Node)
  | .anchored id content => (id, content) :: anchors content
  | .sequence _ items => itemAnchors items
  | .mapping _ entries => entryAnchors entries
  | _ => []

/-- The anchored nodes inside the items of a sequence. -/
def itemAnchors : List Node → List (Nat × Node)
  | [] => []
  | item :: rest => anchors item ++ itemAnchors rest

/-- The anchored nodes inside the entries of a mapping. -/
def entryAnchors : List (Node × Node) → List (Nat × Node)
  | [] => []
  | (key, value) :: rest => anchors key ++ anchors value ++ entryAnchors rest

end

end Node

end ImageBuild.Yaml
