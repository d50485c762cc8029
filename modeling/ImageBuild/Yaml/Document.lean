import ImageBuild.Yaml.Node
import ImageBuild.Yaml.Token.Scan

/-! Texts with one YAML document. -/

namespace ImageBuild.Yaml

/-- A document: its root, and the nodes that its aliases stand for. -/
structure Document where
  root : Node
  anchors : List (Nat × Node)

namespace Document

/-- A document around a node; of two nodes with one number the later counts. -/
def ofRoot (root : Node) : Document := ⟨root, (Node.anchors root).reverse⟩

/-- The node that an alias stands for, and any other node without its anchor. -/
def resolve? (d : Document) : Node → Option Node
  | .alias id => (d.anchors.find? (fun a => a.1 = id)).map (·.2)
  | .anchored _ content => some content
  | node => some node

/-- The handles and the tokens after the directives, which may name one version and each handle once. -/
def directives? (version : Bool) (handles : List (String × String)) :
    List Token → Option (List (String × String) × List Token)
  | .versionDirective major minor :: rest =>
    if version ∨ major ≠ 1 ∨ (minor ≠ 1 ∧ minor ≠ 2) then none else directives? true handles rest
  | .tagDirective handle stem :: rest =>
    if handles.any (fun h => h.1 = handle) then none
    else directives? version (handles ++ [(handle, stem)]) rest
  | rest => some (handles, rest)

/-- Whether a token may not begin the content of a document. -/
def isOutside : Token → Bool
  | .versionDirective .. | .tagDirective .. | .documentStart | .documentEnd => true
  | _ => false

/-- The root of a document and the tokens after it. -/
def root? (handles : List (String × String)) (tokens : List Token) : Option (Node × List Token) :=
  -- A directive may give a standard handle another meaning, as the first one of a name counts.
  let handles := handles ++ Node.standardHandles
  match tokens with
  | [] => some (.missing, [])
  | t :: _ =>
    if isOutside t then some (.missing, tokens)
    else (Node.node? (3 * tokens.length + 3) true false ⟨handles, [], tokens⟩).map
      (fun p => (p.1, p.2.tokens))

/-- Whether nothing but marks of an end is left after a document. -/
def isEnd : List Token → Bool
  | [] => true
  | .documentEnd :: rest => isEnd rest
  | _ => false

/-- The only document of a text. A text without any is an empty one. -/
def ofText? (text : String) : Option Document := do
  match ← tokens? text with
  | [] => some (ofRoot .empty)
  | .documentEnd :: _ => none
  | t :: rest =>
    let (root, rest) ←
      if isOutside t then do
        let (handles, rest) ← directives? false [] (t :: rest)
        match rest with
        | .documentStart :: rest => root? handles rest
        | _ => none
      else root? [] (t :: rest)
    -- A second document is one too many, even an empty one.
    if isEnd rest then some (ofRoot root) else none

end Document

end ImageBuild.Yaml
