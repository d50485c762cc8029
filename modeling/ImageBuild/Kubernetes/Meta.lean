import ImageBuild.Kubernetes.Schema

/-! The metadata that Kubernetes objects of every kind have. -/

namespace ImageBuild.Kubernetes

/-- The metadata of an object. -/
structure Meta where
  name : Option String
  scope : Option String
  labels : Option (Dict String String)
  annotations : Option (Dict String String)
  createdAt : Option Instant
  deletedAt : Option Instant
  others : Others
  deriving Inhabited

namespace Meta

/-- No metadata. -/
def none : Meta := ⟨.none, .none, .none, .none, .none, .none, []⟩

/-- The place of the object; what is missing is empty. -/
def reference (m : Meta) : Reference := ⟨m.scope.getD "", m.name.getD ""⟩

/-- The annotation of a name. -/
def note? (m : Meta) (name : String) : Option String := m.annotations.bind (·.get? name)

/-- Whether the object has a label with a value. -/
def hasLabel (m : Meta) (name value : String) : Bool :=
  m.labels.bind (·.get? name) = some value

/-- The metadata as JSON. -/
def toJson (m : Meta) : Json :=
  .object (Json.field? "annotations" (m.annotations.map textsToJson)
    ++ Json.field? "creationTimestamp" (m.createdAt.map timeToJson)
    ++ Json.field? "deletionTimestamp" (m.deletedAt.map timeToJson)
    ++ Json.field? "labels" (m.labels.map textsToJson)
    ++ Json.field? "name" (m.name.map .string) ++ Json.field? "namespace" (m.scope.map .string)
    ++ m.others)

/-- The metadata that JSON denotes. -/
def ofJson? (j : Json) : Option Meta := do
  let m ← Members.ofJson? j
  return {
    name := ← m.may "name" Json.string?
    scope := ← m.may "namespace" Json.string?
    labels := ← m.may "labels" textsOfJson?
    annotations := ← m.may "annotations" textsOfJson?
    createdAt := ← m.may "creationTimestamp" Instant.ofJson?
    deletedAt := ← m.may "deletionTimestamp" Instant.ofJson?
    others := ← m.others Schema.metadata }

end Meta

/-- The members of an object that say what kind it is. -/
def kindMembers (kind : String) : List (String × Json) :=
  [("apiVersion", .string "v1"), ("kind", .string kind)]

/-- The members of an object that is of the kind it says, if it says one. -/
def objectOfJson? (kind : String) (j : Json) : Option Members := do
  let m ← Members.ofJson? j
  if m.names "apiVersion" "v1" ∧ m.names "kind" kind then some m else none

end ImageBuild.Kubernetes
