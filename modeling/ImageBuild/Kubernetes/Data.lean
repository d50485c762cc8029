import ImageBuild.Kubernetes.Meta

/-! Secrets and ConfigMaps: texts and bytes under names. -/

namespace ImageBuild.Kubernetes

/-- A Secret. -/
structure Secret where
  metadata : Meta
  data : Option (Dict String Bytes)
  stringData : Option (Dict String String)
  others : Others

/-- A ConfigMap. -/
structure ConfigMap where
  metadata : Meta
  data : Option (Dict String String)
  binaryData : Option (Dict String Bytes)
  others : Others

/-- The keys of a dictionary that may be missing. -/
def keysOf {α : Type} (d : Option (Dict String α)) : List String := (d.map Dict.keys).getD []

namespace Secret

/-- The place of a Secret. -/
def reference (s : Secret) : Reference := s.metadata.reference

/-- Whether a Secret has a value under a key. -/
def hasKey (s : Secret) (key : String) : Bool :=
  s.data.any (·.contains key) || s.stringData.any (·.contains key)

/-- The Secret as JSON. -/
def toJson (s : Secret) : Json :=
  .object (kindMembers "Secret" ++ [("metadata", s.metadata.toJson)]
    ++ Json.field? "data" (s.data.map (dictToJson bytesToJson))
    ++ Json.field? "stringData" (s.stringData.map textsToJson) ++ s.others)

/-- The Secret that JSON denotes. -/
def ofJson? (j : Json) : Option Secret := do
  let m ← objectOfJson? "Secret" j
  return {
    metadata := ← m.must "metadata" .none Meta.ofJson?
    data := ← m.may "data" (dictOfJson? bytesOfJson?)
    stringData := ← m.may "stringData" textsOfJson?
    others := ← m.others Schema.secret }

end Secret

namespace ConfigMap

/-- The place of a ConfigMap. -/
def reference (c : ConfigMap) : Reference := c.metadata.reference

/-- The keys of a ConfigMap: those of texts before those of bytes. -/
def keys (c : ConfigMap) : List String := keysOf c.data ++ keysOf c.binaryData

/-- Whether a ConfigMap has a value under a key. -/
def hasKey (c : ConfigMap) (key : String) : Bool :=
  c.data.any (·.contains key) || c.binaryData.any (·.contains key)

/-- The ConfigMap as JSON. -/
def toJson (c : ConfigMap) : Json :=
  .object (kindMembers "ConfigMap" ++ [("metadata", c.metadata.toJson)]
    ++ Json.field? "data" (c.data.map textsToJson)
    ++ Json.field? "binaryData" (c.binaryData.map (dictToJson bytesToJson)) ++ c.others)

/-- The ConfigMap that JSON denotes. -/
def ofJson? (j : Json) : Option ConfigMap := do
  let m ← objectOfJson? "ConfigMap" j
  return {
    metadata := ← m.must "metadata" .none Meta.ofJson?
    data := ← m.may "data" textsOfJson?
    binaryData := ← m.may "binaryData" (dictOfJson? bytesOfJson?)
    others := ← m.others Schema.configMap }

end ConfigMap

end ImageBuild.Kubernetes
