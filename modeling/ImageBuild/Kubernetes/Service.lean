import ImageBuild.Kubernetes.Meta

/-! Services: addresses inside the cluster. -/

namespace ImageBuild.Kubernetes

/-- A port of a Service. -/
structure ServicePort where
  port : Int
  others : Others

/-- The address and the ports of a Service. -/
structure ServiceSpec where
  clusterIP : Option String
  ports : Option (List ServicePort)
  others : Others

/-- A Service. -/
structure Service where
  metadata : Meta
  spec : Option ServiceSpec
  others : Others

namespace ServicePort

/-- The port as JSON. -/
def toJson (p : ServicePort) : Json := .object (("port", .ofInt p.port) :: p.others)

/-- The port that JSON denotes. -/
def ofJson? (j : Json) : Option ServicePort := do
  let m ← Members.ofJson? j
  return ⟨← m.must "port" 0 (Json.signed? 32), ← m.others Schema.servicePort⟩

end ServicePort

namespace ServiceSpec

/-- The address and the ports as JSON. -/
def toJson (s : ServiceSpec) : Json :=
  .object (Json.field? "clusterIP" (s.clusterIP.map .string)
    ++ Json.field? "ports" (s.ports.map (listToJson ServicePort.toJson)) ++ s.others)

/-- The address and the ports that JSON denotes. -/
def ofJson? (j : Json) : Option ServiceSpec := do
  let m ← Members.ofJson? j
  return ⟨← m.may "clusterIP" Json.string?, ← m.may "ports" (Json.list? ServicePort.ofJson?),
    ← m.others Schema.serviceSpec⟩

end ServiceSpec

namespace Service

/-- The place of a Service. -/
def reference (s : Service) : Reference := s.metadata.reference

/-- The Service as JSON. -/
def toJson (s : Service) : Json :=
  .object (kindMembers "Service" ++ [("metadata", s.metadata.toJson)]
    ++ Json.field? "spec" (s.spec.map ServiceSpec.toJson) ++ s.others)

/-- The Service that JSON denotes. -/
def ofJson? (j : Json) : Option Service := do
  let m ← objectOfJson? "Service" j
  return ⟨← m.must "metadata" .none Meta.ofJson?, ← m.may "spec" ServiceSpec.ofJson?,
    ← m.others Schema.service⟩

end Service

end ImageBuild.Kubernetes
