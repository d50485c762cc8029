import ImageBuild.Build.Work
import ImageBuild.Platform.Yaml

/-! The registry inside a cluster, where it has one. -/

namespace ImageBuild.Registry

open Kubernetes

/-- The place where a cluster describes its own registry. -/
def hostingPlace : Reference := ⟨"kube-public", "local-registry-hosting"⟩

/-- The key of the description. -/
def hostingKey : String := "localRegistryHosting.v1"

/-- The namespace of the Services of addons. -/
def addonScope : String := "kube-system"

/-- The labels of the Service of the registry addon. -/
def addonLabels : Dict String String := Dict.ofList [("kubernetes.io/minikube-addons", "registry")]

/-- The host in a description of a registry, if it names one. -/
def hostOfYaml? (text : String) : Option (Option String) := do
  let d ← Yaml.Document.ofText? text
  let r ← d.record? ["host"] d.root
  r.optional "host" Yaml.Document.text?

/-- The address that the cluster gives for its registry. -/
def hostingAddress : Work (Option String) := do
  let map ← Work.find (Cluster.getConfigMap hostingPlace)
  match map.bind (fun m => m.data.bind (·.get? hostingKey)) with
  | none => pure none
  | some description =>
    match hostOfYaml? description with
    | some host => pure (RegistrySpec.given host)
    | none => throw (.registryHosting "unreadable description")

/-- Whether a port is written in an address. -/
def isWritten (port : Int) : Bool := 0 < port && port ≠ 80

/-- The address of a Service: that inside the cluster, and its first port where it has to be written. -/
def serviceAddress (service : Service) : String :=
  let ip := (service.spec.bind (·.clusterIP)).getD ""
  let port := ((service.spec.bind (·.ports)).bind List.head?).map ServicePort.port
  match port.filter isWritten with
  | some port => ip ++ ":" ++ toString port
  | none => ip

/-- The address of the registry addon. -/
def addonAddress : Work (Option String) := do
  let services ← Work.call (Cluster.listServices addonScope addonLabels)
  pure (services.head?.map serviceAddress)

/-- The address of the registry of a cluster, in the way that is tried first. -/
def address : Work (Option String) := do
  match ← hostingAddress with
  | some found => pure (some found)
  | none => addonAddress

end ImageBuild.Registry
