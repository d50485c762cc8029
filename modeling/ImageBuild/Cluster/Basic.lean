import ImageBuild.Cluster.Error
import ImageBuild.Kubernetes.Data
import ImageBuild.Kubernetes.Pod
import ImageBuild.Kubernetes.Service

/-! A cluster: its objects, and the calls by which builds read and change them. Objects keep whatever
status they were created with until somebody sets another. -/

namespace ImageBuild

open Kubernetes

/-- A call to a cluster. -/
inductive Call
  | getPod (place : Reference)
  | createPod (place : Reference)
  | deletePod (place : Reference)
  | getSecret (place : Reference)
  | getConfigMap (place : Reference)
  | createConfigMap (place : Reference)
  | deleteConfigMap (place : Reference)
  | listServices (scope : String)
  deriving DecidableEq

/-- The line of a call in a record. -/
def Call.text : Call → String
  | getPod place => "get_pod " ++ place.key
  | createPod place => "create_pod " ++ place.key
  | deletePod place => "delete_pod " ++ place.key
  | getSecret place => "get_secret " ++ place.key
  | getConfigMap place => "get_config_map " ++ place.key
  | createConfigMap place => "create_config_map " ++ place.key
  | deleteConfigMap place => "delete_config_map " ++ place.key
  | listServices scope => "list_services " ++ scope

/-- A cluster, with the failures that the next calls will meet and the last calls from old to new. -/
structure Cluster where
  pods : Dict Reference Pod
  secrets : Dict Reference Secret
  configMaps : Dict Reference ConfigMap
  services : Dict Reference Service
  lingering : Bool
  faults : List (Option ClusterError)
  calls : List Call
  clock : Instant

/-- Calls that may fail and change a cluster, also when they fail. -/
abbrev ClusterM := ExceptT ClusterError (StateM Cluster)

namespace Cluster

/-- The number of calls that are remembered. -/
def maxCalls : Nat := 1024

/-- A cluster without objects. -/
def empty (clock : Instant) : Cluster :=
  ⟨.empty, .empty, .empty, .empty, false, [], [], clock⟩

/-- The cluster with an object, in the place of any other of its name. -/
def insertPod (c : Cluster) (pod : Pod) : Cluster :=
  { c with pods := c.pods.insert pod.reference pod }

/-- The cluster with a Secret, in the place of any other of its name. -/
def insertSecret (c : Cluster) (secret : Secret) : Cluster :=
  { c with secrets := c.secrets.insert secret.reference secret }

/-- The cluster with a ConfigMap, in the place of any other of its name. -/
def insertConfigMap (c : Cluster) (map : ConfigMap) : Cluster :=
  { c with configMaps := c.configMaps.insert map.reference map }

/-- The cluster with a Service, in the place of any other of its name. -/
def insertService (c : Cluster) (service : Service) : Cluster :=
  { c with services := c.services.insert service.reference service }

/-- The cluster with another status of a pod, if that pod is there. -/
def setPodStatus? (c : Cluster) (place : Reference) (status : PodStatus) : Option Cluster :=
  (c.pods.get? place).map
    (fun pod => { c with pods := c.pods.insert place { pod with status := some status } })

/-- The cluster where deleted pods stay until they are reaped, or do not. -/
def setLingering (c : Cluster) (on : Bool) : Cluster := { c with lingering := on }

/-- The cluster without the pods that have been deleted. -/
def reap (c : Cluster) : Cluster :=
  { c with pods := c.pods.filter (fun _ pod => !pod.isTerminating) }

/-- The cluster where the next call fails. -/
def failNext (c : Cluster) (message : String) : Cluster :=
  { c with faults := some (.api 503 message) :: c.faults.drop 1 }

/-- The record of calls with one more, and no more than are remembered. -/
def remember (calls : List Call) (call : Call) : List Call :=
  (if maxCalls ≤ calls.length then calls.drop 1 else calls) ++ [call]

/-- The calls that are remembered are the last ones. -/
theorem remember_eq_drop {calls : List Call} (call : Call) (bounded : calls.length ≤ maxCalls) :
    remember calls call = (calls ++ [call]).drop (calls.length + 1 - maxCalls) := by
  unfold remember
  split
  · -- A full record loses its first call.
    rename_i full
    rw [show calls.length + 1 - maxCalls = 1 by omega, List.drop_append_of_le_length]
    exact Nat.le_trans (by decide) full
  · rw [show calls.length + 1 - maxCalls = 0 by omega]
    rfl

/-- The beginning of every call: it is recorded, and may fail. -/
def attempt (call : Call) : ClusterM Unit := do
  let c ← get
  -- A call that fails is recorded like any other, and uses its failure up.
  set { c with calls := remember c.calls call, faults := c.faults.drop 1 }
  match c.faults.head? with
  | some (some e) => throw e
  | _ => pure ()

/-- A call is recorded and uses up its failure, if one is planned, and changes nothing else. -/
theorem run_attempt (call : Call) (c : Cluster) :
    (attempt call).run.run c =
      (match c.faults.head? with
        | some (some e) => .error e
        | _ => .ok (),
      { c with calls := remember c.calls call, faults := c.faults.drop 1 }) := by
  -- The plan is shortened and the call recorded before it is known whether the call fails.
  change (match c.faults.head? with
    | some (some e) => throw e
    | _ => pure () : ClusterM Unit).run.run
      { c with calls := remember c.calls call, faults := c.faults.drop 1 } = _
  split <;> rfl

/-- The pod of a place. -/
def getPod (place : Reference) : ClusterM Pod := do
  attempt (.getPod place)
  match (← get).pods.get? place with
  | some pod => pure pod
  | none => throw (.notFound .pod place)

/-- Creates a pod, which gets the time of its creation. -/
def createPod (pod : Pod) : ClusterM Pod := do
  attempt (.createPod pod.reference)
  let c ← get
  -- A pod that lingers still holds its name.
  if c.pods.contains pod.reference then throw (.alreadyExists .pod pod.reference)
  else
    let created := { pod with metadata := { pod.metadata with createdAt := some c.clock } }
    set { c with pods := c.pods.insert pod.reference created }
    pure created

/-- Deletes a pod. Where deleted pods linger it only gets the time of its first deletion. -/
def deletePod (place : Reference) : ClusterM Unit := do
  attempt (.deletePod place)
  let c ← get
  match c.pods.get? place with
  | none => throw (.notFound .pod place)
  | some pod =>
    if ¬c.lingering then set { c with pods := c.pods.erase place }
    -- A second deletion changes nothing.
    else if pod.isTerminating then pure ()
    else
      let deleted := { pod with metadata := { pod.metadata with deletedAt := some c.clock } }
      set { c with pods := c.pods.insert place deleted }

/-- The Secret of a place. -/
def getSecret (place : Reference) : ClusterM Secret := do
  attempt (.getSecret place)
  match (← get).secrets.get? place with
  | some secret => pure secret
  | none => throw (.notFound .secret place)

/-- The ConfigMap of a place. -/
def getConfigMap (place : Reference) : ClusterM ConfigMap := do
  attempt (.getConfigMap place)
  match (← get).configMaps.get? place with
  | some map => pure map
  | none => throw (.notFound .configMap place)

/-- Creates a ConfigMap. -/
def createConfigMap (map : ConfigMap) : ClusterM ConfigMap := do
  attempt (.createConfigMap map.reference)
  let c ← get
  if c.configMaps.contains map.reference then throw (.alreadyExists .configMap map.reference)
  else
    set { c with configMaps := c.configMaps.insert map.reference map }
    pure map

/-- Deletes a ConfigMap. -/
def deleteConfigMap (place : Reference) : ClusterM Unit := do
  attempt (.deleteConfigMap place)
  let c ← get
  if c.configMaps.contains place then set { c with configMaps := c.configMaps.erase place }
  else throw (.notFound .configMap place)

/-- Whether an object has all of some labels. -/
def hasLabels (labels : Dict String String) (m : Meta) : Bool :=
  labels.entries.all (fun label => m.hasLabel label.1 label.2)

/-- The Services of a namespace that have all of some labels, by name. -/
def listServices (scope : String) (labels : Dict String String) : ClusterM (List Service) := do
  attempt (.listServices scope)
  let services := (← get).services
  pure (services.filter (fun place s => place.scope = scope && hasLabels labels s.metadata)).values

end Cluster

end ImageBuild
