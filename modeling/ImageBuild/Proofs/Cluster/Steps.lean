import ImageBuild.Cluster.Remote
import ImageBuild.Proofs.Cluster.Calls

/-! Whatever is done with a cluster, step by step: calls are made to it, and others change it. -/

namespace ImageBuild

open Kubernetes Remote Run

namespace Remote.Operation

/-- The operation on a cluster that is at hand. -/
def perform : Operation → ClusterM Outcome
  | getPod place => .pod <$> Cluster.getPod place
  | createPod pod => .pod <$> Cluster.createPod pod
  | deletePod place => (fun _ => .done) <$> Cluster.deletePod place
  | getSecret place => .secret <$> Cluster.getSecret place
  | getConfigMap place => .configMap <$> Cluster.getConfigMap place
  | createConfigMap map => .configMap <$> Cluster.createConfigMap map
  | deleteConfigMap place => (fun _ => .done) <$> Cluster.deleteConfigMap place
  | listServices scope labels => .services <$> Cluster.listServices scope labels

/-- The call that an operation is noted as. -/
def call : Operation → Call
  | getPod place => .getPod place
  | createPod pod => .createPod pod.reference
  | deletePod place => .deletePod place
  | getSecret place => .getSecret place
  | getConfigMap place => .getConfigMap place
  | createConfigMap map => .createConfigMap map.reference
  | deleteConfigMap place => .deleteConfigMap place
  | listServices scope _ => .listServices scope

/-- What the objects of a cluster answer to an operation. -/
def result (c : Cluster) : Operation → Except ClusterError Outcome
  | getPod place => (Cluster.found .pod place (c.pods.get? place)).map .pod
  | createPod pod =>
    if c.pods.contains pod.reference then .error (.alreadyExists .pod pod.reference)
    else .ok (.pod (pod.bornAt c.clock))
  | deletePod place => if c.pods.contains place then .ok .done else .error (.notFound .pod place)
  | getSecret place => (Cluster.found .secret place (c.secrets.get? place)).map .secret
  | getConfigMap place => (Cluster.found .configMap place (c.configMaps.get? place)).map .configMap
  | createConfigMap map =>
    if c.configMaps.contains map.reference then .error (.alreadyExists .configMap map.reference)
    else .ok (.configMap map)
  | deleteConfigMap place =>
    if c.configMaps.contains place then .ok .done else .error (.notFound .configMap place)
  | listServices scope labels => .ok (.services (c.services.filter (fun place s =>
      place.scope = scope && Cluster.hasLabels labels s.metadata)).values)

/-- What an operation makes of the objects of a cluster. -/
def effect (c : Cluster) : Operation → Cluster
  | createPod pod =>
    if c.pods.contains pod.reference then c
    else { c with pods := c.pods.insert pod.reference (pod.bornAt c.clock) }
  | deletePod place => { c with pods := c.podsWithout place }
  | createConfigMap map =>
    if c.configMaps.contains map.reference then c
    else { c with configMaps := c.configMaps.insert map.reference map }
  | deleteConfigMap place =>
    if c.configMaps.contains place then { c with configMaps := c.configMaps.erase place } else c
  | _ => c

/-- An operation that only looks is answered by the objects. -/
theorem run_map_looks {α : Type} {call : ClusterM α} {record : Call}
    {answer : Cluster → Except ClusterError α} (looks : Cluster.Looks call record answer)
    (wrap : α → Outcome) (c : Cluster) :
    (wrap <$> call).run.run c =
      match c.fault? with
      | some e => (.error e, c.called record)
      | none => ((answer c).map wrap, c.called record) := by
  -- Wrapping the answer does not change whether the call fails.
  rw [run_map, looks c]
  cases c.fault? <;> rfl

/-- An operation meets the failure that is planned, or is answered by the objects and changes them. -/
theorem run_perform (o : Operation) (c : Cluster) :
    o.perform.run.run c =
      match c.fault? with
      | some e => (.error e, c.called o.call)
      | none => (o.result c, (o.effect c).called o.call) := by
  -- Reads go through the lemma on looks; each write has its own run lemma with the same two branches.
  cases o with
  | getPod place => exact run_map_looks (Cluster.looks_getPod place) _ c
  | getSecret place => exact run_map_looks (Cluster.looks_getSecret place) _ c
  | getConfigMap place => exact run_map_looks (Cluster.looks_getConfigMap place) _ c
  | listServices scope labels => exact run_map_looks (Cluster.looks_listServices scope labels) _ c
  | createPod pod =>
    rw [perform, run_map, Cluster.run_createPod]
    -- A planned failure goes first; then the call depends on whether there is such an object already.
    cases c.fault? with
    | some e => rfl
    | none => simp only [result, effect]; split <;> rfl
  | deletePod place =>
    rw [perform, run_map, Cluster.run_deletePod]
    cases c.fault? with
    | some e => rfl
    | none => simp only [result, effect]; split <;> rfl
  | createConfigMap map =>
    rw [perform, run_map, Cluster.run_createConfigMap]
    cases c.fault? with
    | some e => rfl
    | none => simp only [result, effect]; split <;> rfl
  | deleteConfigMap place =>
    rw [perform, run_map, Cluster.run_deleteConfigMap]
    cases c.fault? with
    | some e => rfl
    | none => simp only [result, effect]; split <;> rfl

/-- Where the objects refuse an operation, they stay as they are. -/
theorem effect_of_error {o : Operation} {c : Cluster} {e : ClusterError}
    (refused : o.result c = .error e) : o.effect c = c := by
  -- An error says which branch was taken, and on that branch the effect is the identity.
  cases o with
  | createPod pod =>
    simp only [result] at refused
    split at refused
    · exact if_pos ‹_›
    · cases refused
  | deletePod place =>
    simp only [result] at refused
    split at refused
    · cases refused
    · -- There is no pod that could be deleted.
      rename_i absent
      have none : c.pods.get? place = none := by simpa [Dict.contains] using absent
      rw [effect, Cluster.podsWithout, none]
  -- A map is refused where one is there already, and is then not replaced.
  | createConfigMap map =>
    simp only [result] at refused
    split at refused
    · exact if_pos ‹_›
    · cases refused
  | deleteConfigMap place =>
    simp only [result] at refused
    split at refused
    · cases refused
    · exact if_neg ‹_›
  | _ => rfl

/-- The objects never answer that the cluster itself has failed. -/
theorem result_ne_api (o : Operation) (c : Cluster) (code : Nat) (message : String) :
    o.result c ≠ .error (.api code message) := by
  -- A lookup answers with the object or says that it is not found.
  have found_ne : ∀ {α : Type} (kind : ObjectKind) (place : Reference) (object : Option α)
      (wrap : α → Outcome),
      (Cluster.found kind place object).map wrap ≠ .error (.api code message) := by
    intro α kind place object wrap
    cases object <;> simp [Cluster.found, Except.map]
  cases o with
  | getPod place => exact found_ne _ _ _ _
  | getSecret place => exact found_ne _ _ _ _
  | getConfigMap place => exact found_ne _ _ _ _
  | listServices scope labels => simp [result]
  | createPod pod => simp only [result]; split <;> simp
  | deletePod place => simp only [result]; split <;> simp
  | createConfigMap map => simp only [result]; split <;> simp
  | deleteConfigMap place => simp only [result]; split <;> simp

end Remote.Operation

namespace Cluster

/-- A step in the life of a cluster: an operation that is asked of it, or what somebody else does to it. -/
inductive Step
  /-- An operation is asked of the cluster. -/
  | call (o : Operation)
  /-- There is a pod, in the place of any other of its name. -/
  | insertPod (pod : Pod)
  /-- There is a Secret. -/
  | insertSecret (secret : Secret)
  /-- There is a ConfigMap. -/
  | insertConfigMap (map : ConfigMap)
  /-- There is a Service. -/
  | insertService (service : Service)
  /-- A pod is given another status. -/
  | setPodStatus (place : Reference) (status : PodStatus)
  /-- Deleted pods stay from now on, or do not. -/
  | setLingering (on : Bool)
  /-- Deleted pods go. -/
  | reap
  /-- The next call will fail. -/
  | failNext (message : String)
  /-- The clock has another reading. -/
  | passTime (now : Instant)

/-- What a step is answered. -/
inductive Answer
  /-- What the cluster answers to an operation. -/
  | outcome (result : Except ClusterError Outcome)
  /-- Whether there is such a pod. -/
  | known (there : Bool)
  /-- Nothing. -/
  | silent

namespace Step

/-- A step of a cluster. -/
def run (c : Cluster) : Step → Answer × Cluster
  | call o => (.outcome (o.perform.run.run c).1, (o.perform.run.run c).2)
  | insertPod pod => (.silent, c.insertPod pod)
  | insertSecret secret => (.silent, c.insertSecret secret)
  | insertConfigMap map => (.silent, c.insertConfigMap map)
  | insertService service => (.silent, c.insertService service)
  | setPodStatus place status =>
    let changed := c.setPodStatus? place status
    (.known changed.isSome, changed.getD c)
  | setLingering on => (.silent, c.setLingering on)
  | reap => (.silent, c.reap)
  | failNext message => (.silent, c.failNext message)
  | passTime now => (.silent, { c with clock := now })

/-- Whether a step has nothing to do with failures. -/
def isQuiet : Step → Bool
  | call _ | failNext _ => false
  | _ => true

/-- The one object that a step is about, if it is about one. -/
def subject? : Step → Option (ObjectKind × Reference)
  | call o => some o.subject
  | insertPod pod => some (.pod, pod.reference)
  | insertSecret secret => some (.secret, secret.reference)
  | insertConfigMap map => some (.configMap, map.reference)
  | insertService service => some (.service, service.reference)
  | setPodStatus place _ => some (.pod, place)
  | _ => none

/-- Whether a step lets a deleted pod stay as it is: it neither clears such pods away nor puts another one there. -/
def Spares (place : Reference) : Step → Prop
  | reap | setLingering false => False
  | insertPod pod => pod.reference ≠ place
  | _ => True

end Step

/-- The steps of a cluster in turn: what they are answered, and what becomes of it. -/
def run (c : Cluster) : List Step → List Answer × Cluster
  | [] => ([], c)
  | step :: rest =>
    let (answer, d) := step.run c
    let (answers, e) := run d rest
    (answer :: answers, e)

end Cluster

end ImageBuild
