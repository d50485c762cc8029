import ImageBuild.Dict.Laws
import ImageBuild.Proofs.Run

/-! What a call does to a cluster: it is noted, meets the failure that is planned for it, and only then reads
or changes the objects. -/

namespace ImageBuild

open Kubernetes Run

namespace Kubernetes.Pod

/-- The pod once it has been created. -/
def bornAt (pod : Pod) (time : Instant) : Pod :=
  { pod with metadata := { pod.metadata with createdAt := some time } }

/-- The pod once it has been deleted where deleted pods linger. -/
def deletedAt (pod : Pod) (time : Instant) : Pod :=
  { pod with metadata := { pod.metadata with deletedAt := some time } }

/-- What outlasts a deletion where deleted pods linger: a second one changes nothing. -/
def ended (pod : Pod) (time : Instant) : Pod :=
  if pod.isTerminating then pod else pod.deletedAt time

/-- What outlasts a deletion has been deleted. -/
@[simp] theorem isTerminating_ended (pod : Pod) (time : Instant) :
    (pod.ended time).isTerminating = true := by
  -- Either the date was there before, or it has been set now.
  unfold ended
  split
  · assumption
  · rfl

/-- A pod is deleted once. -/
@[simp] theorem ended_ended (pod : Pod) (time later : Instant) :
    (pod.ended time).ended later = pod.ended time := by
  rw [ended, if_pos (pod.isTerminating_ended time)]

end Kubernetes.Pod

namespace Cluster

variable {α : Type}

/-- The failure that the next call meets, if one is planned. -/
def fault? (c : Cluster) : Option ClusterError := c.faults.head?.join

/-- The cluster where a call has been noted, and has used up what was planned for it. -/
def called (c : Cluster) (call : Call) : Cluster :=
  { c with calls := remember c.calls call, faults := c.faults.drop 1 }

@[simp] theorem pods_called (c : Cluster) (call : Call) : (c.called call).pods = c.pods := rfl

@[simp] theorem secrets_called (c : Cluster) (call : Call) :
    (c.called call).secrets = c.secrets := rfl

@[simp] theorem configMaps_called (c : Cluster) (call : Call) :
    (c.called call).configMaps = c.configMaps := rfl

@[simp] theorem lingering_called (c : Cluster) (call : Call) :
    (c.called call).lingering = c.lingering := rfl

@[simp] theorem clock_called (c : Cluster) (call : Call) : (c.called call).clock = c.clock := rfl

@[simp] theorem faults_called (c : Cluster) (call : Call) :
    (c.called call).faults = c.faults.drop 1 := rfl

/-- What follows the beginning of a call happens only where no failure is planned. -/
theorem run_attempt_bind (call : Call) (rest : ClusterM α) (c : Cluster) :
    (attempt call >>= fun _ => rest).run.run c =
      match c.fault? with
      | some e => (.error e, c.called call)
      | none => rest.run.run (c.called call) := by
  rw [run_bind, run_attempt, fault?, called]
  -- No plan at all is as good as a plan without a failure.
  rcases c.faults.head? with _ | _ | e <;> rfl

/-- A call that only reads: it is noted, and answers from what is in the cluster. -/
def Looks (call : ClusterM α) (record : Call) (answer : Cluster → Except ClusterError α) : Prop :=
  ∀ c, call.run.run c =
    (match c.fault? with
      | some e => .error e
      | none => answer c,
    c.called record)

/-- An answer that no pod has a part in. -/
def PodBlind (answer : Cluster → Except ClusterError α) : Prop :=
  ∀ c d : Cluster, c.secrets = d.secrets → c.configMaps = d.configMaps → c.services = d.services →
    answer c = answer d

/-- What is missing in a place is an error. -/
def found (kind : ObjectKind) (place : Reference) (object : Option α) : Except ClusterError α :=
  object.elim (.error (.notFound kind place)) .ok

/-- A call only reads when what follows its beginning does. -/
theorem looks_of_rest {record : Call} {rest : ClusterM α} {answer : Cluster → Except ClusterError α}
    (reads : ∀ c, rest.run.run (c.called record) = (answer c, c.called record)) :
    Looks (attempt record >>= fun _ => rest) record answer := by
  -- Where no failure is planned for the call, the rest runs in the cluster that has noted it.
  intro c
  rw [run_attempt_bind]
  cases c.fault? with
  | some e => rfl
  | none => exact reads c

/-- Looking at a pod changes nothing. -/
theorem looks_getPod (place : Reference) :
    Looks (getPod place) (.getPod place) (fun c => found .pod place (c.pods.get? place)) := by
  -- Noting the call leaves the pods as they were.
  refine looks_of_rest (fun c => ?_)
  rw [run_bind, run_get]
  simp only [pods_called]
  cases c.pods.get? place <;> rfl

/-- Looking at a Secret changes nothing. -/
theorem looks_getSecret (place : Reference) :
    Looks (getSecret place) (.getSecret place)
      (fun c => found .secret place (c.secrets.get? place)) := by
  -- Noting the call leaves the Secrets as they were.
  refine looks_of_rest (fun c => ?_)
  rw [run_bind, run_get]
  simp only [secrets_called]
  cases c.secrets.get? place <;> rfl

/-- Looking at a ConfigMap changes nothing. -/
theorem looks_getConfigMap (place : Reference) :
    Looks (getConfigMap place) (.getConfigMap place)
      (fun c => found .configMap place (c.configMaps.get? place)) := by
  -- Noting the call leaves the ConfigMaps as they were.
  refine looks_of_rest (fun c => ?_)
  rw [run_bind, run_get]
  simp only [configMaps_called]
  cases c.configMaps.get? place <;> rfl

/-- Listing Services changes nothing. -/
theorem looks_listServices (scope : String) (labels : Dict String String) :
    Looks (listServices scope labels) (.listServices scope) (fun c => .ok
      (c.services.filter (fun place s =>
        place.scope = scope && hasLabels labels s.metadata)).values) :=
  looks_of_rest (fun _ => rfl)

/-- A pod is created only where no other one has its name. -/
theorem run_createPod (pod : Pod) (c : Cluster) :
    (createPod pod).run.run c =
      match c.fault? with
      | some e => (.error e, c.called (.createPod pod.reference))
      | none =>
        if c.pods.contains pod.reference then
          (.error (.alreadyExists .pod pod.reference), c.called (.createPod pod.reference))
        else (.ok (pod.bornAt c.clock), { c.called (.createPod pod.reference) with
          pods := c.pods.insert pod.reference (pod.bornAt c.clock) }) := by
  unfold createPod
  rw [run_attempt_bind]
  cases c.fault? with
  | some e => rfl
  | none =>
    simp only
    rw [run_bind]
    -- Noting the call has changed no pods.
    change (if c.pods.contains pod.reference then _ else _ : ClusterM Pod).run.run
      (c.called (.createPod pod.reference)) = _
    split <;> rfl

/-- The pods after the deletion of one. -/
def podsWithout (c : Cluster) (place : Reference) : Dict Reference Pod :=
  match c.pods.get? place with
  | none => c.pods
  | some pod =>
    if ¬c.lingering then c.pods.erase place
    else if pod.isTerminating then c.pods
    else c.pods.insert place (pod.deletedAt c.clock)

/-- A deleted pod is gone, or is there as one that has been deleted; all others stay. -/
theorem get?_podsWithout (c : Cluster) (place p : Reference) :
    (c.podsWithout place).get? p =
      if p = place then
        if c.lingering then (c.pods.get? place).map (fun pod => pod.ended c.clock) else none
      else c.pods.get? p := by
  unfold podsWithout
  by_cases same : p = place
  · subst same
    -- A pod that has been deleted before stays as it is.
    cases there : c.pods.get? p with
    | none => simp [there]
    | some pod =>
      cases c.lingering <;> cases deleted : pod.isTerminating <;> simp [there, deleted, Pod.ended]
  · cases c.pods.get? place with
    | none => simp [same]
    | some pod => cases c.lingering <;> cases deleted : pod.isTerminating <;> simp [same, deleted]

/-- A deletion changes nothing but the pod that is deleted. -/
theorem run_deletePod (place : Reference) (c : Cluster) :
    (deletePod place).run.run c =
      match c.fault? with
      | some e => (.error e, c.called (.deletePod place))
      | none =>
        (if c.pods.contains place then .ok () else .error (.notFound .pod place),
          { c.called (.deletePod place) with pods := c.podsWithout place }) := by
  -- A planned failure comes before everything else.
  unfold deletePod
  rw [run_attempt_bind]
  cases c.fault? with
  | some e => rfl
  | none =>
    simp only
    rw [run_bind]
    -- Noting the call has changed no pods.
    change (match c.pods.get? place with
      | none => _
      | some pod => _ : ClusterM Unit).run.run (c.called (.deletePod place)) = _
    unfold podsWithout Dict.contains
    cases c.pods.get? place with
    | none => rfl
    | some pod =>
      simp only
      -- A pod that does not linger is gone, and one that does keeps its first date of deletion.
      change (if ¬c.lingering then _ else if pod.isTerminating then _ else _ : ClusterM Unit).run.run
        (c.called (.deletePod place)) = _
      split
      · rfl
      · split <;> rfl

/-- A deletion changes nothing but the ConfigMap that is deleted. -/
theorem run_deleteConfigMap (place : Reference) (c : Cluster) :
    (deleteConfigMap place).run.run c =
      match c.fault? with
      | some e => (.error e, c.called (.deleteConfigMap place))
      | none =>
        if c.configMaps.contains place then
          (.ok (), { c.called (.deleteConfigMap place) with configMaps := c.configMaps.erase place })
        else (.error (.notFound .configMap place), c.called (.deleteConfigMap place)) := by
  unfold deleteConfigMap
  rw [run_attempt_bind]
  cases c.fault? with
  | some e => rfl
  | none =>
    simp only
    rw [run_bind]
    -- Noting the call has changed no ConfigMaps.
    change (if c.configMaps.contains place then _ else _ : ClusterM Unit).run.run
      (c.called (.deleteConfigMap place)) = _
    split <;> rfl

/-- A ConfigMap is created only where no other one has its name. -/
theorem run_createConfigMap (map : ConfigMap) (c : Cluster) :
    (createConfigMap map).run.run c =
      match c.fault? with
      | some e => (.error e, c.called (.createConfigMap map.reference))
      | none =>
        if c.configMaps.contains map.reference then
          (.error (.alreadyExists .configMap map.reference),
            c.called (.createConfigMap map.reference))
        else (.ok map, { c.called (.createConfigMap map.reference) with
          configMaps := c.configMaps.insert map.reference map }) := by
  -- A planned failure comes before everything else, even before the name is looked up.
  unfold createConfigMap
  rw [run_attempt_bind]
  cases c.fault? with
  | some e => rfl
  | none =>
    simp only
    rw [run_bind]
    -- Noting the call has taken no name.
    change (if c.configMaps.contains map.reference then _ else _ : ClusterM ConfigMap).run.run
      (c.called (.createConfigMap map.reference)) = _
    split <;> rfl

end Cluster

end ImageBuild
