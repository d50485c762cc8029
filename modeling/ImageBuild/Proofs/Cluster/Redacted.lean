import ImageBuild.Proofs.Cluster.Steps

/-! Clusters that differ in nothing but the values in their Secrets. Every call but the one for a Secret comes
to the same in both. -/

namespace ImageBuild

open Kubernetes Remote Run

namespace Kubernetes.Secret

/-- The Secret without its values, of which only the keys are left. -/
def redacted (s : Secret) : Secret :=
  { s with
    data := s.data.map (Dict.map fun _ _ => [])
    stringData := s.stringData.map (Dict.map fun _ _ => "") }

/-- Which keys there are is known without the values. -/
@[simp] theorem hasKey_redacted (s : Secret) (key : String) : s.redacted.hasKey key = s.hasKey key := by
  -- Redaction replaces values only, so the keys of both maps stay.
  rw [hasKey, hasKey, redacted]
  cases s.data <;> cases s.stringData <;> simp

/-- Secrets that differ in their values only have the same keys. -/
theorem hasKey_congr {s t : Secret} (same : s.redacted = t.redacted) : s.hasKey = t.hasKey := by
  -- The keys can be read off the redacted Secret.
  funext key
  rw [← s.hasKey_redacted, same, t.hasKey_redacted]

end Kubernetes.Secret

namespace Cluster

/-- Clusters that anybody would take for one another who cannot see the values in Secrets. -/
structure OpenlyAlike (c d : Cluster) : Prop where
  pods : c.pods = d.pods
  secrets : ∀ place,
    (c.secrets.get? place).map Secret.redacted = (d.secrets.get? place).map Secret.redacted
  configMaps : c.configMaps = d.configMaps
  services : c.services = d.services
  lingering : c.lingering = d.lingering
  faults : c.faults = d.faults
  calls : c.calls = d.calls
  clock : c.clock = d.clock

variable {c d : Cluster}

namespace OpenlyAlike

/-- A cluster is like itself. -/
theorem refl (c : Cluster) : OpenlyAlike c c :=
  ⟨rfl, fun _ => rfl, rfl, rfl, rfl, rfl, rfl, rfl⟩

/-- The next call meets the same failure. -/
theorem fault? (alike : OpenlyAlike c d) : c.fault? = d.fault? := by
  rw [Cluster.fault?, Cluster.fault?, alike.faults]

/-- A call is noted in both clusters. -/
theorem called (alike : OpenlyAlike c d) (call : Call) :
    OpenlyAlike (c.called call) (d.called call) where
  -- The record and the remaining failures move on in the same way; all else is untouched.
  pods := alike.pods
  secrets := alike.secrets
  configMaps := alike.configMaps
  services := alike.services
  lingering := alike.lingering
  faults := congrArg (List.drop 1) alike.faults
  calls := congrArg (fun calls => remember calls call) alike.calls
  clock := alike.clock

/-- A deletion leaves the same pods. -/
theorem podsWithout (alike : OpenlyAlike c d) (place : Reference) :
    c.podsWithout place = d.podsWithout place := by
  rw [Cluster.podsWithout, Cluster.podsWithout, alike.pods, alike.lingering, alike.clock]

/-- A Secret comes into both clusters, with values of its own in each of them. -/
theorem insertSecret (alike : OpenlyAlike c d) {s t : Secret} (same : s.redacted = t.redacted) :
    OpenlyAlike (c.insertSecret s) (d.insertSecret t) := by
  -- The two Secrets have one name, so that they come into one place.
  have named : s.redacted.reference = t.redacted.reference := by rw [same]
  have place : s.reference = t.reference := named
  refine { alike with secrets := fun p => ?_ }
  rw [Cluster.insertSecret, Cluster.insertSecret, place, Dict.get?_insert, Dict.get?_insert]
  split
  · exact congrArg some same
  · exact alike.secrets p

/-- The same pods come into both clusters. -/
theorem withPods (alike : OpenlyAlike c d) {before after : Dict Reference Pod} (same : before = after) :
    OpenlyAlike { c with pods := before } { d with pods := after } :=
  { alike with pods := same }

end OpenlyAlike

/-- Calls that come to the same whatever values the Secrets of a cluster hold. -/
def Discreet {ε α : Type} (m : ExceptT ε (StateM Cluster) α) : Prop := Parallel OpenlyAlike m m

/-- A call that only reads is discreet when its answer is. -/
theorem Looks.discreet {α : Type} {call : ClusterM α} {record : Call}
    {answer : Cluster → Except ClusterError α} (looks : Looks call record answer)
    (blind : ∀ c d, OpenlyAlike c d → answer c = answer d) : Discreet call := by
  -- The answer of a look is a function of the cluster that does not see the values.
  intro c d alike
  rw [looks c, looks d, alike.fault?, blind c d alike]
  exact ⟨rfl, alike.called record⟩

/-- A call for a pod is discreet. -/
theorem discreet_getPod (place : Reference) : Discreet (getPod place) :=
  (looks_getPod place).discreet fun _ _ alike => by rw [alike.pods]

/-- A call for a ConfigMap is discreet. -/
theorem discreet_getConfigMap (place : Reference) : Discreet (getConfigMap place) :=
  (looks_getConfigMap place).discreet fun _ _ alike => by rw [alike.configMaps]

/-- A call for Services is discreet. -/
theorem discreet_listServices (scope : String) (labels : Dict String String) :
    Discreet (listServices scope labels) :=
  (looks_listServices scope labels).discreet fun _ _ alike => by rw [alike.services]

/-- The creation of a pod is discreet. -/
theorem discreet_createPod (pod : Pod) : Discreet (createPod pod) := by
  intro c d alike
  have called := alike.called (.createPod pod.reference)
  rw [run_createPod, run_createPod, alike.fault?, alike.pods, alike.clock]
  -- A planned failure comes to both runs, and so does the conflict over a name.
  cases d.fault? with
  | some e => exact ⟨rfl, called⟩
  | none =>
    simp only
    split
    · exact ⟨rfl, called⟩
    -- The new pods are the same, as the old ones and the clock are.
    · exact ⟨rfl, called.withPods rfl⟩

/-- The deletion of a pod is discreet. -/
theorem discreet_deletePod (place : Reference) : Discreet (deletePod place) := by
  intro c d alike
  have called := alike.called (.deletePod place)
  rw [run_deletePod, run_deletePod, alike.fault?, alike.pods, alike.podsWithout]
  -- What is deleted and when is decided by pods and clock, which are alike.
  cases d.fault? with
  | some e => exact ⟨rfl, called⟩
  | none => exact ⟨rfl, called.withPods rfl⟩

/-- The creation of a ConfigMap is discreet. -/
theorem discreet_createConfigMap (map : ConfigMap) : Discreet (createConfigMap map) := by
  intro c d alike
  have called := alike.called (.createConfigMap map.reference)
  rw [run_createConfigMap, run_createConfigMap, alike.fault?, alike.configMaps]
  -- As with pods, conflicts come to both runs or to none.
  cases d.fault? with
  | some e => exact ⟨rfl, called⟩
  | none =>
    simp only
    split
    · exact ⟨rfl, called⟩
    · exact ⟨rfl, { called with configMaps := rfl }⟩

/-- The deletion of a ConfigMap is discreet. -/
theorem discreet_deleteConfigMap (place : Reference) : Discreet (deleteConfigMap place) := by
  intro c d alike
  have called := alike.called (.deleteConfigMap place)
  rw [run_deleteConfigMap, run_deleteConfigMap, alike.fault?, alike.configMaps]
  -- The ConfigMaps are the same, so both runs find the object or neither does.
  cases d.fault? with
  | some e => exact ⟨rfl, called⟩
  | none =>
    simp only
    split
    · exact ⟨rfl, { called with configMaps := rfl }⟩
    · exact ⟨rfl, called⟩

/-- Whatever is asked of two clusters that are openly alike, they stay so, even if the answers differ. -/
theorem OpenlyAlike.perform (alike : OpenlyAlike c d) (o : Operation) :
    OpenlyAlike (o.perform.run.run c).2 (o.perform.run.run d).2 := by
  cases o with
  | getSecret place =>
    -- The answers may hold different values, but the call is noted all the same.
    rw [Operation.run_perform, Operation.run_perform, alike.fault?]
    cases d.fault? <;> exact alike.called _
  | getPod place => exact ((discreet_getPod place).map _ c d alike).2
  | createPod pod => exact ((discreet_createPod pod).map _ c d alike).2
  | deletePod place => exact ((discreet_deletePod place).map _ c d alike).2
  | getConfigMap place => exact ((discreet_getConfigMap place).map _ c d alike).2
  | createConfigMap map => exact ((discreet_createConfigMap map).map _ c d alike).2
  | deleteConfigMap place => exact ((discreet_deleteConfigMap place).map _ c d alike).2
  | listServices scope labels => exact ((discreet_listServices scope labels).map _ c d alike).2

/-- Whatever happens to two clusters that are openly alike, they stay so. -/
theorem OpenlyAlike.step (alike : OpenlyAlike c d) (step : Step) :
    OpenlyAlike (step.run c).2 (step.run d).2 := by
  -- A step does to both what it does to one; only the values of Secrets may differ before and after.
  cases step with
  | call o => exact alike.perform o
  | insertPod pod => exact alike.withPods (congrArg (·.insert pod.reference pod) alike.pods)
  | insertSecret secret => exact alike.insertSecret rfl
  | insertConfigMap map =>
    exact { alike with configMaps := congrArg (·.insert map.reference map) alike.configMaps }
  | insertService service =>
    exact { alike with services := congrArg (·.insert service.reference service) alike.services }
  | setPodStatus place status =>
    change OpenlyAlike ((c.setPodStatus? place status).getD c) ((d.setPodStatus? place status).getD d)
    rw [setPodStatus?, setPodStatus?, alike.pods]
    cases d.pods.get? place with
    | none => exact alike
    | some pod => exact alike.withPods rfl
  | setLingering on => exact { alike with lingering := rfl }
  | reap => exact alike.withPods (congrArg (Dict.filter fun _ pod => !pod.isTerminating) alike.pods)
  | failNext message =>
    -- What is planned for later calls stays the same in both.
    have later : c.faults.drop 1 = d.faults.drop 1 := congrArg (List.drop 1) alike.faults
    exact { alike with faults := congrArg (some (ClusterError.api 503 message) :: ·) later }
  | passTime now => exact { alike with clock := rfl }

end Cluster

end ImageBuild
