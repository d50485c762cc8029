import ImageBuild.Proofs.Cluster.Steps
import Mathlib.Logic.Function.Basic

/-! What a cluster promises: for every kind of objects a map from places to objects, and one failure at most that
waits for the next call. -/

namespace ImageBuild

open Kubernetes Remote

/-- A cluster by its promises. -/
structure Ideal where
  pods : Reference → Option Pod
  secrets : Reference → Option Secret
  configMaps : Reference → Option ConfigMap
  services : Reference → Option Service
  lingering : Bool
  failure : Option String
  clock : Instant

namespace Ideal

open Cluster (Step Answer found)

/-- A cluster without objects, where no call will fail. -/
def empty (clock : Instant) : Ideal :=
  ⟨fun _ => none, fun _ => none, fun _ => none, fun _ => none, false, none, clock⟩

/-- Whether a Service is one of a namespace and carries all of some labels. -/
def Carries (o : Ideal) (scope : String) (labels : Dict String String) (place : Reference) : Prop :=
  place.scope = scope ∧ ∃ service, o.services place = some service ∧
    ∀ name value, labels.get? name = some value → service.metadata.hasLabel name value = true

/-- The answer that is promised to an operation where no failure waits. -/
def Promises (o : Ideal) : Operation → Except ClusterError Outcome → Prop
  | .getPod place, answer => answer = (found .pod place (o.pods place)).map .pod
  | .createPod pod, answer => answer =
      if (o.pods pod.reference).isSome then .error (.alreadyExists .pod pod.reference)
      else .ok (.pod (pod.bornAt o.clock))
  | .deletePod place, answer => answer =
      if (o.pods place).isSome then .ok .done else .error (.notFound .pod place)
  | .getSecret place, answer => answer = (found .secret place (o.secrets place)).map .secret
  | .getConfigMap place, answer =>
    answer = (found .configMap place (o.configMaps place)).map .configMap
  | .createConfigMap map, answer => answer =
      if (o.configMaps map.reference).isSome then .error (.alreadyExists .configMap map.reference)
      else .ok (.configMap map)
  | .deleteConfigMap place, answer => answer =
      if (o.configMaps place).isSome then .ok .done else .error (.notFound .configMap place)
  -- The places that are listed are named by their order and by what they hold.
  | .listServices scope labels, answer => ∃ places : List Reference,
      places.Pairwise (fun a b => compare a b = .lt) ∧
      (∀ place, place ∈ places ↔ o.Carries scope labels place) ∧
      answer = .ok (.services (places.filterMap o.services))

/-- What becomes of the objects with an operation. -/
def change (o : Ideal) : Operation → Ideal
  | .createPod pod =>
    if (o.pods pod.reference).isSome then o
    else { o with pods := Function.update o.pods pod.reference (some (pod.bornAt o.clock)) }
  | .deletePod place =>
    let left := if o.lingering then (o.pods place).map (fun pod => pod.ended o.clock) else none
    { o with pods := Function.update o.pods place left }
  | .createConfigMap map =>
    if (o.configMaps map.reference).isSome then o
    else { o with configMaps := Function.update o.configMaps map.reference (some map) }
  | .deleteConfigMap place => { o with configMaps := Function.update o.configMaps place none }
  | _ => o

/-- The answer that is promised to a step: a failure that waits comes first. -/
def Answers (o : Ideal) : Step → Answer → Prop
  | .call op, answer => ∃ result, answer = .outcome result ∧
      match o.failure with
      | some message => result = .error (.api 503 message)
      | none => o.Promises op result
  | .setPodStatus place _, answer => answer = .known (o.pods place).isSome
  | _, answer => answer = .silent

/-- What becomes of the cluster with a step: a failure that waits is all that a call uses up. -/
def after (o : Ideal) : Step → Ideal
  | .call op =>
    match o.failure with
    | some _ => { o with failure := none }
    | none => o.change op
  | .insertPod pod => { o with pods := Function.update o.pods pod.reference (some pod) }
  | .insertSecret secret =>
    { o with secrets := Function.update o.secrets secret.reference (some secret) }
  | .insertConfigMap map =>
    { o with configMaps := Function.update o.configMaps map.reference (some map) }
  | .insertService service =>
    { o with services := Function.update o.services service.reference (some service) }
  | .setPodStatus place status =>
    let changed := (o.pods place).map (fun pod => { pod with status := some status })
    { o with pods := Function.update o.pods place changed }
  | .setLingering on => { o with lingering := on }
  | .reap => { o with pods := fun place => (o.pods place).filter (fun pod => !pod.isTerminating) }
  | .failNext message => { o with failure := some message }
  | .passTime now => { o with clock := now }

/-- Whether answers are those that are promised to steps, taken one after the other. -/
def Explains (o : Ideal) : List Step → List Answer → Prop
  | [], answers => answers = []
  | step :: rest, answers => ∃ answer later, answers = answer :: later ∧
      o.Answers step answer ∧ (o.after step).Explains rest later

/-- A change of objects does nothing about failures. -/
@[simp] theorem failure_change (o : Ideal) (op : Operation) : (o.change op).failure = o.failure := by
  -- What an operation changes are the objects; a taken or absent name changes nothing at all.
  cases op with
  | createPod pod => simp only [change]; split <;> rfl
  | createConfigMap map => simp only [change]; split <;> rfl
  | _ => rfl

/-- No failure waits after a call. -/
theorem failure_after_call (o : Ideal) (op : Operation) : (o.after (.call op)).failure = none := by
  -- A call uses up the failure that waits for it, if any.
  unfold after
  cases waits : o.failure with
  | some message => rfl
  | none => simp [waits]

end Ideal

namespace Cluster

/-- Whether a cluster is as its promises say. -/
structure Fulfils (c : Cluster) (o : Ideal) : Prop where
  pods : ∀ place, c.pods.get? place = o.pods place
  secrets : ∀ place, c.secrets.get? place = o.secrets place
  configMaps : ∀ place, c.configMaps.get? place = o.configMaps place
  services : ∀ place, c.services.get? place = o.services place
  lingering : c.lingering = o.lingering
  faults : c.faults = o.failure.toList.map (fun message => some (.api 503 message))
  clock : c.clock = o.clock

/-- A cluster without objects promises nothing else. -/
theorem fulfils_empty (clock : Instant) : (empty clock).Fulfils (.empty clock) :=
  ⟨fun _ => rfl, fun _ => rfl, fun _ => rfl, fun _ => rfl, rfl, rfl, rfl⟩

/-- Setting an object sets it in the map that it is promised in. -/
theorem get?_insert_update {β : Type} {d : Dict Reference β} {view : Reference → Option β}
    (views : ∀ place, d.get? place = view place) (key : Reference) (value : β) (place : Reference) :
    (d.insert key value).get? place = Function.update view key (some value) place := by
  rw [Dict.get?_insert, Function.update_apply, views]

/-- The Services that are listed are those that carry the labels. -/
theorem mem_keys_listed (c : Cluster) (scope : String) (labels : Dict String String)
    (place : Reference) :
    place ∈ (c.services.filter (fun place s =>
        place.scope = scope && hasLabels labels s.metadata)).keys ↔
      place.scope = scope ∧ ∃ service, c.services.get? place = some service ∧
        ∀ name value, labels.get? name = some value →
          service.metadata.hasLabel name value = true := by
  simp only [Dict.mem_keys_iff, Option.isSome_iff_exists, Dict.get?_filter, Option.filter_eq_some_iff, Bool.and_eq_true,
    decide_eq_true_eq, hasLabels, List.all_eq_true, Prod.forall, Dict.mem_entries_iff]
  -- The filter of the listing says exactly these three things, in another order.
  constructor
  · rintro ⟨service, there, own, carried⟩
    exact ⟨own, service, there, carried⟩
  · rintro ⟨own, service, there, carried⟩
    exact ⟨service, there, own, carried⟩

namespace Fulfils

variable {c : Cluster} {o : Ideal}

/-- The same names are taken. -/
theorem contains {β : Type} {d : Dict Reference β} {view : Reference → Option β}
    (views : ∀ place, d.get? place = view place) (place : Reference) :
    d.contains place = (view place).isSome := by
  rw [Dict.contains, views]

/-- The next call meets the failure that waits. -/
theorem fault? (fulfils : c.Fulfils o) :
    c.fault? = o.failure.map (fun message => .api 503 message) := by
  -- The list of faults holds the one planned failure or nothing.
  rw [Cluster.fault?, fulfils.faults]
  cases o.failure <;> rfl

/-- A call uses up the failure that waits, and notes nothing that is promised. -/
theorem called (fulfils : c.Fulfils o) (call : Call) :
    (c.called call).Fulfils { o with failure := none } :=
  -- The record is not part of what is fulfilled, and the call takes the planned failure with it.
  { fulfils with
    faults := by
      rw [faults_called, fulfils.faults]
      cases o.failure <;> rfl }

/-- The objects answer as promised. -/
theorem promises (fulfils : c.Fulfils o) (op : Operation) : o.Promises op (op.result c) := by
  -- An answer about one object follows from the lookup alone; the listing needs its order as well.
  cases op with
  | getPod place => exact congrArg (fun object => (found .pod place object).map Outcome.pod) (fulfils.pods place)
  | createPod pod =>
    rw [Ideal.Promises, Operation.result, contains fulfils.pods, fulfils.clock]
  | deletePod place => rw [Ideal.Promises, Operation.result, contains fulfils.pods]
  | getSecret place =>
    exact congrArg (fun object => (found .secret place object).map Outcome.secret) (fulfils.secrets place)
  | getConfigMap place =>
    exact congrArg (fun object => (found .configMap place object).map Outcome.configMap)
      (fulfils.configMaps place)
  | createConfigMap map => rw [Ideal.Promises, Operation.result, contains fulfils.configMaps]
  | deleteConfigMap place => rw [Ideal.Promises, Operation.result, contains fulfils.configMaps]
  | listServices scope labels =>
    refine ⟨_, Dict.keys_ordered (c.services.filter (fun place s =>
      place.scope = scope && hasLabels labels s.metadata)), fun place => ?_, ?_⟩
    · rw [mem_keys_listed, fulfils.services, Ideal.Carries]
    · rw [Operation.result, Dict.values_eq_filterMap]
      -- What is listed is there.
      intro place service listed
      rw [Dict.get?_filter, Option.filter_eq_some_iff] at listed
      rw [← fulfils.services, listed.1]

/-- The objects change as promised. -/
theorem change (fulfils : c.Fulfils o) (op : Operation) : (op.effect c).Fulfils (o.change op) := by
  cases op with
  | createPod pod =>
    rw [Ideal.change, Operation.effect, contains fulfils.pods]
    split
    · exact fulfils
    · refine { fulfils with pods := ?_ }
      -- The new pod gets the time of the cluster, which both agree on.
      rw [← fulfils.clock]
      exact get?_insert_update fulfils.pods _ _
  -- Deleting one pod is an update of the map at its place.
  | deletePod place =>
    refine { fulfils with pods := fun p => ?_ }
    change (c.podsWithout place).get? p = _
    rw [get?_podsWithout, fulfils.pods, fulfils.pods, fulfils.lingering, fulfils.clock]
    exact (Function.update_apply _ _ _ _).symm
  | createConfigMap map =>
    rw [Ideal.change, Operation.effect, contains fulfils.configMaps]
    split
    · exact fulfils
    · exact { fulfils with configMaps := get?_insert_update fulfils.configMaps _ _ }
  | deleteConfigMap place =>
    rw [Operation.effect, contains fulfils.configMaps]
    split
    · refine { fulfils with configMaps := fun p => ?_ }
      change (c.configMaps.erase place).get? p = _
      rw [Dict.get?_erase, fulfils.configMaps]
      exact (Function.update_apply _ _ _ _).symm
    · -- Nothing is taken away where there is nothing.
      rename_i absent
      have none : o.configMaps place = none := by simpa using absent
      refine { fulfils with configMaps := fun p => ?_ }
      rw [fulfils.configMaps, Ideal.change, ← none, Function.update_eq_self]
  | _ => exact fulfils

/-- Every step is answered as promised, and leaves the cluster so. -/
theorem step (fulfils : c.Fulfils o) (step : Step) :
    o.Answers step (step.run c).1 ∧ (step.run c).2.Fulfils (o.after step) := by
  cases step with
  | call op =>
    rw [Step.run, Operation.run_perform, fulfils.fault?]
    have none : ∀ p : Ideal, p.failure = .none → { p with failure := .none } = p := by
      rintro ⟨⟩ rfl
      rfl
    -- Either the planned failure answers, and nothing changes, or the operation does.
    cases waits : o.failure with
    | some message =>
      refine ⟨⟨_, rfl, by rw [waits]; rfl⟩, ?_⟩
      rw [Ideal.after, waits]
      exact fulfils.called op.call
    | none =>
      refine ⟨⟨_, rfl, ?_⟩, ?_⟩
      · rw [waits]
        exact fulfils.promises op
      · rw [Ideal.after, waits]
        -- The call came with no failure planned, so there is none to forget.
        have changed := (fulfils.change op).called op.call
        rw [none _ (by rw [Ideal.failure_change, waits])] at changed
        exact changed
  | insertPod pod =>
    exact ⟨rfl, { fulfils with pods := get?_insert_update fulfils.pods _ _ }⟩
  | insertSecret secret =>
    exact ⟨rfl, { fulfils with secrets := get?_insert_update fulfils.secrets _ _ }⟩
  | insertConfigMap map =>
    exact ⟨rfl, { fulfils with configMaps := get?_insert_update fulfils.configMaps _ _ }⟩
  | insertService service =>
    exact ⟨rfl, { fulfils with services := get?_insert_update fulfils.services _ _ }⟩
  | setPodStatus place status =>
    have there := fulfils.pods place
    rw [Ideal.Answers, Ideal.after, Step.run, setPodStatus?, there]
    cases found : o.pods place with
    | none =>
      refine ⟨rfl, { fulfils with pods := fun p => ?_ }⟩
      -- Where there is no pod none gets a status.
      change c.pods.get? p = Function.update o.pods place none p
      rw [← found, Function.update_eq_self]
      exact fulfils.pods p
    | some pod =>
      exact ⟨rfl, { fulfils with pods := get?_insert_update fulfils.pods _ _ }⟩
  | setLingering on => exact ⟨rfl, { fulfils with lingering := rfl }⟩
  | reap =>
    refine ⟨rfl, { fulfils with pods := fun p => ?_ }⟩
    change (c.pods.filter (fun _ pod => !pod.isTerminating)).get? p = _
    rw [Dict.get?_filter, fulfils.pods]
    rfl
  | failNext message =>
    refine ⟨rfl, { fulfils with faults := ?_ }⟩
    -- A failure that was waiting is replaced.
    change some (.api 503 message) :: c.faults.drop 1 = _
    rw [fulfils.faults]
    cases o.failure <;> rfl
  | passTime now => exact ⟨rfl, { fulfils with clock := rfl }⟩

/-- All steps are answered as promised, and leave the cluster so. -/
theorem run (fulfils : c.Fulfils o) (history : List Step) :
    o.Explains history (c.run history).1 ∧ (c.run history).2.Fulfils (history.foldl Ideal.after o) := by
  -- The induction is on the steps, and each of them begins where the one before it has led.
  induction history generalizing c o with
  | nil => exact ⟨rfl, fulfils⟩
  | cons step rest ih =>
    obtain ⟨answered, later⟩ := fulfils.step step
    obtain ⟨explained, last⟩ := ih later
    exact ⟨⟨_, _, rfl, answered, explained⟩, last⟩

end Fulfils

end Cluster

end ImageBuild
