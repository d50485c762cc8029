import ImageBuild.Proofs.Cluster.Ideal
import ImageBuild.Proofs.Instant.Order
import Mathlib.Data.List.Induction

/-! A cluster keeps its promises, whatever has been done with it before: failures strike one call each and change
nothing, deleted pods linger as they are, and what is done about one object is not seen in others. -/

namespace ImageBuild

open Kubernetes Remote Run

namespace Remote.Operation

/-- Whether an operation asks for an object: a list asks for all Services of its namespace. -/
def AsksFor (kind : ObjectKind) (place : Reference) : Operation → Prop
  | listServices scope _ => kind = .service ∧ place.scope = scope
  | o => o.subject = (kind, place)

/-- An operation where no failure is planned is answered by the objects. -/
theorem run_perform_calm (o : Operation) {c : Cluster} (calm : c.fault? = none) :
    o.perform.run.run c = (o.result c, (o.effect c).called o.call) := by
  rw [run_perform, calm]

/-- An operation changes neither the clock nor whether deleted pods linger. -/
theorem lingering_effect (o : Operation) (c : Cluster) :
    (o.effect c).lingering = c.lingering ∧ (o.effect c).clock = c.clock := by
  -- An operation changes the objects at most; the switch and the clock are turned by other steps.
  cases o with
  | createPod pod => simp only [effect]; split <;> exact ⟨rfl, rfl⟩
  | createConfigMap map => simp only [effect]; split <;> exact ⟨rfl, rfl⟩
  | deleteConfigMap place => simp only [effect]; split <;> exact ⟨rfl, rfl⟩
  | _ => exact ⟨rfl, rfl⟩

end Remote.Operation

namespace Cluster

/-- Clusters with the same objects. -/
def SameObjects (c d : Cluster) : Prop :=
  c.pods = d.pods ∧ c.secrets = d.secrets ∧ c.configMaps = d.configMaps ∧ c.services = d.services

/-- A call that fails, for whatever reason, changes no object. -/
theorem sameObjects_of_error {o : Operation} {c d : Cluster} {e : ClusterError}
    (failed : o.perform.run.run c = (.error e, d)) : SameObjects c d := by
  rw [Operation.run_perform] at failed
  cases fault : c.fault? with
  -- A planned failure keeps the operation from running at all.
  | some planned =>
    rw [fault] at failed
    obtain ⟨_, rfl⟩ := Prod.mk.inj failed
    exact ⟨rfl, rfl, rfl, rfl⟩
  | none =>
    rw [fault] at failed
    obtain ⟨refused, rfl⟩ := Prod.mk.inj failed
    -- The objects that refuse an operation are left alone by it.
    rw [Operation.effect_of_error refused]
    exact ⟨rfl, rfl, rfl, rfl⟩

/-- Whether a failure waits at the end of some steps: after it was planned there was no call, and no other plan. -/
def Waits (history : List Step) (message : String) : Prop :=
  ∃ before quiet, history = before ++ .failNext message :: quiet ∧
    ∀ step ∈ quiet, step.isQuiet = true

/-- A failure waits after a step that plans it, or has been waiting and the step is none of those. -/
theorem waits_concat {history : List Step} {step : Step} {message : String} :
    Waits (history ++ [step]) message ↔
      step = .failNext message ∨ (step.isQuiet = true ∧ Waits history message) := by
  -- Both directions look at what follows the plan: nothing, or quiet steps of which the new one is the last.
  constructor
  · rintro ⟨before, quiet, split, silent⟩
    rcases List.eq_nil_or_concat quiet with rfl | ⟨more, last, rfl⟩
    · -- The plan is the last step.
      obtain ⟨_, same⟩ := List.append_inj' split rfl
      exact .inl (List.singleton_inj.mp same)
    -- A quiet step comes last, and without it the plan still waits in what came before.
    · rw [List.concat_eq_append] at split silent
      rw [← List.cons_append, ← List.append_assoc] at split
      obtain ⟨earlier, same⟩ := List.append_inj' split rfl
      obtain rfl := List.singleton_inj.mp same
      exact .inr ⟨silent _ (by simp), before, more, earlier,
        fun step member => silent step (by simp [member])⟩
  · rintro (rfl | ⟨silent, before, quiet, rfl, still⟩)
    · exact ⟨history, [], rfl, by simp⟩
    · refine ⟨before, quiet ++ [step], by simp, fun other member => ?_⟩
      rcases List.mem_append.mp member with inside | last
      · exact still other inside
      · rwa [List.mem_singleton.mp last]

/-- The failure that is promised is the one that waits. -/
theorem failure_iff_waits (clock : Instant) (history : List Step) (message : String) :
    (history.foldl Ideal.after (.empty clock)).failure = some message ↔ Waits history message := by
  -- The induction takes the steps from the last one back.
  induction history using List.reverseRecOn with
  | nil =>
    constructor
    · intro none
      cases none
    · rintro ⟨before, quiet, nothing, _⟩
      simp at nothing
  | append_singleton history step ih =>
    rw [List.foldl_append, List.foldl_cons, List.foldl_nil, waits_concat, ← ih]
    -- Only a call and a new plan change what waits, and only these two are not quiet.
    cases step with
    | call op => simp [Ideal.failure_after_call, Step.isQuiet]
    | failNext planned => simp [Ideal.after, Step.isQuiet, eq_comm]
    | _ => simp [Ideal.after, Step.isQuiet]

/-- Deleted pods stay as they are: deleting one again changes nothing, nor does anything else that spares them, and
their name is not free. -/
def Lingers (c : Cluster) : Prop :=
  ∀ (place : Reference) (pod : Pod), c.lingering = true → c.pods.get? place = some pod →
    (c.fault? = none →
      ((Operation.deletePod place).perform.run.run c).1 = .ok .done ∧
      ((Operation.deletePod place).perform.run.run c).2.pods.get? place = some (pod.ended c.clock)) ∧
    (pod.isTerminating = true → ∀ more : List Step, (∀ step ∈ more, step.Spares place) →
      (∃ status, (c.run more).2.pods.get? place = some { pod with status := status }) ∧
      ∀ new : Pod, new.reference = place → (c.run more).2.fault? = none →
        ((Operation.createPod new).perform.run.run (c.run more).2).1 =
          .error (.alreadyExists .pod place))

/-- An operation leaves a deleted pod as it is where such pods linger. -/
theorem get?_effect_terminating {c : Cluster} {place : Reference} {pod : Pod} (o : Operation)
    (lingering : c.lingering = true) (there : c.pods.get? place = some pod)
    (deleted : pod.isTerminating = true) : (o.effect c).pods.get? place = some pod := by
  cases o with
  | createPod new =>
    simp only [Operation.effect]
    split
    · exact there
    · -- The new pod has another name, as that of the deleted one is taken.
      rename_i free
      have other : place ≠ new.reference := by
        rintro rfl
        exact free ((Dict.contains_iff _ _).mpr ⟨pod, there⟩)
      simp [other, there]
  -- A second deletion keeps the time of the first.
  | deletePod p =>
    change (c.podsWithout p).get? place = some pod
    rw [get?_podsWithout]
    split
    · rename_i own
      rw [← own, there, Option.map_some, Pod.ended, if_pos deleted]
    · exact there
  -- Maps are kept apart from the pods.
  | createConfigMap map => simp only [Operation.effect]; split <;> exact there
  | deleteConfigMap p => simp only [Operation.effect]; split <;> exact there
  | _ => exact there

/-- Every step that spares a deleted pod leaves it there, but for its status. -/
theorem lingers_step {c : Cluster} {place : Reference} {pod : Pod} {step : Step}
    (lingering : c.lingering = true) (there : c.pods.get? place = some pod)
    (deleted : pod.isTerminating = true) (spares : step.Spares place) :
    (step.run c).2.lingering = true ∧
      ∃ status, (step.run c).2.pods.get? place = some { pod with status := status } := by
  have same : ∀ {d : Cluster}, d.pods = c.pods →
      ∃ status, d.pods.get? place = some { pod with status := status } :=
    fun pods => ⟨pod.status, by rw [pods, there]⟩
  -- Apart from what would spare nothing, only a new status touches the pod, and it leaves the rest of it.
  cases step with
  | call o =>
    rw [Step.run, Operation.run_perform]
    cases c.fault? with
    | some e => exact ⟨lingering, same rfl⟩
    | none =>
      exact ⟨(o.lingering_effect c).1.trans lingering, pod.status,
        get?_effect_terminating o lingering there deleted⟩
  | insertPod new =>
    -- A pod that others put there has another name.
    have other : place ≠ new.reference := Ne.symm spares
    refine ⟨lingering, pod.status, ?_⟩
    change (c.pods.insert new.reference new).get? place = _
    rw [Dict.get?_insert, if_neg other, there]
  | setPodStatus p status =>
    rw [Step.run, setPodStatus?]
    cases found : c.pods.get? p with
    | none => exact ⟨lingering, same rfl⟩
    | some other =>
      refine ⟨lingering, ?_⟩
      change ∃ status, (c.pods.insert p _).get? place = some { pod with status := status }
      rw [Dict.get?_insert]
      split
      · rename_i own
        subst own
        obtain rfl := Option.some.inj (found.symm.trans there)
        exact ⟨some status, rfl⟩
      · exact same rfl
  | setLingering on =>
    cases on with
    | true => exact ⟨rfl, same rfl⟩
    | false => exact absurd spares id
  | reap => exact absurd spares id
  | _ => exact ⟨lingering, same rfl⟩

/-- A deleted pod lasts through any number of steps that spare it. -/
theorem lingers_run {c : Cluster} {place : Reference} (pod : Pod) (lingering : c.lingering = true)
    (there : c.pods.get? place = some pod) (deleted : pod.isTerminating = true) (more : List Step)
    (spared : ∀ step ∈ more, step.Spares place) :
    ∃ status, (c.run more).2.pods.get? place = some { pod with status := status } := by
  induction more generalizing c pod with
  | nil => exact ⟨pod.status, there⟩
  | cons step rest ih =>
    obtain ⟨still, status, stays⟩ :=
      lingers_step lingering there deleted (spared step List.mem_cons_self)
    -- Another status does not undo the deletion.
    exact ih { pod with status := status } still stays deleted (fun other member => spared other (List.mem_cons_of_mem _ member))

/-- Every cluster lets deleted pods linger where it is told to. -/
theorem lingers (c : Cluster) : c.Lingers := by
  intro place pod lingering there
  -- The deletion only marks the pod; what has been marked outlives every step that spares it.
  constructor
  · intro calm
    rw [Operation.run_perform_calm _ calm]
    refine ⟨if_pos ((Dict.contains_iff _ _).mpr ⟨pod, there⟩), ?_⟩
    change (c.podsWithout place).get? place = _
    rw [get?_podsWithout, if_pos rfl, if_pos lingering, there, Option.map_some]
  · intro deleted more spared
    obtain ⟨status, stays⟩ := lingers_run pod lingering there deleted more spared
    -- Its name is still taken, whatever pod is to be created.
    refine ⟨⟨status, stays⟩, fun new own calm => ?_⟩
    rw [Operation.run_perform_calm _ calm, Operation.result, own,
      if_pos ((Dict.contains_iff _ _).mpr ⟨_, stays⟩)]

/-- Clusters that agree about all objects but one, and about the clock. -/
structure SameBut (kind : ObjectKind) (place : Reference) (c d : Cluster) : Prop where
  pods : ∀ p, (.pod, p) ≠ (kind, place) → c.pods.get? p = d.pods.get? p
  secrets : ∀ p, (.secret, p) ≠ (kind, place) → c.secrets.get? p = d.secrets.get? p
  configMaps : ∀ p, (.configMap, p) ≠ (kind, place) → c.configMaps.get? p = d.configMaps.get? p
  services : ∀ p, (.service, p) ≠ (kind, place) → c.services.get? p = d.services.get? p
  clock : c.clock = d.clock

namespace SameBut

variable {kind : ObjectKind} {place : Reference} {c d : Cluster}

/-- A cluster agrees with itself. -/
theorem refl (c : Cluster) : SameBut kind place c c :=
  ⟨fun _ _ => rfl, fun _ _ => rfl, fun _ _ => rfl, fun _ _ => rfl, rfl⟩

/-- An object that is set is the only one that differs. -/
theorem get?_insert {β : Type} {objects : Dict Reference β} (kind : ObjectKind) {place : Reference}
    (value : β) (p : Reference) (other : (kind, p) ≠ (kind, place)) :
    (objects.insert place value).get? p = objects.get? p := by
  rw [Dict.get?_insert, if_neg (fun own => other (by rw [own]))]

/-- An operation changes no object but the one that it is about. -/
theorem effect (o : Operation) (c : Cluster) :
    SameBut o.subject.1 o.subject.2 (o.effect c) c := by
  -- The place an operation writes to is the one its subject names, so a lookup elsewhere misses it.
  cases o with
  | createPod pod =>
    simp only [Operation.effect]
    split
    · exact refl c
    · exact { refl c with pods := get?_insert .pod _ }
  | deletePod p =>
    refine { refl c with pods := fun q other => ?_ }
    change (c.podsWithout p).get? q = _
    rw [get?_podsWithout, if_neg (fun own => other (by rw [own]; rfl))]
  | createConfigMap map =>
    simp only [Operation.effect]
    split
    · exact refl c
    · exact { refl c with configMaps := get?_insert .configMap _ }
  | deleteConfigMap p =>
    simp only [Operation.effect]
    split
    · refine { refl c with configMaps := fun q other => ?_ }
      change (c.configMaps.erase p).get? q = _
      rw [Dict.get?_erase, if_neg (fun own => other (by rw [own]; rfl))]
    · exact refl c
  | _ => exact refl c

/-- A step that is about one object changes no other one. -/
theorem step {step : Step} (subject : step.subject? = some (kind, place)) (c : Cluster) :
    SameBut kind place (step.run c).2 c := by
  -- Each step writes to one place of one kind, and those without a subject are excluded.
  cases step with
  | call o =>
    obtain ⟨rfl, rfl⟩ := Prod.mk.inj (Option.some.inj subject)
    rw [Step.run, Operation.run_perform]
    have effect := effect o c
    -- A failing call writes nothing but the record of calls, which is not compared.
    cases c.fault? with
    | some e => exact ⟨fun _ _ => rfl, fun _ _ => rfl, fun _ _ => rfl, fun _ _ => rfl, rfl⟩
    | none => exact ⟨effect.pods, effect.secrets, effect.configMaps, effect.services, effect.clock⟩
  | insertPod pod =>
    obtain ⟨rfl, rfl⟩ := Prod.mk.inj (Option.some.inj subject)
    exact { refl c with pods := get?_insert .pod _ }
  | insertSecret secret =>
    obtain ⟨rfl, rfl⟩ := Prod.mk.inj (Option.some.inj subject)
    exact { refl c with secrets := get?_insert .secret _ }
  | insertConfigMap map =>
    obtain ⟨rfl, rfl⟩ := Prod.mk.inj (Option.some.inj subject)
    exact { refl c with configMaps := get?_insert .configMap _ }
  | insertService service =>
    obtain ⟨rfl, rfl⟩ := Prod.mk.inj (Option.some.inj subject)
    exact { refl c with services := get?_insert .service _ }
  | setPodStatus p status =>
    obtain ⟨rfl, rfl⟩ := Prod.mk.inj (Option.some.inj subject)
    rw [Step.run, setPodStatus?]
    cases c.pods.get? p with
    | none => exact refl c
    | some pod => exact { refl c with pods := get?_insert .pod _ }
  | setLingering on => cases subject
  | reap => cases subject
  | failNext message => cases subject
  | passTime now => cases subject

/-- An operation that does not ask for the object in which two clusters differ is answered alike. -/
theorem result (same : SameBut kind place c d) {o : Operation} (apart : ¬o.AsksFor kind place) :
    o.result c = o.result d := by
  -- An answer is read off the objects that the operation asks for, and none of these is the subject.
  cases o with
  | getPod p => rw [Operation.result, same.pods p apart, Operation.result]
  | createPod pod =>
    rw [Operation.result, Dict.contains, same.pods pod.reference apart, same.clock]
    rfl
  | deletePod p =>
    rw [Operation.result, Dict.contains, same.pods p apart]
    rfl
  | getSecret p => rw [Operation.result, same.secrets p apart, Operation.result]
  | getConfigMap p => rw [Operation.result, same.configMaps p apart, Operation.result]
  | createConfigMap map =>
    rw [Operation.result, Dict.contains, same.configMaps map.reference apart]
    rfl
  | deleteConfigMap p =>
    rw [Operation.result, Dict.contains, same.configMaps p apart]
    rfl
  | listServices scope labels =>
    -- The Services of the namespace are the same, and no others are listed.
    have listed : (c.services.filter (fun p s =>
          p.scope = scope && hasLabels labels s.metadata)) =
        d.services.filter (fun p s => p.scope = scope && hasLabels labels s.metadata) := by
      apply Dict.ext_get?
      intro p
      rw [Dict.get?_filter, Dict.get?_filter]
      by_cases own : p.scope = scope
      · rw [same.services p]
        intro asked
        obtain ⟨rfl, rfl⟩ := Prod.mk.inj asked
        exact apart ⟨rfl, own⟩
      · simp [own]
    rw [Operation.result, listed, Operation.result]

end SameBut

/-- Whatever has been done with a cluster that began without objects, its answers are those of one map for each kind
from places to objects; no call that fails changes an object; a call fails as planned exactly when no other call came
after the plan; deleted pods linger and are reaped; and what is done about one object is not seen in any answer about
others. -/
theorem keeps_contract (clock : Instant) (history : List Step) :
    let c := ((empty clock).run history).2
    (Ideal.empty clock).Explains history ((empty clock).run history).1 ∧
    (∀ (o : Operation) (e : ClusterError) (d : Cluster),
      o.perform.run.run c = (.error e, d) → SameObjects c d) ∧
    (∀ (o : Operation) (code : Nat) (message : String),
      (o.perform.run.run c).1 = .error (.api code message) ↔ code = 503 ∧ Waits history message) ∧
    c.Lingers ∧
    (∀ (place : Reference) (pod : Pod), c.reap.pods.get? place = some pod ↔
      c.pods.get? place = some pod ∧ pod.metadata.deletedAt = none) ∧
    (∀ (step : Step) (kind : ObjectKind) (place : Reference) (o : Operation),
      step.subject? = some (kind, place) → ¬o.AsksFor kind place →
        (o.perform.run.run { (step.run c).2 with faults := [] }).1 =
          (o.perform.run.run { c with faults := [] }).1) := by
  intro c
  -- The ideal cluster that follows the history says what the answers are and which failure waits.
  obtain ⟨explained, fulfils⟩ := (fulfils_empty clock).run history
  -- The conjuncts in order: answers, errors, planned failures, lingering, reaping and independence.
  refine ⟨explained, fun o e d => sameObjects_of_error, ?_, lingers c, ?_, ?_⟩
  · intro o code message
    have waits := failure_iff_waits clock history
    rw [Operation.run_perform, fulfils.fault?]
    -- Without a planned failure no operation answers with an API error.
    cases planned : (history.foldl Ideal.after (.empty clock)).failure with
    | some waiting =>
      rw [← waits, planned, Option.some.injEq]
      simp [eq_comm]
    | none =>
      rw [← waits, planned]
      simpa using Operation.result_ne_api o c code message
  · intro place pod
    change (c.pods.filter (fun _ pod => !pod.isTerminating)).get? place = some pod ↔ _
    rw [Dict.get?_filter, Option.filter_eq_some_iff]
    simp [Pod.isTerminating]
  · intro step kind place o subject apart
    -- Without a failure both answers come from the objects.
    rw [Operation.run_perform_calm o rfl, Operation.run_perform_calm o rfl]
    have same := SameBut.step subject c
    exact SameBut.result ⟨same.pods, same.secrets, same.configMaps, same.services, same.clock⟩ apart

/-- The place of a pod. -/
def webPlace : Reference := ⟨"ns", "web"⟩

/-- A pod for that place. -/
def webPod : Pod := ⟨{ Meta.none with name := some "web", scope := some "ns" }, none, none⟩

/-- The pod is created where deleted pods linger, and deleted. -/
def deletedWeb : List Step :=
  [.setLingering true, .call (.createPod webPod), .call (.deletePod webPlace)]

/-- A deleted pod keeps the time of its first deletion and its name when it is deleted again later; the call after a
planned failure meets that failure; and the pod is gone once it has been reaped. -/
theorem keeps_contract_webPod :
    let c := ((empty .epoch).run deletedWeb).2
    let d := (c.run [.passTime (.atSecond 1), .call (.deletePod webPlace)]).2
    (∃ status, d.pods.get? webPlace =
      some { (webPod.bornAt .epoch).deletedAt .epoch with status := status }) ∧
    ((Operation.createPod webPod).perform.run.run d).1 = .error (.alreadyExists .pod webPlace) ∧
    ((Operation.getPod webPlace).perform.run.run
      ((empty .epoch).run (deletedWeb ++ [.failNext "down", .setLingering false])).2).1 =
        .error (.api 503 "down") ∧
    c.reap.pods.get? webPlace = none := by
  -- The pod is deleted while deleted pods linger, so it stays until it is reaped.
  intro c d
  obtain ⟨_, _, _, lingers, reaped, _⟩ := keeps_contract .epoch deletedWeb
  have there : c.pods.get? webPlace = some ((webPod.bornAt .epoch).deletedAt .epoch) := rfl
  obtain ⟨stays, taken⟩ := (lingers webPlace _ rfl there).2 rfl
    [.passTime (.atSecond 1), .call (.deletePod webPlace)] (by simp [Step.Spares])
  refine ⟨stays, taken webPod rfl rfl, ?_, ?_⟩
  · exact ((keeps_contract .epoch (deletedWeb ++ [.failNext "down", .setLingering false])).2.2.1
      _ _ _).mpr ⟨rfl, deletedWeb, [.setLingering false], rfl, by simp [Step.isQuiet]⟩
  -- A reaped pod that was left would carry no time of deletion.
  · rw [Option.eq_none_iff_forall_ne_some]
    intro pod left
    obtain ⟨found, kept⟩ := (reaped webPlace pod).mp left
    obtain rfl := Option.some.inj (there.symm.trans found)
    cases kept

end Cluster

end ImageBuild
