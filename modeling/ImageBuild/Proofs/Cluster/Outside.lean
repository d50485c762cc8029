import ImageBuild.Proofs.Cluster.Calls

/-! What happens to a cluster from outside of the engine, and what this cannot do about the pod of one place. -/

namespace ImageBuild

open Kubernetes

/-- A failure that may pass does not say that an object is missing, or there already. -/
theorem ClusterError.harmful_of_isTransient {e : ClusterError} (transient : e.isTransient = true) :
    e.isNotFound = false ∧ e.isAlreadyExists = false := by
  cases e <;> simp_all [isTransient, isNotFound, isAlreadyExists]

namespace Cluster

/-- No failure that is planned says anything about the objects: each is one of those that pass. -/
def Sincere (c : Cluster) : Prop := ∀ e, some e ∈ c.faults → e.isTransient = true

/-- The failure that is met next is one of those that are planned. -/
theorem mem_faults_of_fault? {c : Cluster} {e : ClusterError} (planned : c.fault? = some e) :
    some e ∈ c.faults := by
  -- The next failure is the head of the list.
  unfold fault? at planned
  rw [Option.join_eq_some_iff] at planned
  exact List.mem_of_mem_head? planned

/-- A call leaves no failures that were not planned. -/
theorem Sincere.called {c : Cluster} (sincere : c.Sincere) (call : Call) :
    (c.called call).Sincere :=
  fun e planned => sincere e (List.mem_of_mem_drop planned)

/-- Where failures are sincere, the one that is met next is neither a missing nor an existing object. -/
theorem Sincere.of_fault? {c : Cluster} {e : ClusterError} (sincere : c.Sincere)
    (planned : c.fault? = some e) : e.isNotFound = false ∧ e.isAlreadyExists = false :=
  ClusterError.harmful_of_isTransient (sincere e (mem_faults_of_fault? planned))

/-- What others may do to a cluster as long as nobody puts a pod in one place. -/
inductive Disturbed (place : Reference) (c : Cluster) : Cluster → Prop
  /-- A pod, also that of the place, has another status. -/
  | status {p : Reference} {status : PodStatus} {d : Cluster}
      (set : c.setPodStatus? p status = some d) : Disturbed place c d
  /-- A pod, also that of the place, has been deleted by a call, or the call has failed. -/
  | deleted (p : Reference) : Disturbed place c ((deletePod p).run.run c).2
  /-- Deleted pods stay from now on, or do not. -/
  | lingering (on : Bool) : Disturbed place c (c.setLingering on)
  /-- Deleted pods are gone. -/
  | reaped : Disturbed place c c.reap
  /-- The next call will fail. -/
  | failing (message : String) : Disturbed place c (c.failNext message)
  /-- There is a pod more in another place. -/
  | pod (pod : Pod) (elsewhere : pod.reference ≠ place) : Disturbed place c (c.insertPod pod)
  /-- There is another Secret. -/
  | secret (secret : Secret) : Disturbed place c (c.insertSecret secret)
  /-- There is another ConfigMap. -/
  | configMap (map : ConfigMap) : Disturbed place c (c.insertConfigMap map)
  /-- There is another Service. -/
  | service (service : Service) : Disturbed place c (c.insertService service)
  /-- The clock has another reading. -/
  | clock (now : Instant) : Disturbed place c { c with clock := now }

/-- A pod after a deletion was there before, and stays deleted if it was. -/
theorem get?_of_podsWithout {c : Cluster} {p place : Reference} {pod : Pod}
    (there : (c.podsWithout p).get? place = some pod) :
    ∃ old, c.pods.get? place = some old ∧ (old.isTerminating = true → pod.isTerminating = true) := by
  rw [get?_podsWithout] at there
  split at there
  · rename_i same
    subst same
    -- Only where deleted pods linger there is still a pod in the place.
    split at there
    · obtain ⟨old, before, rfl⟩ := Option.map_eq_some_iff.mp there
      exact ⟨old, before, fun _ => old.isTerminating_ended _⟩
    · cases there
  · exact ⟨pod, there, id⟩

namespace Disturbed

variable {place : Reference} {c d : Cluster}

/-- A pod in the place was there before, and stays deleted if it was. -/
theorem get? (disturbed : Disturbed place c d) {pod : Pod} (there : d.pods.get? place = some pod) :
    ∃ old, c.pods.get? place = some old ∧ (old.isTerminating = true → pod.isTerminating = true) := by
  -- None of the disturbances makes a pod at the place, and none unmarks one.
  cases disturbed with
  | @status p status _ set =>
    obtain ⟨old, before, rfl⟩ := Option.map_eq_some_iff.mp set
    rw [Dict.get?_insert] at there
    split at there
    · rename_i same
      -- The status says nothing about deletion.
      obtain rfl := Option.some.inj there
      exact ⟨old, same ▸ before, id⟩
    · exact ⟨pod, there, id⟩
  | deleted p =>
    rw [run_deletePod] at there
    cases fault : c.fault? with
    | some e =>
      rw [fault] at there
      exact ⟨pod, there, id⟩
    | none =>
      rw [fault] at there
      exact get?_of_podsWithout there
  | reaped =>
    have there : (c.pods.filter (fun _ pod => !pod.isTerminating)).get? place = some pod := there
    rw [Dict.get?_filter, Option.filter_eq_some_iff] at there
    exact ⟨pod, there.1, id⟩
  | pod new elsewhere =>
    have there : (c.pods.insert new.reference new).get? place = some pod := there
    -- A pod that others create has another name.
    rw [Dict.get?_insert, if_neg (Ne.symm elsewhere)] at there
    exact ⟨pod, there, id⟩
  -- Everything else leaves the pods alone.
  | lingering on => exact ⟨pod, there, id⟩
  | failing message => exact ⟨pod, there, id⟩
  | secret secret => exact ⟨pod, there, id⟩
  | configMap map => exact ⟨pod, there, id⟩
  | service service => exact ⟨pod, there, id⟩
  | clock now => exact ⟨pod, there, id⟩

/-- No pod comes to the place. -/
theorem vacant (disturbed : Disturbed place c d) (before : c.pods.get? place = none) :
    d.pods.get? place = none := by
  -- A pod found afterwards would have been there before.
  rw [Option.eq_none_iff_forall_ne_some]
  intro pod there
  obtain ⟨old, found, _⟩ := disturbed.get? there
  cases before.symm.trans found

/-- Failures stay sincere, as that of the next call is no answer about an object. -/
theorem sincere (disturbed : Disturbed place c d) (before : c.Sincere) : d.Sincere := by
  cases disturbed with
  | status set =>
    obtain ⟨_, _, rfl⟩ := Option.map_eq_some_iff.mp set
    exact before
  | deleted p =>
    have called := before.called (.deletePod p)
    -- Whether the deletion fails or not, the failures that are left are those after it.
    rw [run_deletePod]
    cases c.fault? with
    | some e => exact called
    | none => exact called
  -- A failure that is planned from outside is one of the API, and the others were planned before.
  | failing message =>
    intro e planned
    rcases List.mem_cons.mp planned with same | later
    · obtain rfl := Option.some.inj same
      rfl
    · exact before e (List.mem_of_mem_drop later)
  | _ => exact before

end Disturbed

end Cluster

end ImageBuild
