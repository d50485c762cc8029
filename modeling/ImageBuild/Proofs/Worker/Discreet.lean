import ImageBuild.Proofs.Cluster.Redacted
import ImageBuild.Worker.Pod

/-! A worker pod is put together without the values of Secrets: of credentials only the keys play a part. -/

namespace ImageBuild

open Cluster Kubernetes Run

namespace Work

variable {α : Type} {call : ClusterM α}

/-- A call whose failure ends the work is as discreet as the call. -/
theorem discreet_call (discreet : Discreet call) : Discreet (Work.call call) := by
  -- Work passes the answer on as it is.
  intro c d alike
  obtain ⟨result, after⟩ := discreet c d alike
  rw [run_call, run_call, result]
  exact ⟨rfl, after⟩

/-- A call of which one kind of failure is an answer is as discreet as the call. -/
theorem discreet_callUnless (harmless : ClusterError → Bool) (discreet : Discreet call) :
    Discreet (callUnless harmless call) := by
  -- Whether an error is harmless depends on the answer alone.
  intro c d alike
  obtain ⟨result, after⟩ := discreet c d alike
  rw [run_callUnless, run_callUnless, result]
  exact ⟨rfl, after⟩

/-- A call for an object that may be missing is as discreet as the call. -/
theorem discreet_find (discreet : Discreet call) : Discreet (Work.find call) :=
  discreet_callUnless ClusterError.isNotFound discreet

/-- A call for a Secret is discreet when values play no part in what follows. -/
theorem discreet_secret {place : Reference} {k : Secret → Work α} (each : ∀ secret, Discreet (k secret))
    (valueless : ∀ s t : Secret, s.redacted = t.redacted → k s = k t) :
    Discreet (Work.call (getSecret place) >>= k) := by
  intro c d alike
  have called := alike.called (.getSecret place)
  have same := alike.secrets place
  rw [run_bind, run_bind, run_call, run_call, looks_getSecret, looks_getSecret, alike.fault?]
  cases d.fault? with
  | some e => exact ⟨rfl, called⟩
  | none =>
    simp only
    -- Where one cluster has no such Secret, the other one has none either.
    cases there : c.secrets.get? place with
    | none =>
      rw [there] at same
      rw [Option.map_eq_none_iff.mp same.symm]
      exact ⟨rfl, called⟩
    | some secret =>
      rw [there] at same
      obtain ⟨other, present, redacted⟩ := Option.map_eq_some_iff.mp same.symm
      rw [present]
      change ((k secret).run.run _).1 = ((k other).run.run _).1 ∧
        OpenlyAlike ((k secret).run.run _).2 ((k other).run.run _).2
      -- What follows is the same for both Secrets, and starts from clusters that are alike.
      rw [valueless other secret redacted]
      exact each secret _ _ called

end Work

open Work

namespace Registry

/-- The description of a registry is read from a ConfigMap. -/
theorem discreet_hostingAddress : Discreet hostingAddress := by
  -- The ConfigMap is the same, and decides on all that follows.
  unfold hostingAddress
  refine (discreet_find (discreet_getConfigMap hostingPlace)).bind (fun map => ?_)
  split
  · exact .pure _
  · split
    · exact .pure _
    · exact .throw _

/-- The address of the registry of a cluster is found discreetly. -/
theorem discreet_address : Discreet address := by
  -- Services are the same as well.
  refine discreet_hostingAddress.bind (fun found => ?_)
  cases found with
  | some found => exact .pure _
  | none =>
    exact (discreet_call (discreet_listServices addonScope addonLabels)).bind (fun _ => .pure _)

end Registry

namespace Context

/-- The files of a build are looked for in a ConfigMap. -/
theorem discreet_mount (stem : String) (b : Build) (directory : String) (m : Worker.Mounts) :
    Discreet (mount stem b directory m) := by
  -- The context is mounted or not.
  refine (discreet_find (discreet_getConfigMap _)).bind (fun map => ?_)
  cases map <;> exact .pure _

/-- The files of a build are kept discreetly. -/
theorem discreet_replace (stem : String) (b : Build) (files : List ContextFile) :
    Discreet (replace stem b files) := by
  unfold replace
  split
  · exact .pure _
  · -- The check of the files has nothing to do with the cluster.
    refine Parallel.bind ?_ (fun contents => ?_)
    · cases Contents.ofFiles files with
      | ok contents => exact .pure contents
      | error e => exact .throw e
    -- The old ConfigMap is deleted before the new one is created.
    · exact (discreet_find (discreet_deleteConfigMap _)).bind fun _ =>
        (discreet_call (discreet_createConfigMap _)).bind fun _ => .pure _

end Context

namespace Worker

/-- The form of credentials is told by the keys of their Secret. -/
theorem RegistryFile.discreet_ofSecret (table : List RegistryFile) (place : Reference) :
    Discreet (ofSecret table place) := by
  refine discreet_secret (fun secret => ?_) (fun s t same => ?_)
  -- Either a file is chosen or the search fails.
  · cases choose? table secret.hasKey with
    | some f => exact .pure f
    | none => exact .throw _
  · -- The choice is one between keys.
    simp only [Secret.hasKey_congr same]

/-- The form of certificates is told by a ConfigMap. -/
theorem RegistryFile.discreet_ofConfigMap (table : List RegistryFile) (place : Reference) :
    Discreet (ofConfigMap table place) := by
  -- The keys of ConfigMaps are open.
  refine (discreet_call (discreet_getConfigMap place)).bind (fun map => ?_)
  cases choose? table map.hasKey with
  | some f => exact .pure f
  | none => exact .throw _

open RegistryFile

/-- The container of Kaniko is put together discreetly. -/
theorem Kaniko.discreet_part (s : Settings) (b : Build) (task : KanikoTask) :
    Discreet (Kaniko.part s b task) := by
  have addressed : Discreet (address task) := by
    unfold address
    split
    · exact .pure _
    · exact Registry.discreet_address
  have secret : ∀ m, Discreet (mountSecret b.reference.scope task.publication.registry m) := by
    intro m
    unfold mountSecret
    split
    · exact (discreet_ofSecret _ _).bind (fun _ => .pure _)
    · exact .pure _
  unfold Kaniko.part
  -- Address, credentials and context, in the order of the calls.
  exact addressed.bind fun _ => (secret _).bind fun _ =>
    (Context.discreet_mount _ _ _ _).bind fun _ => .pure _

/-- The container of Buildah is put together discreetly. -/
theorem Buildah.discreet_part (s : Settings) (b : Build) (task : BuildahTask) :
    Discreet (Buildah.part s b task) := by
  -- Certificates come from a ConfigMap, and credentials from a Secret.
  have certified : ∀ d, Discreet (addCertificates b.reference.scope task.publication.registry d) := by
    intro d
    unfold addCertificates
    split
    · exact (discreet_ofConfigMap _ _).bind (fun _ => .pure _)
    · exact .pure _
  have secret : ∀ d, Discreet (addCredentials b.reference.scope task.publication.registry d) := by
    intro d
    unfold addCredentials
    split
    · -- Whether credentials are bare is seen from the key that was chosen.
      refine (discreet_ofSecret _ _).bind (fun f => ?_)
      split <;> exact .pure _
    · exact .pure _
  unfold Buildah.part
  -- The context is mounted last, and what is put together from it needs no more looks.
  exact (certified _).bind fun _ => (secret _).bind fun _ =>
    (Context.discreet_mount _ _ _ _).bind fun _ => .pure _

/-- A worker pod is put together discreetly, whatever its tasks are. -/
theorem discreet_pod (s : Settings) (b : Build) : Discreet (pod s b) := by
  -- The pod is put together task by task, and nothing else is asked for.
  unfold pod
  refine (Parallel.foldlM (fun spec task _ => ?_) _).bind (fun spec => .pure _)
  cases task with
  | kaniko task => exact (Kaniko.discreet_part s b task).bind (fun _ => .pure _)
  | buildah task => exact (Buildah.discreet_part s b task).bind (fun _ => .pure _)

end Worker

end ImageBuild
