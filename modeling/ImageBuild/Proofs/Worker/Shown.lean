import ImageBuild.Proofs.Worker.Reading

/-! What a worker pod shows its containers: of all ConfigMaps only the context of its build and the certificates
that a task names. -/

namespace ImageBuild

open Kubernetes

namespace Kubernetes

/-- The name of the ConfigMap that a volume shows. -/
def Volume.configMapName? (v : Volume) : Option String := v.configMap.bind (·.object)

/-- Whether a pod shows its containers a ConfigMap of its namespace. -/
def Pod.Shows (pod : Pod) (name : String) : Prop :=
  ∃ spec, pod.spec = some spec ∧ ∃ v ∈ spec.volumes.getD [], v.configMapName? = some name

end Kubernetes

/-- Whether a worker of a build may be shown a ConfigMap: its context, or certificates. -/
def Build.MayShow (stem : String) (b : Build) (name : String) : Prop :=
  name = (Context.place stem b).name ∨ b.NamesCertificates name

/-- Whether volumes show no other ConfigMaps than a worker of the build may be shown. -/
def Build.Admits (stem : String) (b : Build) (volumes : List Volume) : Prop :=
  ∀ v ∈ volumes, ∀ name, v.configMapName? = some name → b.MayShow stem name

namespace Build

variable {stem : String} {b : Build} {volumes more : List Volume}

/-- No volumes show nothing. -/
theorem admits_nil : b.Admits stem [] := nofun

/-- Volumes can be put together. -/
theorem Admits.append (admits : b.Admits stem volumes) (also : b.Admits stem more) :
    b.Admits stem (volumes ++ more) :=
  fun v member => (List.mem_append.mp member).elim (admits v) (also v)

/-- A volume that shows no ConfigMap is always admitted. -/
theorem Admits.add (admits : b.Admits stem volumes) {v : Volume} (plain : v.configMapName? = none) :
    b.Admits stem (volumes ++ [v]) := by
  -- The new volume shows no ConfigMap.
  refine admits.append fun w member name shown => ?_
  rw [List.mem_singleton.mp member, plain] at shown
  cases shown

/-- A volume that shows a ConfigMap is admitted if the worker may be shown that. -/
theorem Admits.shows (admits : b.Admits stem volumes) {v : Volume} {name : String}
    (named : v.configMapName? = some name) (may : b.MayShow stem name) :
    b.Admits stem (volumes ++ [v]) := by
  -- The new volume shows the one that is named.
  refine admits.append fun w member other shown => ?_
  rw [List.mem_singleton.mp member, named] at shown
  exact Option.some.inj shown ▸ may

end Build

open Work Worker

/-- The files of a build are those of its context. -/
theorem Context.yields_mount {stem : String} {b : Build} (directory : String) {m : Mounts}
    (admits : b.Admits stem m.volumes) :
    Yields (fun m : Mounts => b.Admits stem m.volumes) (mount stem b directory m) := by
  -- The context of the build may be shown.
  unfold mount
  refine Yields.after _ fun map => ?_
  cases map with
  | none => exact .pure admits
  | some map => exact .pure (admits.shows rfl (.inl rfl))

namespace Worker

variable {b : Build}

/-- Credentials are shown from a Secret. -/
theorem Kaniko.yields_mountSecret (stem scope : String) (b : Build) (registry : RegistrySpec) :
    Yields (fun m : Mounts => b.Admits stem m.volumes) (mountSecret scope registry .empty) := by
  -- A volume of a Secret shows no ConfigMap.
  unfold mountSecret
  split
  · exact .after _ fun f => .pure (Build.admits_nil.add rfl)
  · exact .pure Build.admits_nil

/-- The cache is shown from a claim. -/
theorem Kaniko.admits_mountCache {stem : String} (cache : LayerCache) {m : Mounts}
    (admits : b.Admits stem m.volumes) : b.Admits stem (mountCache cache m).volumes := by
  -- Nor does one of a claim.
  unfold mountCache
  split
  · exact admits.add rfl
  · exact admits

/-- The container of Kaniko is shown the context of its build. -/
theorem Kaniko.yields_part (s : Settings) (task : KanikoTask) :
    Yields (fun part : Part => b.Admits s.config.podNamePrefix part.volumes) (part s b task) :=
  -- Each step adds volumes that are admitted.
  .after _ fun _ => (yields_mountSecret _ _ b _).bind fun _ admits =>
    (Context.yields_mount _ (admits_mountCache task.cache admits)).bind fun _ admits => .pure admits

/-- The certificates that a task names are shown from their ConfigMap. -/
theorem Buildah.yields_addCertificates {stem scope : String} {task : BuildahTask}
    (member : .buildah task ∈ b.spec.tasks) {d : Draft} (admits : b.Admits stem d.mounts.volumes) :
    Yields (fun d : Draft => b.Admits stem d.mounts.volumes)
      (addCertificates scope task.publication.registry d) := by
  -- Certificates are named by the task, so they may be shown.
  unfold addCertificates
  split
  · rename_i ca named
    exact .after _ fun f => .pure (admits.shows rfl (.inr ⟨_, member, named⟩))
  · exact .pure admits

/-- Credentials are shown from a Secret, in whatever form they are. -/
theorem Buildah.yields_addCredentials {stem scope : String} {registry : RegistrySpec} {d : Draft}
    (admits : b.Admits stem d.mounts.volumes) :
    Yields (fun d : Draft => b.Admits stem d.mounts.volumes) (addCredentials scope registry d) := by
  -- Bare or not, credentials come from a Secret.
  unfold addCredentials
  split
  · refine .after _ fun f => ?_
    split <;> exact .pure (admits.add rfl)
  · exact .pure admits

/-- The container of Buildah is shown the context of its build, and the certificates of its registry. -/
theorem Buildah.yields_part (s : Settings) {task : BuildahTask}
    (member : .buildah task ∈ b.spec.tasks) :
    Yields (fun part : Part => b.Admits s.config.podNamePrefix part.volumes) (part s b task) :=
  -- Certificates, credentials and context, in this order.
  (yields_addCertificates member Build.admits_nil).bind fun _ admits =>
    (yields_addCredentials admits).bind fun _ admits =>
      (Context.yields_mount _ admits).bind fun _ admits => .pure admits

/-- A worker pod has the place of its build. -/
theorem yields_place (s : Settings) (b : Build) :
    Yields (fun pod : Pod => pod.reference = place s.config.podNamePrefix b) (pod s b) :=
  fun _ _ _ ran => (pod_ok ran).1

/-- A worker pod shows only what its build admits. -/
theorem yields_pod (s : Settings) (b : Build) :
    Yields (fun pod : Pod => ∀ name, pod.Shows name → b.MayShow s.config.podNamePrefix name)
      (pod s b) := by
  -- The volumes of a pod are those of its parts, one part for each task.
  have each : ∀ (spec : PodSpec), b.Admits s.config.podNamePrefix (spec.volumes.getD []) →
      ∀ task ∈ b.spec.tasks,
        Yields (fun spec : PodSpec => b.Admits s.config.podNamePrefix (spec.volumes.getD []))
          (do pure (addPart task (← part s b task) spec)) := by
    intro spec admits task member
    have shown : Yields (fun part : Part => b.Admits s.config.podNamePrefix part.volumes)
        (part s b task) := by
      cases task with
      | kaniko task => exact Kaniko.yields_part s task
      | buildah task => exact Buildah.yields_part s member
    exact shown.bind fun part also => .pure (admits.append also)
  unfold pod
  -- The pod begins without volumes, and the fold keeps them admitted.
  refine (Yields.foldlM each Build.admits_nil).bind fun spec admits => .pure ?_
  rintro name ⟨shownSpec, same, v, member, shown⟩
  obtain rfl := Option.some.inj same
  exact admits v member name shown

end Worker

end ImageBuild
