import ImageBuild.Proofs.Context.Replaced
import ImageBuild.Proofs.Worker.Closed
import ImageBuild.Proofs.Worker.Parts

/-! The context of a build in the container of a worker: there is a volume for it, in the directory that the task names,
just if the cluster has the context at that time. -/

namespace ImageBuild

open Kubernetes Run Work

/-- A ConfigMap is found if it is there, unless a failure says otherwise. -/
theorem Work.find_configMap_ok {place : Reference} {c d : Cluster} {found : Option ConfigMap}
    (ran : (Work.find (Cluster.getConfigMap place)).run.run c = (.ok found, d)) :
    found = c.configMaps.get? place ∨ found = none ∧ ¬c.Sincere := by
  rw [Work.find, run_callUnless, Cluster.looks_getConfigMap] at ran
  have answered := (Prod.mk.inj ran).1
  cases fault : c.fault? with
  | some e =>
    rw [fault] at answered
    refine .inr ⟨?_, fun sincere => ?_⟩
    -- Only a failure that says that there is nothing is no failure of the search.
    · simp only at answered
      split at answered
      · exact (Except.ok.inj answered).symm
      · cases answered
    · simp only [(sincere.of_fault? fault).1] at answered
      cases answered
  | none =>
    rw [fault] at answered
    simp only at answered
    -- Without a failure the answer is what is there.
    cases there : c.configMaps.get? place with
    | some map =>
      rw [there] at answered
      exact .inl (Except.ok.inj answered).symm
    | none =>
      rw [there] at answered
      exact .inl (Except.ok.inj answered).symm

/-- The volume of a context, with its files. -/
def Context.volume (stem : String) (b : Build) (map : ConfigMap) : Volume :=
  .ofConfigMap volumeName (.of (place stem b).name (files map))

/-- A context is added if it is there, unless a failure says otherwise. -/
theorem Context.mount_ok {stem directory : String} {b : Build} {m n : Worker.Mounts} {c d : Cluster}
    (ran : (mount stem b directory m).run.run c = (.ok n, d)) :
    (∃ map, c.configMaps.get? (place stem b) = some map ∧
      n = m.add (volume stem b map) (.of volumeName directory)) ∨
    (n = m ∧ (c.Sincere → c.configMaps.get? (place stem b) = none)) := by
  unfold mount at ran
  obtain ⟨found, t, looked, ran⟩ := bind_ok ran
  rcases find_configMap_ok looked with rfl | ⟨rfl, insincere⟩
  -- What was found is mounted, and nothing else.
  · cases there : c.configMaps.get? (place stem b) with
    | none =>
      rw [there] at ran
      exact .inr ⟨(pure_ok ran).1, fun _ => rfl⟩
    | some map =>
      rw [there] at ran
      exact .inl ⟨map, rfl, (pure_ok ran).1⟩
  · exact .inr ⟨(pure_ok ran).1, fun sincere => absurd sincere insincere⟩

namespace Worker

/-- The volumes for the context of a build, of which there should be one at most. -/
def contextVolumes (volumes : List Volume) : List Volume :=
  volumes.filter (·.name = Context.volumeName)

/-- The places of the context of a build in a container. -/
def contextPlaces (places : List VolumeMount) : List VolumeMount :=
  places.filter (·.name = Context.volumeName)

/-- What is mounted of the context that a cluster has of a build: one volume with its files in a directory, or nothing
where there is no context. -/
inductive MountsContext (stem : String) (b : Build) (directory : String) (c : Cluster) (m : Mounts) : Prop
  | shown {map : ConfigMap} (there : c.configMaps.get? (Context.place stem b) = some map)
      (volumes : contextVolumes m.volumes = [Context.volume stem b map])
      (places : contextPlaces m.places = [.of Context.volumeName directory])
  | absent (missing : c.Sincere → c.configMaps.get? (Context.place stem b) = none)
      (volumes : contextVolumes m.volumes = []) (places : contextPlaces m.places = [])

section

variable {stem directory : String} {b : Build} {task : Task} {c d e : Cluster} {m n : Mounts}

namespace MountsContext

/-- A context that is there is mounted, unless a failure says that it is not. -/
theorem of_there {map : ConfigMap} (mounts : MountsContext stem b directory c m)
    (there : c.configMaps.get? (Context.place stem b) = some map) (sincere : c.Sincere) :
    contextVolumes m.volumes = [Context.volume stem b map] ∧
      contextPlaces m.places = [.of Context.volumeName directory] := by
  -- A sincere cluster does not answer that the map is missing.
  cases mounts with
  | shown found volumes places =>
    obtain rfl := Option.some.inj (there.symm.trans found)
    exact ⟨volumes, places⟩
  | absent missing _ _ =>
    rw [missing sincere] at there
    cases there

/-- What is mounted for a context is one that is there. -/
theorem there_of_mem {v : Volume} (mounts : MountsContext stem b directory c m)
    (inside : v ∈ contextVolumes m.volumes) :
    ∃ map, c.configMaps.get? (Context.place stem b) = some map ∧ v = Context.volume stem b map := by
  -- Where a volume is shown there is a map behind it.
  cases mounts with
  | shown there volumes _ =>
    rw [volumes] at inside
    exact ⟨_, there, List.mem_singleton.mp inside⟩
  | absent _ volumes _ =>
    rw [volumes] at inside
    cases inside

end MountsContext

/-- Where no volume is one of a context, no place is. -/
theorem Mounts.Furnished.contextless {names : List String}
    (furnished : m.Furnished (Furnishing stem b task c) names) (other : Context.volumeName ∉ names) :
    contextVolumes m.volumes = [] ∧ contextPlaces m.places = [] := by
  -- A volume of the context would bear its name, and so would its place.
  have volumes : ∀ v ∈ m.volumes, v.name ≠ Context.volumeName := fun v inside same =>
    other (by rw [← furnished.names, ← same]; exact List.mem_map_of_mem inside)
  have places : ∀ p ∈ m.places, p.name ≠ Context.volumeName := fun p inside same =>
    other (by rw [← furnished.names, ← furnished.places_names, ← same]; exact List.mem_map_of_mem inside)
  exact ⟨List.filter_eq_nil_iff.mpr (by simpa using volumes),
    List.filter_eq_nil_iff.mpr (by simpa using places)⟩

/-- A context is mounted beside volumes of other names just if it is there. -/
theorem mountsContext_of_mount (kept : c.KeepsData d) (volumes : contextVolumes m.volumes = [])
    (places : contextPlaces m.places = [])
    (ran : (Context.mount stem b directory m).run.run d = (.ok n, e)) :
    MountsContext stem b directory c n := by
  -- Before this call nothing of a context was mounted, so that all there is comes from it.
  rcases Context.mount_ok ran with ⟨map, there, rfl⟩ | ⟨rfl, missing⟩
  · rw [kept.configMaps] at there
    refine .shown there ?_ ?_
    · rw [Mounts.add, contextVolumes, List.filter_append, ← contextVolumes, volumes]
      rfl
    · rw [Mounts.add, contextPlaces, List.filter_append, ← contextPlaces, places]
      rfl
  · exact .absent (fun sincere => kept.configMaps ▸ missing (kept.sincere sincere)) volumes places

end

variable {s : Settings} {b : Build} {c d e : Cluster} {p : Part}

/-- Kaniko gets the context mounted after everything else. -/
theorem Kaniko.mount_of_part {task : KanikoTask} (kept : c.KeepsData d)
    (ran : (part s b task).run.run d = (.ok p, e)) :
    ∃ m n t, c.KeepsData t ∧
      m.Furnished (Furnishing s.config.podNamePrefix b (.kaniko task) c) (volumeNames task) ∧
      (Context.mount s.config.podNamePrefix b task.publication.contextDir m).run.run t = (.ok n, e) ∧
      p.mounts = n.addEnv s.proxy.env := by
  unfold part at ran
  -- The steps before the mount read only, so that it meets the data of the beginning.
  obtain ⟨address, t, looked, ran⟩ := bind_ok ran
  have kept := kept.reads (fun _ => True) (reads_address task trivial trivial) looked
  obtain ⟨m, u, mounted, ran⟩ := bind_ok ran
  obtain ⟨⟨furnished, _⟩, _⟩ :=
    reports_mountSecret s.config.podNamePrefix task t kept.toSameData m u mounted
  have kept := kept.reads (fun _ => True) (reads_mountSecret (fun _ _ => trivial) _) mounted
  obtain ⟨n, v, shown, ran⟩ := bind_ok ran
  obtain ⟨rfl, rfl⟩ := pure_ok ran
  exact ⟨_, n, u, kept, (furnished_mountCache furnished).1, shown, rfl⟩

/-- Buildah gets the context mounted after everything else. -/
theorem Buildah.mount_of_part {task : BuildahTask} (kept : c.KeepsData d)
    (ran : (part s b task).run.run d = (.ok p, e)) :
    ∃ m n t, c.KeepsData t ∧
      m.Furnished (Furnishing s.config.podNamePrefix b (.buildah task) c) (volumeNames task) ∧
      (Context.mount s.config.podNamePrefix b task.publication.contextDir m).run.run t = (.ok n, e) ∧
      p.mounts = n.addEnv s.proxy.env := by
  unfold part at ran
  -- Again the steps before the mount only read.
  obtain ⟨f, t, certified, ran⟩ := bind_ok ran
  obtain ⟨⟨furnished, silent, first, _⟩, _⟩ :=
    reports_addCertificates s.config.podNamePrefix task _ d kept.toSameData f t certified
  have kept := kept.reads (fun _ => True) (reads_addCertificates (fun _ _ => trivial) _) certified
  obtain ⟨g, u, told, ran⟩ := bind_ok ran
  obtain ⟨⟨furnished, _, _⟩, _⟩ :=
    reports_addCredentials task furnished silent first t kept.toSameData g u told
  have kept := kept.reads (fun _ => True) (reads_addCredentials (fun _ _ => trivial) _) told
  obtain ⟨n, v, shown, ran⟩ := bind_ok ran
  obtain ⟨rfl, rfl⟩ := pure_ok ran
  exact ⟨_, n, u, kept, furnished, shown, rfl⟩

/-- The context is not among the volumes that a task has of its own. -/
theorem volumeName_not_mem_ownVolumes (task : Task) : Context.volumeName ∉ ownVolumes task := by
  -- Its own volumes and that of the context have been shown to differ.
  have distinct : (ownVolumes task ++ [Context.volumeName]).Nodup := by
    cases task with
    | kaniko task => exact Kaniko.volumeNames_nodup task
    | buildah task => exact Buildah.volumeNames_nodup task
  rw [← List.concat_eq_append, List.nodup_concat] at distinct
  exact distinct.1

/-- The part of a task has the context mounted in the directory of the task just if the context is there. -/
theorem mountsContext_of_comesTo {task : Task} (comes : ComesTo s b c task p) :
    MountsContext s.config.podNamePrefix b task.publication.contextDir c p.mounts := by
  obtain ⟨d, e, kept, ran⟩ := comes
  obtain ⟨m, n, t, kept, furnished, ran, same⟩ : ∃ m n t, c.KeepsData t ∧
      m.Furnished (Furnishing s.config.podNamePrefix b task c) (ownVolumes task) ∧
      (Context.mount s.config.podNamePrefix b task.publication.contextDir m).run.run t = (.ok n, e) ∧
      p.mounts = n.addEnv s.proxy.env := by
    cases task with
    | kaniko task => exact Kaniko.mount_of_part kept ran
    | buildah task => exact Buildah.mount_of_part kept ran
  obtain ⟨volumes, places⟩ := furnished.contextless (volumeName_not_mem_ownVolumes task)
  rw [same]
  -- Variables are neither volumes nor places.
  cases mountsContext_of_mount kept volumes places ran with
  | shown there volumes places => exact .shown there volumes places
  | absent missing volumes places => exact .absent missing volumes places

/-- The volumes for the context in a pod are those of its parts. -/
theorem contextVolumes_addParts (pieces : List (Task × Part)) :
    contextVolumes ((addParts pieces bareSpec).volumes.getD [])
      = pieces.flatMap fun piece => contextVolumes piece.2.mounts.volumes := by
  -- Filtering the whole is filtering each part.
  rw [volumes_addParts]
  exact List.filter_flatMap

/-- A worker pod has one volume of the context for each task, or none at all where the context is missing. -/
theorem contextVolumes_of_pod {built : Pod} (ran : (pod s b).run.run c = (.ok built, d)) :
    ∃ spec, built.spec = some spec ∧
      (∀ v ∈ contextVolumes (spec.volumes.getD []),
        ∃ map, c.configMaps.get? (Context.place s.config.podNamePrefix b) = some map ∧
          v = Context.volume s.config.podNamePrefix b map) ∧
      ∀ map, c.configMaps.get? (Context.place s.config.podNamePrefix b) = some map → c.Sincere →
        contextVolumes (spec.volumes.getD [])
          = List.replicate b.spec.tasks.length (Context.volume s.config.podNamePrefix b map) := by
  obtain ⟨pieces, tasks, each, rfl⟩ := pieces_of_pod ran
  refine ⟨_, rfl, ?_, ?_⟩
  · intro v inside
    rw [contextVolumes_addParts] at inside
    obtain ⟨piece, member, inside⟩ := List.mem_flatMap.mp inside
    exact (mountsContext_of_comesTo (each piece member)).there_of_mem inside
  · intro map there sincere
    have one : ∀ piece ∈ pieces, contextVolumes piece.2.mounts.volumes
        = [Context.volume s.config.podNamePrefix b map] :=
      fun piece member => ((mountsContext_of_comesTo (each piece member)).of_there there sincere).1
    -- There are as many parts as tasks, and each leaves one volume.
    rw [contextVolumes_addParts, List.flatMap_congr one, ← List.map_eq_flatMap, List.map_const', ← tasks,
      List.length_map]

end Worker

end ImageBuild
