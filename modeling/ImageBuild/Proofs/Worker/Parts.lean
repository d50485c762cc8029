import ImageBuild.Proofs.Cluster.Outside
import ImageBuild.Proofs.Worker.Furnished
import ImageBuild.Worker.Pod

/-! The parts that a worker pod is put together from: one for each task, each of them made of the same data. -/

namespace ImageBuild

open Kubernetes Run Work

namespace Cluster

/-- A cluster that still has the same Secrets and ConfigMaps, with no failure planned that was not planned before. -/
structure KeepsData (c d : Cluster) : Prop extends SameData c d where
  faults : d.faults ⊆ c.faults

namespace KeepsData

variable {c d : Cluster}

theorem refl (c : Cluster) : KeepsData c c := ⟨⟨rfl, rfl⟩, fun _ => id⟩

theorem trans {e : Cluster} (before : KeepsData c d) (after : KeepsData d e) : KeepsData c e :=
  -- Data stay the same, and no failures are planned on the way.
  ⟨⟨after.secrets.trans before.secrets, after.configMaps.trans before.configMaps⟩,
    fun _ planned => before.faults (after.faults planned)⟩

/-- A call that is made uses up a failure at most. -/
theorem called (kept : KeepsData c d) (call : Call) : KeepsData c (d.called call) :=
  ⟨⟨kept.secrets, kept.configMaps⟩, fun _ planned => kept.faults (List.mem_of_mem_drop planned)⟩

/-- Reading keeps the data. -/
theorem reads (before : KeepsData c d) (Allowed : Call → Prop) {α : Type} {w : Work α}
    (reads : Reads Allowed w) {result : Except BuildError α} {e : Cluster}
    (ran : w.run.run d = (result, e)) : KeepsData c e := by
  -- Each call keeps the data and uses up a failure at most.
  have kept := reads.keeps (P := c.KeepsData) (fun _ call kept => kept.called call) d before
  rwa [ran] at kept

/-- Failures stay sincere. -/
theorem sincere (kept : KeepsData c d) (before : c.Sincere) : d.Sincere :=
  fun e planned => before e (kept.faults planned)

end KeepsData

end Cluster

/-- The build with one task in place of its own. -/
def Build.withTask (b : Build) (task : Task) : Build := { b with spec.tasks := [task] }

/-- A build with one task has it in place of its own. -/
theorem Build.withTask_of_single {b : Build} {task : Task} (single : b.spec.tasks = [task]) :
    b.withTask task = b := by
  rw [withTask, ← single]

namespace Worker

/-- Whether a task of a build comes to a part, in a cluster that may have been read for other tasks. -/
def ComesTo (s : Settings) (b : Build) (c : Cluster) (task : Task) (p : Part) : Prop :=
  ∃ d e, c.KeepsData d ∧ (part s b task).run.run d = (.ok p, e)

/-- The pod of a build that has a specification. -/
def podOf (s : Settings) (b : Build) (spec : PodSpec) : Pod where
  metadata := { Meta.none with
    scope := some (place s.config.podNamePrefix b).scope
    name := some (place s.config.podNamePrefix b).name
    labels := some (Dict.ofList [(buildLabel, b.reference.name), (componentLabel, "builder")]) }
  spec := some spec
  status := none

/-- The specification with the parts of some tasks. -/
def addParts (pieces : List (Task × Part)) (spec : PodSpec) : PodSpec :=
  pieces.foldl (fun spec piece => addPart piece.1 piece.2 spec) spec

/-- All parts leave their volumes. -/
theorem volumes_addParts (pieces : List (Task × Part)) (spec : PodSpec) :
    (addParts pieces spec).volumes.getD []
      = spec.volumes.getD [] ++ pieces.flatMap fun piece => piece.2.volumes := by
  -- The induction is on the parts, which add their volumes at the end.
  induction pieces generalizing spec with
  | nil => exact (List.append_nil _).symm
  | cons piece rest ih =>
    rw [addParts, List.foldl_cons, ← addParts, ih, List.flatMap_cons, ← List.append_assoc]
    rfl

/-- In a pod of its own a task of either kind has the only container. -/
theorem containers_addPart_bareSpec (task : Task) (p : Part) :
    (addPart task p bareSpec).containers = [p.container] := by
  cases task <;> rfl

/-- Whether a pod has one container and no other. -/
def RunsOnly (built : Pod) (container : Container) : Prop :=
  ∃ spec, built.spec = some spec ∧ spec.containers = [container] ∧ spec.initContainers = none

/-- The pod of one part has its container and no other. -/
theorem runsOnly_podOf (s : Settings) (b : Build) (task : Task) (p : Part) :
    RunsOnly (podOf s b (addPart task p bareSpec)) p.container :=
  ⟨_, rfl, containers_addPart_bareSpec task p, rfl⟩

variable {s : Settings} {b : Build}

/-- A pod is what its specification makes it. -/
theorem pod_eq_map (s : Settings) (b : Build) :
    pod s b = podOf s b <$> b.spec.tasks.foldlM
      (fun spec task => do pure (addPart task (← part s b task) spec)) bareSpec :=
  bind_pure_comp _ _

/-- The pod of a build with one task is made of its part. -/
theorem pod_eq_map_of_single {task : Task} (single : b.spec.tasks = [task]) :
    pod s b = (fun p => podOf s b (addPart task p bareSpec)) <$> part s b task := by
  -- A fold over one task is one step.
  rw [pod_eq_map, single, List.foldlM_cons]
  simp

/-- The pod of a build with one task is there when its part is. -/
theorem part_of_single {task : Task} {c d : Cluster} {built : Pod} (single : b.spec.tasks = [task])
    (ran : (pod s b).run.run c = (.ok built, d)) :
    ∃ p, (part s b task).run.run c = (.ok p, d) ∧ built = podOf s b (addPart task p bareSpec) := by
  -- Without a part there is no pod.
  rw [pod_eq_map_of_single single] at ran
  exact map_ok ran

/-- The worker pod of a task is there when its part is, and runs the container of that. -/
theorem runsOnly_of_part (task : Task) {c d : Cluster} {p : Part}
    (made : (part s b task).run.run c = (.ok p, d)) :
    ∃ built, (pod s (b.withTask task)).run.run c = (.ok built, d) ∧ RunsOnly built p.container := by
  refine ⟨podOf s b (addPart task p bareSpec), ?_, runsOnly_podOf s b task p⟩
  rw [pod_eq_map_of_single (b := b.withTask task) rfl, run_map]
  -- Of the build only its name counts for the part.
  rw [show part s (b.withTask task) task = part s b task from by cases task <;> rfl, made]
  rfl

/-- Tasks that are gone through come to their parts, one after the other. -/
private theorem pieces_of_foldlM {c d e : Cluster} {tasks : List Task} {spec result : PodSpec}
    (known : tasks ⊆ b.spec.tasks) (read : c.KeepsData d)
    (ran : (tasks.foldlM (fun spec task => do pure (addPart task (← part s b task) spec))
      spec).run.run d = (.ok result, e)) :
    ∃ pieces : List (Task × Part), pieces.map Prod.fst = tasks ∧
      (∀ piece ∈ pieces, ComesTo s b c piece.1 piece.2) ∧ result = addParts pieces spec := by
  -- The induction is on the tasks that are left, from the cluster as it is by then.
  induction tasks generalizing spec d with
  | nil =>
    exact ⟨[], rfl, fun _ member => absurd member List.not_mem_nil, (pure_ok ran).1⟩
  | cons task rest ih =>
    rw [List.foldlM_cons] at ran
    obtain ⟨next, t, first, ran⟩ := bind_ok ran
    obtain ⟨p, u, made, first⟩ := bind_ok first
    obtain ⟨rfl, rfl⟩ := pure_ok first
    -- The parts that follow are made in a cluster that has been read for this one.
    have later := read.reads _ (reads_part s (known List.mem_cons_self)) made
    obtain ⟨pieces, tasks, each, rfl⟩ :=
      ih (fun _ member => known (List.mem_cons_of_mem _ member)) later ran
    refine ⟨(task, p) :: pieces, by rw [List.map_cons, tasks], ?_, rfl⟩
    rintro piece member
    rcases List.mem_cons.mp member with rfl | later
    · exact ⟨d, t, read, made⟩
    · exact each piece later

/-- A worker pod is put together from what its tasks come to. -/
theorem pieces_of_pod {c d : Cluster} {built : Pod} (ran : (pod s b).run.run c = (.ok built, d)) :
    ∃ pieces : List (Task × Part), pieces.map Prod.fst = b.spec.tasks ∧
      (∀ piece ∈ pieces, ComesTo s b c piece.1 piece.2) ∧
      built = podOf s b (addParts pieces bareSpec) := by
  -- The pod is what the fold has put together, with the metadata around it.
  unfold pod at ran
  obtain ⟨spec, e, gone, ran⟩ := bind_ok ran
  obtain ⟨pieces, tasks, each, rfl⟩ := pieces_of_foldlM (fun _ => id) (.refl c) gone
  exact ⟨pieces, tasks, each, (pure_ok ran).1⟩

/-- The container of Kaniko works in the directory of the context, and gets the arguments of its task as they are. -/
theorem Kaniko.reports_container (s : Settings) (b : Build) {c : Cluster} (task : KanikoTask) :
    Reports c (fun p => p.container.command = none ∧
      p.container.workingDir = some task.publication.contextDir ∧
      ∃ address, p.container.args = some (args task address)) (part s b task) := by
  -- Neither the login nor the context has a say in the container.
  have looked : Reads (fun _ => True) (address task) := reads_address task trivial trivial
  exact .after looked fun address =>
    (reports_mountSecret s.config.podNamePrefix task).bind fun _ found =>
      (Context.reports_mount (furnished_mountCache found.1).1).bind fun _ _ =>
        .pure ⟨rfl, rfl, address, rfl⟩

/-- The container of Buildah works in the directory that a new build of the name would have. -/
theorem Buildah.reports_container (s : Settings) (b : Build) {c : Cluster} (task : BuildahTask) :
    Reports c (fun p => p.container.workingDir = some (Build.contextDir b.reference.name))
      (part s b task) :=
  -- The working directory is fixed before anything is looked up.
  (reports_addCertificates s.config.podNamePrefix task _).bind fun _ found =>
    (reports_addCredentials task found.1 found.2.1 found.2.2.1).bind fun _ found =>
      (Context.reports_mount found.1).bind fun _ _ => .pure rfl

end Worker

end ImageBuild
