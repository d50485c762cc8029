import ImageBuild.Proofs.Worker.Closed
import ImageBuild.Worker.Pod

/-! The tasks of a build become one pod: each of them is made into a closed part, but those before the last task of
Buildah only leave their volumes. -/

namespace ImageBuild.Worker

open Kubernetes Run Work

/-- A task, and what it comes to. -/
abbrev Piece : Type := Task × Part

/-- The names of the volumes that a piece brings. -/
def Piece.volumeNames (piece : Piece) : List String := piece.2.volumes.map Volume.name

/-- A pod specification that has been put together from tasks, of which the first ones may have lost their
containers. -/
structure Assembled (b : Build) (c : Cluster) (tasks : List Task) (spec : PodSpec)
    (lost kept : List Piece) : Prop where
  tasks : (lost ++ kept).map Prod.fst = tasks
  closed : ∀ piece ∈ lost ++ kept, Closed b c piece.1 piece.2
  containers : spec.containers = kept.map fun piece => piece.2.container
  initContainers : spec.initContainers = none
  volumes : spec.volumes.getD [] = (lost ++ kept).flatMap fun piece => piece.2.volumes
  /-- Containers get lost to a task of Buildah that comes after them. -/
  loses : lost ≠ [] → ∃ piece ∈ kept.head?, piece.1.kaniko? = none
  keeps : ∀ piece ∈ kept.tail, piece.1.buildah? = none

namespace Assembled

variable {b : Build} {c : Cluster} {tasks : List Task} {spec : PodSpec} {lost kept : List Piece}

/-- Nothing has been put together from no tasks. -/
theorem empty : Assembled b c [] bareSpec [] [] :=
  -- No task has been taken on, so nothing is there and nothing is lost.
  ⟨rfl, fun _ member => absurd member List.not_mem_nil, rfl, rfl, rfl, fun some => absurd rfl some,
    fun _ member => absurd member List.not_mem_nil⟩

/-- With one more task there is one more container, or only its own is left. -/
theorem addPart (assembled : Assembled b c tasks spec lost kept) {task : Task} {part : Part}
    (closed : Closed b c task part) :
    ∃ lost kept, Assembled b c (tasks ++ [task]) (addPart task part spec) lost kept := by
  -- The new task comes last, and its part is closed.
  have all : ∀ piece ∈ (lost ++ kept) ++ [(task, part)], Closed b c piece.1 piece.2 := by
    intro piece member
    rcases List.mem_append.mp member with before | last
    · exact assembled.closed piece before
    · rw [List.mem_singleton.mp last]
      exact closed
  have order : ((lost ++ kept) ++ [(task, part)]).map Prod.fst = tasks ++ [task] := by
    rw [List.map_append, assembled.tasks]
    rfl
  have volumes : spec.volumes.getD [] ++ part.volumes
      = ((lost ++ kept) ++ [(task, part)]).flatMap fun piece => piece.2.volumes := by
    rw [List.flatMap_append, assembled.volumes, List.flatMap_singleton]
  -- Kaniko leaves those before it in their places, and Buildah takes the place of all of them.
  cases task with
  | kaniko t =>
    refine ⟨lost, kept ++ [(.kaniko t, part)], ?_, ?_, ?_, assembled.initContainers, ?_, ?_, ?_⟩
    · rwa [← List.append_assoc]
    · rwa [← List.append_assoc]
    · rw [List.map_append, ← assembled.containers]
      rfl
    · rwa [← List.append_assoc]
    · intro some
      obtain ⟨piece, first, buildah⟩ := assembled.loses some
      exact ⟨piece, List.mem_head?_append_of_mem_head? first, buildah⟩
    · intro piece later
      cases kept with
      | nil => cases later
      | cons first rest =>
        rcases List.mem_append.mp later with before | last
        · exact assembled.keeps piece before
        · rw [List.mem_singleton.mp last]
          rfl
  | buildah t =>
    exact ⟨lost ++ kept, [(.buildah t, part)], order, all, rfl, assembled.initContainers, volumes,
      fun _ => ⟨_, rfl, rfl⟩, fun _ member => absurd member List.not_mem_nil⟩

/-- No container gets lost unless a task of Buildah comes after another task. -/
theorem lost_eq_nil_iff (assembled : Assembled b c tasks spec lost kept) :
    lost = [] ↔ ∀ task ∈ tasks.tail, task.buildah? = none := by
  constructor
  · rintro rfl task later
    rw [← assembled.tasks, List.nil_append, ← List.map_tail] at later
    obtain ⟨piece, member, rfl⟩ := List.mem_map.mp later
    exact assembled.keeps piece member
  · intro kaniko
    by_contra some
    obtain ⟨piece, first, buildah⟩ := assembled.loses some
    -- What made the others get lost stands behind them.
    have later : piece.1 ∈ tasks.tail := by
      rw [← assembled.tasks, List.map_append, List.tail_append_of_ne_nil (by simpa using some)]
      exact List.mem_append_right _ (List.mem_map_of_mem (List.mem_of_mem_head? first))
    have kaniko := kaniko piece.1 later
    cases task : piece.1 with
    | kaniko t => rw [task] at buildah; cases buildah
    | buildah t => rw [task] at kaniko; cases kaniko

/-- The container of the last task is there. -/
theorem containers_ne_nil (assembled : Assembled b c tasks spec lost kept) (some : tasks ≠ []) :
    spec.containers ≠ [] := by
  intro none
  rw [assembled.containers, List.map_eq_nil_iff] at none
  have nothing : lost = [] := by
    by_contra some
    -- What made containers get lost has kept its own.
    obtain ⟨piece, first, _⟩ := assembled.loses some
    rw [none] at first
    cases first
  exact some (by rw [← assembled.tasks, nothing, none]; rfl)

/-- Volumes have names of their own just if no two tasks bring volumes of one name. -/
theorem volumes_nodup_iff (assembled : Assembled b c tasks spec lost kept) :
    ((spec.volumes.getD []).map Volume.name).Nodup ↔
      (lost ++ kept).Pairwise fun one other => one.volumeNames.Disjoint other.volumeNames := by
  -- Within one part the names are distinct, so only two parts can share one.
  rw [assembled.volumes, List.map_flatMap, List.nodup_flatMap]
  exact ⟨And.right, fun apart => ⟨fun piece member => (assembled.closed piece member).distinct, apart⟩⟩

end Assembled

/-- The names of all containers of a pod. -/
def containerNames (spec : PodSpec) : List String :=
  (spec.initContainers.getD [] ++ spec.containers).map Container.name

/-- Nothing is missing from a pod: each task has its container, one of them is not an init container, and volumes have
names of their own. -/
structure Complete (tasks : List Task) (spec : PodSpec) : Prop where
  containers : (containerNames spec).Perm (tasks.map fun task => Text.lower task.name)
  main : tasks ≠ [] → spec.containers ≠ []
  volumes : ((spec.volumes.getD []).map Volume.name).Nodup

/-- Nothing is missing just if no container gets lost and no two tasks bring volumes of one name. -/
theorem Assembled.complete_iff {b : Build} {c : Cluster} {tasks : List Task} {spec : PodSpec}
    {lost kept : List Piece} (assembled : Assembled b c tasks spec lost kept) :
    Complete tasks spec ↔ lost = [] ∧
      (lost ++ kept).Pairwise fun one other => one.volumeNames.Disjoint other.volumeNames := by
  -- Each container that is kept bears the name of its task.
  have named : containerNames spec = kept.map fun piece => Text.lower piece.1.name := by
    rw [containerNames, assembled.initContainers, assembled.containers, Option.getD_none,
      List.nil_append, List.map_map]
    exact List.map_congr_left fun piece member =>
      (assembled.closed piece (List.mem_append_right _ member)).named
  constructor
  · intro complete
    refine ⟨?_, assembled.volumes_nodup_iff.mp complete.volumes⟩
    -- As many containers as tasks leave none to be lost.
    have length := complete.containers.length_eq
    rw [named, ← assembled.tasks, List.length_map, List.length_map, List.length_map,
      List.length_append] at length
    exact List.length_eq_zero_iff.mp (by omega)
  · rintro ⟨rfl, apart⟩
    refine ⟨?_, assembled.containers_ne_nil, assembled.volumes_nodup_iff.mpr apart⟩
    rw [named, ← assembled.tasks, List.map_map]
    exact .refl _

/-- A worker pod is put together from closed parts. -/
theorem reports_pod (s : Settings) (b : Build) (c : Cluster) :
    Reports c (fun built : Pod => ∃ spec lost kept, built.spec = some spec ∧
      Assembled b c b.spec.tasks spec lost kept) (pod s b) := by
  -- What is known of the tasks that have been gone through does not depend on those to come.
  have each : ∀ before spec, (∃ lost kept, Assembled b c before spec lost kept) →
      ∀ task ∈ b.spec.tasks,
        Reports c (fun spec => ∃ lost kept, Assembled b c (before ++ [task]) spec lost kept)
          (do pure (addPart task (← part s b task) spec)) := by
    rintro before spec ⟨lost, kept, assembled⟩ task _
    exact (reports_part s task).bind fun part closed => .pure (assembled.addPart closed)
  refine (Reports.foldlM b.spec.tasks each [] bareSpec ⟨[], [], .empty⟩).bind fun spec assembled => ?_
  obtain ⟨lost, kept, assembled⟩ := assembled
  exact .pure ⟨spec, lost, kept, rfl, assembled⟩

/-- The first tasks of a build lose their containers if a task of Buildah comes after them, and nothing else is ever
missing from its pod, apart from volumes of one name that two tasks bring. -/
theorem tasks_are_lost_to_later_buildah {s : Settings} {b : Build} {c d : Cluster} {built : Pod}
    (ran : (pod s b).run.run c = (.ok built, d)) :
    ∃ spec lost kept, built.spec = some spec ∧ Assembled b c b.spec.tasks spec lost kept ∧
      (lost = [] ↔ ∀ task ∈ b.spec.tasks.tail, task.buildah? = none) ∧
      (b.spec.tasks ≠ [] → spec.containers ≠ []) ∧
      (Complete b.spec.tasks spec ↔ lost = [] ∧
        (lost ++ kept).Pairwise fun one other => one.volumeNames.Disjoint other.volumeNames) := by
  -- The invariant of the assembly holds after the last task, and the rest is read off it.
  obtain ⟨⟨spec, lost, kept, same, assembled⟩, _⟩ := reports_pod s b c c ⟨rfl, rfl⟩ built d ran
  exact ⟨spec, lost, kept, same, assembled, assembled.lost_eq_nil_iff, assembled.containers_ne_nil,
    assembled.complete_iff⟩

/-- A build of certain tasks. -/
def buildOf (tasks : List Task) : Build := ⟨⟨"ns", "app"⟩, 0, ⟨tasks, .pod, .zero⟩, .fresh⟩

/-- What the task of a name publishes to a registry. -/
def publicationTo (registry : RegistrySpec) (name : String) : Publication :=
  ⟨Build.contextDir "app", none, name, registry⟩

/-- A task of Buildah for a registry. -/
def buildahTo (registry : RegistrySpec) (name : String) : Task :=
  .buildah ⟨name, publicationTo registry name, none, false, [], none⟩

/-- A task of Kaniko for a registry. -/
def kanikoTo (registry : RegistrySpec) (name : String) : Task :=
  .kaniko ⟨name, publicationTo registry name, false, default, none, [], none⟩

/-- The usual settings, without proxies. -/
def directSettings : Settings := ⟨.standard, .direct⟩

/-- The metadata of an object of a name. -/
def metaNamed (name : String) : Meta := { Meta.none with scope := some "ns", name := some name }

/-- A cluster with bare credentials, with certificates and with the context of the build. -/
def stockedCluster : Cluster :=
  (((Cluster.empty .epoch).insertSecret
      ⟨metaNamed "login", some (Dict.ofList [(RegistryFile.bare.key, [])]), none, []⟩).insertConfigMap
      ⟨metaNamed "authority", some (Dict.ofList [("service-ca.crt", "")]), none, []⟩).insertConfigMap
      ⟨metaNamed "podforge-app-context", some (Dict.ofList [("Dockerfile", "")]), none, []⟩

/-- The specification of the worker pod of a build, if it can be put together. -/
def spec? (s : Settings) (b : Build) (c : Cluster) : Option PodSpec :=
  ((pod s b).run.run c).1.toOption.bind Pod.spec

/-- Where something is seen of a specification there is a pod that has it. -/
theorem exists_pod {s : Settings} {b : Build} {c : Cluster} {α : Type} {view : PodSpec → α} {a : α}
    (seen : (spec? s b c).map view = some a) :
    ∃ built d spec, (pod s b).run.run c = (.ok built, d) ∧ built.spec = some spec ∧ view spec = a := by
  -- A view of the pod can only be had from a run that succeeds.
  obtain ⟨spec, found, viewed⟩ := Option.map_eq_some_iff.mp seen
  rw [spec?] at found
  rcases ran : (pod s b).run.run c with ⟨result, d⟩
  rw [ran] at found
  cases result with
  | error e => cases found
  | ok built => exact ⟨built, d, spec, rfl, found, viewed⟩

/-- The names of the volumes of a pod. -/
def volumeNames (spec : PodSpec) : List String := (spec.volumes.getD []).map Volume.name

/-- A build with a task of Buildah between two tasks of Kaniko. -/
def mixedBuild : Build :=
  buildOf [kanikoTo ⟨some "registry", none, none, false⟩ "first", buildahTo .unspecified "second",
    kanikoTo ⟨some "registry", none, none, false⟩ "third"]

/-- The first of the three tasks loses its container, and each of them brings the context. -/
theorem tasks_are_lost_to_later_buildah_mixedBuild :
    ∃ built d spec, (pod directSettings mixedBuild).run.run stockedCluster = (.ok built, d) ∧
      built.spec = some spec ∧
      (containerNames spec, volumeNames spec)
        = (["second", "third"], ["build-context", "build-context", "build-context"]) ∧
      ∃ lost kept, Assembled mixedBuild stockedCluster mixedBuild.spec.tasks spec lost kept ∧
        lost ≠ [] ∧ spec.containers ≠ [] ∧ ¬Complete mixedBuild.spec.tasks spec := by
  -- The second of the three tasks is one of Buildah, so the first one is lost.
  have view : (spec? directSettings mixedBuild stockedCluster).map
      (fun spec => (containerNames spec, volumeNames spec))
        = some (["second", "third"], ["build-context", "build-context", "build-context"]) := by
    decide +kernel
  obtain ⟨built, d, spec, ran, same, seen⟩ := exists_pod view
  obtain ⟨own, lost, kept, found, assembled, loses, main, complete⟩ :=
    tasks_are_lost_to_later_buildah ran
  obtain rfl : spec = own := Option.some.inj (same.symm.trans found)
  have some : lost ≠ [] := fun none =>
    absurd (loses.mp none (buildahTo .unspecified "second") (by decide)) (by decide)
  exact ⟨built, d, spec, ran, same, seen, lost, kept, assembled, some, main (by decide),
    fun all => some (complete.mp all).1⟩

/-- A build with two tasks of Buildah. -/
def twiceBuild : Build := buildOf [buildahTo .unspecified "first", buildahTo .unspecified "second"]

/-- Of two tasks of Buildah the first one gets no container, so that something is missing. -/
theorem first_of_two_buildah_tasks_is_lost :
    ∃ built d spec, (pod directSettings twiceBuild).run.run (.empty .epoch) = (.ok built, d) ∧
      built.spec = some spec ∧ twiceBuild.spec.tasks.map Task.name = ["first", "second"] ∧
      containerNames spec = ["second"] ∧ ¬Complete twiceBuild.spec.tasks spec := by
  have seen : (spec? directSettings twiceBuild (.empty .epoch)).map containerNames = some ["second"] := by
    decide +kernel
  obtain ⟨built, d, spec, ran, same, names⟩ := exists_pod seen
  refine ⟨built, d, spec, ran, same, rfl, names, fun all => ?_⟩
  -- One container is not enough for two tasks.
  have length := all.containers.length_eq
  rw [names] at length
  cases length

/-- A task of Buildah for a registry with bare credentials and certificates. -/
def guardedTask : Task := buildahTo ⟨some "registry", some "login", some "authority", true⟩ "Guarded"

end ImageBuild.Worker
