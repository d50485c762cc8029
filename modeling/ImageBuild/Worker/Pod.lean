import ImageBuild.Worker.Buildah
import ImageBuild.Worker.Kaniko

/-! Worker pods, with a container for the tasks of a build. -/

namespace ImageBuild.Worker

open Kubernetes

/-- A pod specification with the container of a task. That of Kaniko comes after the others; that of
Buildah is the only one, as the pod ends with it. -/
def addPart (task : Task) (part : Part) (spec : PodSpec) : PodSpec :=
  { spec with
    -- Volumes of all tasks stay, also those of containers that have been replaced.
    volumes := some (spec.volumes.getD [] ++ part.volumes)
    containers := match task with
      | .kaniko _ => spec.containers ++ [part.container]
      | .buildah _ => [part.container] }

/-- The container of a task of either kind. -/
def part (s : Settings) (b : Build) : Task → Work Part
  | .kaniko task => Kaniko.part s b task
  | .buildah task => Buildah.part s b task

/-- A pod specification without containers, for a pod that runs once. -/
def bareSpec : PodSpec := ⟨[], none, none, some "Never", []⟩

/-- The place of the worker pod of a build. -/
def place (stem : String) (b : Build) : Reference :=
  ⟨b.reference.scope, Name.workerPod stem b.reference.name⟩

/-- The worker pod of a build. Nothing is created or changed by putting it together. -/
def pod (s : Settings) (b : Build) : Work Pod := do
  let spec ← b.spec.tasks.foldlM
    (fun spec task => do pure (addPart task (← part s b task) spec)) bareSpec
  let stem := s.config.podNamePrefix
  pure {
    metadata := { Meta.none with
      scope := some (place stem b).scope
      name := some (place stem b).name
      labels := some (Dict.ofList [(buildLabel, b.reference.name), (componentLabel, "builder")]) }
    spec := some spec
    status := none }

end ImageBuild.Worker
