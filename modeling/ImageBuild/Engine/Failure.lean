import ImageBuild.Build.Basic
import ImageBuild.Kubernetes.Pod
import ImageBuild.Text.Blank

/-! How builds fail: the time they took, and the reason. -/

namespace ImageBuild

namespace Build

/-- The time since the worker of a build was started; none if it was not, or if clocks differ. -/
def elapsed? (b : Build) (now : Instant) : Option Duration :=
  b.status.startedAt.bind (fun started => now.elapsedSince? started)

/-- The build, failed for a reason. -/
def failedFor (b : Build) (reason : String) (now : Instant) : Build :=
  { b with status := { b.status with
    phase := .failed
    error := some reason
    duration := b.elapsed? now } }

/-- Whether the worker of a build has run for too long. -/
def isOverdue (b : Build) (now : Instant) : Bool :=
  b.spec.timeout ≠ .zero && (b.elapsed? now).any (fun elapsed => b.spec.timeout < elapsed)

end Build

namespace Kubernetes

/-- The failure of a container, if it ended in one. -/
def ContainerStatus.failure? (s : ContainerStatus) : Option String :=
  match s.state.bind (·.terminated) with
  | none => none
  | some t =>
    -- A container that ended well tells nothing about the failure.
    if t.exitCode = 0 then none
    else
      let detail := match t.message.filter (fun m => !m.isEmpty) with
        | some m => ": " ++ Text.trimEnd m
        | none => ""
      some (s.name ++ ": " ++ t.reason.getD "Error" ++ " (exit code " ++ toString t.exitCode ++ ")"
        ++ detail)

/-- The containers of a pod, those that run before the others first. -/
def PodStatus.allContainers (s : PodStatus) : List ContainerStatus :=
  s.initContainers.getD [] ++ s.containers.getD []

/-- The reason of a failure of which nothing is known. -/
def unknownFailure : String := "builder pod failed"

/-- The reason why a pod failed: that of its first failed container, else that of the pod. -/
def Pod.failureReason (p : Pod) : String :=
  match p.status with
  | none => unknownFailure
  | some s =>
    match s.allContainers.findSome? ContainerStatus.failure? with
    | some reason => reason
    | none => (s.message.filter (fun m => !m.isEmpty)).getD unknownFailure

end Kubernetes

end ImageBuild
