import ImageBuild.Engine.Failure
import ImageBuild.Engine.Site
import ImageBuild.Worker.Pod

/-! What is done about the worker pods of builds. -/

namespace ImageBuild.Engine

open Kubernetes Worker

/-- The place of the worker pod of a build. -/
def podPlace (s : Settings) (b : Build) : Reference := Worker.place s.config.podNamePrefix b

/-- Deletes the worker pod of a build; one that is missing is deleted already. -/
def deletePod (s : Settings) (b : Build) : Work Unit := do
  let _ ← Work.find (Cluster.deletePod (podPlace s b))

/-- Creates the worker pod of a build, unless it is there already. -/
def createPod (s : Settings) (b : Build) : Work Unit := do
  let pod ← Worker.pod s b
  let _ ← Work.callUnless ClusterError.isAlreadyExists (Cluster.createPod pod)

/-- Makes room for the worker pod: a build goes on only after the last pod of its name is gone. -/
def prepare (s : Settings) (b : Build) : Work Build := do
  deletePod s b
  -- A pod that lingers must not be taken for that of the next attempt.
  match ← Work.find (Cluster.getPod (podPlace s b)) with
  | some _ => pure b
  | none => pure { b with status := { b.status with
      phase := .scheduling, startedAt := none, error := none, duration := none } }

/-- Starts the worker of a build. -/
def launch (s : Settings) (now : Instant) (b : Build) : Work Build := do
  createPod s b
  pure { b with status := { b.status with phase := .pending, startedAt := some now } }

/-- Keeps the worker pod of a cancelled build deleted. -/
def cleanUp (s : Settings) (b : Build) : Work Build := do
  deletePod s b
  pure b

/-- The build after a look at its worker pod. -/
def observed (b : Build) (pod : Pod) (now : Instant) : Build :=
  match pod.phase with
  | "Pending" => b.withPhase .pending
  | "Running" => b.withPhase .running
  | "Succeeded" =>
    { b with status := { b.status with phase := .succeeded, duration := b.elapsed? now } }
  | "Failed" => b.failedFor pod.failureReason now
  | _ => b

/-- The reason of a build that failed for want of time. -/
def overdueReason (b : Build) : String :=
  "build timed out after " ++ toString b.spec.timeout.seconds ++ "s"

/-- Goes on with a build whose worker pod is missing: one that has not been seen running gets it again. -/
def replacePod (s : Settings) (now : Instant) (b : Build) : SiteM Build := do
  -- Work that has begun is not done twice without being counted.
  if b.phase = .running then pure (b.failedFor "builder pod disappeared while running" now)
  else
    Site.record (.info ("Pod of build " ++ b.reference.key ++ " is missing, recreating"))
    Site.work (createPod s b)
    pure b

/-- Follows the worker of a build, which it stops when it has run for too long. -/
def monitor (s : Settings) (now : Instant) (b : Build) : SiteM Build := do
  -- The pod goes first: as long as it cannot be deleted, the build has not failed yet.
  if b.isOverdue now then
    Site.work (deletePod s b)
    Site.record (.warn ("Build " ++ b.reference.key ++ ": " ++ overdueReason b))
    pure (b.failedFor (overdueReason b) now)
  else
    match ← Site.work (Work.find (Cluster.getPod (podPlace s b))) with
    | some pod => pure (observed b pod now)
    | none => replacePod s now b

end ImageBuild.Engine
