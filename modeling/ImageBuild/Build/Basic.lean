import ImageBuild.Instant
import ImageBuild.Reference
import ImageBuild.Strategy
import ImageBuild.Task.Basic

/-! Builds, and the phases that they go through. -/

namespace ImageBuild

/-- How far a build has come. -/
inductive Phase
  | new
  | initialization
  | scheduling
  | pending
  | running
  | succeeded
  | failed
  | error
  | cancelled
  deriving DecidableEq, Inhabited

namespace Phase

/-- The name under which a phase is shown, read and written; a new build has none. -/
def name : Phase → String
  | new => ""
  | initialization => "Initialization"
  | scheduling => "Scheduling"
  | pending => "Pending"
  | running => "Running"
  | succeeded => "Succeeded"
  | failed => "Failed"
  | error => "Error"
  | cancelled => "Cancelled"

/-- All phases. -/
def all : List Phase :=
  [new, initialization, scheduling, pending, running, succeeded, failed, error, cancelled]

/-- The phase of a name. -/
def ofName? (name : String) : Option Phase := all.find? (fun phase => phase.name = name)

/-- A phase is the one of its name. -/
@[simp] theorem ofName?_name (phase : Phase) : ofName? phase.name = some phase := by
  cases phase <;> decide

/-- Whether a build stays in the phase for good. -/
def isTerminal : Phase → Bool
  | succeeded | error | cancelled => true
  | _ => false

end Phase

/-- How often a failed build has been started again, and how often it may be. -/
structure Recovery where
  attempt : UInt32
  attemptMax : UInt32
  attemptTime : Option Instant
  deriving DecidableEq

/-- The first failure of a build. -/
structure Failure where
  reason : String
  time : Instant
  recovery : Recovery
  deriving DecidableEq

/-- What is to be done, how, and for how long at most; no time at all stands for no limit. -/
structure BuildSpec where
  tasks : List Task
  strategy : BuildStrategy
  timeout : Duration
  deriving DecidableEq

/-- What has become of a build. -/
structure BuildStatus where
  phase : Phase
  startedAt : Option Instant
  error : Option String
  failure : Option Failure
  duration : Option Duration
  deriving DecidableEq

/-- A build, with the number of the last version of it that was saved. -/
structure Build where
  reference : Reference
  version : UInt64
  spec : BuildSpec
  status : BuildStatus
  deriving DecidableEq

/-- The status of a build to which nothing has happened. -/
def BuildStatus.fresh : BuildStatus := ⟨.new, none, none, none, none⟩

namespace Build

/-- The phase of a build. -/
def phase (b : Build) : Phase := b.status.phase

/-- The build in another phase. -/
def withPhase (b : Build) (phase : Phase) : Build :=
  { b with status := { b.status with phase := phase } }

/-- The first Kaniko task. -/
def kanikoTask? (b : Build) : Option KanikoTask := b.spec.tasks.findSome? Task.kaniko?

/-- The first Buildah task. -/
def buildahTask? (b : Build) : Option BuildahTask := b.spec.tasks.findSome? Task.buildah?

/-- Tasks with the first one for Kaniko changed. -/
def changeFirstKaniko (change : KanikoTask → KanikoTask) : List Task → List Task
  | [] => []
  | .kaniko task :: rest => .kaniko (change task) :: rest
  | .buildah task :: rest => .buildah task :: changeFirstKaniko change rest

/-- The build with its first Kaniko task changed. -/
def mapKanikoTask (b : Build) (change : KanikoTask → KanikoTask) : Build :=
  { b with spec := { b.spec with tasks := changeFirstKaniko change b.spec.tasks } }

/-- The directory of worker containers below which the builds have theirs. -/
def rootDir : String := "/builder"

/-- The directory of a worker container that holds the context of a build. -/
def contextDir (name : String) : String := rootDir ++ "/" ++ name ++ "/context"

end Build

end ImageBuild
