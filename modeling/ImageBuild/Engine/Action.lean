import ImageBuild.Build.Basic

/-! Actions: the steps in which builds go on. -/

namespace ImageBuild

/-- A step of a build. -/
inductive Action
  | prepare
  | launch
  | monitor
  | recover
  | giveUp
  | cleanUp
  deriving DecidableEq

namespace Action

/-- The name of an action in the record. -/
def name : Action → String
  | prepare => "initialize-pod"
  | launch => "schedule"
  | monitor => "monitor-pod"
  | recover => "error-recovery"
  | giveUp => "error"
  | cleanUp => "cancel"

/-- Whether an action goes on with builds of a phase. -/
def accepts : Action → Phase → Bool
  | prepare, .new | prepare, .initialization => true
  | launch, .scheduling => true
  | monitor, .pending | monitor, .running => true
  | recover, .failed => true
  | giveUp, .error => true
  | cleanUp, .cancelled => true
  | _, _ => false

/-- The actions for builds that run in pods, in the order in which they are tried. -/
def forPods : List Action := [prepare, launch, monitor, recover, giveUp, cleanUp]

/-- The actions for builds of a strategy. -/
def forStrategy : BuildStrategy → List Action
  | .pod => forPods
  | .routine => []

/-- The action that goes on with a build, if there is one. -/
def next? (b : Build) : Option Action :=
  (forStrategy b.spec.strategy).find? (fun action => action.accepts b.phase)

end Action

end ImageBuild
