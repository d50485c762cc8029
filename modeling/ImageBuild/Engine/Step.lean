import ImageBuild.Engine.Action
import ImageBuild.Engine.Pods
import ImageBuild.Engine.Retry

/-! One step of a build: no more than one action. -/

namespace ImageBuild.Engine

open Worker

/-- Takes an action. -/
def act (s : Settings) (now : Instant) (b : Build) : Action → SiteM Build
  | .prepare => Site.work (prepare s b)
  | .launch => Site.work (launch s now b)
  | .monitor => monitor s now b
  | .recover => recover s.config.recovery now b
  | .giveUp => pure b
  | .cleanUp => Site.work (cleanUp s b)

/-- The event of a build that goes from one phase to another. -/
def transition (message : String) (source target : Build) : Log.Event :=
  ⟨.info, message, [("build", source.reference.key), ("phase_from", source.phase.name),
    ("phase_to", target.phase.name)]⟩

/-- Takes an action, and records how it begins and ends. -/
def actRecorded (s : Settings) (now : Instant) (b : Build) (action : Action) : SiteM Build := do
  Site.record (.info ("Invoking action " ++ action.name))
  -- A failure is recorded where it happens, and left to the caller.
  let target ← tryCatch (act s now b action) (fun e => do
    Site.record (.error ("Failed to invoke action " ++ action.name ++ ": " ++ e.message))
    throw e)
  if target.phase ≠ b.phase then Site.record (transition "state transition" b target)
  pure target

/-- Takes the action that goes on with a build, if there is one. -/
def step (s : Settings) (now : Instant) (b : Build) : SiteM Build :=
  match Action.next? b with
  | some action => actRecorded s now b action
  | none => pure b

end ImageBuild.Engine
