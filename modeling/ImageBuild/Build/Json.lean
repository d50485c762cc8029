import ImageBuild.Build.Basic
import ImageBuild.Instant.Text
import ImageBuild.Task.Json

/-! Builds as JSON. -/

namespace ImageBuild

/-- A moment as JSON. -/
def Instant.toJson (t : Instant) : Json := .string t.toText

/-- The moment that JSON denotes. -/
def Instant.ofJson? (j : Json) : Option Instant := j.string?.bind Instant.ofText?

/-- A phase as JSON. -/
def Phase.toJson (phase : Phase) : Json := .string phase.name

/-- The phase that JSON denotes. -/
def Phase.ofJson? (j : Json) : Option Phase := j.choice?.bind Phase.ofName?

namespace Recovery

/-- The attempts as JSON. -/
def toJson (r : Recovery) : Json :=
  .object ([("attempt", .ofNat r.attempt.toNat), ("attemptMax", .ofNat r.attemptMax.toNat)]
    ++ Json.field? "attemptTime" (r.attemptTime.map Instant.toJson))

/-- The attempts that JSON denotes. -/
def ofJson? (j : Json) : Option Recovery := do
  let r ← j.record? ["attempt", "attemptMax", "attemptTime"]
  return {
    attempt := ← r.required "attempt" Json.uint32?
    attemptMax := ← r.required "attemptMax" Json.uint32?
    attemptTime := ← r.optional "attemptTime" Instant.ofJson? }

end Recovery

namespace Failure

/-- A failure as JSON. -/
def toJson (f : Failure) : Json :=
  .object [("reason", .string f.reason), ("time", f.time.toJson), ("recovery", f.recovery.toJson)]

/-- The failure that JSON denotes. -/
def ofJson? (j : Json) : Option Failure := do
  let r ← j.record? ["reason", "time", "recovery"]
  return {
    reason := ← r.required "reason" Json.string?
    time := ← r.required "time" Instant.ofJson?
    recovery := ← r.required "recovery" Recovery.ofJson? }

end Failure

namespace BuildSpec

/-- What is to be done as JSON. -/
def toJson (spec : BuildSpec) : Json :=
  .object [("tasks", .array (spec.tasks.map Task.toJson)), ("strategy", .string spec.strategy.name),
    ("timeout", spec.timeout.toJson)]

/-- What JSON says is to be done; the tasks stand inside three values. -/
def ofJson? (j : Json) : Option BuildSpec := do
  let r ← j.record? ["tasks", "strategy", "timeout"]
  return {
    tasks := ← r.required "tasks" (Json.list? (Task.ofJsonWithin? 3))
    strategy := ← r.withDefault "strategy" .pod BuildStrategy.ofJson?
    timeout := ← r.withDefault "timeout" .zero Duration.ofJson? }

end BuildSpec

namespace BuildStatus

/-- The status as JSON. -/
def toJson (status : BuildStatus) : Json :=
  .object (("phase", status.phase.toJson)
    :: Json.field? "startedAt" (status.startedAt.map Instant.toJson)
    ++ Json.field? "error" (status.error.map .string)
    ++ Json.field? "failure" (status.failure.map Failure.toJson)
    ++ Json.field? "duration" (status.duration.map Duration.toJson))

/-- The status that JSON denotes. -/
def ofJson? (j : Json) : Option BuildStatus := do
  let r ← j.record? ["phase", "startedAt", "error", "failure", "duration"]
  return {
    phase := ← r.withDefault "phase" .new Phase.ofJson?
    startedAt := ← r.optional "startedAt" Instant.ofJson?
    error := ← r.optional "error" Json.string?
    failure := ← r.optional "failure" Failure.ofJson?
    duration := ← r.optional "duration" Duration.ofJson? }

end BuildStatus

namespace Build

/-- A build as JSON. -/
def toJson (b : Build) : Json :=
  .object (b.reference.toMembers ++ [("resourceVersion", .ofNat b.version.toNat),
    ("spec", b.spec.toJson), ("status", b.status.toJson)])

/-- How deep the members of a build that are none of its own may be nested. -/
def openDepth : Nat := 126

/-- The build that JSON denotes. -/
def ofJson? (j : Json) : Option Build := do
  let r ← j.openRecord? openDepth ["resourceVersion", "spec", "status"]
  let place ← j.namedRecord? ["namespace", "name"]
  return {
    reference := ← Reference.ofRecord? place
    version := ← r.withDefault "resourceVersion" 0 Json.uint64?
    spec := ← r.required "spec" BuildSpec.ofJson?
    status := ← r.withDefault "status" .fresh BuildStatus.ofJson? }

end Build

end ImageBuild
