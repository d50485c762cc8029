import ImageBuild.Config.Basic
import ImageBuild.Platform.Json

/-! Settings of the engine as JSON. -/

namespace ImageBuild

/-- A floating-point number as JSON, null where it is not finite. -/
def Binary64.toJson : Binary64 → Json
  | .finite negative m e =>
    let d := Binary64.shortest m e
    .number ⟨negative, d.digits, d.exponent, false⟩
  | _ => .null

/-- The floating-point number that JSON denotes. -/
def Binary64.ofJson? : Json → Option Binary64
  | .number n => some n.toBinary64
  | _ => none

namespace RecoveryConfig

/-- The waits as JSON. -/
def toJson (c : RecoveryConfig) : Json :=
  .object [("minWait", c.minWait.toJson), ("maxWait", c.maxWait.toJson),
    ("factor", c.factor.toJson), ("attemptMax", .ofNat c.attemptMax.toNat)]

/-- The waits that JSON denotes; what is not given is as in the standard settings. -/
def ofJson? (j : Json) : Option RecoveryConfig := do
  let r ← j.record? ["minWait", "maxWait", "factor", "attemptMax"]
  return {
    minWait := ← r.withDefault "minWait" standard.minWait Duration.ofJson?
    maxWait := ← r.withDefault "maxWait" standard.maxWait Duration.ofJson?
    factor := ← r.withDefault "factor" standard.factor Binary64.ofJson?
    attemptMax := ← r.withDefault "attemptMax" standard.attemptMax Json.uint32? }

end RecoveryConfig

namespace EngineConfig

/-- The names of the members, in order. -/
def fieldNames : List String :=
  ["podNamePrefix", "kanikoExecutorImage", "buildahImage", "defaultTimeout", "recovery"]

/-- The settings as JSON. -/
def toJson (c : EngineConfig) : Json :=
  .object [("podNamePrefix", .string c.podNamePrefix), ("kanikoExecutorImage", .string c.kanikoImage),
    ("buildahImage", .string c.buildahImage), ("defaultTimeout", c.defaultTimeout.toJson),
    ("recovery", c.recovery.toJson)]

/-- The settings that JSON denotes; what is not given is as in the standard settings. -/
def ofJson? (j : Json) : Option EngineConfig := do
  let r ← j.record? fieldNames
  return {
    podNamePrefix := ← r.withDefault "podNamePrefix" standard.podNamePrefix Json.string?
    kanikoImage := ← r.withDefault "kanikoExecutorImage" standard.kanikoImage Json.string?
    buildahImage := ← r.withDefault "buildahImage" standard.buildahImage Json.string?
    defaultTimeout := ← r.withDefault "defaultTimeout" standard.defaultTimeout Duration.ofJson?
    recovery := ← r.withDefault "recovery" .standard RecoveryConfig.ofJson? }

end EngineConfig

end ImageBuild
