import ImageBuild.Config.Basic
import ImageBuild.Duration.Text
import ImageBuild.Yaml.Record
import ImageBuild.Yaml.Written

/-! Settings of the engine as YAML. -/

namespace ImageBuild

/-- The length of time that a scalar names. -/
def Duration.ofYaml? (d : Yaml.Document) (n : Yaml.Node) : Option Duration :=
  (d.text? n).bind Duration.ofText?

/-- The waits that a mapping sets; what it does not name is as in the standard settings. -/
def RecoveryConfig.ofYaml? (d : Yaml.Document) (n : Yaml.Node) : Option RecoveryConfig := do
  let r ← d.record? ["minWait", "maxWait", "factor", "attemptMax"] n
  return {
    minWait := ← r.withDefault "minWait" standard.minWait Duration.ofYaml?
    maxWait := ← r.withDefault "maxWait" standard.maxWait Duration.ofYaml?
    factor := ← r.withDefault "factor" standard.factor Yaml.Document.float?
    attemptMax := ← r.withDefault "attemptMax" standard.attemptMax Yaml.Document.uint32? }

namespace EngineConfig

/-- The settings that a mapping makes; what it does not name is as in the standard settings. -/
def ofYaml? (d : Yaml.Document) (n : Yaml.Node) : Option EngineConfig := do
  let r ← d.record?
    ["podNamePrefix", "kanikoExecutorImage", "buildahImage", "defaultTimeout", "recovery"] n
  return {
    podNamePrefix := ← r.withDefault "podNamePrefix" standard.podNamePrefix Yaml.Document.text?
    kanikoImage := ← r.withDefault "kanikoExecutorImage" standard.kanikoImage Yaml.Document.text?
    buildahImage := ← r.withDefault "buildahImage" standard.buildahImage Yaml.Document.text?
    defaultTimeout := ← r.withDefault "defaultTimeout" standard.defaultTimeout Duration.ofYaml?
    recovery := ← r.withDefault "recovery" .standard RecoveryConfig.ofYaml? }

/-- An entry whose value is a text. -/
def textEntry (name value : String) : String := name ++ ": " ++ Yaml.Written.text value

/-- A floating-point number as a plain scalar. -/
def factorText : Binary64 → String
  | .nan => ".nan"
  | .infinity negative => if negative then "-.inf" else ".inf"
  | .finite negative m e => Binary64.finiteText negative m e

/-- The lines of the settings, in order. -/
def toYamlLines (c : EngineConfig) : List String :=
  [textEntry "podNamePrefix" c.podNamePrefix,
    textEntry "kanikoExecutorImage" c.kanikoImage,
    textEntry "buildahImage" c.buildahImage,
    textEntry "defaultTimeout" c.defaultTimeout.toText,
    "recovery:",
    textEntry "  minWait" c.recovery.minWait.toText,
    textEntry "  maxWait" c.recovery.maxWait.toText,
    "  factor: " ++ factorText c.recovery.factor,
    "  attemptMax: " ++ toString c.recovery.attemptMax.toNat]

/-- A line with its end, unless a text that keeps its line ends has it already. -/
def endLine (line : String) : String := if line.toList.getLast? = some '\n' then line else line ++ "\n"

/-- The settings as YAML text. -/
def toYaml (c : EngineConfig) : String := String.join (c.toYamlLines.map endLine)

end EngineConfig

end ImageBuild
