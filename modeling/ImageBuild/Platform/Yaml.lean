import ImageBuild.Config.Yaml
import ImageBuild.Platform.Basic

/-! Platforms as YAML. -/

namespace ImageBuild

/-- The registry that a mapping describes. -/
def RegistrySpec.ofYaml? (d : Yaml.Document) (n : Yaml.Node) : Option RegistrySpec := do
  let r ← d.record? fieldNames n
  return {
    address := ← r.optional "address" Yaml.Document.text?
    secret := ← r.optional "secret" Yaml.Document.text?
    ca := ← r.optional "ca" Yaml.Document.text?
    insecure := ← r.withDefault "insecure" false Yaml.Document.bool? }

/-- The way to run a build that a scalar names. -/
def BuildStrategy.ofYaml? (d : Yaml.Document) (n : Yaml.Node) : Option BuildStrategy :=
  (d.choice? n).bind BuildStrategy.ofName?

/-- The tool that a scalar names. -/
def PublishStrategy.ofYaml? (d : Yaml.Document) (n : Yaml.Node) : Option PublishStrategy :=
  (d.choice? n).bind PublishStrategy.ofName?

/-- The map of texts that a mapping is. -/
def textsOfYaml? (d : Yaml.Document) (n : Yaml.Node) : Option (Dict String String) := do
  let texts ← (← d.members? n).mapM (fun m => (d.text? m.2).map (m.1, ·))
  return Dict.ofList texts

/-- The settings that a mapping makes. -/
def PlatformSpec.ofYaml? (d : Yaml.Document) (n : Yaml.Node) : Option PlatformSpec := do
  let r ← d.record? ["buildStrategy", "publishStrategy", "baseImage", "registry", "timeout",
    "publishStrategyOptions"] n
  return {
    buildStrategy := ← r.withDefault "buildStrategy" .pod BuildStrategy.ofYaml?
    publishStrategy := ← r.withDefault "publishStrategy" .kaniko PublishStrategy.ofYaml?
    baseImage := ← r.optional "baseImage" Yaml.Document.text?
    registry := ← r.withDefault "registry" .unspecified RegistrySpec.ofYaml?
    timeout := ← r.optional "timeout" Duration.ofYaml?
    options := ← r.withDefault "publishStrategyOptions" .empty textsOfYaml? }

namespace Platform

/-- How deep the entries of a platform may be nested whose use is not known while they are read. -/
def followDepth : Nat := 127

/-- The platform that the root of a document describes. All entries but the settings have to be readable,
and its namespace and name have to be texts whatever is wanted. -/
def ofDocument? (d : Yaml.Document) : Option Platform := do
  let members ← d.members? d.root
  let spec := members.filter (fun m => m.1 = "spec")
  let others := members.filter (fun m => m.1 ≠ "spec")
  -- What is not known is kept aside until it turns out not to be wanted.
  let _ ← others.foldlM (fun left m => d.follow? followDepth left m.2) d.followLimit
  let r ← d.record? ["namespace", "name"] d.root
  match spec with
  | [(_, n)] =>
    let scope ← r.withDefault "namespace" "" Yaml.Document.plainText?
    let name ← r.withDefault "name" "" Yaml.Document.plainText?
    return ⟨⟨scope, name⟩, ← PlatformSpec.ofYaml? d n⟩
  | _ => none

/-- The platform that a text describes. -/
def ofYaml? (text : String) : Option Platform := (Yaml.Document.ofText? text).bind ofDocument?

end Platform

end ImageBuild
