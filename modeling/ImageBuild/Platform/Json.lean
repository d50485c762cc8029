import ImageBuild.Duration.Text
import ImageBuild.Json.Record
import ImageBuild.Platform.Basic

/-! Platforms as JSON. -/

namespace ImageBuild

/-- A length of time as JSON. -/
def Duration.toJson (d : Duration) : Json := .string d.toText

/-- The length of time that JSON denotes. -/
def Duration.ofJson? (j : Json) : Option Duration := j.string?.bind Duration.ofText?

/-- The way to run a build that JSON denotes. -/
def BuildStrategy.ofJson? (j : Json) : Option BuildStrategy := j.choice?.bind BuildStrategy.ofName?

/-- The tool that JSON denotes. -/
def PublishStrategy.ofJson? (j : Json) : Option PublishStrategy :=
  j.choice?.bind PublishStrategy.ofName?

/-- A map of texts as JSON. -/
def textsToJson (d : Dict String String) : Json :=
  .object (d.entries.map (fun e => (e.1, .string e.2)))

/-- The map of texts that JSON denotes. -/
def textsOfJson? (j : Json) : Option (Dict String String) :=
  (j.members? Json.string?).map Dict.ofList

namespace PlatformSpec

/-- The names of the members, in order. -/
def fieldNames : List String :=
  ["buildStrategy", "publishStrategy", "baseImage", "registry", "timeout", "publishStrategyOptions"]

/-- The settings as JSON. -/
def toJson (spec : PlatformSpec) : Json :=
  .object ([("buildStrategy", .string spec.buildStrategy.name),
      ("publishStrategy", .string spec.publishStrategy.name)]
    ++ Json.field? "baseImage" (spec.baseImage.map .string)
    ++ [("registry", spec.registry.toJson)]
    ++ Json.field? "timeout" (spec.timeout.map Duration.toJson)
    ++ Json.field? "publishStrategyOptions"
        (if spec.options.isEmpty then none else some (textsToJson spec.options)))

/-- The settings that JSON denotes. -/
def ofJson? (j : Json) : Option PlatformSpec := do
  let r ← j.record? fieldNames
  return {
    buildStrategy := ← r.withDefault "buildStrategy" .pod BuildStrategy.ofJson?
    publishStrategy := ← r.withDefault "publishStrategy" .kaniko PublishStrategy.ofJson?
    baseImage := ← r.optional "baseImage" Json.string?
    registry := ← r.withDefault "registry" .unspecified RegistrySpec.ofJson?
    timeout := ← r.optional "timeout" Duration.ofJson?
    options := ← r.withDefault "publishStrategyOptions" .empty textsOfJson? }

end PlatformSpec

/-- A place as members of an object. -/
def Reference.toMembers (r : Reference) : List (String × Json) :=
  [("namespace", .string r.scope), ("name", .string r.name)]

/-- The place that members of an object name; what is not there is empty. -/
def Reference.ofRecord? (r : Json.Record) : Option Reference := do
  return ⟨← r.withDefault "namespace" "" Json.string?, ← r.withDefault "name" "" Json.string?⟩

namespace Platform

/-- A platform as JSON. -/
def toJson (p : Platform) : Json := .object (p.reference.toMembers ++ [("spec", p.spec.toJson)])

/-- How deep the members of a platform that are none of its own may be nested. -/
def openDepth : Nat := 126

/-- The platform that JSON denotes. -/
def ofJson? (j : Json) : Option Platform := do
  let r ← j.openRecord? openDepth ["spec"]
  let place ← j.namedRecord? ["namespace", "name"]
  return ⟨← Reference.ofRecord? place, ← r.required "spec" PlatformSpec.ofJson?⟩

end Platform

end ImageBuild
