import ImageBuild.Platform.Json
import ImageBuild.Task.Basic

/-! Tasks as JSON: one member, named for the builder. -/

namespace ImageBuild

/-- The members of an object with known names, where the last of one name counts. -/
def Json.lastRecord? (names : List String) : Json → Option Json.Record
  | .object members => some ⟨(members.filter (fun m => names.contains m.1)).reverse⟩
  | _ => none

namespace ResourceClaim

/-- A claim as JSON. -/
def toJson (c : ResourceClaim) : Json :=
  .object (("name", .string c.name) :: Json.field? "request" (c.request.map .string))

/-- The claim that JSON denotes. -/
def ofJson? (j : Json) : Option ResourceClaim := do
  let r ← j.lastRecord? ["name", "request"]
  return ⟨(← r.optional "name" Json.string?).getD "", ← r.optional "request" Json.string?⟩

end ResourceClaim

namespace ResourceRequirements

/-- The resources as JSON. -/
def toJson (r : ResourceRequirements) : Json :=
  .object (Json.field? "claims" (r.claims.map (fun l => .array (l.map ResourceClaim.toJson)))
    ++ Json.field? "limits" (r.limits.map textsToJson)
    ++ Json.field? "requests" (r.requests.map textsToJson))

/-- The resources that JSON denotes. -/
def ofJson? (j : Json) : Option ResourceRequirements := do
  let r ← j.lastRecord? ["claims", "limits", "requests"]
  return {
    claims := ← r.optional "claims" (Json.list? ResourceClaim.ofJson?)
    limits := ← r.optional "limits" textsOfJson?
    requests := ← r.optional "requests" textsOfJson? }

end ResourceRequirements

namespace Publication

/-- What is built as members of an object. -/
def toMembers (p : Publication) : List (String × Json) :=
  ("contextDir", .string p.contextDir) :: Json.field? "baseImage" (p.baseImage.map .string)
    ++ [("image", .string p.image), ("registry", p.registry.toJson)]

/-- What members of an object say is built. -/
def ofRecord? (r : Json.Record) : Option Publication := do
  return {
    contextDir := ← r.required "contextDir" Json.string?
    baseImage := ← r.optional "baseImage" Json.string?
    image := ← r.required "image" Json.string?
    registry := ← r.withDefault "registry" .unspecified RegistrySpec.ofJson? }

end Publication

namespace LayerCache

/-- The cache settings as JSON. -/
def toJson (c : LayerCache) : Json :=
  .object (Json.field? "enabled" (c.enabled.map .bool)
    ++ Json.field? "persistentVolumeClaim" (c.volumeClaim.map .string))

/-- The cache settings that JSON denotes. -/
def ofJson? (j : Json) : Option LayerCache := do
  let r ← j.record? ["enabled", "persistentVolumeClaim"]
  return ⟨← r.optional "enabled" Json.bool?, ← r.optional "persistentVolumeClaim" Json.string?⟩

end LayerCache

/-- Flags as a member that is left out where there are none. -/
def flagsToMembers (flags : List String) : List (String × Json) :=
  Json.field? "additionalFlags" (if flags.isEmpty then none else some (.ofStrings flags))

/-- The members that the tasks of both builders have in common. -/
def Task.commonNames : List String := ["name", "contextDir", "baseImage", "image", "registry"]

namespace KanikoTask

/-- A task as JSON. -/
def toJson (t : KanikoTask) : Json :=
  .object (("name", .string t.name) :: t.publication.toMembers
    ++ [("verbose", .bool t.verbose), ("cache", t.cache.toJson)]
    ++ Json.field? "resources" (t.resources.map ResourceRequirements.toJson)
    ++ flagsToMembers t.additionalFlags
    ++ Json.field? "executorImage" (t.executorImage.map .string))

/-- The task that JSON denotes; members that are not only its own may be nested to a depth. -/
def ofJson? (depth : Nat) (j : Json) : Option KanikoTask := do
  let own ← j.openRecord? depth ["verbose", "cache", "resources", "additionalFlags", "executorImage"]
  let common ← j.namedRecord? Task.commonNames
  return {
    name := ← common.required "name" Json.string?
    publication := ← Publication.ofRecord? common
    verbose := ← own.withDefault "verbose" false Json.bool?
    cache := ← own.withDefault "cache" ⟨none, none⟩ LayerCache.ofJson?
    resources := ← own.optional "resources" ResourceRequirements.ofJson?
    additionalFlags := ← own.withDefault "additionalFlags" [] (Json.list? Json.string?)
    executorImage := ← own.optional "executorImage" Json.string? }

end KanikoTask

namespace BuildahTask

/-- A task as JSON. -/
def toJson (t : BuildahTask) : Json :=
  .object (("name", .string t.name) :: t.publication.toMembers
    ++ Json.field? "platform" (t.platform.map .string) ++ [("verbose", .bool t.verbose)]
    ++ flagsToMembers t.additionalFlags
    ++ Json.field? "executorImage" (t.executorImage.map .string))

/-- The task that JSON denotes; members that are not only its own may be nested to a depth. -/
def ofJson? (depth : Nat) (j : Json) : Option BuildahTask := do
  let own ← j.openRecord? depth ["platform", "verbose", "additionalFlags", "executorImage"]
  let common ← j.namedRecord? Task.commonNames
  return {
    name := ← common.required "name" Json.string?
    publication := ← Publication.ofRecord? common
    platform := ← own.optional "platform" Json.string?
    verbose := ← own.withDefault "verbose" false Json.bool?
    additionalFlags := ← own.withDefault "additionalFlags" [] (Json.list? Json.string?)
    executorImage := ← own.optional "executorImage" Json.string? }

end BuildahTask

namespace Task

/-- A task as JSON. -/
def toJson : Task → Json
  | kaniko task => .object [("kaniko", task.toJson)]
  | buildah task => .object [("buildah", task.toJson)]

/-- How deep the members of a task that are none of its own may be nested. -/
def openDepth : Nat := 125

/-- The task that JSON denotes, inside some other values. -/
def ofJsonWithin? (outer : Nat) : Json → Option Task
  | .object [("kaniko", body)] => (KanikoTask.ofJson? (openDepth - outer) body).map kaniko
  | .object [("buildah", body)] => (BuildahTask.ofJson? (openDepth - outer) body).map buildah
  | _ => none

/-- The task that JSON denotes. -/
def ofJson? (j : Json) : Option Task := ofJsonWithin? 0 j

end Task

end ImageBuild
