import ImageBuild.Build.Basic
import ImageBuild.Name
import ImageBuild.Platform.Basic
import ImageBuild.Text.Quoted

/-! Requests for builds, and the builds that answer them. -/

namespace ImageBuild

/-- A request to build an image on a platform, under a name that no other build there has. -/
structure BuildRequest where
  image : String
  name : String
  platform : Platform

/-- Why a request has no build. -/
inductive RequestError
  | unsupportedStrategy (build : BuildStrategy) (publish : PublishStrategy)
  | invalidName (name : String)
  deriving DecidableEq

/-- The wording of a refused request. -/
def RequestError.message : RequestError → String
  | unsupportedStrategy build publish =>
    "BuildStrategy " ++ build.name ++ " with PublishStrategy " ++ publish.name ++ " is not supported"
  | invalidName name => "Invalid build name: " ++ Text.quoted name

namespace BuildRequest

/-- What is built, in the context directory of the build. -/
def publication (r : BuildRequest) : Publication where
  contextDir := Build.contextDir r.name
  baseImage := r.platform.spec.baseImage
  image := r.image
  registry := r.platform.spec.registry

/-- A new build with one task. -/
def withTask (r : BuildRequest) (task : Task) : Build where
  reference := ⟨r.platform.reference.scope, r.name⟩
  version := 0
  spec := ⟨[task], .pod, r.platform.spec.timeLimit⟩
  status := .fresh

/-- A new build by Kaniko. -/
def kanikoBuild (r : BuildRequest) : Build :=
  r.withTask (.kaniko ⟨"KanikoTask", r.publication, false, ⟨none, none⟩, none, [], none⟩)

/-- A new build by Buildah. -/
def buildahBuild (r : BuildRequest) : Build :=
  r.withTask (.buildah ⟨"BuildahTask", r.publication, none, false, [], none⟩)

/-- The new build that the platform asks for. -/
def build (r : BuildRequest) : Except RequestError Build :=
  if ¬Name.isValid r.name then .error (.invalidName r.name)
  else match r.platform.spec.buildStrategy, r.platform.spec.publishStrategy with
    | .pod, .kaniko => .ok r.kanikoBuild
    | .pod, .buildah => .ok r.buildahBuild
    | strategy, publish => .error (.unsupportedStrategy strategy publish)

/-- The build that answers a request is a new one. -/
theorem build_ok {r : BuildRequest} {b : Build} (answered : r.build = .ok b) :
    ∃ task, b = r.withTask task := by
  -- A name that is not allowed is refused first, and then a task that neither strategy has.
  unfold build at answered
  split at answered
  · cases answered
  · split at answered
    · exact ⟨_, (Except.ok.inj answered).symm⟩
    · exact ⟨_, (Except.ok.inj answered).symm⟩
    · cases answered

end BuildRequest

end ImageBuild
