import ImageBuild.Dict
import ImageBuild.Registry.Spec

/-! Tasks: the work of a build, done by one of the two builders. -/

namespace ImageBuild

/-- A claim on a resource of the node, and the part of it that is asked for. -/
structure ResourceClaim where
  name : String
  request : Option String
  deriving DecidableEq

/-- The resources that a container asks for. -/
structure ResourceRequirements where
  claims : Option (List ResourceClaim)
  limits : Option (Dict String String)
  requests : Option (Dict String String)
  deriving DecidableEq

/-- What is built and where it goes: the image name is without the address of the registry. -/
structure Publication where
  contextDir : String
  baseImage : Option String
  image : String
  registry : RegistrySpec
  deriving DecidableEq, Inhabited

/-- Whether layers are cached, and the volume claim that keeps them. -/
structure LayerCache where
  enabled : Option Bool
  volumeClaim : Option String
  deriving DecidableEq, Inhabited

/-- Whether the cache is in use. -/
def LayerCache.isEnabled (cache : LayerCache) : Bool := cache.enabled.getD false

/-- A task for Kaniko. -/
structure KanikoTask where
  name : String
  publication : Publication
  verbose : Bool
  cache : LayerCache
  resources : Option ResourceRequirements
  additionalFlags : List String
  executorImage : Option String
  deriving DecidableEq

/-- A task for Buildah. -/
structure BuildahTask where
  name : String
  publication : Publication
  platform : Option String
  verbose : Bool
  additionalFlags : List String
  executorImage : Option String
  deriving DecidableEq

/-- A task for one of the builders. -/
inductive Task
  | kaniko (task : KanikoTask)
  | buildah (task : BuildahTask)
  deriving DecidableEq

namespace Task

/-- The name of a task, which its container gets in lower case. -/
def name : Task → String
  | kaniko task => task.name
  | buildah task => task.name

/-- What a task builds and where it goes. -/
def publication : Task → Publication
  | kaniko task => task.publication
  | buildah task => task.publication

/-- The task with another publication. -/
def withPublication (p : Publication) : Task → Task
  | kaniko task => kaniko { task with publication := p }
  | buildah task => buildah { task with publication := p }

/-- The Kaniko task, if it is one. -/
def kaniko? : Task → Option KanikoTask
  | kaniko task => some task
  | buildah _ => none

/-- The Buildah task, if it is one. -/
def buildah? : Task → Option BuildahTask
  | buildah task => some task
  | kaniko _ => none

end Task

end ImageBuild
