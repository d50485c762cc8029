import ImageBuild.Build.Request
import ImageBuild.Cluster.Error
import ImageBuild.FileTree.Fault

/-! Why the work on a build fails. -/

namespace ImageBuild

/-- Why the work on a build fails. -/
inductive BuildError
  | request (reason : RequestError)
  | cluster (reason : ClusterError)
  | unsupportedSecret (key : String)
  | unsupportedConfigMap (key : String)
  | registryHosting (message : String)
  | invalidResource (message : String)
  | locked (key holder : String)
  | notFound (key : String)
  | conflict (key : String) (stored given : UInt64)
  | serialization
  | io (fault : FileFault)
  deriving DecidableEq

namespace BuildError

/-- The wording of a failure. -/
def message : BuildError → String
  | request reason => reason.message
  | cluster reason => reason.message
  | unsupportedSecret key => "unsupported secret type for registry authentication: " ++ key
  | unsupportedConfigMap key => "unsupported registry config map: " ++ key
  | registryHosting message => "Invalid local registry hosting config: " ++ message
  | invalidResource message => "Invalid build resource: " ++ message
  | locked key holder => "Build " ++ key ++ " is locked by " ++ holder
  | notFound key => "Build " ++ key ++ " not found"
  | conflict key stored given =>
    "Write conflict on build " ++ key ++ ": stored version " ++ toString stored.toNat ++ ", got "
      ++ toString given.toNat
  | serialization => "Serialization error"
  | io fault => "IO error: " ++ fault.message

/-- The wording of a failure with advice for whoever asked for the build. -/
def advice : BuildError → String
  | unsupportedSecret key =>
    "Secret " ++ key ++ " does not hold registry credentials in a supported format.\n\n"
      ++ "Supported keys: kaniko-secret.json, config.json, .dockercfg, .dockerconfigjson"
  | conflict key _ _ =>
    "Build " ++ key ++ " was modified concurrently. Load it again and retry."
  | locked key holder =>
    "Build " ++ key ++ " is being written by " ++ holder ++ ". Retry once it finishes."
  | e => e.message

/-- Whether the build or an object is missing. -/
def isNotFound : BuildError → Bool
  | notFound _ => true
  | cluster reason => reason.isNotFound
  | _ => false

/-- Whether the same work may succeed later. -/
def isTransient : BuildError → Bool
  | conflict .. | locked .. => true
  | cluster reason => reason.isTransient
  | _ => false

end BuildError

end ImageBuild
