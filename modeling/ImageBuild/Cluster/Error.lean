import ImageBuild.Reference

/-! Why a call to a cluster fails. -/

namespace ImageBuild

/-- The kinds of objects that builds use. -/
inductive ObjectKind
  | pod
  | secret
  | configMap
  | service
  deriving DecidableEq, Inhabited

/-- The name of a kind. -/
def ObjectKind.name : ObjectKind → String
  | pod => "Pod"
  | secret => "Secret"
  | configMap => "ConfigMap"
  | service => "Service"

/-- Why a call to a cluster fails. -/
inductive ClusterError
  | notFound (kind : ObjectKind) (place : Reference)
  | alreadyExists (kind : ObjectKind) (place : Reference)
  | conflict (kind : ObjectKind) (place : Reference) (message : String)
  | api (code : Nat) (message : String)
  | client (message : String)
  deriving DecidableEq

namespace ClusterError

/-- The wording of a failure. -/
def message : ClusterError → String
  | notFound kind place => kind.name ++ " " ++ place.key ++ " not found"
  | alreadyExists kind place => kind.name ++ " " ++ place.key ++ " already exists"
  | conflict kind place message =>
    "Write conflict on " ++ kind.name ++ " " ++ place.key ++ ": " ++ message
  | api code message => "Kubernetes API error (" ++ toString code ++ "): " ++ message
  | client message => "Kubernetes client error: " ++ message

/-- Whether the object is missing, which is no failure of the cluster. -/
def isNotFound : ClusterError → Bool
  | notFound .. => true
  | _ => false

/-- Whether an object of the name is there already. -/
def isAlreadyExists : ClusterError → Bool
  | alreadyExists .. => true
  | _ => false

/-- Whether the object has been changed by somebody else. -/
def isConflict : ClusterError → Bool
  | conflict .. => true
  | _ => false

/-- Whether the same call may succeed later. -/
def isTransient : ClusterError → Bool
  | conflict .. | api .. | client .. => true
  | _ => false

end ClusterError

end ImageBuild
