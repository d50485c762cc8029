import ImageBuild.Config.Basic
import ImageBuild.Context
import ImageBuild.Worker.Proxy

/-! What a task comes to: a container, and the volumes that it needs. -/

namespace ImageBuild.Worker

open Kubernetes

/-- What workers are made with: the settings of the engine, and the proxies of the process. -/
structure Settings where
  config : EngineConfig
  proxy : Proxy

/-- The container of a task, and the volumes that it brings into the pod. -/
structure Part where
  container : Container
  volumes : List Volume

/-- A container without anything but a name. -/
def bareContainer (name : String) : Container :=
  ⟨name, none, none, none, none, none, none, none, none, []⟩

/-- The full name of an image in a registry. -/
def fullName (address : Option String) (image : String) : String :=
  match address with
  | some address => Text.trimEndChar '/' address ++ "/" ++ image
  | none => image

end ImageBuild.Worker
