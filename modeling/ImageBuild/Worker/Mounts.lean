import ImageBuild.Kubernetes.Pod
import ImageBuild.Name

/-! What is put into the container of a worker. -/

namespace ImageBuild.Worker

open Kubernetes

/-- The label that holds the name of a build. -/
def buildLabel : String := "podforge.dev/build"

/-- The label that tells what an object is for. -/
def componentLabel : String := "podforge.dev/component"

/-- The volumes of a container, their places in it, and its environment. -/
structure Mounts where
  volumes : List Volume
  places : List VolumeMount
  env : List EnvVar

namespace Mounts

/-- Nothing at all. -/
def empty : Mounts := ⟨[], [], []⟩

/-- A volume more, and its place. -/
def add (m : Mounts) (volume : Volume) (place : VolumeMount) : Mounts :=
  { m with volumes := m.volumes ++ [volume], places := m.places ++ [place] }

/-- Variables more. -/
def addEnv (m : Mounts) (more : List EnvVar) : Mounts := { m with env := m.env ++ more }

end Mounts

end ImageBuild.Worker
