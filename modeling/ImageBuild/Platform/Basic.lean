import ImageBuild.Dict
import ImageBuild.Duration
import ImageBuild.Reference
import ImageBuild.Registry.Spec
import ImageBuild.Strategy
import ImageBuild.Text.Blank

/-! Platforms: the settings that the builds of a namespace have in common. -/

namespace ImageBuild

/-- How the images of a platform are built and published. -/
structure PlatformSpec where
  buildStrategy : BuildStrategy
  publishStrategy : PublishStrategy
  baseImage : Option String
  registry : RegistrySpec
  timeout : Option Duration
  options : Dict String String
  deriving DecidableEq

/-- A platform. -/
structure Platform where
  reference : Reference
  spec : PlatformSpec
  deriving DecidableEq

namespace PlatformSpec

/-- The settings where nothing is given. -/
def unspecified : PlatformSpec :=
  ⟨.pod, .kaniko, none, .unspecified, none, .empty⟩

/-- Whether an option is set to true; any other value counts as false. -/
def isEnabled (spec : PlatformSpec) (option : String) : Bool :=
  match spec.options.get? option with
  | some value => Text.trim value = "true"
  | none => false

/-- The time limit of a build, which is zero where none is set. -/
def timeLimit (spec : PlatformSpec) : Duration := spec.timeout.getD .zero

end PlatformSpec

end ImageBuild
