/-! How a build is run and which tool publishes its image. -/

namespace ImageBuild

/-- Where a build runs. -/
inductive BuildStrategy
  | pod
  | routine
  deriving DecidableEq, Inhabited

/-- The tool that builds and publishes an image. -/
inductive PublishStrategy
  | kaniko
  | buildah
  deriving DecidableEq, Inhabited

namespace BuildStrategy

/-- The name under which a strategy is shown, read and written. -/
def name : BuildStrategy → String
  | pod => "pod"
  | routine => "routine"

/-- The strategy of a name. -/
def ofName? (name : String) : Option BuildStrategy := [pod, routine].find? (fun s => s.name = name)

/-- A strategy is the one of its name. -/
@[simp] theorem ofName?_name (s : BuildStrategy) : ofName? s.name = some s := by
  cases s <;> decide

end BuildStrategy

namespace PublishStrategy

/-- The name under which a strategy is shown, read and written. -/
def name : PublishStrategy → String
  | kaniko => "Kaniko"
  | buildah => "Buildah"

/-- The strategy of a name. -/
def ofName? (name : String) : Option PublishStrategy :=
  [kaniko, buildah].find? (fun s => s.name = name)

/-- A strategy is the one of its name. -/
@[simp] theorem ofName?_name (s : PublishStrategy) : ofName? s.name = some s := by
  cases s <;> decide

end PublishStrategy

end ImageBuild
