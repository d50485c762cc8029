import ImageBuild.Registry.Discovery
import ImageBuild.Worker.Credentials
import ImageBuild.Worker.Part

/-! Containers that build by Kaniko. -/

namespace ImageBuild.Worker.Kaniko

open Kubernetes

/-- The directory of the cache in the container. -/
def cacheDirectory : String := "/kaniko/cache"

/-- The name of the volume of the cache. -/
def cacheVolume : String := "kaniko-cache"

/-- The arguments that a task asks for. -/
def args (task : KanikoTask) (address : Option String) : List String :=
  let p := task.publication
  ["--dockerfile=Dockerfile", "--context=dir://" ++ p.contextDir,
    "--destination=" ++ fullName address p.image]
    ++ (if task.verbose then ["-v=debug"] else [])
    ++ (if p.registry.insecure then ["--insecure", "--insecure-pull"] else [])
    ++ (if task.cache.isEnabled then
        "--cache=true"
          :: (if task.cache.volumeClaim.isSome then ["--cache-dir=" ++ cacheDirectory] else [])
      else [])
    ++ task.additionalFlags

/-- The registry of a task: its own, or that of the cluster. -/
def address (task : KanikoTask) : Work (Option String) :=
  match task.publication.registry.address? with
  | some address => pure (some address)
  | none => Registry.address

/-- Adds the volume of the cache, if one is in use. -/
def mountCache (cache : LayerCache) (m : Mounts) : Mounts :=
  match cache.isEnabled, cache.volumeClaim with
  | true, some claim => m.add (.ofClaim cacheVolume claim) (.of cacheVolume cacheDirectory)
  | _, _ => m

/-- Adds the credentials of a registry, if it has some. -/
def mountSecret (scope : String) (registry : RegistrySpec) (m : Mounts) : Work Mounts :=
  match registry.secret? with
  | some secret => do
    let f ← RegistryFile.ofSecret RegistryFile.forKaniko ⟨scope, secret⟩
    pure (m.addSecret secret f)
  | none => pure m

/-- The container of a task. -/
def part (s : Settings) (b : Build) (task : KanikoTask) : Work Part := do
  let p := task.publication
  let address ← address task
  let m ← mountSecret b.reference.scope p.registry .empty
  let m ← Context.mount s.config.podNamePrefix b p.contextDir (mountCache task.cache m)
  let m := m.addEnv s.proxy.env
  pure {
    container := { bareContainer (Text.lower task.name) with
      image := some ((RegistrySpec.given task.executorImage).getD s.config.kanikoImage)
      imagePullPolicy := some "IfNotPresent"
      args := some (args task address)
      env := some m.env
      workingDir := some p.contextDir
      volumeMounts := some m.places
      resources := task.resources }
    volumes := m.volumes }

end ImageBuild.Worker.Kaniko
