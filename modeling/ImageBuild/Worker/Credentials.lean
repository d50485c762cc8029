import ImageBuild.Build.Work
import ImageBuild.Worker.Mounts

/-! Credentials and certificates of registries: the forms in which builders take them. -/

namespace ImageBuild.Worker

open Kubernetes

/-- A file that a builder takes from an object: the key that tells its form, and where the builder looks
for it. -/
structure RegistryFile where
  key : String
  directory : String
  name : String
  envName : Option String
  deriving DecidableEq

namespace RegistryFile

/-- The path of the file. -/
def path (f : RegistryFile) : String := f.directory ++ "/" ++ f.name

/-- The forms of credentials that Kaniko takes, in order of preference. -/
def forKaniko : List RegistryFile :=
  [⟨"kaniko-secret.json", "/secret", "kaniko-secret.json", some "GOOGLE_APPLICATION_CREDENTIALS"⟩,
    ⟨"config.json", "/kaniko/.docker", "config.json", none⟩,
    ⟨".dockerconfigjson", "/kaniko/.docker", "config.json", none⟩]

/-- Credentials without the envelope in which Buildah wants them. -/
def bare : RegistryFile := ⟨".dockercfg", "/buildah/.docker", "config.json", none⟩

/-- The forms of credentials that Buildah takes, in order of preference. -/
def forBuildah : List RegistryFile :=
  [bare, ⟨".dockerconfigjson", "/buildah/.docker", "config.json", some "REGISTRY_AUTH_FILE"⟩]

/-- The directory in which Buildah looks for certificates. -/
def certificateDirectory : String := "/etc/containers/certs.d"

/-- The forms of certificates that Buildah takes. -/
def certificates : List RegistryFile :=
  [⟨"service-ca.crt", certificateDirectory, "service-ca.crt", none⟩]

/-- The first file of a table whose key is there. -/
def choose? (table : List RegistryFile) (has : String → Bool) : Option RegistryFile :=
  table.find? (fun f => has f.key)

/-- The file that a Secret holds for a builder. -/
def ofSecret (table : List RegistryFile) (place : Reference) : Work RegistryFile := do
  let secret ← Work.call (Cluster.getSecret place)
  match choose? table secret.hasKey with
  | some f => pure f
  | none => throw (.unsupportedSecret place.key)

/-- The file that a ConfigMap holds for a builder. -/
def ofConfigMap (table : List RegistryFile) (place : Reference) : Work RegistryFile := do
  let map ← Work.call (Cluster.getConfigMap place)
  match choose? table map.hasKey with
  | some f => pure f
  | none => throw (.unsupportedConfigMap place.key)

/-- The file alone, as part of a volume. -/
def volume (object : String) (f : RegistryFile) : KeyVolume := .of object [⟨f.key, f.name, []⟩]

end RegistryFile

namespace Mounts

/-- The name of the volume of credentials. -/
def secretVolume : String := "registry-secret"

/-- The name of the volume of certificates. -/
def configVolume : String := "registry-config"

/-- Adds credentials, and the variable that names their file. -/
def addSecret (secret : String) (f : RegistryFile) (m : Mounts) : Mounts :=
  (m.add (.ofSecret secretVolume (f.volume secret)) (.readOnlyOf secretVolume f.directory)).addEnv
    ((f.envName.map (fun name => EnvVar.of name f.path)).toList)

/-- Adds certificates. -/
def addConfigMap (map : String) (f : RegistryFile) (m : Mounts) : Mounts :=
  m.add (.ofConfigMap configVolume (f.volume map)) (.readOnlyOf configVolume f.directory)

end Mounts

end ImageBuild.Worker
