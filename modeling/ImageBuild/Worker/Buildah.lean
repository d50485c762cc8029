import ImageBuild.Worker.Credentials
import ImageBuild.Worker.Part

/-! Containers that build by Buildah. -/

namespace ImageBuild.Worker.Buildah

open Kubernetes

/-- The arguments of the two commands of a task: one builds the image, the other publishes it. -/
structure Commands where
  bud : List String
  push : List String
  deriving DecidableEq

namespace Commands

/-- Arguments with a flag after the name of the command. -/
def withFlag (flag : String) (args : List String) : List String :=
  args.take 2 ++ flag :: args.drop 2

/-- Both commands with a flag. -/
def addFlag (flag : String) (c : Commands) : Commands :=
  ⟨withFlag flag c.bud, withFlag flag c.push⟩

/-- Both commands with a flag where it is asked for. -/
def addFlagIf (asked : Bool) (flag : String) (c : Commands) : Commands :=
  if asked then c.addFlag flag else c

/-- The commands of a task for an image. -/
def ofTask (task : BuildahTask) (image : String) : Commands :=
  let platform := match RegistrySpec.given task.platform with
    | some platform => ["--platform", platform]
    | none => []
  addFlagIf task.verbose "--log-level=debug" {
    bud := ["buildah", "bud", "--storage-driver=vfs"] ++ platform
      ++ ["--pull-always", "-f", "Dockerfile", "-t", image, "."]
    push := ["buildah", "push", "--storage-driver=vfs", "--digestfile=/dev/termination-log", image,
      "docker://" ++ image] }

/-- A command as a line of a script. -/
def line (args : List String) : String := " ".intercalate args

/-- The lines of a script. -/
def lines (c : Commands) : List String := [line c.bud, line c.push]

end Commands

/-- The file that bare credentials are put into with their envelope. -/
def wrappedFile : String := "/tmp/.dockercfg"

/-- The line of a script that puts bare credentials into their envelope. -/
def wrapLine : String :=
  "(echo '\x7b \"auths\": ' ; cat /buildah/.docker/config.json ; echo \"\x7d\") > /tmp/.dockercfg"

/-- The script of a worker: each line runs when those before it succeeded. -/
def script (lines : List String) : String := " && ".intercalate lines

/-- What a task has come to: its commands, the lines before them, and what its container gets. -/
structure Draft where
  commands : Commands
  before : List String
  mounts : Mounts

/-- Adds the certificates of a registry, if it has some. -/
def addCertificates (scope : String) (registry : RegistrySpec) (d : Draft) : Work Draft :=
  match registry.ca? with
  | some ca => do
    let f ← RegistryFile.ofConfigMap RegistryFile.certificates ⟨scope, ca⟩
    pure { d with
      commands := d.commands.addFlag ("--cert-dir=" ++ RegistryFile.certificateDirectory)
      mounts := d.mounts.addConfigMap ca f }
  | none => pure d

/-- Adds the credentials of a registry, if it has some. -/
def addCredentials (scope : String) (registry : RegistrySpec) (d : Draft) : Work Draft :=
  match registry.secret? with
  | some secret => do
    let f ← RegistryFile.ofSecret RegistryFile.forBuildah ⟨scope, secret⟩
    if f = .bare then
      -- Bare credentials are wrapped first, and used from the file with the envelope.
      let m := d.mounts.addEnv [.of "REGISTRY_AUTH_FILE" wrappedFile]
      pure { d with before := [wrapLine], mounts := m.addSecret secret f }
    else pure { d with mounts := d.mounts.addSecret secret f }
  | none => pure d

/-- The container of a task. -/
def part (s : Settings) (b : Build) (task : BuildahTask) : Work Part := do
  let p := task.publication
  let commands := Commands.ofTask task (fullName p.registry.address? p.image)
  let d ← addCertificates b.reference.scope p.registry ⟨commands, [], .empty⟩
  let d ← addCredentials b.reference.scope p.registry d
  let commands := d.commands.addFlagIf p.registry.insecure "--tls-verify=false"
  let m ← Context.mount s.config.podNamePrefix b p.contextDir d.mounts
  let m := m.addEnv s.proxy.env
  pure {
    container := { bareContainer (Text.lower task.name) with
      image := some ((RegistrySpec.given task.executorImage).getD s.config.buildahImage)
      imagePullPolicy := some "IfNotPresent"
      command := some ["/bin/sh", "-c"]
      args := some [script (d.before ++ commands.lines)]
      env := some m.env
      workingDir := some (Build.contextDir b.reference.name)
      volumeMounts := some m.places }
    volumes := m.volumes }

end ImageBuild.Worker.Buildah
