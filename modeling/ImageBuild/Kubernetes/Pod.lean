import ImageBuild.Kubernetes.Meta

/-! Pods, their containers and volumes, and what has become of them. -/

namespace ImageBuild.Kubernetes

/-- A variable of the environment of a container. -/
structure EnvVar where
  name : String
  value : Option String
  others : Others

/-- A key of an object, and the path of the file that it becomes. -/
structure KeyPath where
  key : String
  path : String
  others : Others

/-- The keys of a ConfigMap or Secret as files; all of them where none are chosen. -/
structure KeyVolume where
  object : Option String
  items : Option (List KeyPath)
  others : Others

/-- A volume that a claim stands for. -/
structure ClaimVolume where
  claim : String
  readOnly : Option Bool

/-- A volume of a pod. -/
structure Volume where
  name : String
  configMap : Option KeyVolume
  secret : Option KeyVolume
  claim : Option ClaimVolume
  others : Others

/-- The place of a volume in a container. -/
structure VolumeMount where
  name : String
  path : String
  readOnly : Option Bool
  others : Others

/-- A container of a pod. -/
structure Container where
  name : String
  image : Option String
  imagePullPolicy : Option String
  command : Option (List String)
  args : Option (List String)
  env : Option (List EnvVar)
  workingDir : Option String
  volumeMounts : Option (List VolumeMount)
  resources : Option ResourceRequirements
  others : Others

/-- What a pod is made of. -/
structure PodSpec where
  containers : List Container
  initContainers : Option (List Container)
  volumes : Option (List Volume)
  restartPolicy : Option String
  others : Others

/-- The end of a container. -/
structure Termination where
  exitCode : Int
  reason : Option String
  message : Option String
  others : Others

/-- The state of a container. -/
structure ContainerState where
  terminated : Option Termination
  others : Others

/-- What has become of a container. -/
structure ContainerStatus where
  name : String
  state : Option ContainerState
  others : Others

/-- What has become of a pod. -/
structure PodStatus where
  phase : Option String
  message : Option String
  initContainers : Option (List ContainerStatus)
  containers : Option (List ContainerStatus)
  others : Others

/-- A pod. -/
structure Pod where
  metadata : Meta
  spec : Option PodSpec
  status : Option PodStatus

namespace EnvVar

/-- A variable with a value. -/
def of (name value : String) : EnvVar := ⟨name, some value, []⟩

/-- The variable as JSON. -/
def toJson (e : EnvVar) : Json :=
  .object (("name", .string e.name) :: Json.field? "value" (e.value.map .string) ++ e.others)

/-- The variable that JSON denotes. -/
def ofJson? (j : Json) : Option EnvVar := do
  let m ← Members.ofJson? j
  return ⟨← m.must "name" "" Json.string?, ← m.may "value" Json.string?, ← m.others Schema.env⟩

end EnvVar

namespace KeyPath

/-- The key and its path as JSON. -/
def toJson (k : KeyPath) : Json :=
  .object ([("key", .string k.key), ("path", .string k.path)] ++ k.others)

/-- The key and the path that JSON denotes. -/
def ofJson? (j : Json) : Option KeyPath := do
  let m ← Members.ofJson? j
  return ⟨← m.must "key" "" Json.string?, ← m.must "path" "" Json.string?, ← m.others Schema.item⟩

end KeyPath

namespace KeyVolume

/-- Some keys of a named object. -/
def of (object : String) (items : List KeyPath) : KeyVolume := ⟨some object, some items, []⟩

/-- The volume as JSON, with the name of the object under a name of its own. -/
def toJson (member : String) (v : KeyVolume) : Json :=
  .object (Json.field? member (v.object.map .string)
    ++ Json.field? "items" (v.items.map (listToJson KeyPath.toJson)) ++ v.others)

/-- The volume of keys of a ConfigMap that JSON denotes, which has a name. -/
def configMapOfJson? (j : Json) : Option KeyVolume := do
  let m ← Members.ofJson? j
  return ⟨some (← m.must "name" "" Json.string?), ← m.may "items" (Json.list? KeyPath.ofJson?),
    ← m.others Schema.keyVolume⟩

/-- The volume of keys of a Secret that JSON denotes. -/
def secretOfJson? (j : Json) : Option KeyVolume := do
  let m ← Members.ofJson? j
  return ⟨← m.may "secretName" Json.string?, ← m.may "items" (Json.list? KeyPath.ofJson?),
    ← m.others Schema.keyVolume⟩

end KeyVolume

namespace ClaimVolume

/-- The volume as JSON. -/
def toJson (v : ClaimVolume) : Json :=
  .object (("claimName", .string v.claim) :: Json.field? "readOnly" (v.readOnly.map .bool))

/-- The volume that JSON denotes. -/
def ofJson? (j : Json) : Option ClaimVolume := do
  let m ← Members.ofJson? j
  return ⟨← m.must "claimName" "" Json.string?, ← m.may "readOnly" Json.bool?⟩

end ClaimVolume

namespace Volume

/-- A volume made of a ConfigMap. -/
def ofConfigMap (name : String) (v : KeyVolume) : Volume := ⟨name, some v, none, none, []⟩

/-- A volume made of a Secret. -/
def ofSecret (name : String) (v : KeyVolume) : Volume := ⟨name, none, some v, none, []⟩

/-- A volume that a claim stands for. -/
def ofClaim (name claim : String) : Volume := ⟨name, none, none, some ⟨claim, none⟩, []⟩

/-- The volume as JSON. -/
def toJson (v : Volume) : Json :=
  .object (("name", .string v.name)
    :: Json.field? "configMap" (v.configMap.map (KeyVolume.toJson "name"))
    ++ Json.field? "secret" (v.secret.map (KeyVolume.toJson "secretName"))
    ++ Json.field? "persistentVolumeClaim" (v.claim.map ClaimVolume.toJson) ++ v.others)

/-- The volume that JSON denotes. -/
def ofJson? (j : Json) : Option Volume := do
  let m ← Members.ofJson? j
  return {
    name := ← m.must "name" "" Json.string?
    configMap := ← m.may "configMap" KeyVolume.configMapOfJson?
    secret := ← m.may "secret" KeyVolume.secretOfJson?
    claim := ← m.may "persistentVolumeClaim" ClaimVolume.ofJson?
    others := ← m.others Schema.volume }

end Volume

namespace VolumeMount

/-- A mount that may be written to. -/
def of (name path : String) : VolumeMount := ⟨name, path, none, []⟩

/-- A mount that may only be read. -/
def readOnlyOf (name path : String) : VolumeMount := ⟨name, path, some true, []⟩

/-- The mount as JSON. -/
def toJson (v : VolumeMount) : Json :=
  .object ([("mountPath", .string v.path), ("name", .string v.name)]
    ++ Json.field? "readOnly" (v.readOnly.map .bool) ++ v.others)

/-- The mount that JSON denotes. -/
def ofJson? (j : Json) : Option VolumeMount := do
  let m ← Members.ofJson? j
  return ⟨← m.must "name" "" Json.string?, ← m.must "mountPath" "" Json.string?,
    ← m.may "readOnly" Json.bool?, ← m.others Schema.mount⟩

end VolumeMount

namespace Container

/-- The container as JSON. -/
def toJson (c : Container) : Json :=
  .object (("name", .string c.name) :: Json.field? "image" (c.image.map .string)
    ++ Json.field? "imagePullPolicy" (c.imagePullPolicy.map .string)
    ++ Json.field? "command" (c.command.map .ofStrings)
    ++ Json.field? "args" (c.args.map .ofStrings)
    ++ Json.field? "env" (c.env.map (listToJson EnvVar.toJson))
    ++ Json.field? "workingDir" (c.workingDir.map .string)
    ++ Json.field? "volumeMounts" (c.volumeMounts.map (listToJson VolumeMount.toJson))
    ++ Json.field? "resources" (c.resources.map ResourceRequirements.toJson) ++ c.others)

/-- The container that JSON denotes. -/
def ofJson? (j : Json) : Option Container := do
  let m ← Members.ofJson? j
  return {
    name := ← m.must "name" "" Json.string?
    image := ← m.may "image" Json.string?
    imagePullPolicy := ← m.may "imagePullPolicy" Json.string?
    command := ← m.may "command" (Json.list? Json.string?)
    args := ← m.may "args" (Json.list? Json.string?)
    env := ← m.may "env" (Json.list? EnvVar.ofJson?)
    workingDir := ← m.may "workingDir" Json.string?
    volumeMounts := ← m.may "volumeMounts" (Json.list? VolumeMount.ofJson?)
    resources := ← m.may "resources" ResourceRequirements.ofJson?
    others := ← m.others Schema.container }

end Container

namespace PodSpec

/-- What a pod is made of as JSON. -/
def toJson (s : PodSpec) : Json :=
  .object (("containers", listToJson Container.toJson s.containers)
    :: Json.field? "initContainers" (s.initContainers.map (listToJson Container.toJson))
    ++ Json.field? "restartPolicy" (s.restartPolicy.map .string)
    ++ Json.field? "volumes" (s.volumes.map (listToJson Volume.toJson)) ++ s.others)

/-- What a pod is made of according to JSON. -/
def ofJson? (j : Json) : Option PodSpec := do
  let m ← Members.ofJson? j
  return {
    containers := ← m.must "containers" [] (Json.list? Container.ofJson?)
    initContainers := ← m.may "initContainers" (Json.list? Container.ofJson?)
    volumes := ← m.may "volumes" (Json.list? Volume.ofJson?)
    restartPolicy := ← m.may "restartPolicy" Json.string?
    others := ← m.others Schema.podSpec }

end PodSpec

namespace Termination

/-- The end of a container as JSON. -/
def toJson (t : Termination) : Json :=
  .object (("exitCode", .ofInt t.exitCode) :: Json.field? "message" (t.message.map .string)
    ++ Json.field? "reason" (t.reason.map .string) ++ t.others)

/-- The end of a container that JSON denotes. -/
def ofJson? (j : Json) : Option Termination := do
  let m ← Members.ofJson? j
  return {
    exitCode := ← m.must "exitCode" 0 (Json.signed? 32)
    reason := ← m.may "reason" Json.string?
    message := ← m.may "message" Json.string?
    others := ← m.others Schema.terminated }

end Termination

namespace ContainerState

/-- The state as JSON. -/
def toJson (s : ContainerState) : Json :=
  .object (Json.field? "terminated" (s.terminated.map Termination.toJson) ++ s.others)

/-- The state that JSON denotes. -/
def ofJson? (j : Json) : Option ContainerState := do
  let m ← Members.ofJson? j
  return ⟨← m.may "terminated" Termination.ofJson?, ← m.others Schema.liveState⟩

end ContainerState

namespace ContainerStatus

/-- What has become of a container as JSON. -/
def toJson (s : ContainerStatus) : Json :=
  .object (("name", .string s.name) :: Json.field? "state" (s.state.map ContainerState.toJson)
    ++ s.others)

/-- What has become of a container according to JSON. -/
def ofJson? (j : Json) : Option ContainerStatus := do
  let m ← Members.ofJson? j
  return ⟨← m.must "name" "" Json.string?, ← m.may "state" ContainerState.ofJson?,
    ← m.others Schema.containerStatus⟩

end ContainerStatus

namespace PodStatus

/-- The status of a pod of which only the phase is known. -/
def ofPhase (phase : String) : PodStatus := ⟨some phase, none, none, none, []⟩

/-- What has become of a pod as JSON. -/
def toJson (s : PodStatus) : Json :=
  .object (Json.field? "containerStatuses" (s.containers.map (listToJson ContainerStatus.toJson))
    ++ Json.field? "initContainerStatuses" (s.initContainers.map (listToJson ContainerStatus.toJson))
    ++ Json.field? "message" (s.message.map .string) ++ Json.field? "phase" (s.phase.map .string)
    ++ s.others)

/-- What has become of a pod according to JSON. -/
def ofJson? (j : Json) : Option PodStatus := do
  let m ← Members.ofJson? j
  return {
    phase := ← m.may "phase" Json.string?
    message := ← m.may "message" Json.string?
    initContainers := ← m.may "initContainerStatuses" (Json.list? ContainerStatus.ofJson?)
    containers := ← m.may "containerStatuses" (Json.list? ContainerStatus.ofJson?)
    others := ← m.others Schema.podStatus }

end PodStatus

namespace Pod

/-- The place of a pod. -/
def reference (p : Pod) : Reference := p.metadata.reference

/-- Whether a pod has been deleted but is still there. -/
def isTerminating (p : Pod) : Bool := p.metadata.deletedAt.isSome

/-- The phase of a pod, empty where it is not known. -/
def phase (p : Pod) : String := (p.status.bind (·.phase)).getD ""

/-- The pod as JSON. -/
def toJson (p : Pod) : Json :=
  .object (kindMembers "Pod" ++ [("metadata", p.metadata.toJson)]
    ++ Json.field? "spec" (p.spec.map PodSpec.toJson)
    ++ Json.field? "status" (p.status.map PodStatus.toJson))

/-- The pod that JSON denotes. -/
def ofJson? (j : Json) : Option Pod := do
  let m ← objectOfJson? "Pod" j
  return ⟨← m.must "metadata" .none Meta.ofJson?, ← m.may "spec" PodSpec.ofJson?,
    ← m.may "status" PodStatus.ofJson?⟩

end Pod

end ImageBuild.Kubernetes
