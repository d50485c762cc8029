import ImageBuild.Proofs.Cluster.Footprint
import ImageBuild.Worker.Pod

/-! The calls that concern a build: those for its own objects, and those for what its tasks name. Calls of the second
kind, and one for its context, are all that its worker pod is put together by. -/

namespace ImageBuild

namespace Call

/-- The place of the pod that a call is for. -/
def pod? : Call → Option Reference
  | getPod place | createPod place | deletePod place => some place
  | _ => none

/-- The place of the ConfigMap that a call is for. -/
def configMap? : Call → Option Reference
  | getConfigMap place | createConfigMap place | deleteConfigMap place => some place
  | _ => none

/-- A call for a pod is not one for a ConfigMap. -/
theorem configMap?_of_pod? {call : Call} {place : Reference} (pod : call.pod? = some place) :
    call.configMap? = none := by
  cases call <;> first | rfl | cases pod

end Call

namespace Build

/-- Whether a call is for the pod or for the context of a build. -/
def Owns (stem : String) (b : Build) (call : Call) : Prop :=
  call.pod? = some (Worker.place stem b) ∨ call.configMap? = some (Context.place stem b)

/-- Whether a task of a build names a Secret for the credentials of its registry. -/
def NamesCredentials (b : Build) (name : String) : Prop :=
  ∃ task ∈ b.spec.tasks, task.publication.registry.secret? = some name

/-- Whether a task of a build names a ConfigMap for the certificates of its registry. -/
def NamesCertificates (b : Build) (name : String) : Prop :=
  ∃ task ∈ b.spec.tasks, task.publication.registry.ca? = some name

/-- The calls that the work on a build may need: those for its own objects, and others that only read. -/
inductive Concern (stem : String) (b : Build) : Call → Prop
  | own {call : Call} (owned : b.Owns stem call) : Concern stem b call
  | credentials {name : String} (named : b.NamesCredentials name) :
      Concern stem b (.getSecret ⟨b.reference.scope, name⟩)
  | certificates {name : String} (named : b.NamesCertificates name) :
      Concern stem b (.getConfigMap ⟨b.reference.scope, name⟩)
  /-- The description of the registry of the cluster. -/
  | registry : Concern stem b (.getConfigMap Registry.hostingPlace)
  | services : Concern stem b (.listServices Registry.addonScope)

/-- The calls by which a worker pod is put together: all of them read what its build or a task names, or the
registry of the cluster. -/
inductive Inquiry (stem : String) (b : Build) : Call → Prop
  | context : Inquiry stem b (.getConfigMap (Context.place stem b))
  | credentials {name : String} (named : b.NamesCredentials name) :
      Inquiry stem b (.getSecret ⟨b.reference.scope, name⟩)
  | certificates {name : String} (named : b.NamesCertificates name) :
      Inquiry stem b (.getConfigMap ⟨b.reference.scope, name⟩)
  | registry : Inquiry stem b (.getConfigMap Registry.hostingPlace)
  | services : Inquiry stem b (.listServices Registry.addonScope)

namespace Inquiry

variable {stem : String} {b : Build} {call : Call}

/-- What is asked for a worker pod concerns its build. -/
theorem concern (asked : b.Inquiry stem call) : b.Concern stem call := by
  -- Each thing that may be asked about is one of those that concern the build.
  cases asked with
  | context => exact .own (.inr rfl)
  | credentials named => exact .credentials named
  | certificates named => exact .certificates named
  | registry => exact .registry
  | services => exact .services

/-- Nothing is changed by asking. -/
theorem not_isWrite (asked : b.Inquiry stem call) : call.isWrite = false := by
  cases asked <;> rfl

end Inquiry

end Build

end ImageBuild
