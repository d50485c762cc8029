import ImageBuild.Proofs.Cluster.Footprint
import ImageBuild.Proofs.Worker.Concern

/-! Worker pods are put together by calls that only read what concerns their build, and never look at a pod. -/

namespace ImageBuild

open Kubernetes Cluster Run

namespace Work

/-- Work after which there still holds whatever held of the cluster. -/
def Keeps {α : Type} (P : Cluster → Prop) (w : Work α) : Prop := ∀ c, P c → P (w.run.run c).2

/-- A value by itself keeps everything. -/
theorem Keeps.pure {α : Type} (P : Cluster → Prop) (a : α) : Keeps P (Pure.pure a) :=
  fun _ holds => holds

/-- Joined work keeps what its parts keep. -/
theorem Keeps.bind {α β : Type} {P : Cluster → Prop} {w : Work α} {k : α → Work β}
    (first : Keeps P w) (later : ∀ a, Keeps P (k a)) : Keeps P (w >>= k) := by
  intro c holds
  have kept := first c holds
  rw [run_bind]
  rcases ran : w.run.run c with ⟨result, d⟩
  rw [ran] at kept
  -- Other work starts from the cluster as the first work leaves it.
  cases result with
  | error e => exact kept
  | ok a => exact later a d kept

/-- Work that is put together from allowed calls which read, and which no pod has a part in. -/
inductive Reads (Allowed : Call → Prop) : {α : Type} → Work α → Prop
  /-- A value is known already. -/
  | pure {α : Type} (a : α) : Reads Allowed (Pure.pure a)
  /-- What was read is of no use. -/
  | throw {α : Type} (e : BuildError) : Reads Allowed (MonadExcept.throw e : Work α)
  /-- One call, whose failure ends the work. -/
  | call {α : Type} {call : ClusterM α} {record : Call} {answer : Cluster → Except ClusterError α}
      (allowed : Allowed record) (looks : Looks call record answer) (blind : PodBlind answer) :
      Reads Allowed (Work.call call)
  /-- One call for an object that may be missing. -/
  | find {α : Type} {call : ClusterM α} {record : Call} {answer : Cluster → Except ClusterError α}
      (allowed : Allowed record) (looks : Looks call record answer) (blind : PodBlind answer) :
      Reads Allowed (Work.find call)
  /-- Other work follows. -/
  | bind {α β : Type} {w : Work α} {k : α → Work β} (first : Reads Allowed w)
      (later : ∀ a, Reads Allowed (k a)) : Reads Allowed (w >>= k)

variable {Allowed : Call → Prop}

namespace Reads

/-- A list is gone through by reading when each of its members is. -/
theorem foldlM {α β : Type} {f : β → α → Work β} {l : List α}
    (each : ∀ b, ∀ a ∈ l, Reads Allowed (f b a)) : ∀ b, Reads Allowed (l.foldlM f b) := by
  -- The induction is on the list, whatever has been put together so far.
  induction l with
  | nil => exact fun b => .pure b
  | cons a rest ih =>
    intro b
    rw [List.foldlM_cons]
    exact (each b a List.mem_cons_self).bind
      (ih fun b o member => each b o (List.mem_cons_of_mem _ member))

/-- A Secret is read. -/
theorem secret {place : Reference} (allowed : Allowed (.getSecret place)) :
    Reads Allowed (Work.call (getSecret place)) :=
  .call allowed (looks_getSecret place) (fun c d secrets _ _ => by simp only [secrets])

/-- A ConfigMap is read. -/
theorem configMap {place : Reference} (allowed : Allowed (.getConfigMap place)) :
    Reads Allowed (Work.call (getConfigMap place)) :=
  .call allowed (looks_getConfigMap place) (fun c d _ maps _ => by simp only [maps])

/-- A ConfigMap that may be missing is read. -/
theorem configMap? {place : Reference} (allowed : Allowed (.getConfigMap place)) :
    Reads Allowed (Work.find (getConfigMap place)) :=
  .find allowed (looks_getConfigMap place) (fun c d _ maps _ => by simp only [maps])

/-- A list of Services is read. -/
theorem services {scope : String} (labels : Dict String String)
    (allowed : Allowed (.listServices scope)) : Reads Allowed (Work.call (listServices scope labels)) :=
  -- What is listed depends on the Services only.
  .call allowed (looks_listServices scope labels)
    (fun c d _ _ services => by simp only [services])

/-- Whatever holds of a cluster is kept by reading, unless it is about the calls or what is planned for them. -/
theorem keeps {α : Type} {w : Work α} (reads : Reads Allowed w) {P : Cluster → Prop}
    (noted : ∀ c call, P c → P (c.called call)) : Keeps P w := by
  -- Only the calls have an effect, and it is that they are noted.
  induction reads with
  | pure a => exact .pure P a
  | throw e => exact fun c holds => holds
  | call allowed looks blind =>
    intro c holds
    rw [run_call, looks c]
    exact noted c _ holds
  | find allowed looks blind =>
    intro c holds
    rw [Work.find, run_callUnless, looks c]
    exact noted c _ holds
  | bind _ _ keepsFirst keepsLater => exact keepsFirst.bind keepsLater

/-- Reading makes no other calls than allowed ones. -/
theorem makes {α : Type} {w : Work α} (reads : Reads Allowed w) : Makes Allowed w := by
  -- The induction is on how the work reads; every call it makes leaves nothing but its record.
  induction reads with
  | pure a => exact .pure a
  | throw e => exact .throw e
  | call allowed looks blind => exact .call allowed (Footprint.of_looks looks)
  | find allowed looks blind => exact .find allowed (Footprint.of_looks looks)
  | bind _ _ makesFirst makesLater => exact makesFirst.bind makesLater

end Reads

end Work

open Work

variable {Allowed : Call → Prop}

namespace Registry

/-- The description of a registry is read. -/
theorem reads_hostingAddress (described : Allowed (.getConfigMap hostingPlace)) :
    Reads Allowed hostingAddress := by
  -- After the one call everything is computed from its answer.
  unfold hostingAddress
  refine (Reads.configMap? described).bind (fun map => ?_)
  split
  · exact .pure _
  · split
    · exact .pure _
    · exact .throw _

/-- The Services of addons are read. -/
theorem reads_addonAddress (listed : Allowed (.listServices addonScope)) :
    Reads Allowed addonAddress :=
  (Reads.services _ listed).bind (fun _ => .pure _)

/-- The address of the registry of a cluster is read. -/
theorem reads_address (described : Allowed (.getConfigMap hostingPlace))
    (listed : Allowed (.listServices addonScope)) : Reads Allowed address := by
  -- The addon is only asked for when no host is described.
  refine (reads_hostingAddress described).bind (fun found => ?_)
  cases found with
  | some found => exact .pure _
  | none => exact reads_addonAddress listed

end Registry

/-- The files of a build are looked for in its context. -/
theorem Context.reads_mount {stem : String} {b : Build}
    (allowed : Allowed (.getConfigMap (place stem b))) (directory : String) (m : Worker.Mounts) :
    Reads Allowed (Context.mount stem b directory m) := by
  -- The one call is for the ConfigMap of the context.
  refine (Reads.configMap? allowed).bind (fun map => ?_)
  cases map <;> exact .pure _

namespace Worker

namespace RegistryFile

/-- Credentials are read. -/
theorem reads_ofSecret (table : List RegistryFile) {place : Reference}
    (allowed : Allowed (.getSecret place)) : Reads Allowed (ofSecret table place) := by
  -- The choice among the keys asks nothing more.
  refine (Reads.secret allowed).bind (fun secret => ?_)
  cases choose? table secret.hasKey with
  | some f => exact .pure f
  | none => exact .throw _

/-- Certificates are read. -/
theorem reads_ofConfigMap (table : List RegistryFile) {place : Reference}
    (allowed : Allowed (.getConfigMap place)) : Reads Allowed (ofConfigMap table place) := by
  -- As for Secrets, the choice is made from the answer.
  refine (Reads.configMap allowed).bind (fun map => ?_)
  cases choose? table map.hasKey with
  | some f => exact .pure f
  | none => exact .throw _

end RegistryFile

open RegistryFile

/-- The address of the registry of a task is read, unless the task has it. -/
theorem Kaniko.reads_address (task : KanikoTask)
    (described : Allowed (.getConfigMap Registry.hostingPlace))
    (listed : Allowed (.listServices Registry.addonScope)) : Reads Allowed (address task) := by
  -- A task with an address of its own asks for none.
  unfold address
  split
  · exact .pure _
  · exact Registry.reads_address described listed

/-- Credentials are read where a task names some. -/
theorem Kaniko.reads_mountSecret {scope : String} {registry : RegistrySpec}
    (allowed : ∀ secret, registry.secret? = some secret → Allowed (.getSecret ⟨scope, secret⟩))
    (m : Mounts) : Reads Allowed (mountSecret scope registry m) := by
  -- A call is only made for a Secret that the registry names.
  unfold mountSecret
  split
  · rename_i secret named
    exact (reads_ofSecret _ (allowed secret named)).bind (fun f => .pure _)
  · exact .pure _

/-- Certificates are read where a task names some. -/
theorem Buildah.reads_addCertificates {scope : String} {registry : RegistrySpec}
    (allowed : ∀ ca, registry.ca? = some ca → Allowed (.getConfigMap ⟨scope, ca⟩)) (d : Draft) :
    Reads Allowed (addCertificates scope registry d) := by
  -- Likewise for certificates.
  unfold addCertificates
  split
  · rename_i ca named
    exact (reads_ofConfigMap _ (allowed ca named)).bind (fun f => .pure _)
  · exact .pure _

/-- Credentials are read where a task names some. -/
theorem Buildah.reads_addCredentials {scope : String} {registry : RegistrySpec}
    (allowed : ∀ secret, registry.secret? = some secret → Allowed (.getSecret ⟨scope, secret⟩))
    (d : Draft) : Reads Allowed (addCredentials scope registry d) := by
  unfold addCredentials
  split
  · -- Bare credentials differ in what is made of them, and in nothing that is read.
    rename_i secret named
    refine (reads_ofSecret _ (allowed secret named)).bind (fun f => ?_)
    split <;> exact .pure _
  · exact .pure _

/-- The container of Kaniko is put together by reading. -/
theorem Kaniko.reads_part (s : Settings) {b : Build} {task : KanikoTask}
    (member : .kaniko task ∈ b.spec.tasks) :
    Reads (b.Inquiry s.config.podNamePrefix) (Kaniko.part s b task) := by
  -- In the order of the calls: address, credentials, context.
  unfold Kaniko.part
  exact (reads_address task .registry .services).bind (fun address =>
    (reads_mountSecret (fun _ named => .credentials ⟨_, member, named⟩) _).bind (fun m =>
      (Context.reads_mount .context _ _).bind (fun m => .pure _)))

/-- The container of Buildah is put together by reading. -/
theorem Buildah.reads_part (s : Settings) {b : Build} {task : BuildahTask}
    (member : .buildah task ∈ b.spec.tasks) :
    Reads (b.Inquiry s.config.podNamePrefix) (Buildah.part s b task) := by
  -- In the order of the calls: certificates, credentials, context.
  unfold Buildah.part
  exact (reads_addCertificates (fun _ named => .certificates ⟨_, member, named⟩) _).bind (fun d =>
    (reads_addCredentials (fun _ named => .credentials ⟨_, member, named⟩) _).bind (fun d =>
      (Context.reads_mount .context _ _).bind (fun m => .pure _)))

/-- The container of a task is put together by reading. -/
theorem reads_part (s : Settings) {b : Build} {task : Task} (member : task ∈ b.spec.tasks) :
    Reads (b.Inquiry s.config.podNamePrefix) (part s b task) := by
  -- Each builder asks for what its task names.
  cases task with
  | kaniko task => exact Kaniko.reads_part s member
  | buildah task => exact Buildah.reads_part s member

/-- A worker pod is put together by reading. -/
theorem reads_pod (s : Settings) (b : Build) :
    Reads (b.Inquiry s.config.podNamePrefix) (pod s b) := by
  -- All tasks that are gone through belong to the build.
  unfold pod
  exact (Reads.foldlM (fun spec task member => (reads_part s member).bind (fun part => .pure _)) _).bind
    (fun spec => .pure _)

/-- Reading for a worker pod changes no pod. -/
theorem pods_of_pod (s : Settings) (b : Build) (c : Cluster) :
    ((pod s b).run.run c).2.pods = c.pods :=
  (reads_pod s b).keeps (P := fun d => d.pods = c.pods) (fun _ _ same => same) c rfl

/-- Reading for a worker pod takes no time. -/
theorem clock_of_pod (s : Settings) (b : Build) (c : Cluster) :
    ((pod s b).run.run c).2.clock = c.clock :=
  (reads_pod s b).keeps (P := fun d => d.clock = c.clock) (fun _ _ same => same) c rfl

/-- A worker pod has the name of its build, and nothing has happened to it. -/
theorem pod_ok {s : Settings} {b : Build} {built : Pod} {c d : Cluster}
    (ran : (pod s b).run.run c = (.ok built, d)) :
    built.reference = place s.config.podNamePrefix b ∧ built.status = none ∧
      built.isTerminating = false := by
  -- The name is given at the end, with neither a status nor a deletion.
  unfold pod at ran
  obtain ⟨spec, _, _, ran⟩ := bind_ok ran
  rw [(pure_ok ran).1]
  exact ⟨rfl, rfl, rfl⟩

end Worker

end ImageBuild
