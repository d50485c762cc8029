import ImageBuild.Proofs.Context.Contents
import ImageBuild.Proofs.Worker.Reading

/-! What is put into the container of a worker: each volume comes from an object that the cluster has, and has its
place in the container. -/

namespace ImageBuild

open Kubernetes Cluster Run

/-- Clusters with the same Secrets and ConfigMaps. -/
structure Cluster.SameData (c d : Cluster) : Prop where
  secrets : d.secrets = c.secrets
  configMaps : d.configMaps = c.configMaps

namespace Work

variable {α β : Type} {c : Cluster}

/-- Work of which every result fits wherever the Secrets and ConfigMaps are those of a cluster, and which leaves them
so. -/
def Reports (c : Cluster) (Fits : α → Prop) (w : Work α) : Prop :=
  ∀ d, c.SameData d → ∀ a e, w.run.run d = (.ok a, e) → Fits a ∧ c.SameData e

namespace Reports

/-- A value by itself is reported. -/
theorem pure {Fits : α → Prop} {a : α} (fits : Fits a) : Reports c Fits (Pure.pure a : Work α) := by
  -- Nothing is asked, so that the data stay the same.
  intro d same r e ran
  obtain ⟨rfl, rfl⟩ := pure_ok ran
  exact ⟨fits, same⟩

/-- A failure reports nothing. -/
theorem throw {Fits : α → Prop} (e : BuildError) :
    Reports c Fits (MonadExcept.throw e : Work α) := by
  -- There is no result to fit.
  intro d same r t ran
  cases ran

/-- Joined work reports what its last part does. -/
theorem bind {First : α → Prop} {Fits : β → Prop} {w : Work α} {k : α → Work β}
    (first : Reports c First w) (later : ∀ a, First a → Reports c Fits (k a)) :
    Reports c Fits (w >>= k) := by
  -- The second part starts with the data as the first one left them, which is unchanged.
  intro d same r e ran
  obtain ⟨a, t, begun, ended⟩ := bind_ok ran
  obtain ⟨fits, kept⟩ := first d same a t begun
  exact later a fits t kept r e ended

/-- What reading comes to may be all the same to what follows. -/
theorem after {Allowed : Call → Prop} {Fits : β → Prop} {w : Work α} {k : α → Work β}
    (reads : Reads Allowed w) (later : ∀ a, Reports c Fits (k a)) : Reports c Fits (w >>= k) := by
  intro d same r e ran
  obtain ⟨a, t, begun, ended⟩ := bind_ok ran
  -- Reading leaves Secrets and ConfigMaps alone, whatever the answer.
  have kept : c.SameData (w.run.run d).2 :=
    reads.keeps (P := c.SameData) (fun _ _ holds => ⟨holds.secrets, holds.configMaps⟩) d same
  rw [begun] at kept
  exact later a t kept r e ended

/-- A call that reads reports an answer that the cluster has. -/
private theorem looks {call : ClusterM α} {record : Call} {answer : Cluster → Except ClusterError α}
    (reads : Looks call record answer) {Fits : α → Prop}
    (fits : ∀ d, c.SameData d → ∀ a, answer d = .ok a → Fits a) : Reports c Fits (Work.call call) := by
  intro d same a e ran
  rw [run_call, reads] at ran
  -- A call that is made to fail reports nothing.
  cases fault : d.fault? with
  | some f =>
    rw [fault] at ran
    cases ran
  | none =>
    rw [fault] at ran
    obtain ⟨answered, rfl⟩ := Prod.mk.inj ran
    -- The answer is that of a cluster with the same data.
    refine ⟨fits d same a ?_, same.secrets, same.configMaps⟩
    cases given : answer d with
    | ok b =>
      simp only [given] at answered
      exact congrArg Except.ok (Except.ok.inj answered)
    | error f =>
      simp only [given] at answered
      cases answered

/-- What is found is there. -/
private theorem of_found {kind : ObjectKind} {place : Reference} {object : Option α} {a : α}
    (answered : found kind place object = .ok a) : object = some a := by
  -- An object that is found is there.
  cases object with
  | none => cases answered
  | some b => exact congrArg some (Except.ok.inj answered)

/-- A Secret that is reported is in the cluster. -/
theorem secret (place : Reference) :
    Reports c (fun secret => c.secrets.get? place = some secret) (Work.call (getSecret place)) :=
  -- The data at the time of the call are those at the beginning.
  looks (looks_getSecret place) fun d same a answered => by
    rw [← same.secrets]
    exact of_found answered

/-- A ConfigMap that is reported is in the cluster. -/
theorem configMap (place : Reference) :
    Reports c (fun map => c.configMaps.get? place = some map) (Work.call (getConfigMap place)) :=
  -- As for Secrets.
  looks (looks_getConfigMap place) fun d same a answered => by
    rw [← same.configMaps]
    exact of_found answered

/-- A ConfigMap that may be missing is in the cluster if it is reported. -/
theorem configMap? (place : Reference) :
    Reports c (fun found => ∀ map ∈ found, c.configMaps.get? place = some map)
      (Work.find (getConfigMap place)) := by
  intro d same found e ran
  rw [Work.find, run_callUnless, looks_getConfigMap] at ran
  obtain ⟨answered, rfl⟩ := Prod.mk.inj ran
  refine ⟨?_, same.secrets, same.configMaps⟩
  rintro map ⟨rfl⟩
  -- Looking has changed no ConfigMap since.
  rw [← same.configMaps]
  cases fault : d.fault? with
  | some f =>
    rw [fault] at answered
    simp only at answered
    -- Whether the failure is taken for a missing object or not, no ConfigMap comes of it.
    split at answered <;> cases answered
  | none =>
    rw [fault] at answered
    simp only at answered
    cases there : d.configMaps.get? place with
    | some m =>
      rw [there] at answered
      exact Except.ok.inj answered
    | none =>
      rw [there] at answered
      cases answered

/-- Along a list there is reported what fits all members that have been gone through. -/
theorem foldlM {Fits : List α → β → Prop} {f : β → α → Work β} (l : List α)
    (each : ∀ before b, Fits before b → ∀ a ∈ l, Reports c (Fits (before ++ [a])) (f b a)) :
    ∀ before b, Fits before b → Reports c (Fits (before ++ l)) (l.foldlM f b) := by
  induction l with
  | nil =>
    intro before b fits
    rw [List.append_nil]
    exact pure fits
  | cons a rest ih =>
    intro before b fits
    rw [List.foldlM_cons]
    -- The member that has been gone through moves from the list to what came before it.
    refine (each before b fits a List.mem_cons_self).bind fun next fitsNext => ?_
    have later := ih (fun before b fits o member => each before b fits o (List.mem_cons_of_mem _ member))
      (before ++ [a]) next fitsNext
    rwa [List.append_assoc, List.singleton_append] at later

end Reports

end Work

open Work

/-- The keys of a ConfigMap are those under which it has a value. -/
theorem Kubernetes.ConfigMap.hasKey_of_mem_keys {map : ConfigMap} {key : String}
    (member : key ∈ map.keys) : map.hasKey key = true := by
  -- Keys are those of the texts and those of the bytes.
  have own : ∀ {α : Type} {d : Option (Dict String α)}, key ∈ keysOf d →
      d.any (·.contains key) = true := by
    intro α d inside
    cases d with
    | none => cases inside
    | some d => exact Dict.mem_keys_iff.mp inside
  rw [ConfigMap.hasKey, Bool.or_eq_true]
  exact (List.mem_append.mp member).imp own own

/-- The keys of a volume that become files. -/
def Kubernetes.Volume.items (v : Volume) : List KeyPath :=
  ((v.secret <|> v.configMap).bind (·.items)).getD []

namespace Worker

/-- The forms of credentials that the builder of a task takes, in order of preference. -/
def forms : Task → List RegistryFile
  | .kaniko _ => RegistryFile.forKaniko
  | .buildah _ => RegistryFile.forBuildah

/-- What can be put into the container of a task, and where: the builder takes the first form of credentials that the
Secret has a key for, and ConfigMaps of the namespace have the keys of all other files. -/
inductive Furnishing (stem : String) (b : Build) (task : Task) (c : Cluster) :
    Volume → VolumeMount → Prop
  | credentials {name : String} {secret : Secret} {f : RegistryFile}
      (named : task.publication.registry.secret? = some name)
      (there : c.secrets.get? ⟨b.reference.scope, name⟩ = some secret)
      (chosen : RegistryFile.choose? (forms task) secret.hasKey = some f) :
      Furnishing stem b task c (.ofSecret Mounts.secretVolume (f.volume name))
        (.readOnlyOf Mounts.secretVolume f.directory)
  | certificates {t : BuildahTask} {name : String} {map : ConfigMap} {f : RegistryFile}
      (own : task = .buildah t) (named : t.publication.registry.ca? = some name)
      (there : c.configMaps.get? ⟨b.reference.scope, name⟩ = some map)
      (chosen : RegistryFile.choose? RegistryFile.certificates map.hasKey = some f) :
      Furnishing stem b task c (.ofConfigMap Mounts.configVolume (f.volume name))
        (.readOnlyOf Mounts.configVolume f.directory)
  | cache {t : KanikoTask} {claim : String} (own : task = .kaniko t)
      (enabled : t.cache.isEnabled = true) (claimed : t.cache.volumeClaim = some claim) :
      Furnishing stem b task c (.ofClaim Kaniko.cacheVolume claim)
        (.of Kaniko.cacheVolume Kaniko.cacheDirectory)
  | context {map : ConfigMap} (there : c.configMaps.get? (Context.place stem b) = some map) :
      Furnishing stem b task c
        (.ofConfigMap Context.volumeName (.of (Context.place stem b).name (Context.files map)))
        (.of Context.volumeName task.publication.contextDir)

namespace Mounts

/-- Volumes under certain names, each of them furnished and with its place. -/
structure Furnished (Fit : Volume → VolumeMount → Prop) (names : List String) (m : Mounts) : Prop where
  pairs : List.Forall₂ Fit m.volumes m.places
  names : m.volumes.map Volume.name = names

/-- Whether a key of a volume becomes a file in a path, below the place of the volume. -/
def Holds (m : Mounts) (path : String) : Prop :=
  ∃ v ∈ m.volumes, ∃ p ∈ m.places, p.name = v.name ∧
    ∃ item ∈ v.items, path = p.path ++ "/" ++ item.path

/-- More volumes and their places, but no other variables. -/
structure Within (m n : Mounts) : Prop where
  volumes : m.volumes ⊆ n.volumes
  places : m.places ⊆ n.places
  env : n.env = m.env

section

variable {Fit : Volume → VolumeMount → Prop} {names : List String} {m n : Mounts}

/-- Nothing is furnished with nothing. -/
theorem furnished_empty : Furnished Fit [] .empty := ⟨.nil, rfl⟩

/-- One more volume is furnished with its place. -/
theorem Furnished.add (furnished : m.Furnished Fit names) {v : Volume} {p : VolumeMount}
    (fit : Fit v p) : (m.add v p).Furnished Fit (names ++ [v.name]) := by
  -- One more volume comes with one more place.
  refine ⟨List.rel_append furnished.pairs (.cons fit .nil), ?_⟩
  rw [Mounts.add, List.map_append, furnished.names]
  rfl

/-- Variables are no volumes. -/
theorem Furnished.addEnv (furnished : m.Furnished Fit names) (more : List EnvVar) :
    (m.addEnv more).Furnished Fit names :=
  ⟨furnished.pairs, furnished.names⟩

theorem Within.refl (m : Mounts) : m.Within m := ⟨fun _ => id, fun _ => id, rfl⟩

theorem Within.trans {o : Mounts} (first : m.Within n) (second : n.Within o) : m.Within o :=
  -- Volumes and places may be more, and the variables are the same.
  ⟨fun _ member => second.volumes (first.volumes member),
    fun _ member => second.places (first.places member), second.env.trans first.env⟩

/-- What is added stands beside what was there. -/
theorem within_add (m : Mounts) (v : Volume) (p : VolumeMount) : m.Within (m.add v p) :=
  ⟨List.subset_append_left _ _, List.subset_append_left _ _, rfl⟩

/-- A file stays where it is when more is added. -/
theorem Holds.mono {path : String} (holds : m.Holds path) (within : m.Within n) : n.Holds path := by
  -- The volume and its place are still there.
  obtain ⟨v, inside, p, placed, found⟩ := holds
  exact ⟨v, within.volumes inside, p, within.places placed, found⟩

end

/-- Credentials are found where their form has them. -/
theorem holds_addSecret (m : Mounts) (name : String) (f : RegistryFile) :
    (m.addSecret name f).Holds f.path :=
  -- The volume just added is shown at its directory with the one file.
  ⟨_, List.mem_append_right _ (List.mem_singleton.mpr rfl), _,
    List.mem_append_right _ (List.mem_singleton.mpr rfl), rfl, _, List.mem_singleton.mpr rfl, rfl⟩

end Mounts

/-- What the variables of a container say about credentials, and the lines of a script that come before all others. -/
inductive Login (name : String) (m : Mounts) : List String → Prop
  /-- The builder looks for credentials where they are, or there are none. -/
  | silent (none : m.env = []) : Login name m []
  /-- The builder is told of a file that it finds. -/
  | direct {path : String} (holds : m.Holds path) (other : path ≠ Buildah.wrappedFile)
      (named : m.env = [.of name path]) : Login name m []
  /-- The builder is told of a file that is made from one that it finds. -/
  | wrapped (holds : m.Holds RegistryFile.bare.path)
      (named : m.env = [.of name Buildah.wrappedFile]) : Login name m [Buildah.wrapLine]

/-- What was said stays true when more is mounted. -/
theorem Login.mono {name : String} {m n : Mounts} {before : List String}
    (login : Login name m before) (within : m.Within n) : Login name n before := by
  -- More mounts take no file away.
  cases login with
  | silent none => exact .silent (within.env.trans none)
  | direct holds other named => exact .direct (holds.mono within) other (within.env.trans named)
  | wrapped holds named => exact .wrapped (holds.mono within) (within.env.trans named)

namespace RegistryFile

variable {c : Cluster}

/-- The form of credentials that is reported is the first one of which the Secret has the key. -/
theorem reports_ofSecret (table : List RegistryFile) (place : Reference) :
    Reports c (fun f => ∃ secret, c.secrets.get? place = some secret ∧
      choose? table secret.hasKey = some f) (ofSecret table place) := by
  -- A file is chosen among the keys of the Secret that was found.
  refine (Reports.secret place).bind fun secret there => ?_
  cases chosen : choose? table secret.hasKey with
  | some f => exact .pure ⟨secret, there, chosen⟩
  | none => exact .throw _

/-- The form of certificates that is reported is the first one of which the ConfigMap has the key. -/
theorem reports_ofConfigMap (table : List RegistryFile) (place : Reference) :
    Reports c (fun f => ∃ map, c.configMaps.get? place = some map ∧
      choose? table map.hasKey = some f) (ofConfigMap table place) := by
  -- The same choice, among the keys of a ConfigMap.
  refine (Reports.configMap place).bind fun map there => ?_
  cases chosen : choose? table map.hasKey with
  | some f => exact .pure ⟨map, there, chosen⟩
  | none => exact .throw _

end RegistryFile

end Worker

open Worker

/-- The files of a build are added where its context is in the cluster. -/
theorem Context.reports_mount {stem : String} {b : Build} {task : Task} {c : Cluster}
    {names : List String} {m : Mounts}
    (furnished : m.Furnished (Furnishing stem b task c) names) :
    Reports c (fun n : Mounts => m.Within n ∧
      ∃ more, more.Sublist [volumeName] ∧
        n.Furnished (Furnishing stem b task c) (names ++ more))
      (mount stem b task.publication.contextDir m) := by
  refine (Reports.configMap? _).bind fun found there => ?_
  -- Without a context nothing is added, and with one its volume is the last.
  cases found with
  | none =>
    refine .pure ⟨.refl m, [], List.nil_sublist _, ?_⟩
    rwa [List.append_nil]
  | some map =>
    exact .pure ⟨m.within_add _ _, _, .refl _, furnished.add (.context (there map rfl))⟩

namespace Worker

variable {stem : String} {b : Build} {c : Cluster}

/-- The name of a volume where there is something to be mounted. -/
def volumeFor (name : String) (mounted : Option String) : List String :=
  (mounted.map fun _ => name).toList

/-- A volume has its name where there is something to be mounted, and is not there otherwise. -/
theorem volumeFor_eq (name : String) (mounted : Option String) :
    volumeFor name mounted = if mounted.isSome then [name] else [] := by
  cases mounted <;> rfl

theorem volumeFor_sublist (name : String) (mounted : Option String) :
    (volumeFor name mounted).Sublist [name] := by
  -- One name or none.
  cases mounted with
  | none => exact List.nil_sublist _
  | some _ => exact .refl _

namespace Kaniko

/-- The names of the volumes of a task, apart from that of its context. -/
def volumeNames (task : KanikoTask) : List String :=
  volumeFor Mounts.secretVolume task.publication.registry.secret?
    ++ if task.cache.isEnabled then volumeFor cacheVolume task.cache.volumeClaim else []

/-- The variable that names the file with credentials. -/
def loginName : String := "GOOGLE_APPLICATION_CREDENTIALS"

/-- Of the forms that Kaniko takes, one comes with a variable. -/
theorem login_addSecret {has : String → Bool} {f : RegistryFile}
    (chosen : RegistryFile.choose? RegistryFile.forKaniko has = some f) (name : String) :
    Login loginName (Mounts.empty.addSecret name f) [] := by
  have listed : f ∈ RegistryFile.forKaniko := List.mem_of_find?_eq_some chosen
  simp only [RegistryFile.forKaniko, List.mem_cons, List.not_mem_nil, or_false] at listed
  -- Only the first form has a variable; for the others Kaniko knows where to look.
  rcases listed with rfl | rfl | rfl
  · exact .direct (Mounts.holds_addSecret _ _ _) (by decide) rfl
  · exact .silent rfl
  · exact .silent rfl

variable (stem) in
/-- Credentials are added where a task names some. -/
theorem reports_mountSecret (task : KanikoTask) :
    Reports c (fun m : Mounts =>
      m.Furnished (Furnishing stem b (.kaniko task) c)
        (volumeFor Mounts.secretVolume task.publication.registry.secret?) ∧
      Login loginName m [])
      (mountSecret b.reference.scope task.publication.registry .empty) := by
  unfold mountSecret
  -- A registry without a Secret needs no login.
  cases named : task.publication.registry.secret? with
  | none => exact .pure ⟨Mounts.furnished_empty, .silent rfl⟩
  | some name =>
    refine (RegistryFile.reports_ofSecret _ _).bind fun f found => .pure ?_
    obtain ⟨secret, there, chosen⟩ := found
    have furnishing : Furnishing stem b (.kaniko task) c _ _ := .credentials named there chosen
    exact ⟨(Mounts.furnished_empty.add furnishing).addEnv _, login_addSecret chosen name⟩

/-- The cache is added where it is in use and has a claim. -/
theorem furnished_mountCache {task : KanikoTask} {names : List String} {m : Mounts}
    (furnished : m.Furnished (Furnishing stem b (.kaniko task) c) names) :
    (mountCache task.cache m).Furnished (Furnishing stem b (.kaniko task) c)
        (names ++ if task.cache.isEnabled then volumeFor cacheVolume task.cache.volumeClaim else []) ∧
      m.Within (mountCache task.cache m) := by
  unfold mountCache
  -- A claim is of no use to a cache that is not in use.
  cases enabled : task.cache.isEnabled with
  | false =>
    rw [if_neg Bool.false_ne_true, List.append_nil]
    exact ⟨furnished, .refl m⟩
  | true =>
    rw [if_pos rfl]
    cases claimed : task.cache.volumeClaim with
    | none =>
      rw [volumeFor, Option.map_none, Option.toList_none, List.append_nil]
      exact ⟨furnished, .refl m⟩
    | some claim => exact ⟨furnished.add (.cache rfl enabled claimed), m.within_add _ _⟩

end Kaniko

namespace Buildah

/-- The names of the volumes of a task, apart from that of its context. -/
def volumeNames (task : BuildahTask) : List String :=
  volumeFor Mounts.configVolume task.publication.registry.ca?
    ++ volumeFor Mounts.secretVolume task.publication.registry.secret?

/-- The variable that names the file with credentials. -/
def loginName : String := "REGISTRY_AUTH_FILE"

/-- The flag that names the directory of certificates. -/
def certificateFlag : String := "--cert-dir=" ++ RegistryFile.certificateDirectory

/-- The flags of a task that has certificates, or has none. -/
def certificateFlags (task : BuildahTask) : List String :=
  volumeFor certificateFlag task.publication.registry.ca?

/-- Both commands with several flags. -/
def Commands.flagged (flags : List String) (c : Commands) : Commands :=
  ⟨c.bud.take 2 ++ flags ++ c.bud.drop 2, c.push.take 2 ++ flags ++ c.push.drop 2⟩

variable (stem) in
/-- Certificates are added where a task names some, and the commands get a flag just then. -/
theorem reports_addCertificates (task : BuildahTask) (commands : Commands) :
    Reports c (fun d : Draft =>
      d.mounts.Furnished (Furnishing stem b (.buildah task) c)
        (volumeFor Mounts.configVolume task.publication.registry.ca?) ∧
      d.mounts.env = [] ∧ d.before = [] ∧ d.commands = commands.flagged (certificateFlags task))
      (addCertificates b.reference.scope task.publication.registry ⟨commands, [], .empty⟩) := by
  unfold addCertificates certificateFlags
  -- A registry without certificates adds neither volume nor flag for them.
  cases named : task.publication.registry.ca? with
  | none =>
    refine .pure ⟨Mounts.furnished_empty, rfl, rfl, ?_⟩
    simp [Commands.flagged, volumeFor]
  | some name =>
    refine (RegistryFile.reports_ofConfigMap _ _).bind fun f found => .pure ?_
    obtain ⟨map, there, chosen⟩ := found
    have furnishing : Furnishing stem b (.buildah task) c _ _ := .certificates rfl named there chosen
    refine ⟨Mounts.furnished_empty.add furnishing, rfl, rfl, ?_⟩
    simp [Commands.flagged, Commands.addFlag, Commands.withFlag, volumeFor, certificateFlag]

/-- Of the forms that Buildah takes, one is used as it is. -/
theorem login_addSecret {has : String → Bool} {f : RegistryFile}
    (chosen : RegistryFile.choose? RegistryFile.forBuildah has = some f)
    (other : f ≠ RegistryFile.bare) {m : Mounts} (silent : m.env = []) (name : String) :
    Login loginName (m.addSecret name f) [] := by
  -- Of the files for Buildah all but the bare one can be used as they are.
  have listed : f ∈ RegistryFile.forBuildah := List.mem_of_find?_eq_some chosen
  simp only [RegistryFile.forBuildah, List.mem_cons, List.not_mem_nil, or_false] at listed
  obtain rfl := listed.resolve_left other
  refine .direct (Mounts.holds_addSecret _ _ _) (by decide) ?_
  change m.env ++ [_] = [_]
  rw [silent, List.nil_append, loginName]

/-- Credentials are added where a task names some, and are wrapped first if they are bare. -/
theorem reports_addCredentials (task : BuildahTask) {names : List String} {d : Draft}
    (furnished : d.mounts.Furnished (Furnishing stem b (.buildah task) c) names)
    (silent : d.mounts.env = []) (first : d.before = []) :
    Reports c (fun e : Draft =>
      e.mounts.Furnished (Furnishing stem b (.buildah task) c)
        (names ++ volumeFor Mounts.secretVolume task.publication.registry.secret?) ∧
      Login loginName e.mounts e.before ∧ e.commands = d.commands)
      (addCredentials b.reference.scope task.publication.registry d) := by
  unfold addCredentials
  -- Without a Secret the draft is left as it is.
  cases named : task.publication.registry.secret? with
  | none =>
    refine .pure ⟨?_, ?_, rfl⟩
    · rw [volumeFor, Option.map_none, Option.toList_none, List.append_nil]
      exact furnished
    · rw [first]
      exact .silent silent
  | some name =>
    refine (RegistryFile.reports_ofSecret _ _).bind fun f found => ?_
    obtain ⟨secret, there, chosen⟩ := found
    have furnishing : Furnishing stem b (.buildah task) c _ _ := .credentials named there chosen
    split
    · -- The variable names the file with the envelope, and bare credentials have none of their own.
      rename_i bare
      subst bare
      refine .pure ⟨((furnished.addEnv _).add furnishing).addEnv _,
        .wrapped (Mounts.holds_addSecret _ _ _) ?_, rfl⟩
      simp [Mounts.addSecret, Mounts.addEnv, Mounts.add, silent, RegistryFile.bare, loginName]
    -- Any other file is handed over as it is, and nothing has to be run before.
    · rename_i other
      refine .pure ⟨(furnished.add furnishing).addEnv _, ?_, rfl⟩
      change Login loginName _ d.before
      rw [first]
      exact login_addSecret chosen other silent name

end Buildah

end Worker

end ImageBuild
