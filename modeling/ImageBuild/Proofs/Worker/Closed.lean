import ImageBuild.Proofs.Worker.Flags

/-! The part of a task is closed: its names are unambiguous, its files come from keys that are there, and its
variables, arguments and script agree with what is mounted. -/

namespace ImageBuild

open Kubernetes Run Work

namespace Worker

/-- What a part mounts and what it tells its container by variables. -/
def Part.mounts (part : Part) : Mounts :=
  ⟨part.volumes, part.container.volumeMounts.getD [], part.container.env.getD []⟩

/-- Whether a volume of a name has its place in a directory. -/
def Mounts.Shows (m : Mounts) (name directory : String) : Prop :=
  ∃ v ∈ m.volumes, ∃ p ∈ m.places, v.name = name ∧ p.name = name ∧ p.path = directory

/-- The line of a script that puts a file with an envelope in place of another one. -/
def envelopeLine (source target : String) : String :=
  "(echo '\x7b \"auths\": ' ; cat " ++ source ++ " ; echo \"\x7d\") > " ++ target

/-- The flags of a container that do not come from its user, and the lines of its script before the commands. -/
def Generates (part : Part) (before flags : List String) : Task → Prop
  | .kaniko task => before = [] ∧ part.container.args = some (flags ++ task.additionalFlags)
  | .buildah task => part.container.args = some [Buildah.script (before
      ++ ((Buildah.Commands.ofTask task
        (fullName task.publication.registry.address? task.publication.image)).flagged flags).lines)]

/-- Whether a variable tells a builder where its credentials are. -/
def NamesLogin (e : EnvVar) : Prop := e.name = Kaniko.loginName ∨ e.name = Buildah.loginName

/-- Variables, flags and script agree with what is mounted. -/
structure Agrees (task : Task) (part : Part) (before flags : List String) : Prop where
  generates : Generates part before flags task
  /-- A variable names a file that is mounted, or the one that the script writes. -/
  login : ∀ e ∈ part.mounts.env, NamesLogin e →
    ∃ path, e.value = some path ∧ (part.mounts.Holds path ∨ path = Buildah.wrappedFile ∧ before ≠ [])
  /-- The script writes a file just if a variable names it. -/
  wraps : before ≠ [] ↔ ∃ e ∈ part.mounts.env, NamesLogin e ∧ e.value = some Buildah.wrappedFile
  /-- What the script reads is mounted. -/
  reads : before ≠ [] → ∃ source, part.mounts.Holds source ∧
    before = [envelopeLine source Buildah.wrappedFile]
  cache : SetsJustIf (part.mounts.Shows Kaniko.cacheVolume Kaniko.cacheDirectory)
    "--cache-dir" Kaniko.cacheDirectory flags
  certificates : SetsJustIf (part.mounts.Shows Mounts.configVolume RegistryFile.certificateDirectory)
    "--cert-dir" RegistryFile.certificateDirectory flags

/-- The names of the volumes of a task, apart from that of its context. -/
def ownVolumes : Task → List String
  | .kaniko task => Kaniko.volumeNames task
  | .buildah task => Buildah.volumeNames task

/-- The part of a task where nothing is ambiguous, missing or at odds with anything else. -/
structure Closed (b : Build) (c : Cluster) (task : Task) (part : Part) : Prop where
  named : part.container.name = Text.lower task.name
  distinct : (part.mounts.volumes.map Volume.name).Nodup
  /-- There is a volume for everything that the task asks for, and else only that of the context. -/
  complete : ∃ more, more.Sublist [Context.volumeName] ∧
    part.mounts.volumes.map Volume.name = ownVolumes task ++ more
  /-- The container has a place for every volume, and for nothing else. -/
  placed : part.mounts.places.map VolumeMount.name = part.mounts.volumes.map Volume.name
  /-- Credentials are in the first form that the builder takes and of which the Secret has the key. -/
  credentials : ∀ v ∈ part.mounts.volumes, v.name = Mounts.secretVolume →
    ∃ name secret preferred f rest, task.publication.registry.secret? = some name ∧
      c.secrets.get? ⟨b.reference.scope, name⟩ = some secret ∧
      v = .ofSecret Mounts.secretVolume (f.volume name) ∧ forms task = preferred ++ f :: rest ∧
      secret.hasKey f.key = true ∧ ∀ e ∈ preferred, secret.hasKey e.key = false
  /-- Other files come from keys of a ConfigMap. -/
  configMaps : ∀ v ∈ part.mounts.volumes,
    v.name = Mounts.configVolume ∨ v.name = Context.volumeName →
    ∃ name map items, c.configMaps.get? ⟨b.reference.scope, name⟩ = some map ∧
      v = .ofConfigMap v.name (.of name items) ∧ ∀ item ∈ items, map.hasKey item.key = true
  /-- The cache is kept by the claim that the task names. -/
  cache : ∀ v ∈ part.mounts.volumes, v.name = Kaniko.cacheVolume →
    ∃ t claim, task = .kaniko t ∧ t.cache.volumeClaim = some claim ∧
      v = .ofClaim Kaniko.cacheVolume claim
  unambiguous : (part.mounts.env.map EnvVar.name).Nodup
  agrees : ∃ before flags, Agrees task part before flags

namespace Proxy

/-- Variables for proxies have names of their own. -/
theorem names_env (p : Proxy) :
    (p.env.map EnvVar.name).Sublist ["HTTP_PROXY", "HTTPS_PROXY", "NO_PROXY"] := by
  -- A proxy that is not set leaves its variable out.
  have one : ∀ (name : String) (value : Option String),
      ((setting name value).map EnvVar.name).Sublist [name] := by
    intro name value
    cases value with
    | none => exact List.nil_sublist _
    | some value => exact List.Sublist.refl _
  rw [env, List.map_append, List.map_append]
  exact ((one _ _).append (one _ _)).append (one _ _)

/-- Variables for proxies say nothing about credentials. -/
theorem name_ne_of_mem_env {p : Proxy} {e : EnvVar} (member : e ∈ p.env) :
    e.name ≠ Kaniko.loginName ∧ e.name ≠ Buildah.loginName := by
  -- The variables for proxies are three, and none of them is about logging in.
  have listed := p.names_env.subset (List.mem_map_of_mem (f := EnvVar.name) member)
  simp only [List.mem_cons, List.not_mem_nil, or_false] at listed
  rcases listed with same | same | same <;> rw [same] <;> decide

end Proxy

/-- There is the key of a form that is chosen. -/
theorem RegistryFile.has_of_choose? {table : List RegistryFile} {has : String → Bool}
    {f : RegistryFile} (chosen : choose? table has = some f) : has f.key = true :=
  List.find?_some (p := fun g : RegistryFile => has g.key) chosen

section

variable {stem : String} {b : Build} {c : Cluster} {task : Task} {v : Volume} {p : VolumeMount}

namespace Furnishing

/-- A volume has its place under its own name. -/
theorem place_name (fit : Furnishing stem b task c v p) : p.name = v.name := by
  cases fit <;> rfl

/-- Credentials are in the first form that the builder takes. -/
theorem of_secretVolume (fit : Furnishing stem b task c v p) (named : v.name = Mounts.secretVolume) :
    ∃ name secret preferred f rest, task.publication.registry.secret? = some name ∧
      c.secrets.get? ⟨b.reference.scope, name⟩ = some secret ∧
      v = .ofSecret Mounts.secretVolume (f.volume name) ∧ forms task = preferred ++ f :: rest ∧
      secret.hasKey f.key = true ∧ ∀ e ∈ preferred, secret.hasKey e.key = false := by
  cases fit with
  | credentials asked there chosen =>
    -- The first match splits the table: none of the forms before it has its key there.
    obtain ⟨has, preferred, rest, split, none⟩ := List.find?_eq_some_iff_append.mp chosen
    exact ⟨_, _, preferred, _, rest, asked, there, rfl, split, has,
      fun e member => by simpa using none e member⟩
  | certificates _ _ _ _ => exact absurd named (show Mounts.configVolume ≠ _ by decide)
  | cache _ _ _ => exact absurd named (show Kaniko.cacheVolume ≠ _ by decide)
  | context _ => exact absurd named (show Context.volumeName ≠ _ by decide)

/-- Files of a ConfigMap come from keys that it has. -/
theorem of_configMap (fit : Furnishing stem b task c v p)
    (named : v.name = Mounts.configVolume ∨ v.name = Context.volumeName) :
    ∃ name map items, c.configMaps.get? ⟨b.reference.scope, name⟩ = some map ∧
      v = .ofConfigMap v.name (.of name items) ∧ ∀ item ∈ items, map.hasKey item.key = true := by
  -- Only certificates and the context come from a ConfigMap, and both have looked at its keys.
  cases fit with
  | credentials _ _ _ =>
    exact absurd named
      (show ¬(Mounts.secretVolume = Mounts.configVolume ∨ Mounts.secretVolume = Context.volumeName)
        by decide)
  | certificates own asked there chosen =>
    refine ⟨_, _, _, there, rfl, fun item member => ?_⟩
    rw [List.mem_singleton.mp member]
    exact RegistryFile.has_of_choose? chosen
  | cache _ _ _ =>
    exact absurd named
      (show ¬(Kaniko.cacheVolume = Mounts.configVolume ∨ Kaniko.cacheVolume = Context.volumeName)
        by decide)
  | context there =>
    refine ⟨_, _, _, there, rfl, fun item member => ?_⟩
    -- The items of a context are all keys of its map.
    obtain ⟨key, inside, rfl⟩ := List.mem_map.mp member
    exact ConfigMap.hasKey_of_mem_keys inside

/-- The cache is kept by the claim of its task, and has its place in the directory of the cache. -/
theorem of_cacheVolume (fit : Furnishing stem b task c v p) (named : v.name = Kaniko.cacheVolume) :
    (∃ t claim, task = .kaniko t ∧ t.cache.volumeClaim = some claim ∧
      v = .ofClaim Kaniko.cacheVolume claim) ∧ p.path = Kaniko.cacheDirectory := by
  -- The name tells which of the four furnishings it is.
  cases fit with
  | credentials _ _ _ => exact absurd named (show Mounts.secretVolume ≠ _ by decide)
  | certificates _ _ _ _ => exact absurd named (show Mounts.configVolume ≠ _ by decide)
  | cache own enabled claimed => exact ⟨⟨_, _, own, claimed, rfl⟩, rfl⟩
  | context _ => exact absurd named (show Context.volumeName ≠ _ by decide)

/-- Certificates have their place in the directory in which Buildah looks for them. -/
theorem of_configVolume (fit : Furnishing stem b task c v p) (named : v.name = Mounts.configVolume) :
    p.path = RegistryFile.certificateDirectory := by
  -- Again the name leaves one of the four.
  cases fit with
  | credentials _ _ _ => exact absurd named (show Mounts.secretVolume ≠ _ by decide)
  | @certificates _ _ _ f own asked there chosen =>
    have listed : f ∈ RegistryFile.certificates := List.mem_of_find?_eq_some chosen
    rw [List.mem_singleton.mp listed]
    rfl
  | cache _ _ _ => exact absurd named (show Kaniko.cacheVolume ≠ _ by decide)
  | context _ => exact absurd named (show Context.volumeName ≠ _ by decide)

end Furnishing

namespace Mounts.Furnished

variable {m : Mounts} {names : List String}

/-- Every volume is furnished with some place. -/
theorem fit {Fit : Volume → VolumeMount → Prop} (furnished : m.Furnished Fit names)
    (member : v ∈ m.volumes) : ∃ p ∈ m.places, Fit v p := by
  -- Volumes and places go in pairs.
  obtain ⟨same, pairs⟩ := List.forall₂_iff_get.mp furnished.pairs
  obtain ⟨i, inside, rfl⟩ := List.mem_iff_getElem.mp member
  exact ⟨_, List.getElem_mem (same ▸ inside), pairs i inside (same ▸ inside)⟩

variable (furnished : m.Furnished (Furnishing stem b task c) names)

include furnished

/-- The places are those of the volumes, in their order. -/
theorem places_names : m.places.map VolumeMount.name = m.volumes.map Volume.name := by
  -- In each pair the place bears the name of the volume.
  have same : List.Forall₂ (· = ·) (m.places.map VolumeMount.name) (m.volumes.map Volume.name) := by
    rw [List.forall₂_map_left_iff, List.forall₂_map_right_iff]
    exact (furnished.pairs.imp fun _ _ fit => fit.place_name).flip
  rwa [List.forall₂_eq_eq_eq] at same

/-- A volume is shown in the directory in which those of its name have their places. -/
theorem shows_iff {name directory : String}
    (there : ∀ v p, Furnishing stem b task c v p → v.name = name → p.path = directory) :
    m.Shows name directory ↔ name ∈ names := by
  rw [← furnished.names, List.mem_map]
  -- A volume of the name is shown at the one directory that all such volumes have.
  constructor
  · rintro ⟨v, inside, p, _, named, _⟩
    exact ⟨v, inside, named⟩
  · rintro ⟨v, inside, named⟩
    obtain ⟨p, placed, fit⟩ := furnished.fit inside
    exact ⟨v, inside, p, placed, named, fit.place_name.trans named, there v p fit named⟩

end Mounts.Furnished

end

section

variable {stem : String} {b : Build} {c : Cluster} {task : Task} {name : String} {m : Mounts}
  {before : List String}

namespace Login

/-- Besides what it says about credentials, a container is told of proxies. -/
theorem unambiguous (login : Login name m before)
    (own : name = Kaniko.loginName ∨ name = Buildah.loginName) (proxy : Proxy) :
    ((m.env ++ proxy.env).map EnvVar.name).Nodup := by
  -- There is one variable for credentials at most, whatever has been said.
  have told : (m.env.map EnvVar.name).Sublist [name] := by
    cases login with
    | silent none => rw [none]; exact List.nil_sublist _
    | direct _ _ named => rw [named]; exact .refl _
    | wrapped _ named => rw [named]; exact .refl _
  rw [List.map_append]
  refine (told.append proxy.names_env).nodup ?_
  rcases own with rfl | rfl <;> decide

/-- Variables for credentials come from what is said about them. -/
theorem mem_env {proxy : Proxy} {e : EnvVar} (member : e ∈ m.env ++ proxy.env)
    (names : NamesLogin e) : e ∈ m.env :=
  -- A variable for a proxy is not about logging in.
  (List.mem_append.mp member).resolve_right fun told =>
    names.elim (Proxy.name_ne_of_mem_env told).1 (Proxy.name_ne_of_mem_env told).2

/-- The only variable names a file that is there or that the script writes. -/
theorem value_of_mem (login : Login name m before) {e : EnvVar} (member : e ∈ m.env) :
    ∃ path, e.value = some path ∧ (m.Holds path ∨ path = Buildah.wrappedFile ∧ before ≠ []) := by
  -- The only variable is the one for the login.
  cases login with
  | silent none =>
    rw [none] at member
    cases member
  | direct holds _ named =>
    rw [named] at member
    obtain rfl := List.mem_singleton.mp member
    exact ⟨_, rfl, .inl holds⟩
  | wrapped _ named =>
    rw [named] at member
    obtain rfl := List.mem_singleton.mp member
    exact ⟨_, rfl, .inr ⟨rfl, List.cons_ne_nil _ _⟩⟩

/-- The script writes a file just if a variable for credentials names it. -/
theorem wraps_iff (login : Login name m before)
    (own : name = Kaniko.loginName ∨ name = Buildah.loginName) :
    before ≠ [] ↔ ∃ e ∈ m.env, NamesLogin e ∧ e.value = some Buildah.wrappedFile := by
  cases login with
  | silent none =>
    rw [none]
    exact ⟨fun some => absurd rfl some, nofun⟩
  | direct _ other named =>
    -- The only variable names a file that the Secret has, and no such file has this place.
    rw [named]
    refine ⟨fun some => absurd rfl some, fun ⟨e, member, _, same⟩ => absurd ?_ other⟩
    rw [List.mem_singleton.mp member] at same
    exact Option.some.inj same
  | wrapped _ named =>
    rw [named]
    exact ⟨fun _ => ⟨_, List.mem_singleton.mpr rfl, own, rfl⟩, fun _ => List.cons_ne_nil _ _⟩

/-- The script reads a file that is there. -/
theorem reads (login : Login name m before) (wraps : before ≠ []) :
    ∃ source, m.Holds source ∧ before = [envelopeLine source Buildah.wrappedFile] := by
  -- The file is wrapped only where there is a Secret that holds it.
  cases login with
  | silent _ => exact absurd rfl wraps
  | direct _ _ _ => exact absurd rfl wraps
  | wrapped holds _ => exact ⟨_, holds, by decide +kernel⟩

end Login

/-- The part of a task is closed where its volumes are furnished and what is said about credentials is so. -/
theorem Closed.of_furnished {more flags : List String} {proxy : Proxy} {part : Part}
    (mounted : part.mounts = m.addEnv proxy.env)
    (furnished : m.Furnished (Furnishing stem b task c) (ownVolumes task ++ more))
    (distinct : (ownVolumes task ++ [Context.volumeName]).Nodup)
    (context : more.Sublist [Context.volumeName])
    (login : Login name m before) (own : name = Kaniko.loginName ∨ name = Buildah.loginName)
    (named : part.container.name = Text.lower task.name) (generates : Generates part before flags task)
    (cache : SetsJustIf (Kaniko.cacheVolume ∈ ownVolumes task)
      "--cache-dir" Kaniko.cacheDirectory flags)
    (certificates : SetsJustIf (Mounts.configVolume ∈ ownVolumes task)
      "--cert-dir" RegistryFile.certificateDirectory flags) :
    Closed b c task part := by
  -- Variables for proxies add nothing to what is mounted.
  have fits : ∀ v ∈ part.mounts.volumes, ∃ p, Furnishing stem b task c v p := by
    rw [mounted]
    exact fun v member => (furnished.fit member).imp fun p placed => placed.2
  -- Whether there is a context does not matter to the volumes that options depend on.
  have apart : ∀ {other : String}, other ≠ Context.volumeName →
      (other ∈ ownVolumes task ++ more ↔ other ∈ ownVolumes task) := by
    intro other different
    rw [List.mem_append, or_iff_left]
    exact fun inside => different (List.mem_singleton.mp (context.subset inside))
  have agrees : Agrees task part before flags := by
    refine ⟨generates, ?_, ?_, ?_, ?_, ?_⟩ <;> rw [mounted]
    · exact fun e member names => login.value_of_mem (Login.mem_env member names)
    · rw [login.wraps_iff own]
      exact ⟨fun ⟨e, member, told⟩ => ⟨e, List.mem_append_left _ member, told⟩,
        fun ⟨e, member, told⟩ => ⟨e, Login.mem_env member told.1, told⟩⟩
    · exact login.reads
    · rwa [← apart (by decide),
        ← furnished.shows_iff fun v p fit named => (fit.of_cacheVolume named).2] at cache
    · rwa [← apart (by decide),
        ← furnished.shows_iff fun v p fit named => fit.of_configVolume named] at certificates
  -- Besides its own volumes the part has that of the context, or none.
  have names : part.mounts.volumes.map Volume.name = ownVolumes task ++ more := by
    rw [mounted]
    exact furnished.names
  exact {
    named := named
    distinct := by rw [names]; exact ((List.Sublist.refl _).append context).nodup distinct
    complete := ⟨more, context, names⟩
    placed := by rw [mounted]; exact furnished.places_names
    credentials := fun v member named => (fits v member).elim fun p fit => fit.of_secretVolume named
    configMaps := fun v member named => (fits v member).elim fun p fit => fit.of_configMap named
    cache := fun v member named => (fits v member).elim fun p fit => (fit.of_cacheVolume named).1
    unambiguous := by rw [mounted]; exact login.unambiguous own proxy
    agrees := ⟨before, flags, agrees⟩ }

end

section

variable {b : Build} {c : Cluster}

namespace Kaniko

/-- The volumes of a task have names of their own. -/
theorem volumeNames_nodup (task : KanikoTask) :
    (volumeNames task ++ [Context.volumeName]).Nodup := by
  -- The names are a part of a list of three that differ.
  have own : (volumeNames task).Sublist [Mounts.secretVolume, cacheVolume] := by
    refine (volumeFor_sublist _ _).append ?_
    split
    · exact volumeFor_sublist _ _
    · exact List.nil_sublist _
  exact (own.append (.refl _)).nodup (by decide)

/-- The cache has a volume where it is in use and has a claim. -/
theorem cacheVolume_mem (task : KanikoTask) :
    cacheVolume ∈ volumeNames task
      ↔ (task.cache.isEnabled && task.cache.volumeClaim.isSome) = true := by
  -- Three settings decide on the list, which makes eight cases.
  rw [volumeNames, volumeFor_eq, volumeFor_eq]
  cases task.publication.registry.secret?.isSome <;> cases task.cache.isEnabled <;>
    cases task.cache.volumeClaim.isSome <;> decide

/-- There is no volume of certificates. -/
theorem configVolume_not_mem (task : KanikoTask) : Mounts.configVolume ∉ volumeNames task := by
  -- Kaniko mounts no certificates, whatever its settings are.
  rw [volumeNames, volumeFor_eq, volumeFor_eq]
  cases task.publication.registry.secret?.isSome <;> cases task.cache.isEnabled <;>
    cases task.cache.volumeClaim.isSome <;> decide

/-- The part of a task of Kaniko is closed. -/
theorem reports_part (s : Settings) (task : KanikoTask) :
    Reports c (Closed b c (.kaniko task)) (part s b task) := by
  -- The address of the registry has a place among the flags, but none of them depends on it.
  have looked : Reads (fun _ => True) (address task) := reads_address task trivial trivial
  refine .after looked fun address =>
    (reports_mountSecret s.config.podNamePrefix task).bind fun m found => ?_
  obtain ⟨furnished, login⟩ := found
  obtain ⟨furnished, within⟩ := furnished_mountCache furnished
  refine (Context.reports_mount furnished).bind fun n found => .pure ?_
  obtain ⟨wider, more, context, furnished⟩ := found
  exact .of_furnished (show _ = n.addEnv s.proxy.env from rfl) furnished (volumeNames_nodup task)
    context (login.mono (within.trans wider)) (.inl rfl) rfl
    ⟨rfl, congrArg some (args_eq task address)⟩
    (.of_settings (cacheVolume_mem task) (settings_cache task address))
    (.inr ⟨settings_certificates task address, configVolume_not_mem task⟩)

end Kaniko

namespace Buildah

/-- The volumes of a task have names of their own. -/
theorem volumeNames_nodup (task : BuildahTask) :
    (volumeNames task ++ [Context.volumeName]).Nodup := by
  -- Again a part of three names that differ.
  have own : (volumeNames task).Sublist [Mounts.configVolume, Mounts.secretVolume] :=
    (volumeFor_sublist _ _).append (volumeFor_sublist _ _)
  exact (own.append (.refl _)).nodup (by decide)

/-- There is no volume of a cache. -/
theorem cacheVolume_not_mem (task : BuildahTask) : Kaniko.cacheVolume ∉ volumeNames task := by
  -- Buildah has no cache of layers.
  rw [volumeNames, volumeFor_eq, volumeFor_eq]
  cases task.publication.registry.secret?.isSome <;> cases task.publication.registry.ca?.isSome <;>
    decide

/-- Certificates have a volume where there are some. -/
theorem configVolume_mem (task : BuildahTask) :
    Mounts.configVolume ∈ volumeNames task ↔ task.publication.registry.ca?.isSome = true := by
  -- Certificates are mounted for a registry that names some.
  rw [volumeNames, volumeFor_eq, volumeFor_eq]
  cases task.publication.registry.secret?.isSome <;> cases task.publication.registry.ca?.isSome <;>
    decide

/-- The part of a task of Buildah is closed. -/
theorem reports_part (s : Settings) (task : BuildahTask) :
    Reports c (Closed b c (.buildah task)) (part s b task) := by
  refine (reports_addCertificates s.config.podNamePrefix task _).bind fun d found => ?_
  obtain ⟨furnished, silent, first, certified⟩ := found
  refine (reports_addCredentials task furnished silent first).bind fun e found => ?_
  obtain ⟨furnished, login, unchanged⟩ := found
  refine (Context.reports_mount furnished).bind fun n found => .pure ?_
  -- The context comes last, and takes nothing away from what was mounted before it.
  obtain ⟨wider, more, context, furnished⟩ := found
  refine .of_furnished (show _ = n.addEnv s.proxy.env from rfl) furnished (volumeNames_nodup task)
    context (login.mono wider) (.inr rfl) rfl ?_
    (.inr ⟨settings_cache task, cacheVolume_not_mem task⟩)
    (.of_settings (configVolume_mem task) (settings_certificates task))
  -- Each of the two flags has been put before those that were there.
  rw [unchanged, certified, Commands.addFlagIf_flagged (Commands.named_ofTask task _)]
  rfl

end Buildah

/-- The part of a task of either kind is closed. -/
theorem reports_part (s : Settings) (task : Task) :
    Reports c (Closed b c task) (part s b task) := by
  -- Both builders have been dealt with on their own.
  cases task with
  | kaniko task => exact Kaniko.reports_part s task
  | buildah task => exact Buildah.reports_part s task

end

end Worker

end ImageBuild
