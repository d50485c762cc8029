import ImageBuild.Proofs.Worker.Assembly

/-! The two commands of a task of Buildah have the same flags at the same place, and are about the same image. -/

namespace ImageBuild.Text

variable {α : Type} {drop : α → Bool}

/-- What is dropped at the end of a list passes the test. -/
theorem exists_dropEndWhile_append (drop : α → Bool) (l : List α) :
    ∃ dropped, l = dropEndWhile drop l ++ dropped ∧ ∀ a ∈ dropped, drop a = true := by
  -- What is dropped from the end is taken from the beginning of the reversed list.
  refine ⟨(l.reverse.takeWhile drop).reverse, ?_, fun a member => ?_⟩
  · rw [dropEndWhile, ← List.reverse_append, List.takeWhile_append_dropWhile, List.reverse_reverse]
  · exact List.all_eq_true.mp List.all_takeWhile a (List.mem_reverse.mp member)

/-- What stands at the end of a list afterwards does not. -/
theorem not_of_getLast?_dropEndWhile {l : List α} {a : α}
    (last : (dropEndWhile drop l).getLast? = some a) : drop a = false := by
  -- The last of what is left is where the dropping stopped.
  rw [dropEndWhile, List.getLast?_reverse] at last
  have first := List.head?_dropWhile_not drop l.reverse
  rw [last] at first
  simpa using first

/-- A text is what is left of it without the copies of a character at its end, and some of them. -/
theorem eq_trimEndChar_append (c : Char) (s : String) :
    ∃ n, s = trimEndChar c s ++ String.ofList (List.replicate n c) := by
  obtain ⟨dropped, same, all⟩ := exists_dropEndWhile_append (· == c) s.toList
  -- Everything that is trimmed is the same character.
  have copies : dropped = List.replicate dropped.length c :=
    List.eq_replicate_length.mpr fun a member => eq_of_beq (all a member)
  refine ⟨dropped.length, String.toList_inj.mp ?_⟩
  rw [String.toList_append, trimEndChar, String.toList_ofList, String.toList_ofList, ← copies]
  exact same

/-- Afterwards none of them is there. -/
theorem getLast?_trimEndChar_ne (c : Char) (s : String) :
    (trimEndChar c s).toList.getLast? ≠ some c := by
  -- Trimming would have gone on.
  intro last
  rw [trimEndChar, String.toList_ofList] at last
  have other := not_of_getLast?_dropEndWhile last
  rw [beq_self_eq_true] at other
  cases other

end ImageBuild.Text

namespace ImageBuild

/-- Whether a text is the full name of the image of a publication: its name after the address of the registry and a
slash, or alone if no address is set. The address counts without the slashes at its end. -/
inductive Publication.Names (p : Publication) : String → Prop
  | hosted {address stem : String} (slashes : Nat) (set : p.registry.address = some address)
      (nonempty : address ≠ "") (rest : address = stem ++ String.ofList (List.replicate slashes '/'))
      (without : stem.toList.getLast? ≠ some '/') : Names p (stem ++ "/" ++ p.image)
  | bare (unset : p.registry.address = none ∨ p.registry.address = some "") : Names p p.image

namespace Worker

/-- The full name of an image is what workers take for it. -/
theorem names_fullName (p : Publication) : p.Names (fullName p.registry.address? p.image) := by
  rw [RegistrySpec.address?]
  -- Without an address the image stands alone.
  cases set : p.registry.address with
  | none => exact .bare (.inl set)
  | some address =>
    by_cases empty : address = ""
    · -- An address without text is no address.
      subst empty
      exact .bare (.inr set)
    · have given : RegistrySpec.given (some address) = some address := by
        simp [RegistrySpec.given, empty]
      obtain ⟨slashes, rest⟩ := Text.eq_trimEndChar_append '/' address
      rw [given]
      exact .hosted slashes set empty rest (Text.getLast?_trimEndChar_ne '/' address)

/-- A script has one line before its commands at most. -/
theorem Login.before_eq {name : String} {m : Mounts} {before : List String}
    (login : Login name m before) : before = [] ∨ before = [Buildah.wrapLine] := by
  -- At most one line comes before the commands.
  cases login with
  | silent _ => exact .inl rfl
  | direct _ _ _ => exact .inl rfl
  | wrapped _ _ => exact .inr rfl

namespace Buildah

open Run Work

/-- The name of the image in the commands of a task. -/
def target (task : BuildahTask) : String :=
  fullName task.publication.registry.address? task.publication.image

/-- The commands of a task for its image, with the flags that its registry asks for. -/
def commands (task : BuildahTask) : Commands :=
  ((Commands.ofTask task (target task)).addFlagIf task.publication.registry.ca?.isSome
    certificateFlag).addFlagIf task.publication.registry.insecure "--tls-verify=false"

/-- The flags of the commands of a task: the one that is added last comes first. -/
def insertedFlags (task : BuildahTask) : List String :=
  flags task ++ if task.verbose then ["--log-level=debug"] else []

/-- The task without anything that asks for a flag. -/
def plain (task : BuildahTask) : BuildahTask :=
  { task with
    verbose := false
    publication.registry.ca := none
    publication.registry.insecure := false }

/-- Commands that build an image for a platform and publish it, with the same flags right after their names. -/
structure Commands.Agree (c : Commands) (flags platform : List String) (image : String) : Prop where
  bud : c.bud = ["buildah", "bud"] ++ flags ++ ["--storage-driver=vfs"] ++ platform
    ++ ["--pull-always", "-f", "Dockerfile", "-t", image, "."]
  push : c.push = ["buildah", "push"] ++ flags ++ ["--storage-driver=vfs",
    "--digestfile=/dev/termination-log", image, "docker://" ++ image]

/-- The container of a part runs commands by a shell, where need be after it has wrapped bare credentials. -/
structure Commands.RunIn (c : Commands) (part : Part) : Prop where
  shell : part.container.command = some ["/bin/sh", "-c"]
  script : ∃ before, (before = [] ∨ before = [wrapLine]) ∧
    part.container.args = some [script (before ++ c.lines)]

/-- The arguments that name the platform of a task, if it has one. -/
def platformArgs (task : BuildahTask) : List String :=
  match RegistrySpec.given task.platform with
  | some platform => ["--platform", platform]
  | none => []

/-- Flags that both commands have already are joined by those that come before them. -/
theorem Commands.Agree.flagged {c : Commands} {flags platform : List String} {image : String}
    (agree : c.Agree flags platform image) (more : List String) :
    (c.flagged more).Agree (more ++ flags) platform image := by
  -- The flags are put in the same position of both commands.
  constructor
  · simp [Commands.flagged, agree.bud]
  · simp [Commands.flagged, agree.push]

/-- The commands of a task agree on one flag at most. -/
theorem Commands.agree_ofTask (task : BuildahTask) (image : String) :
    (ofTask task image).Agree (if task.verbose then ["--log-level=debug"] else [])
      (platformArgs task) image := by
  -- Only the flag for messages depends on the task so far.
  unfold ofTask addFlagIf addFlag withFlag platformArgs
  cases task.verbose <;> constructor <;> rfl

/-- The flags that the registry asks for come before the one of the task. -/
theorem commands_eq_flagged (task : BuildahTask) :
    commands task = (Commands.ofTask task (target task)).flagged (flags task) := by
  -- One flag after the other is put before those that are there, of which there are none at first.
  have unflagged : Commands.ofTask task (target task)
      = (Commands.ofTask task (target task)).flagged [] := by simp [Commands.flagged]
  have named := Commands.named_ofTask task (target task)
  rw [commands, unflagged, Commands.addFlagIf_flagged named, Commands.addFlagIf_flagged named, flags,
    certificateFlags, volumeFor_eq, List.append_nil]
  simp [Commands.flagged]

/-- Both commands of a task have the flags that are asked for, and are about the one name of its image. -/
theorem agree_commands (task : BuildahTask) :
    (commands task).Agree (insertedFlags task) (platformArgs task) (target task) := by
  -- The certificate flags are added to commands that agree.
  rw [commands_eq_flagged]
  exact (Commands.agree_ofTask task (target task)).flagged (flags task)

/-- Which flags there are only depends on the three things that ask for them. -/
theorem mem_insertedFlags {task : BuildahTask} :
    ∀ flag ∈ insertedFlags task, flag ∈
      ["--log-level=debug", "--cert-dir=/etc/containers/certs.d", "--tls-verify=false"] := by
  -- Three settings, each of which adds a flag or none.
  rw [insertedFlags, flags, certificateFlags, volumeFor_eq]
  cases task.verbose <;> cases task.publication.registry.insecure <;>
    cases task.publication.registry.ca?.isSome <;> decide

/-- The part of a task runs its commands. -/
theorem reports_commands (s : Settings) (b : Build) {c : Cluster} (task : BuildahTask) :
    Reports c (commands task).RunIn (part s b task) := by
  refine (reports_addCertificates s.config.podNamePrefix task _).bind fun d found => ?_
  obtain ⟨furnished, silent, first, certified⟩ := found
  refine (reports_addCredentials task furnished silent first).bind fun e found => ?_
  obtain ⟨furnished, login, unchanged⟩ := found
  -- Mounting the context does not touch the commands.
  refine (Context.reports_mount furnished).bind fun n _ => .pure ⟨rfl, e.before, login.before_eq, ?_⟩
  rw [commands_eq_flagged, unchanged, certified,
    Commands.addFlagIf_flagged (Commands.named_ofTask task _)]
  rfl

/-- Both commands of a task have the same flags right after their names, each flag once if it is asked for and not
otherwise; without these they are the commands of the plain task, and both are about the one full name of the image. -/
theorem commands_agree (task : BuildahTask) :
    (∀ (s : Settings) (b : Build) (c d : Cluster) (p : Part),
      (part s b task).run.run c = (.ok p, d) → (commands task).RunIn p) ∧
    ∃ flags image,
      (commands task).Agree flags (platformArgs task) image ∧
      (commands (plain task)).Agree [] (platformArgs task) image ∧
      (∀ flag ∈ flags, flag ∈
        ["--log-level=debug", "--cert-dir=/etc/containers/certs.d", "--tls-verify=false"]) ∧
      flags.count "--log-level=debug" = (if task.verbose then 1 else 0) ∧
      flags.count "--cert-dir=/etc/containers/certs.d"
        = (if task.publication.registry.ca?.isSome then 1 else 0) ∧
      flags.count "--tls-verify=false" = (if task.publication.registry.insecure then 1 else 0) ∧
      task.publication.Names image := by
  refine ⟨fun s b c d p ran => (reports_commands s b task c ⟨rfl, rfl⟩ p d ran).1,
    insertedFlags task, target task, agree_commands task, agree_commands (plain task),
    mem_insertedFlags, ?_, ?_, ?_, names_fullName task.publication⟩
  -- What is left are the counts, in each of the eight cases.
  all_goals
    rw [insertedFlags, flags, certificateFlags, volumeFor_eq]
    cases task.verbose <;> cases task.publication.registry.insecure <;>
      cases task.publication.registry.ca?.isSome <;> decide

/-- A task that asks for every flag and for a platform, with bare credentials for a registry whose address ends in
slashes. -/
def fullTask : BuildahTask :=
  ⟨"Full", publicationTo ⟨some "registry//", some "login", some "authority", true⟩ "image",
    some "linux/arm64", true, [], none⟩

/-- All flags stand in both commands of a part that is there. -/
theorem commands_agree_fullTask :
    ∃ p d flags image,
      (part directSettings (buildOf [.buildah fullTask]) fullTask).run.run stockedCluster = (.ok p, d) ∧
      (commands fullTask).RunIn p ∧
      (commands fullTask).Agree flags ["--platform", "linux/arm64"] image ∧
      (commands (plain fullTask)).Agree [] ["--platform", "linux/arm64"] image ∧
      flags.count "--log-level=debug" = 1 ∧ flags.count "--cert-dir=/etc/containers/certs.d" = 1 ∧
      flags.count "--tls-verify=false" = 1 ∧ fullTask.publication.Names image := by
  -- The task is verbose and pushes to an insecure registry with a certificate.
  obtain ⟨p, d, ran⟩ : ∃ p d, (part directSettings (buildOf [.buildah fullTask]) fullTask).run.run
      stockedCluster = (.ok p, d) := ⟨_, _, rfl⟩
  obtain ⟨runs, flags, image, agree, bare, _, verbose, certified, insecure, named⟩ :=
    commands_agree fullTask
  exact ⟨p, d, flags, image, ran, runs _ _ _ _ _ ran, agree, bare, verbose, certified, insecure, named⟩

end Buildah

end Worker

end ImageBuild
