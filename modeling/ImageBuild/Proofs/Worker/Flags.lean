import ImageBuild.Proofs.Worker.Furnished

/-! The flags of builders that do not come from users: which of them there are, and which of them set a directory. -/

namespace ImageBuild.Worker

/-- The flags that set an option. -/
def settings (option : String) (flags : List String) : List String :=
  flags.filter fun flag => option.toList.isPrefixOf flag.toList

/-- An option is set once, to a directory, if something is shown there, and is not set otherwise. -/
def SetsJustIf (shown : Prop) (option directory : String) (flags : List String) : Prop :=
  (settings option flags = [option ++ "=" ++ directory] ∧ shown) ∨
    (settings option flags = [] ∧ ¬shown)

/-- An option that is set to a directory where it is asked for is set just if something is shown there. -/
theorem SetsJustIf.of_settings {shown : Prop} {option directory : String} {flags : List String}
    {asked : Bool} (shows : shown ↔ asked = true)
    (set : settings option flags = if asked then [option ++ "=" ++ directory] else []) :
    SetsJustIf shown option directory flags := by
  -- Both the volume and the option follow the one setting.
  cases asked with
  | false => exact .inr ⟨set, fun there => Bool.false_ne_true (shows.mp there)⟩
  | true => exact .inl ⟨set, shows.mpr rfl⟩

/-- A flag sets an option no less for having more text at its end. -/
theorem isPrefixOf_append_of_length_le {option head : List Char} (short : option.length ≤ head.length)
    (tail : List Char) : option.isPrefixOf (head ++ tail) = option.isPrefixOf head := by
  -- What is no longer than the head does not reach into the tail.
  rw [Bool.eq_iff_iff, List.isPrefixOf_iff_prefix, List.isPrefixOf_iff_prefix]
  exact ⟨fun inside => List.prefix_of_prefix_length_le inside (List.prefix_append _ _) short,
    fun inside => inside.trans (List.prefix_append _ _)⟩

/-- A flag with a value that is not fixed sets no option that it does not begin with. -/
theorem settings_cons_append {option head : String}
    (short : option.toList.length ≤ head.toList.length)
    (other : option.toList.isPrefixOf head.toList = false) (value : String) (flags : List String) :
    settings option ((head ++ value) :: flags) = settings option flags := by
  -- The head of the flag already tells that it is no setting of the option.
  unfold settings
  rw [List.filter_cons_of_neg]
  rw [String.toList_append, isPrefixOf_append_of_length_le short, other]
  exact Bool.false_ne_true

theorem settings_append (option : String) (first second : List String) :
    settings option (first ++ second) = settings option first ++ settings option second :=
  List.filter_append ..

/-- Flags that are there just if they are asked for set nothing if they never do. -/
theorem settings_ite {option : String} {flags : List String} (asked : Bool)
    (none : settings option flags = []) :
    settings option (if asked then flags else []) = [] := by
  -- Flags that set nothing may be there or not.
  cases asked with
  | false => rfl
  | true => exact none

namespace Kaniko

/-- The flags of a task that do not come from its user. -/
def flags (task : KanikoTask) (address : Option String) : List String :=
  args { task with additionalFlags := [] } address

/-- The flags of the user come last. -/
theorem args_eq (task : KanikoTask) (address : Option String) :
    args task address = flags task address ++ task.additionalFlags := by
  simp only [flags, args, List.append_nil]

/-- Before the flags for the cache there is none for a directory of the cache or of certificates. -/
theorem settings_flags {option : String} (known : option ∈ ["--cache-dir", "--cert-dir"])
    (task : KanikoTask) (address : Option String) :
    settings option (flags task address)
      = settings option (if task.cache.isEnabled then
          "--cache=true"
            :: (if task.cache.volumeClaim.isSome then ["--cache-dir=" ++ cacheDirectory] else [])
        else []) := by
  -- Two of the flags have values that may be anything, so that only how they begin can tell them from the option.
  have context : option.toList.length ≤ "--context=dir://".toList.length ∧
      option.toList.isPrefixOf "--context=dir://".toList = false := by
    revert option
    decide
  have destination : option.toList.length ≤ "--destination=".toList.length ∧
      option.toList.isPrefixOf "--destination=".toList = false := by
    revert option
    decide
  -- All others are fixed, whether they are asked for or not.
  have others : settings option ["--dockerfile=Dockerfile"] = [] ∧ settings option ["-v=debug"] = [] ∧
      settings option ["--insecure", "--insecure-pull"] = [] := by
    revert option
    decide
  unfold flags args
  rw [List.append_nil, settings_append, settings_append, settings_append, settings_ite _ others.2.1,
    settings_ite _ others.2.2, List.append_nil, List.append_nil, ← List.singleton_append,
    settings_append, others.1, settings_cons_append context.1 context.2,
    settings_cons_append destination.1 destination.2]
  rfl

/-- The directory of the cache is set where the cache is in use and has a claim. -/
theorem settings_cache (task : KanikoTask) (address : Option String) :
    settings "--cache-dir" (flags task address)
      = if task.cache.isEnabled && task.cache.volumeClaim.isSome
        then ["--cache-dir" ++ "=" ++ cacheDirectory] else [] := by
  -- Only the cache directory is told, and only for a claim in use.
  rw [settings_flags (by decide)]
  cases task.cache.isEnabled <;> cases task.cache.volumeClaim.isSome <;> decide

/-- Kaniko is not told of certificates. -/
theorem settings_certificates (task : KanikoTask) (address : Option String) :
    settings "--cert-dir" (flags task address) = [] := by
  -- None of the flags begins that way.
  rw [settings_flags (by decide)]
  cases task.cache.isEnabled <;> cases task.cache.volumeClaim.isSome <;> decide

end Kaniko

namespace Buildah

/-- The flags of a task that do not come from its user, apart from those that both commands begin with. -/
def flags (task : BuildahTask) : List String :=
  (if task.publication.registry.insecure then ["--tls-verify=false"] else []) ++ certificateFlags task

/-- Commands that have a name of two words, after which flags stand. -/
structure Commands.Named (c : Commands) : Prop where
  bud : 2 ≤ c.bud.length
  push : 2 ≤ c.push.length

/-- The commands of a task have names. -/
theorem Commands.named_ofTask (task : BuildahTask) (image : String) : (ofTask task image).Named := by
  -- The flag for messages makes the commands longer, not shorter.
  unfold ofTask addFlagIf addFlag withFlag
  cases task.verbose <;> constructor <;> simp

/-- A flag that is put after the name of a command comes before those that are there. -/
theorem Commands.withFlag_between {command : List String} (named : 2 ≤ command.length) (flag : String)
    (flags : List String) :
    withFlag flag (command.take 2 ++ flags ++ command.drop 2)
      = command.take 2 ++ (flag :: flags) ++ command.drop 2 := by
  -- The flag goes right after the first two words.
  have two : (command.take 2).length = 2 := List.length_take_of_le named
  rw [withFlag, List.append_assoc, List.take_left' two, List.drop_left' two, List.append_assoc]
  rfl

/-- Both commands get a flag where it is asked for, before those that they have. -/
theorem Commands.addFlagIf_flagged {c : Commands} (named : c.Named) (asked : Bool) (flag : String)
    (flags : List String) :
    (c.flagged flags).addFlagIf asked flag
      = c.flagged ((if asked then [flag] else []) ++ flags) := by
  -- A flag that is added comes before those that are there.
  cases asked with
  | false => rfl
  | true =>
    simp only [addFlagIf, if_true, addFlag, flagged, withFlag_between named.bud,
      withFlag_between named.push]
    rfl

/-- Buildah is not told of a cache. -/
theorem settings_cache (task : BuildahTask) : settings "--cache-dir" (flags task) = [] := by
  -- The flags are about certificates and the check of them.
  rw [flags, certificateFlags, volumeFor_eq]
  cases task.publication.registry.insecure <;> cases task.publication.registry.ca?.isSome <;> decide

/-- The directory of certificates is set where there are some. -/
theorem settings_certificates (task : BuildahTask) :
    settings "--cert-dir" (flags task)
      = if task.publication.registry.ca?.isSome
        then ["--cert-dir" ++ "=" ++ RegistryFile.certificateDirectory] else [] := by
  -- The directory is told just for a registry with certificates.
  rw [flags, certificateFlags, volumeFor_eq]
  cases task.publication.registry.insecure <;> cases task.publication.registry.ca?.isSome <;> decide

end Buildah

end ImageBuild.Worker
