import ImageBuild.Proofs.Text.Cut
import ImageBuild.Proofs.Worker.Commands

/-! The script of a task of Buildah as it is read back: the steps are the commands of the task just if what the task
supplies is one word each. -/

namespace ImageBuild.Worker.Buildah

open Run Work

/-- The steps of a script, each of them as words. -/
def steps (script : String) : List (List String) :=
  (Text.cut " && " script).map (Text.split ' ')

/-- Whether a text is one word, and not the one that stands between steps. -/
def IsWord (s : String) : Prop := ' ' ∉ s.toList ∧ s ≠ "&&"

instance (s : String) : Decidable (IsWord s) := inferInstanceAs (Decidable (_ ∧ _))

/-- Whether there are words, and nothing else. -/
structure IsStep (words : List String) : Prop where
  nonempty : words ≠ []
  words : ∀ word ∈ words, IsWord word

/-- What a task supplies to its commands: the platform, if there is one, and the name of the image. -/
def supplied (task : BuildahTask) : List String :=
  (RegistrySpec.given task.platform).toList ++ [target task]

section

variable {lines : List (List String)}

/-- The characters of a line are those of its words, with blanks between them. -/
theorem toList_line (words : List String) :
    (Commands.line words).toList = [' '].intercalate (words.map String.toList) :=
  String.toList_intercalate

/-- Words are found again in the line that they make. -/
theorem split_line {words : List String} (some_ : words ≠ [])
    (good : ∀ word ∈ words, ' ' ∉ word.toList) : Text.split ' ' (Commands.line words) = words := by
  -- Words without blanks are cut where the line has joined them.
  rw [Text.split, toList_line,
    Text.splitAll_intercalate (by simpa using some_) (by simpa using good), List.map_map]
  simp

/-- A line is made of the words that are found in it. -/
theorem line_split (line : String) : Commands.line (Text.split ' ' line) = line := by
  -- Joining undoes the cut, whatever the words are.
  refine String.toList_inj.mp ?_
  rw [toList_line, Text.split, List.map_map]
  simp [Function.comp_def, Text.intercalate_splitAll]

/-- The words of a line have no blank. -/
theorem not_mem_of_mem_split {line word : String} (member : word ∈ Text.split ' ' line) :
    ' ' ∉ word.toList := by
  -- The line was cut at every blank.
  obtain ⟨part, inside, rfl⟩ := List.mem_map.mp member
  rw [String.toList_ofList]
  exact Text.not_mem_of_mem_splitAll ' ' _ part inside

/-- The characters of a script are those of the words, with what stands between them. -/
theorem toList_script (lines : List (List String)) :
    (script (lines.map Commands.line)).toList
      = (Text.between ' ' "&&".toList).intercalate
        ((lines.map (·.map String.toList)).map [' '].intercalate) := by
  -- The sign between two commands stands between two blanks.
  rw [script, String.toList_intercalate, List.map_map, List.map_map]
  congr 1
  exact List.map_congr_left fun words _ => toList_line words

/-- A script is cut where the sign is a word between others. -/
theorem cut_eq (text : String) :
    Text.cut " && " text
      = (Text.cutAll (Text.between ' ' "&&".toList) 0 text.toList).map String.ofList := rfl

/-- Steps are found again in the script that they make. -/
theorem steps_script (some_ : lines ≠ []) (good : ∀ words ∈ lines, IsStep words) :
    steps (script (lines.map Commands.line)) = lines := by
  -- For texts the sign is another word just if its characters are others.
  have apart : ∀ words ∈ lines, ∀ word ∈ words, ' ' ∉ word.toList ∧ word.toList ≠ "&&".toList :=
    fun words inside word member => ((good words inside).words word member).imp_right fun other same =>
      other (String.toList_inj.mp same)
  have found : Text.cutAll (Text.between ' ' "&&".toList) 0
      ((Text.between ' ' "&&".toList).intercalate
        ((lines.map (·.map String.toList)).map [' '].intercalate))
      = (lines.map (·.map String.toList)).map [' '].intercalate :=
    Text.cutAll_lines (by decide) (by simpa using some_)
      (by simpa using fun words inside => (good words inside).nonempty) (by simpa using apart)
  have cut : Text.cut " && " (script (lines.map Commands.line)) = lines.map Commands.line := by
    rw [cut_eq, toList_script, found, List.map_map, List.map_map]
    refine List.map_congr_left fun words _ => String.toList_inj.mp ?_
    rw [toList_line]
    exact String.toList_ofList
  -- Each line is then cut into the words it was made of.
  rw [steps, cut, List.map_map, List.map_congr_left (g := id), List.map_id]
  exact fun words inside =>
    split_line (good words inside).nonempty fun word member => (apart words inside word member).1

variable {text word : String}

/-- The words of a step have no blank. -/
theorem not_mem_of_mem_steps {words : List String} (inside : words ∈ steps text)
    (member : word ∈ words) : ' ' ∉ word.toList := by
  -- Steps are cut into words at their blanks.
  obtain ⟨line, _, rfl⟩ := List.mem_map.mp inside
  exact not_mem_of_mem_split member

/-- The sign between steps does not stand between two words of one step. -/
theorem ne_of_mem_steps {before after : List String} (inside : before ++ word :: after ∈ steps text)
    (first : before ≠ []) (last : after ≠ []) : word ≠ "&&" := by
  rintro rfl
  obtain ⟨line, found, same⟩ := List.mem_map.mp inside
  rw [cut_eq] at found
  obtain ⟨part, cut, rfl⟩ := List.mem_map.mp found
  -- The line of such a step would hold the mark that scripts are cut at.
  have whole : part = [' '].intercalate ((before ++ "&&" :: after).map String.toList) := by
    rw [← toList_line, ← same, line_split, String.toList_ofList]
  refine Text.not_infix_of_mem_cutAll Text.between_ne_nil part cut ?_
  rw [whole, List.map_append, List.map_cons]
  exact Text.between_infix_intercalate (by simpa using first) (by simpa using last)

/-- What stands between two words of a step is one word. -/
theorem isWord_of_mem_steps (text : String) (before after : List String)
    (inside : before ++ word :: after ∈ steps text) (first : before ≠ []) (last : after ≠ []) :
    IsWord word :=
  -- A word that is neither the first nor the last of its step cannot be the sign, as the script would have been cut
  -- there.
  ⟨not_mem_of_mem_steps inside (List.mem_append_right _ List.mem_cons_self),
    ne_of_mem_steps inside first last⟩

end

/-- The line that wraps bare credentials is a step. -/
theorem isStep_wrapLine : IsStep (Text.split ' ' wrapLine) := ⟨by decide +kernel, by decide +kernel⟩

/-- The address of an image is one word if its name is. -/
theorem isWord_docker {name : String} (good : IsWord name) : IsWord ("docker://" ++ name) := by
  constructor
  · rw [String.toList_append, List.mem_append, not_or]
    exact ⟨by decide, good.1⟩
  · intro same
    -- The two texts begin with different characters.
    have first := congrArg (fun s => s.toList.head?) same
    rw [String.toList_append] at first
    exact absurd first (show some 'd' ≠ some '&' by decide)

/-- Both commands are steps if what the task supplies is one word each. -/
theorem isStep_commands {task : BuildahTask} (good : ∀ word ∈ supplied task, IsWord word) :
    ∀ words ∈ [(commands task).bud, (commands task).push], IsStep words := by
  have image : IsWord (target task) := good _ (List.mem_append_right _ (List.mem_singleton.mpr rfl))
  have flags : ∀ flag ∈ insertedFlags task, IsWord flag := fun flag member =>
    (by decide : ∀ flag ∈ ["--log-level=debug", "--cert-dir=/etc/containers/certs.d",
      "--tls-verify=false"], IsWord flag) flag (mem_insertedFlags flag member)
  -- The platform is one of the words that the task supplies, after an option that is fixed.
  have platform : ∀ word ∈ platformArgs task, IsWord word := by
    unfold platformArgs
    cases given : RegistrySpec.given task.platform with
    | none => exact fun _ member => absurd member List.not_mem_nil
    | some platform =>
      have supplies : platform ∈ supplied task := by simp [supplied, given]
      simpa using ⟨by decide, good platform supplies⟩
  have agree := agree_commands task
  simp only [List.forall_mem_cons, List.not_mem_nil, false_implies, implies_true, and_true]
  refine ⟨⟨by simp [agree.bud], ?_⟩, ⟨by simp [agree.push], ?_⟩⟩
  -- All other words are fixed.
  · rw [agree.bud]
    simp only [List.forall_mem_append]
    refine ⟨⟨⟨⟨by decide, flags⟩, by decide⟩, platform⟩, ?_⟩
    simpa using ⟨by decide, by decide, by decide, by decide, image, by decide⟩
  · rw [agree.push]
    simp only [List.forall_mem_append]
    refine ⟨⟨by decide, flags⟩, ?_⟩
    simpa using ⟨by decide, by decide, image, isWord_docker image⟩

/-- Both commands are found again in a script, after the line that comes before them if there is one. -/
theorem steps_commands {task : BuildahTask} {before : List String}
    (wraps : before = [] ∨ before = [wrapLine]) (good : ∀ word ∈ supplied task, IsWord word) :
    steps (script (before ++ (commands task).lines))
      = before.map (Text.split ' ') ++ [(commands task).bud, (commands task).push] := by
  -- The line before the commands is made of words, too.
  have lines : before ++ (commands task).lines
      = (before.map (Text.split ' ') ++ [(commands task).bud, (commands task).push]).map
        Commands.line := by
    rw [List.map_append, List.map_map, List.map_congr_left (g := id), List.map_id]
    · rfl
    · exact fun line _ => line_split line
  rw [lines]
  refine steps_script (by simp) ?_
  rw [List.forall_mem_append]
  refine ⟨?_, isStep_commands good⟩
  rcases wraps with rfl | rfl
  · exact fun _ member => absurd member List.not_mem_nil
  · simpa using isStep_wrapLine

/-- What a task supplies is one word each if the command that builds its image is a step. -/
theorem isWord_of_bud_mem {task : BuildahTask} (text : String)
    (inside : (commands task).bud ∈ steps text) : ∀ word ∈ supplied task, IsWord word := by
  rw [(agree_commands task).bud] at inside
  intro word member
  -- The platform and the name of the image both stand between two other words.
  rcases List.mem_append.mp member with platform | image
  · have args : platformArgs task = ["--platform", word] := by
      rw [platformArgs, Option.mem_toList.mp platform]
    rw [args, List.append_assoc] at inside
    refine isWord_of_mem_steps text
      (["buildah", "bud"] ++ insertedFlags task ++ ["--storage-driver=vfs", "--platform"])
      ["--pull-always", "-f", "Dockerfile", "-t", target task, "."] ?_ (by simp) (by simp)
    simpa using inside
  · rw [List.mem_singleton.mp image]
    refine isWord_of_mem_steps text
      (["buildah", "bud"] ++ insertedFlags task ++ ["--storage-driver=vfs"] ++ platformArgs task
        ++ ["--pull-always", "-f", "Dockerfile", "-t"]) ["."] ?_ (by simp) (by simp)
    simpa using inside

/-- The script of a part is read back as the commands of its task, after the line that comes before them if there is
one, just if the task supplies one word each for its platform and for the name of its image. -/
theorem script_reads_back_iff {s : Settings} {b : Build} {task : BuildahTask} {c d : Cluster} {p : Part}
    (ran : (part s b task).run.run c = (.ok p, d)) :
    ∃ before text, (before = [] ∨ before = [wrapLine]) ∧
      p.container.command = some ["/bin/sh", "-c"] ∧ p.container.args = some [text] ∧
      (steps text = before.map (Text.split ' ') ++ [(commands task).bud, (commands task).push]
        ↔ ∀ word ∈ supplied task, IsWord word) := by
  obtain ⟨shell, before, wraps, args⟩ := (reports_commands s b task c ⟨rfl, rfl⟩ p d ran).1
  refine ⟨before, _, wraps, shell, args, fun reads => ?_, fun good => ?_⟩
  -- The step that builds is found among those that are read.
  · refine isWord_of_bud_mem (script (before ++ (commands task).lines)) ?_
    rw [reads]
    exact List.mem_append_right _ List.mem_cons_self
  · exact steps_commands wraps good

/-- Where credentials are wrapped first, and everything that is supplied is one word, the script is read back. -/
theorem script_reads_back_iff_fullTask :
    ∃ (p : Part) (d : Cluster) (before : List String) (text : String),
      (part directSettings (buildOf [.buildah fullTask]) fullTask).run.run stockedCluster = (.ok p, d) ∧
      p.container.args = some [text] ∧
      steps text = before.map (Text.split ' ') ++ [(commands fullTask).bud, (commands fullTask).push] := by
  -- All words of this task are free of blanks and signs.
  obtain ⟨p, d, ran⟩ : ∃ p d, (part directSettings (buildOf [.buildah fullTask]) fullTask).run.run
      stockedCluster = (.ok p, d) := ⟨_, _, rfl⟩
  obtain ⟨before, text, _, _, args, reads⟩ := script_reads_back_iff ran
  exact ⟨p, d, before, text, ran, args, reads.mpr (by decide +kernel)⟩

/-- A task whose image is named like two steps. -/
def splicedTask : BuildahTask :=
  ⟨"Spliced", publicationTo .unspecified "app && id", none, false, [], none⟩

/-- The name of an image can add steps to the script: it becomes no argument of the commands, but ends them early. -/
theorem image_adds_steps :
    ∃ p d text,
      (part directSettings (buildOf [.buildah splicedTask]) splicedTask).run.run (.empty .epoch)
        = (.ok p, d) ∧ p.container.args = some [text] ∧
      steps text = [
        ["buildah", "bud", "--storage-driver=vfs", "--pull-always", "-f", "Dockerfile", "-t", "app"],
        ["id", "."],
        ["buildah", "push", "--storage-driver=vfs", "--digestfile=/dev/termination-log", "app"],
        ["id", "docker://app"], ["id"]] ∧
      ∀ before, steps text ≠ before ++ [(commands splicedTask).bud, (commands splicedTask).push] := by
  have read : steps (script (commands splicedTask).lines) = [
      ["buildah", "bud", "--storage-driver=vfs", "--pull-always", "-f", "Dockerfile", "-t", "app"],
      ["id", "."],
      ["buildah", "push", "--storage-driver=vfs", "--digestfile=/dev/termination-log", "app"],
      ["id", "docker://app"], ["id"]] := by decide +kernel
  refine ⟨_, _, script (commands splicedTask).lines, rfl, rfl, read, fun before same => ?_⟩
  -- The last step would be the command that publishes the image.
  rw [read] at same
  have last := congrArg List.getLast? same
  rw [List.getLast?_append] at last
  exact absurd (Option.some.inj last) (by decide)

end ImageBuild.Worker.Buildah
