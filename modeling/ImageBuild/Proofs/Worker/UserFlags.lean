import ImageBuild.Proofs.Worker.Parts
import ImageBuild.Proofs.Worker.Script

/-! The flags that a user adds to a task: Kaniko takes them as its last arguments, and those of a task of Buildah are
read by nothing. -/

namespace ImageBuild

open Kubernetes Run Work

/-- The task with other flags of its user. -/
def Task.withFlags (flags : List String) : Task → Task
  | kaniko task => kaniko { task with additionalFlags := flags }
  | buildah task => buildah { task with additionalFlags := flags }

namespace Worker

/-- The words by which a container builds an image: its arguments if these go to a builder as they are, and the words of
a step that calls one if they go to a shell. -/
inductive BuildsBy (container : Container) : List String → Prop
  | arguments {words : List String} (direct : container.command = none)
      (args : container.args = some words) : BuildsBy container words
  | step {words : List String} {text : String} (shell : container.command = some ["/bin/sh", "-c"])
      (args : container.args = some [text]) (inside : words ∈ Buildah.steps text)
      (bud : ["buildah", "bud"] <+: words) : BuildsBy container words

section

variable {container : Container} {words : List String}

/-- A container without a shell builds by its arguments. -/
theorem buildsBy_iff_of_direct {args : List String} (direct : container.command = none)
    (given : container.args = some args) : BuildsBy container words ↔ words = args := by
  -- A container without a shell has its arguments for words.
  constructor
  · rintro (⟨_, same⟩ | ⟨shell, _, _, _⟩)
    · exact Option.some.inj (same.symm.trans given)
    · rw [direct] at shell
      cases shell
  · rintro rfl
    exact .arguments direct given

/-- A container with a shell builds by the steps of its script that call the builder. -/
theorem buildsBy_iff_of_shell {text : String} (shell : container.command = some ["/bin/sh", "-c"])
    (given : container.args = some [text]) :
    BuildsBy container words ↔ words ∈ Buildah.steps text ∧ ["buildah", "bud"] <+: words := by
  -- With a shell the words are read off the one text.
  constructor
  · rintro (⟨direct, _⟩ | ⟨_, same, inside, bud⟩)
    · rw [shell] at direct
      cases direct
    · obtain rfl := List.singleton_inj.mp (Option.some.inj (same.symm.trans given))
      exact ⟨inside, bud⟩
  · rintro ⟨inside, bud⟩
    exact .step shell given inside bud

end

namespace Kaniko

/-- The part with more arguments. -/
def withArgs (more : List String) (p : Part) : Part :=
  { p with container.args := some (p.container.args.getD [] ++ more) }

/-- The part of a task is that of the task without flags of its user, with these as its last arguments. -/
theorem part_eq_withArgs (s : Settings) (b : Build) (task : KanikoTask) (flags : List String) :
    part s b { task with additionalFlags := flags }
      = withArgs flags <$> part s b { task with additionalFlags := [] } := by
  -- The flags come at the very end of the arguments, and are looked at nowhere else.
  unfold part
  simp only [map_bind, map_pure, withArgs, Option.getD_some, args, List.append_nil]
  rfl

end Kaniko

namespace Buildah

/-- Which step of the script of a task builds its image, where everything that is supplied is one word. -/
theorem mem_steps_iff_bud {task : BuildahTask} {before words : List String}
    (wraps : before = [] ∨ before = [wrapLine]) (good : ∀ word ∈ supplied task, IsWord word) :
    words ∈ steps (script (before ++ (commands task).lines)) ∧ ["buildah", "bud"] <+: words
      ↔ words = (commands task).bud := by
  have agree := agree_commands task
  rw [steps_commands wraps good]
  constructor
  · rintro ⟨inside, bud⟩
    rcases List.mem_append.mp inside with wrap | command
    · -- The line that wraps credentials calls no builder.
      rcases wraps with rfl | rfl
      · cases wrap
      · rw [List.mem_singleton.mp wrap] at bud
        exact absurd bud (by decide +kernel)
    -- Of the two commands only the first one builds.
    · rcases List.mem_pair.mp command with rfl | rfl
      · rfl
      · rw [agree.push] at bud
        simp at bud
  -- The building command stands before the pushing one.
  · rintro rfl
    refine ⟨List.mem_append_right _ List.mem_cons_self, ?_⟩
    rw [agree.bud]
    simp

/-- The container of a part builds by the command of its task, whatever flags its user adds. -/
theorem buildsBy_iff {s : Settings} {b : Build} {task : BuildahTask} {c d : Cluster} {p : Part}
    (ran : (part s b task).run.run c = (.ok p, d)) (good : ∀ word ∈ supplied task, IsWord word)
    (words : List String) : BuildsBy p.container words ↔ words = (commands task).bud := by
  -- The shell runs the script of the commands.
  obtain ⟨shell, before, wraps, args⟩ := (reports_commands s b task c ⟨rfl, rfl⟩ p d ran).1
  rw [buildsBy_iff_of_shell shell args, mem_steps_iff_bud wraps good]

end Buildah

variable {s : Settings} {b : Build} {task : Task} {c d : Cluster} {built : Pod}

/-- Whether the worker pods of a build for a task are there and build by a command that the flags of the user
determine. -/
def BuildsWith (s : Settings) (b : Build) (task : Task) (c d : Cluster)
    (command : List String → List String) : Prop :=
  ∀ flags, ∃ built container,
    (pod s (b.withTask (task.withFlags flags))).run.run c = (.ok built, d) ∧ RunsOnly built container ∧
      ∀ words, BuildsBy container words ↔ words = command flags

/-- Kaniko builds with the flags of the user at the end of its arguments. -/
theorem Kaniko.buildsWith {task : KanikoTask} {p : Part}
    (made : (part s b task).run.run c = (.ok p, d)) :
    ∃ own, BuildsWith s b (.kaniko task) c d fun flags => own ++ flags := by
  have split : part s b task
      = withArgs task.additionalFlags <$> part s b { task with additionalFlags := [] } :=
    part_eq_withArgs s b task task.additionalFlags
  rw [split] at made
  -- What else is done for the part does not depend on the flags, so that they come on top of its own.
  obtain ⟨q, bare, -⟩ := map_ok made
  obtain ⟨⟨direct, _, address, given⟩, _⟩ := reports_container s b _ c ⟨rfl, rfl⟩ q d bare
  refine ⟨Kaniko.flags task address, fun flags => ?_⟩
  have made : (part s b { task with additionalFlags := flags }).run.run c
      = (.ok (withArgs flags q), d) := by
    rw [part_eq_withArgs, run_map, bare]
    rfl
  obtain ⟨built, ran, only⟩ := runsOnly_of_part (.kaniko _) made
  refine ⟨built, _, ran, only, fun words => buildsBy_iff_of_direct direct ?_⟩
  rw [withArgs, given]
  rfl

/-- Buildah builds without the flags of the user. -/
theorem Buildah.buildsWith {task : BuildahTask} {p : Part}
    (made : (part s b task).run.run c = (.ok p, d)) (good : ∀ word ∈ supplied task, IsWord word) :
    BuildsWith s b (.buildah task) c d fun _ => (commands task).bud := by
  -- The flags are in none of the commands, so that the same part serves for all of them.
  intro flags
  obtain ⟨built, ran, only⟩ := runsOnly_of_part (.buildah task) made
  exact ⟨built, _, ran, only, buildsBy_iff made good⟩

/-- The flags that a user adds are the last arguments of Kaniko, whatever they are and whatever else its task asks for.
To a task of Buildah they make no difference at all: its worker pod is the same with any others, and the command that
builds the image is made of the flags that the task itself asks for. -/
theorem flags_reach_kaniko_only (single : b.spec.tasks = [task])
    (ran : (pod s b).run.run c = (.ok built, d)) :
    (∀ t, task = .kaniko t → ∃ own, BuildsWith s b task c d fun flags => own ++ flags) ∧
      ∀ t, task = .buildah t →
        (∀ flags, (pod s (b.withTask (task.withFlags flags))).run.run c = (.ok built, d)) ∧
        ((∀ word ∈ Buildah.supplied t, Buildah.IsWord word) →
          BuildsWith s b task c d fun _ => ["buildah", "bud"] ++ Buildah.insertedFlags t
            ++ ["--storage-driver=vfs"] ++ Buildah.platformArgs t
            ++ ["--pull-always", "-f", "Dockerfile", "-t", Buildah.target t, "."]) := by
  obtain ⟨p, made, rfl⟩ := part_of_single single ran
  refine ⟨?_, ?_⟩
  · rintro t rfl
    exact Kaniko.buildsWith made
  · rintro t rfl
    refine ⟨fun flags => ?_, fun good => ?_⟩
    -- Other flags give the very same pod.
    · rw [← ran, ← Build.withTask_of_single single]
      rfl
    · have builds := Buildah.buildsWith made good
      rwa [(Buildah.agree_commands t).bud] at builds

/-- A task of Kaniko whose user adds two flags. -/
def snapshotTask : KanikoTask :=
  ⟨"Snapshot", publicationTo ⟨some "registry", none, none, true⟩ "app", true, default, none,
    ["--single-snapshot", "--compressed-caching=false"], none⟩

/-- A task of Buildah whose user adds a flag. -/
def squashTask : BuildahTask :=
  ⟨"Squash", publicationTo .unspecified "app", none, false, ["--squash"], none⟩

/-- Any flags are the last arguments of the one task, and none of them counts for the other. -/
theorem flags_reach_kaniko_only_snapshotTask_squashTask :
    (∃ built d own,
      (pod directSettings (buildOf [.kaniko snapshotTask])).run.run (.empty .epoch) = (.ok built, d) ∧
      BuildsWith directSettings (buildOf [.kaniko snapshotTask]) (.kaniko snapshotTask) (.empty .epoch) d
        fun flags => own ++ flags) ∧
    ∃ built d,
      (pod directSettings (buildOf [.buildah squashTask])).run.run (.empty .epoch) = (.ok built, d) ∧
      BuildsWith directSettings (buildOf [.buildah squashTask]) (.buildah squashTask) (.empty .epoch) d
        fun _ => ["buildah", "bud", "--storage-driver=vfs", "--pull-always", "-f", "Dockerfile",
          "-t", "app", "."] := by
  -- One task for each builder, both with a flag of their own.
  constructor
  · obtain ⟨built, d, ran⟩ : ∃ built d, (pod directSettings (buildOf [.kaniko snapshotTask])).run.run
        (.empty .epoch) = (.ok built, d) := ⟨_, _, rfl⟩
    obtain ⟨own, builds⟩ := (flags_reach_kaniko_only rfl ran).1 snapshotTask rfl
    exact ⟨built, d, own, ran, builds⟩
  · obtain ⟨built, d, ran⟩ : ∃ built d, (pod directSettings (buildOf [.buildah squashTask])).run.run
        (.empty .epoch) = (.ok built, d) := ⟨_, _, rfl⟩
    exact ⟨built, d, ran, ((flags_reach_kaniko_only rfl ran).2 squashTask rfl).2 (by decide)⟩

/-- A flag that is added to a task of Buildah is not among the words by which its worker builds. -/
theorem flag_is_lost_to_buildah :
    ∃ built d container,
      (pod directSettings (buildOf [.buildah squashTask])).run.run (.empty .epoch) = (.ok built, d) ∧
      RunsOnly built container ∧ (∃ words, BuildsBy container words) ∧
      ∀ words, BuildsBy container words → ¬squashTask.additionalFlags <:+: words := by
  -- The words that build are fixed, and the flag is not among them.
  obtain ⟨p, d, made⟩ : ∃ p d, (part directSettings (buildOf [.buildah squashTask])
      (.buildah squashTask)).run.run (.empty .epoch) = (.ok p, d) := ⟨_, _, rfl⟩
  obtain ⟨built, container, ran, only, builds⟩ := Buildah.buildsWith made (by decide) ["--squash"]
  refine ⟨built, d, container, ran, only, ⟨_, (builds _).mpr rfl⟩, fun words built => ?_⟩
  rw [(builds words).mp built]
  decide +kernel

end Worker

end ImageBuild
