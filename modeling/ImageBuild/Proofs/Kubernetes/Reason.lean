import ImageBuild.Engine.Failure
import ImageBuild.Proofs.Worker.Commands
import Mathlib.Data.List.DropRight

/-! The reason why a pod failed is what its first failed container tells, and else what the pod tells itself. -/

namespace ImageBuild

namespace Text

/-- A text is what is left of another one without the blanks at its end. -/
def Trims (s t : String) : Prop :=
  (∃ blanks, s.toList = t.toList ++ blanks ∧ ∀ c ∈ blanks, isBlank c = true)
    ∧ ∀ c, t.toList.getLast? = some c → isBlank c = false

/-- There is one such text. -/
theorem trims_iff {s t : String} : Trims s t ↔ t = trimEnd s := by
  constructor
  -- Trimming stops at the last character that is not blank, which is the end of the text here.
  · intro ⟨⟨blanks, same, blank⟩, last⟩
    have kept : List.rdropWhile isBlank t.toList = t.toList := by
      rw [List.rdropWhile_eq_self_iff]
      intro filled
      simp [last _ (List.getLast?_eq_some_getLast filled)]
    have dropped : List.rdropWhile isBlank (t.toList ++ blanks) = List.rdropWhile isBlank t.toList := by
      rw [List.rdropWhile, List.reverse_append, List.dropWhile_append_of_pos (by simpa using blank)]
      rfl
    apply String.toList_inj.mp
    rw [trimEnd, String.toList_ofList, same]
    exact (dropped.trans kept).symm
  · rintro rfl
    rw [Trims, trimEnd, String.toList_ofList]
    exact ⟨exists_dropEndWhile_append isBlank s.toList, fun c last => not_of_getLast?_dropEndWhile last⟩

/-- A text that may be missing counts just if it is filled. -/
theorem filter_filled_eq_some_iff {said : Option String} {s : String} :
    said.filter (fun m => !m.isEmpty) = some s ↔ said = some s ∧ s ≠ "" := by
  rw [Option.filter_eq_some_iff, Bool.not_eq_true', String.isEmpty_eq_false_iff]

/-- Otherwise it is missing or empty. -/
theorem filter_filled_eq_none_iff {said : Option String} :
    said.filter (fun m => !m.isEmpty) = none ↔ said.getD "" = "" := by
  -- No message and an empty one are treated alike.
  cases said with
  | none => simp
  | some s => simp [Option.filter_some]

end Text

namespace Kubernetes

/-- What a failed container says about its end, after its exit code. -/
inductive Termination.Adds (t : Termination) : String → Prop
  /-- It says something, and the blanks after that do not count. -/
  | detail {said trimmed : String} (message : t.message = some said) (filled : said ≠ "")
      (trims : Text.Trims said trimmed) : Adds t (": " ++ trimmed)
  /-- It says nothing. -/
  | nothing (silent : t.message.getD "" = "") : Adds t ""

/-- A container has ended with a code that tells of a failure. -/
def ContainerStatus.FailedBy (c : ContainerStatus) (t : Termination) : Prop :=
  (∃ state, c.state = some state ∧ state.terminated = some t) ∧ t.exitCode ≠ 0

/-- A container has failed; one that waits, runs or has ended well has not. -/
def ContainerStatus.HasFailed (c : ContainerStatus) : Prop := ∃ t, c.FailedBy t

/-- What tells why a pod failed, with the containers that run before the others first. -/
inductive Pod.Tells (p : Pod) : String → Prop
  /-- A container failed, and none before it. -/
  | container {s : PodStatus} {before after : List ContainerStatus} {c : ContainerStatus} {t : Termination}
      {added : String} (known : p.status = some s)
      (order : s.initContainers.getD [] ++ s.containers.getD [] = before ++ c :: after)
      (earlier : ∀ d ∈ before, ¬ d.HasFailed) (failed : c.FailedBy t) (adds : t.Adds added) :
      Tells p (c.name ++ ": " ++ t.reason.getD "Error" ++ " (exit code " ++ toString t.exitCode ++ ")" ++ added)
  /-- No container failed, and the pod says why it did. -/
  | pod {s : PodStatus} {said : String} (known : p.status = some s)
      (sound : ∀ c ∈ s.initContainers.getD [] ++ s.containers.getD [], ¬ c.HasFailed)
      (message : s.message = some said) (filled : said ≠ "") : Tells p said
  /-- Neither says anything. -/
  | nobody
      (sound : ∀ s, p.status = some s →
        (∀ c ∈ s.initContainers.getD [] ++ s.containers.getD [], ¬ c.HasFailed) ∧ s.message.getD "" = "") :
      Tells p "builder pod failed"

/-- What a failed container adds to its exit code. -/
def Termination.added (t : Termination) : String :=
  match t.message.filter (fun m => !m.isEmpty) with
  | some m => ": " ++ Text.trimEnd m
  | none => ""

/-- A failed container adds one thing. -/
theorem Termination.adds_iff {t : Termination} {added : String} : t.Adds added ↔ added = t.added := by
  constructor
  · intro adds
    cases adds with
    | detail message filled trims =>
      rw [Text.trims_iff.mp trims, Termination.added, Text.filter_filled_eq_some_iff.mpr ⟨message, filled⟩]
    | nothing silent => rw [Termination.added, Text.filter_filled_eq_none_iff.mpr silent]
  -- What is added is told by whether there is a message.
  · rintro rfl
    unfold Termination.added
    split
    · rename_i m kept
      obtain ⟨message, filled⟩ := Text.filter_filled_eq_some_iff.mp kept
      exact .detail message filled (Text.trims_iff.mpr rfl)
    · rename_i dropped
      exact .nothing (Text.filter_filled_eq_none_iff.mp dropped)

namespace ContainerStatus

variable {c : ContainerStatus}

/-- A container tells of its failure just if it failed. -/
theorem failure?_eq_some_iff {reason : String} :
    c.failure? = some reason ↔ ∃ t, c.FailedBy t ∧
      reason = c.name ++ ": " ++ t.reason.getD "Error" ++ " (exit code " ++ toString t.exitCode ++ ")" ++ t.added := by
  unfold failure? FailedBy
  -- A container has failed when it has ended, and not well.
  cases c.state with
  | none => simp
  | some state =>
    cases ended : state.terminated with
    | none => simp [ended]
    | some t =>
      by_cases well : t.exitCode = 0
      · simp [ended, well]
      · simp [ended, well, eq_comm]
        rfl

/-- A container that did not fail tells nothing. -/
theorem failure?_eq_none_iff : c.failure? = none ↔ ¬ c.HasFailed := by
  -- A failed container has a reason to tell, and only such a one.
  rw [Option.eq_none_iff_forall_ne_some]
  constructor
  · intro silent ⟨t, failed⟩
    exact silent _ (failure?_eq_some_iff.mpr ⟨t, failed, rfl⟩)
  · intro sound reason told
    obtain ⟨t, failed, _⟩ := failure?_eq_some_iff.mp told
    exact sound ⟨t, failed⟩

/-- No container of a list tells of a failure just if none failed. -/
theorem findSome?_failure?_eq_none_iff {l : List ContainerStatus} :
    l.findSome? failure? = none ↔ ∀ c ∈ l, ¬ c.HasFailed := by
  simp only [List.findSome?_eq_none_iff, failure?_eq_none_iff]

instance : Decidable c.HasFailed :=
  decidable_of_iff (c.failure? ≠ none) (by rw [ne_eq, failure?_eq_none_iff, not_not])

/-- Of a list, only the containers that failed tell something. -/
theorem findSome?_failure?_filter (l : List ContainerStatus) :
    (l.filter (·.HasFailed)).findSome? failure? = l.findSome? failure? := by
  -- Containers that have not failed tell nothing, so the search passes over them.
  induction l with
  | nil => rfl
  | cons c rest ih =>
    by_cases failed : c.HasFailed
    · rw [List.filter_cons, if_pos (decide_eq_true failed), List.findSome?_cons, List.findSome?_cons, ih]
    · have silent := failure?_eq_none_iff.mpr failed
      rw [List.filter_cons, if_neg (mt of_decide_eq_true failed), List.findSome?_cons, silent, ih]

end ContainerStatus

namespace Pod

/-- Containers that did not fail have no influence on the reason. -/
theorem failureReason_congr {p q : Pod} {s u : PodStatus} (known : p.status = some s) (other : q.status = some u)
    (failed : s.allContainers.filter (·.HasFailed) = u.allContainers.filter (·.HasFailed))
    (message : s.message = u.message) : p.failureReason = q.failureReason := by
  -- The first reason is that of the first failed container.
  have told := congrArg (List.findSome? ContainerStatus.failure?) failed
  rw [ContainerStatus.findSome?_failure?_filter, ContainerStatus.findSome?_failure?_filter] at told
  simp only [failureReason, known, other, told, message]

/-- The reason of a failed pod is what tells it. -/
theorem tells_failureReason (p : Pod) : p.Tells p.failureReason := by
  unfold failureReason
  -- The reason is looked for in the containers first, then in the message of the pod.
  cases known : p.status with
  | none => exact .nobody (by simp [known])
  | some s =>
    simp only
    cases first : s.allContainers.findSome? ContainerStatus.failure? with
    | some reason =>
      obtain ⟨before, c, after, order, told, silent⟩ := List.findSome?_eq_some_iff.mp first
      obtain ⟨t, failed, rfl⟩ := ContainerStatus.failure?_eq_some_iff.mp told
      exact .container known order (fun d member => ContainerStatus.failure?_eq_none_iff.mp (silent d member)) failed
        (Termination.adds_iff.mpr rfl)
    | none =>
      -- No container has failed, so that the pod itself is asked.
      have sound := ContainerStatus.findSome?_failure?_eq_none_iff.mp first
      cases said : s.message.filter (fun m => !m.isEmpty) with
      | some m =>
        obtain ⟨message, filled⟩ := Text.filter_filled_eq_some_iff.mp said
        exact .pod known sound message filled
      | none =>
        refine .nobody fun u same => ?_
        obtain rfl := Option.some.inj (known.symm.trans same)
        exact ⟨sound, Text.filter_filled_eq_none_iff.mp said⟩

/-- Nothing else tells it. -/
theorem Tells.unique {p : Pod} {reason : String} (tells : p.Tells reason) : reason = p.failureReason := by
  unfold failureReason
  -- Each way of telling is the one that the search takes.
  cases tells with
  | container known order earlier failed adds =>
    obtain rfl := Termination.adds_iff.mp adds
    have told := ContainerStatus.failure?_eq_some_iff.mpr ⟨_, failed, rfl⟩
    have first := List.findSome?_eq_some_iff.mpr ⟨_, _, _, order, told, fun d member =>
      ContainerStatus.failure?_eq_none_iff.mpr (earlier d member)⟩
    simp only [known, PodStatus.allContainers, first]
  | pod known sound message filled =>
    -- The search in the containers finds nothing, and goes on to the message.
    have silent := ContainerStatus.findSome?_failure?_eq_none_iff.mpr sound
    have said := Text.filter_filled_eq_some_iff.mpr ⟨message, filled⟩
    simp only [known, PodStatus.allContainers, silent, said, Option.getD_some]
  | nobody sound =>
    cases known : p.status with
    | none => rfl
    | some s =>
      obtain ⟨sound, empty⟩ := sound s known
      have silent := ContainerStatus.findSome?_failure?_eq_none_iff.mpr sound
      have unsaid := Text.filter_filled_eq_none_iff.mpr empty
      simp only [PodStatus.allContainers, silent, unsaid]
      rfl

/-- A pod that failed has one reason, which is told by its first failed container or else by itself. -/
theorem tells_iff {p : Pod} {reason : String} : p.Tells reason ↔ reason = p.failureReason :=
  ⟨Tells.unique, fun same => same ▸ p.tells_failureReason⟩

/-- Whatever tells a reason says something. -/
theorem Tells.ne_empty {p : Pod} {reason : String} (tells : p.Tells reason) : reason ≠ "" := by
  -- The reason of a container contains a colon at least.
  cases tells with
  | container known order earlier failed adds =>
    intro empty
    simp at empty
  | pod known sound message filled => exact filled
  | nobody => decide

end Pod

end Kubernetes

end ImageBuild
