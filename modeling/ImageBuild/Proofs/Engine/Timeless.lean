import ImageBuild.Proofs.Cluster.Alike
import ImageBuild.Proofs.Engine.Workers

/-! A step takes no note of the pods of other builds, nor of the moments at which pods were created and deleted: in
clusters that differ in these only it comes to the same. -/

namespace ImageBuild

open Cluster Kubernetes Run Worker

namespace Work

variable {α β : Type} {place : Reference}

/-- Work that comes to the same in clusters that are alike, and leaves them alike. -/
def Timeless (w : Work α) : Prop :=
  ∀ c d, Alike c d → (w.run.run c).1 = (w.run.run d).1 ∧ Alike (w.run.run c).2 (w.run.run d).2

/-- Work that comes to the same in clusters that are alike as far as somebody sees who sees one place, and leaves
them alike so far. -/
def Confined (place : Reference) (w : Work α) : Prop :=
  ∀ Seen : Reference → Prop, Seen place → ∀ c d, AlikeAt Seen c d →
    (w.run.run c).1 = (w.run.run d).1 ∧ AlikeAt Seen (w.run.run c).2 (w.run.run d).2

namespace Confined

/-- A value by itself takes no note of anything. -/
theorem pure (a : α) : Confined place (Pure.pure a : Work α) := fun _ _ _ _ alike => ⟨rfl, alike⟩

/-- Joined work is confined to a place when its parts are. -/
theorem bind {w : Work α} {k : α → Work β} (first : Confined place w)
    (later : ∀ a, Confined place (k a)) : Confined place (w >>= k) :=
  fun Seen seen => Parallel.bind (first Seen seen) fun a => later a Seen seen

/-- Work that sees no more than one place comes to the same in clusters that are alike everywhere. -/
theorem timeless {w : Work α} (confined : Confined place w) : Timeless w := by
  -- Two clusters that are alike are alike to one who sees all of their pods.
  intro c d alike
  obtain ⟨result, after⟩ := confined (fun _ => True) trivial c d (alike.seen _)
  exact ⟨result, after.everywhere fun _ => trivial⟩

end Confined

/-- Reading is confined to any place where no pod has a part in it. -/
theorem Reads.confined {Allowed : Call → Prop} {w : Work α} (reads : Reads Allowed w) :
    Confined place w := by
  -- A call that reads finds the same objects, or meets the same failure.
  have answers : ∀ {α : Type} {answer : Cluster → Except ClusterError α} {Seen : Reference → Prop}
      {c d : Cluster}, PodBlind answer → AlikeAt Seen c d → answer c = answer d :=
    fun blind alike => blind _ _ alike.secrets alike.configMaps alike.services
  -- The induction is on how the work is put together.
  induction reads with
  | pure a => exact .pure a
  | throw e => exact fun Seen _ c d alike => ⟨rfl, alike⟩
  | call allowed looks blind =>
    intro Seen _ c d alike
    rw [run_call, run_call, looks c, looks d, alike.fault?, answers blind alike]
    exact ⟨rfl, alike.called _⟩
  | find allowed looks blind =>
    intro Seen _ c d alike
    rw [Work.find, run_callUnless, run_callUnless, looks c, looks d, alike.fault?,
      answers blind alike]
    exact ⟨rfl, alike.called _⟩
  | bind _ _ confinedFirst confinedLater => exact confinedFirst.bind confinedLater

end Work

namespace Engine

open Work

/-- Deleting the pod of a build is confined to its place. -/
theorem confined_delete (s : Settings) (b : Build) : Confined (podPlace s b) (deletePod s b) := by
  intro Seen _ c d alike
  have called := alike.called (.deletePod (podPlace s b))
  rw [run_delete, run_delete, alike.fault?]
  -- The deletion goes by its failure and by its place, and both are the same in the two clusters.
  cases d.fault? with
  | some e => exact ⟨rfl, called⟩
  | none => exact ⟨rfl, called.deleted _⟩

/-- Looking at the pod of a build is confined to its place when dates play no part in what follows. -/
theorem confined_look {α : Type} (s : Settings) (b : Build) {k : Option Pod → Work α}
    (each : ∀ found, Confined (podPlace s b) (k found))
    (undated : ∀ p q : Pod, p.undated = q.undated → k (some p) = k (some q)) :
    Confined (podPlace s b) (Work.find (getPod (podPlace s b)) >>= k) := by
  intro Seen seen c d alike
  have called := alike.called (.getPod (podPlace s b))
  have same : (c.pods.get? (podPlace s b)).map (fun p => k (some p)) =
      (d.pods.get? (podPlace s b)).map (fun p => k (some p)) :=
    Pod.map_congr (alike.pods _ seen) undated
  rw [run_bind, run_bind, run_find, run_find, alike.fault?]
  cases d.fault? with
  | some e =>
    -- A failure that says that there is no pod says so in both clusters.
    simp only
    cases e.isNotFound with
    | false => exact ⟨rfl, called⟩
    | true => exact each none Seen seen _ _ called
  | none =>
    cases there : c.pods.get? (podPlace s b) with
    | none =>
      rw [there] at same
      rw [Option.map_eq_none_iff.mp same.symm]
      exact each none Seen seen _ _ called
    | some p =>
      rw [there] at same
      -- The two pods differ in their dates at most, and lead to the same work.
      obtain ⟨q, found, next⟩ := Option.map_eq_some_iff.mp same.symm
      have next : k (some q) = k (some p) := next
      rw [found]
      simp only [next]
      exact each (some p) Seen seen _ _ called

/-- Creating the pod of a build is confined to its place. -/
theorem confined_create (s : Settings) (b : Build) : Confined (podPlace s b) (createPod s b) := by
  intro Seen seen c d alike
  obtain ⟨result, after⟩ := (reads_pod s b).confined Seen seen c d alike
  unfold createPod
  rw [run_bind, run_bind]
  rcases ranLeft : (pod s b).run.run c with ⟨r, c'⟩
  rcases ranRight : (pod s b).run.run d with ⟨r', d'⟩
  rw [ranLeft, ranRight] at result after
  obtain rfl : r = r' := result
  cases r with
  | error e => exact ⟨rfl, after⟩
  | ok built =>
    have called := after.called (.createPod built.reference)
    -- The pod is created in the place of its build, which is seen.
    have taken := after.contains ((pod_ok ranLeft).1 ▸ seen : Seen built.reference)
    simp only
    rw [run_bind, run_bind, run_callUnless, run_callUnless, run_createPod, run_createPod,
      after.fault?, taken]
    cases d'.fault? with
    | some e =>
      simp only
      cases e.isAlreadyExists with
      | false => exact ⟨rfl, called⟩
      | true => exact ⟨rfl, called⟩
    | none =>
      simp only
      -- The pod that is returned has a date, but nobody looks at it.
      cases d'.pods.contains built.reference with
      | true => exact ⟨rfl, called⟩
      | false => exact ⟨rfl, called.created built.reference built⟩

/-- What is seen of a pod does not depend on dates. -/
theorem observed_undated (b : Build) {p q : Pod} (same : p.undated = q.undated) (now : Instant) :
    observed b p now = observed b q now := by
  have status : p.undated.status = q.undated.status := congrArg Pod.status same
  -- Dates are no part of the state that a pod reports.
  change p.status = q.status at status
  simp only [observed, Pod.phase, Pod.failureReason, status]

/-- Making room for the worker of a build is confined to its place. -/
theorem confined_prepare (s : Settings) (b : Build) : Confined (podPlace s b) (prepare s b) := by
  -- What is found makes no difference to a build that is prepared.
  refine (confined_delete s b).bind (fun _ => confined_look s b (fun found => ?_) (fun _ _ _ => rfl))
  cases found <;> exact .pure _

/-- Following a worker is confined to its place. -/
theorem confined_follow (s : Settings) (now : Instant) (b : Build) :
    Confined (podPlace s b) (follow s now b) := by
  unfold follow
  split
  · exact (confined_delete s b).bind (fun _ => .pure _)
  · -- What is seen of a pod is its state, which has no dates.
    refine confined_look s b (fun found => ?_)
      (fun p q same => congrArg Pure.pure (observed_undated b same now))
    -- A pod is created only where none was found, and in the place that was seen to be free.
    cases found with
    | some pod => exact .pure _
    | none =>
      simp only
      split
      · exact .pure _
      · exact (confined_create s b).bind (fun _ => .pure _)

/-- A step is confined to the place of the pod of its build. -/
theorem confined_stepWork (s : Settings) (now : Instant) (b : Build) :
    Confined (podPlace s b) (stepWork s now b) := by
  unfold stepWork
  cases Action.next? b with
  | none => exact .pure b
  | some action =>
    -- Each action consists of the deletions, looks and creations from above.
    cases action with
    | prepare => exact confined_prepare s b
    | launch => exact (confined_create s b).bind (fun _ => .pure _)
    | monitor => exact confined_follow s now b
    | recover => exact .pure _
    | giveUp => exact .pure b
    | cleanUp => exact (confined_delete s b).bind (fun _ => .pure b)

/-- A step is timeless. -/
theorem timeless_stepWork (s : Settings) (now : Instant) (b : Build) :
    Timeless (stepWork s now b) := (confined_stepWork s now b).timeless

end Engine

end ImageBuild
