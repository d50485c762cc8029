import ImageBuild.Proofs.Engine.Apart
import ImageBuild.Proofs.Engine.Timeless
import ImageBuild.Proofs.Engine.Touches
import ImageBuild.Proofs.Store.Orderless

/-! Builds whose workers have different places may be carried on in either order. -/

namespace ImageBuild

open Cluster Kubernetes Run Work Worker

/-- The cluster at another time. -/
def Cluster.atTime (c : Cluster) (time : Instant) : Cluster := { c with clock := time }

/-- The passing of time is not seen. -/
theorem Cluster.AlikeAt.atTime {Seen : Reference → Prop} {c d : Cluster} (alike : AlikeAt Seen c d)
    (time : Instant) : AlikeAt Seen c (d.atTime time) :=
  { alike with }

namespace Work

variable {α β : Type}

/-- Work that leaves everything alone but the pod in one place, where no failures are planned. -/
def Local (place : Reference) (w : Work α) : Prop :=
  ∀ c, c.faults = [] → AlikeAt (· ≠ place) c (w.run.run c).2

/-- Two pieces of work that each see and change one place of their own come to the same in either order. -/
theorem commute {place other : Reference} {v : Work α} {w : Work β} (apart : place ≠ other)
    (first : Confined place v) (firstLocal : Local place v)
    (second : Confined other w) (secondLocal : Local other w)
    {c : Cluster} (calm : c.faults = []) (time otherTime : Instant) :
    (w.run.run ((v.run.run c).2.atTime time)).1 = (w.run.run c).1 ∧
      (v.run.run ((w.run.run c).2.atTime otherTime)).1 = (v.run.run c).1 ∧
      Alike (w.run.run ((v.run.run c).2.atTime time)).2
        (v.run.run ((w.run.run c).2.atTime otherTime)).2 := by
  -- Without what it sees itself, neither finds a trace of the other.
  have untouched := (firstLocal c calm).atTime time
  have untouchedToo := (secondLocal c calm).atTime otherTime
  obtain ⟨result, after⟩ := second (· ≠ place) apart.symm _ _ untouched
  obtain ⟨otherResult, otherAfter⟩ := first (· ≠ other) apart _ _ untouchedToo
  -- Beside each place, the later work there changes nothing that the other order would show.
  have beside := firstLocal ((w.run.run c).2.atTime otherTime)
    (untouchedToo.faults.symm.trans calm)
  have besideToo := secondLocal ((v.run.run c).2.atTime time) (untouched.faults.symm.trans calm)
  have left : AlikeAt (· ≠ place) (w.run.run ((v.run.run c).2.atTime time)).2
      (v.run.run ((w.run.run c).2.atTime otherTime)).2 :=
    after.symm.trans { beside with }
  have right : AlikeAt (· ≠ other) (w.run.run ((v.run.run c).2.atTime time)).2
      (v.run.run ((w.run.run c).2.atTime otherTime)).2 :=
    (otherAfter.symm.trans { besideToo with }).symm
  refine ⟨result.symm, otherResult.symm, ?_⟩
  refine ⟨fun p => ?_, left.secrets, left.configMaps, left.services, left.lingering, left.faults⟩
  -- No place is that of both pods.
  by_cases own : p = place
  · exact right.pods p (own ▸ apart)
  · exact left.pods p own

end Work

namespace Engine

/-- A step leaves everything alone but the pod of its build. -/
theorem local_stepWork (s : Settings) (now : Instant) (b : Build) :
    Local (podPlace s b) (stepWork s now b) := by
  intro c calm
  obtain ⟨made, touches, footprint⟩ := writes_stepWork s now b c
  refine ⟨fun p other => congrArg _ (touches.pods_eq footprint other).symm,
    footprint.secrets.symm, (touches.configMaps_eq footprint).symm, footprint.services.symm,
    footprint.lingering.symm, ?_⟩
  -- Of failures that are not planned none is used up.
  rw [footprint.faults, calm, List.drop_nil]

/-- The result of a step leaves every store alone, or is saved in every store. -/
theorem filed_cases (σ : Type) [BuildStore σ] {b : Build} {result : Except BuildError Build}
    (kept : ∀ target, result = .ok target → target.reference = b.reference) :
    (∃ r, ∀ st : σ, filed b st result = (r, st)) ∨
      ∃ target : Build, target.reference = b.reference ∧ ∀ st : σ, filed b st result =
        ((BuildStore.save target st).result, (BuildStore.save target st).store) := by
  -- Only a build that has changed is saved.
  cases result with
  | error e => exact .inl ⟨.error e, fun _ => rfl⟩
  | ok target =>
    by_cases same : target = b
    · exact .inl ⟨.ok b, fun st => if_pos same⟩
    · exact .inr ⟨target, kept target rfl, fun st => if_neg same⟩

/-- The results of steps of builds with different keys are filed in either order. -/
theorem filed_comm {σ : Type} [BuildStore σ] [OrderlessStore σ] {b c : Build}
    {result other : Except BuildError Build} {st : σ} (sound : SteadyStore.Sound st)
    (admits : SteadyStore.Admits st b.reference) (admitsToo : SteadyStore.Admits st c.reference)
    (different : b.reference.key ≠ c.reference.key)
    (kept : ∀ target, result = .ok target → target.reference = b.reference)
    (otherKept : ∀ target, other = .ok target → target.reference = c.reference) :
    (filed c (filed b st result).2 other).1 = (filed c st other).1 ∧
      (filed b (filed c st other).2 result).1 = (filed b st result).1 ∧
      OrderlessStore.Same (filed c (filed b st result).2 other).2
        (filed b (filed c st other).2 result).2 := by
  rcases filed_cases σ kept with ⟨r, first⟩ | ⟨target, named, first⟩
  · -- Of the first build nothing is saved, so that there is but one save.
    rw [first, first]
    exact ⟨rfl, rfl, OrderlessStore.same_refl _⟩
  rcases filed_cases σ otherKept with ⟨r, second⟩ | ⟨otherTarget, otherNamed, second⟩
  -- Likewise of the second one.
  · rw [second, second]
    exact ⟨rfl, rfl, OrderlessStore.same_refl _⟩
  -- With two saves it is the store that makes them commute.
  · rw [first, first, second, second]
    rw [← named] at admits different
    rw [← otherNamed] at admitsToo different
    obtain ⟨later, same⟩ := OrderlessStore.orderless sound admits admitsToo different
    exact ⟨later, (OrderlessStore.orderless sound admitsToo admits different.symm).1, same⟩

/-- The engine at another time of its cluster. -/
def atTime {σ : Type} (g : Engine σ) (time : Instant) : Engine σ :=
  { g with cluster := g.cluster.atTime time }

variable {σ : Type} [BuildStore σ] [FaithfulStore σ] [OrderlessStore σ]

end Engine

end ImageBuild
