import ImageBuild.Proofs.Cluster.Outside

/-! Clusters that differ in nothing but the moments at which their pods were created and deleted, and in what
they remember of calls. -/

namespace ImageBuild

open Kubernetes

/-- The pod with all moments of its creation and deletion taken for one. -/
def Kubernetes.Pod.undated (pod : Pod) : Pod :=
  { pod with metadata := { pod.metadata with
    createdAt := pod.metadata.createdAt.map (fun _ => .epoch)
    deletedAt := pod.metadata.deletedAt.map (fun _ => .epoch) } }

namespace Kubernetes.Pod

/-- When a pod was created makes no difference without dates. -/
theorem undated_bornAt (pod : Pod) (time later : Instant) :
    (pod.bornAt time).undated = (pod.bornAt later).undated := rfl

/-- When a pod was deleted makes no difference without dates. -/
theorem undated_deletedAt {p q : Pod} (same : p.undated = q.undated) (time later : Instant) :
    (p.deletedAt time).undated = (q.deletedAt later).undated := by
  -- Everything else of the two pods is equal already.
  simp only [undated, deletedAt, Pod.mk.injEq, Meta.mk.injEq] at same ⊢
  simp_all

/-- Whether a pod has been deleted is known without dates. -/
theorem isTerminating_undated (pod : Pod) : pod.undated.isTerminating = pod.isTerminating := by
  simp [undated, isTerminating]

/-- Pods that differ in dates only have been deleted both, or neither has. -/
theorem isTerminating_congr {p q : Pod} (same : p.undated = q.undated) :
    p.isTerminating = q.isTerminating := by
  rw [← p.isTerminating_undated, same, q.isTerminating_undated]

/-- When a pod was deleted makes no difference without dates, also if that was before. -/
theorem undated_ended {p q : Pod} (same : p.undated = q.undated) (time later : Instant) :
    (p.ended time).undated = (q.ended later).undated := by
  -- Whether a pod is being deleted already is told without the dates.
  unfold ended
  rw [isTerminating_congr same]
  split
  · exact same
  · exact undated_deletedAt same time later

/-- What does not depend on dates is the same of pods that differ in nothing else. -/
theorem map_congr {β : Type} {x y : Option Pod} (same : x.map undated = y.map undated)
    {f g : Pod → β} (agree : ∀ p q : Pod, p.undated = q.undated → f p = g q) :
    x.map f = y.map g := by
  -- There is a pod on both sides or on neither.
  cases x with
  | none => rw [Option.map_eq_none_iff.mp same.symm, Option.map_none, Option.map_none]
  | some p =>
    obtain ⟨q, found, undated⟩ := Option.map_eq_some_iff.mp same.symm
    rw [found, Option.map_some, Option.map_some, agree p q undated.symm]

end Kubernetes.Pod

namespace Cluster

/-- Clusters with the same objects, apart from dates, where calls meet the same failures. -/
structure Alike (c d : Cluster) : Prop where
  pods : ∀ place, (c.pods.get? place).map Pod.undated = (d.pods.get? place).map Pod.undated
  secrets : c.secrets = d.secrets
  configMaps : c.configMaps = d.configMaps
  services : c.services = d.services
  lingering : c.lingering = d.lingering
  faults : c.faults = d.faults

variable {c d : Cluster}

namespace Alike

theorem refl (c : Cluster) : Alike c c := ⟨fun _ => rfl, rfl, rfl, rfl, rfl, rfl⟩

theorem trans {e : Cluster} (first : Alike c d) (second : Alike d e) : Alike c e :=
  -- Each part of the two clusters is compared for itself.
  ⟨fun place => (first.pods place).trans (second.pods place), first.secrets.trans second.secrets,
    first.configMaps.trans second.configMaps, first.services.trans second.services,
    first.lingering.trans second.lingering, first.faults.trans second.faults⟩

end Alike

/-- Clusters that are alike as far as somebody sees who looks at no pods but those in certain places. -/
structure AlikeAt (Seen : Reference → Prop) (c d : Cluster) : Prop where
  pods : ∀ place, Seen place →
    (c.pods.get? place).map Pod.undated = (d.pods.get? place).map Pod.undated
  secrets : c.secrets = d.secrets
  configMaps : c.configMaps = d.configMaps
  services : c.services = d.services
  lingering : c.lingering = d.lingering
  faults : c.faults = d.faults

/-- Clusters that are alike are so wherever somebody looks. -/
theorem Alike.seen (alike : Alike c d) (Seen : Reference → Prop) : AlikeAt Seen c d :=
  -- One who sees some of the pods sees no more than one who sees them all.
  ⟨fun place _ => alike.pods place, alike.secrets, alike.configMaps, alike.services,
    alike.lingering, alike.faults⟩

namespace AlikeAt

variable {Seen : Reference → Prop}

theorem symm (alike : AlikeAt Seen c d) : AlikeAt Seen d c :=
  ⟨fun place seen => (alike.pods place seen).symm, alike.secrets.symm, alike.configMaps.symm,
    alike.services.symm, alike.lingering.symm, alike.faults.symm⟩

theorem trans {e : Cluster} (first : AlikeAt Seen c d) (second : AlikeAt Seen d e) :
    AlikeAt Seen c e :=
  ⟨fun place seen => (first.pods place seen).trans (second.pods place seen),
    first.secrets.trans second.secrets, first.configMaps.trans second.configMaps,
    first.services.trans second.services, first.lingering.trans second.lingering,
    first.faults.trans second.faults⟩

/-- Clusters are alike if somebody who looks everywhere sees no difference. -/
theorem everywhere (alike : AlikeAt Seen c d) (all : ∀ place, Seen place) : Alike c d :=
  -- Where every place is seen, no pod is left out of the comparison.
  ⟨fun place => alike.pods place (all place), alike.secrets, alike.configMaps, alike.services,
    alike.lingering, alike.faults⟩

/-- Calls meet the same failure. -/
theorem fault? (alike : AlikeAt Seen c d) : c.fault? = d.fault? := by
  rw [Cluster.fault?, Cluster.fault?, alike.faults]

/-- A call is noted in both clusters. -/
theorem called (alike : AlikeAt Seen c d) (call : Call) :
    AlikeAt Seen (c.called call) (d.called call) :=
  { alike with faults := congrArg (List.drop 1) alike.faults }

/-- The same names are taken in places that are seen. -/
theorem contains (alike : AlikeAt Seen c d) {place : Reference} (seen : Seen place) :
    c.pods.contains place = d.pods.contains place := by
  -- Whether there is a pod is told without any date.
  have same := congrArg Option.isSome (alike.pods place seen)
  simpa [Dict.contains] using same

/-- The same pod is created in both clusters. -/
theorem created (alike : AlikeAt Seen c d) (place : Reference) (pod : Pod) :
    AlikeAt Seen { c with pods := c.pods.insert place (pod.bornAt c.clock) }
      { d with pods := d.pods.insert place (pod.bornAt d.clock) } := by
  -- The new pod is put to the same place on both sides, and no other place changes.
  refine { alike with pods := fun p seen => ?_ }
  rw [Dict.get?_insert, Dict.get?_insert]
  split
  · -- The clocks may differ, but dates do not count.
    exact congrArg some (pod.undated_bornAt c.clock d.clock)
  · exact alike.pods p seen

/-- The same pod is deleted in both clusters. -/
theorem deleted (alike : AlikeAt Seen c d) (place : Reference) :
    AlikeAt Seen { c with pods := c.podsWithout place } { d with pods := d.podsWithout place } := by
  -- Only the place of the deleted pod changes, and it changes alike on both sides.
  refine { alike with pods := fun p seen => ?_ }
  have same := alike.pods p seen
  change ((c.podsWithout place).get? p).map Pod.undated =
    ((d.podsWithout place).get? p).map Pod.undated
  rw [get?_podsWithout, get?_podsWithout, alike.lingering]
  split
  · rename_i own
    subst own
    split
    · -- A pod that lingers gets a date of deletion, which does not count.
      rw [Option.map_map, Option.map_map]
      exact Pod.map_congr same (fun p q same => Pod.undated_ended same _ _)
    · rfl
  · exact same

end AlikeAt

/-- A pod that has been deleted may be deleted again, which changes nothing. -/
theorem podsWithout_podsWithout (c : Cluster) (place : Reference) (later : Instant) :
    podsWithout { c with pods := c.podsWithout place, clock := later } place =
      c.podsWithout place := by
  -- The second deletion finds what the first has left in that place, and the rest is as it was.
  apply Dict.ext_get?
  intro p
  rw [get?_podsWithout]
  change (if p = place then if c.lingering then ((c.podsWithout place).get? place).map
    (fun pod => pod.ended later) else none else (c.podsWithout place).get? p) = _
  split
  · rename_i own
    subst own
    rw [get?_podsWithout, if_pos rfl]
    split
    · -- The pod keeps the date of its first deletion.
      rw [Option.map_map]
      congr 1
      funext pod
      exact pod.ended_ended c.clock later
    · rfl
  · rfl

end Cluster

end ImageBuild
