import ImageBuild.Proofs.Engine.Workers

/-! What one step changes in a cluster: nothing but the pod of its build, and that by no more than one call. -/

namespace ImageBuild

open Cluster Kubernetes Run Work Worker

/-- Calls for pods alone leave every ConfigMap as it is. -/
theorem Cluster.Footprint.configMaps_eq {made : List Call} {c d : Cluster}
    (footprint : Footprint made c d)
    (pods : ∀ call ∈ made.filter Call.isWrite, call.configMap? = none) :
    d.configMaps = c.configMaps := by
  apply Dict.ext_get?
  intro p
  -- A change of a ConfigMap would be among the calls that write.
  have absent : ∀ call : Call, call.isWrite = true → call.configMap? = some p → call ∉ made := by
    intro call write named member
    have none := pods call (List.mem_filter.mpr ⟨member, write⟩)
    rw [named] at none
    cases none
  exact footprint.configMaps p (absent _ rfl rfl) (absent _ rfl rfl)

namespace Engine

/-- The changes that a step may ask for: a pod is created only as long as the build has not been seen running. -/
inductive Touches (s : Settings) (b : Build) : List Call → Prop
  | nothing : Touches s b []
  | deletion : Touches s b [.deletePod (podPlace s b)]
  | creation (unseen : b.phase = .scheduling ∨ b.phase = .pending) :
      Touches s b [.createPod (podPlace s b)]

namespace Touches

variable {s : Settings} {b : Build} {writes : List Call}

/-- What a step changes is the pod of its build. -/
theorem pod? (touches : Touches s b writes) : ∀ call ∈ writes, call.pod? = some (podPlace s b) := by
  intro call member
  -- There is one write at most, and it names the pod of the build.
  cases touches with
  | nothing => cases member
  | deletion => rw [List.mem_singleton.mp member]; rfl
  | creation unseen => rw [List.mem_singleton.mp member]; rfl

/-- No pod but that of the build is changed. -/
theorem pods_eq {made : List Call} {c d : Cluster} (footprint : Footprint made c d)
    (touches : Touches s b (made.filter Call.isWrite)) {p : Reference} (other : p ≠ podPlace s b) :
    d.pods.get? p = c.pods.get? p := by
  -- A call that writes is for the pod of the build, and so for no other one.
  have absent : ∀ call : Call, call.isWrite = true → call.pod? = some p → call ∉ made := by
    intro call write named member
    have own := touches.pod? call (List.mem_filter.mpr ⟨member, write⟩)
    exact other (Option.some.inj (named.symm.trans own))
  exact footprint.pods p (absent _ rfl rfl) (absent _ rfl rfl)

/-- No ConfigMap is changed. -/
theorem configMaps_eq {made : List Call} {c d : Cluster} (footprint : Footprint made c d)
    (touches : Touches s b (made.filter Call.isWrite)) : d.configMaps = c.configMaps :=
  footprint.configMaps_eq fun call member => Call.configMap?_of_pod? (touches.pod? call member)

end Touches

/-- Looking at a pod changes nothing. -/
theorem quiet_find (s : Settings) (b : Build) : Quiet (Work.find (getPod (podPlace s b))) :=
  .find rfl (Footprint.of_looks (looks_getPod _))

/-- Reading for a worker pod changes nothing. -/
theorem quiet_pod (s : Settings) (b : Build) : Quiet (pod s b) :=
  (reads_pod s b).makes.mono fun _ asked => asked.not_isWrite

/-- The pod of a build is deleted by one call. -/
theorem writes_delete (s : Settings) (b : Build) : Writes (Touches s b) (deletePod s b) :=
  (Writes.callUnless _ .deletion rfl (Footprint.deletePod _)).bind_quiet fun _ => .pure _

/-- The pod of a build is created by one call. -/
theorem writes_create {s : Settings} {b : Build}
    (unseen : b.phase = .scheduling ∨ b.phase = .pending) : Writes (Touches s b) (createPod s b) := by
  refine .quiet_bind (quiet_pod s b) (fun c d built ran => (pod_ok ran).1) .nothing
    fun built named => ?_
  -- The pod is created in the place that it was put together for.
  have fits : Touches s b [.createPod built.reference] := by
    rw [named]
    exact .creation unseen
  exact (Writes.callUnless _ fits rfl (Footprint.createPod built)).bind_quiet fun _ => .pure _

/-- Following a worker deletes its pod, or creates one for a build that has not been seen running. -/
theorem writes_follow {s : Settings} {b : Build} (now : Instant)
    (active : b.phase = .pending ∨ b.phase = .running) :
    Writes (Touches s b) (follow s now b) := by
  unfold follow
  split
  · exact (writes_delete s b).bind_quiet fun _ => .pure _
  · refine .quiet_bind (quiet_find s b) (.any _) .nothing fun found _ => ?_
    cases found with
    | some pod => exact .of_quiet (.pure _) .nothing
    | none =>
      simp only
      split
      · exact .of_quiet (.pure _) .nothing
      -- The build is active and was not seen running, so that it is pending.
      · rename_i unseen
        exact (writes_create (.inr (active.resolve_right unseen))).bind_quiet fun _ => .pure _

/-- A step asks for no more than one change, and that of the pod of its build. -/
theorem writes_stepWork (s : Settings) (now : Instant) (b : Build) :
    Writes (Touches s b) (stepWork s now b) := by
  unfold stepWork
  cases chosen : Action.next? b with
  | none => exact .of_quiet (.pure b) .nothing
  | some action =>
    have inside := Action.mem_phases (Action.accepts_of_next? chosen)
    cases action with
    | prepare =>
      -- The pod is looked for once its deletion has been asked for.
      refine (writes_delete s b).bind_quiet fun _ => (quiet_find s b).bind fun found => ?_
      cases found <;> exact .pure _
    | launch =>
      -- A build is launched from one phase only.
      have scheduled := List.mem_singleton.mp inside
      exact (writes_create (.inl scheduled)).bind_quiet fun _ => .pure _
    | monitor => exact writes_follow now (by simpa [Action.phases] using inside)
    | recover => exact .of_quiet (.pure _) .nothing
    | giveUp => exact .of_quiet (.pure b) .nothing
    | cleanUp => exact (writes_delete s b).bind_quiet fun _ => .pure b

/-- A reconciliation and its traces: it asks for one change at most, that of the pod of its build, leaves all other
objects alone, and returns the build that it was given in all but version and status. -/
structure Tidy (s : Settings) (b : Build) (c d : Cluster) (result : Except BuildError Build) :
    Prop where
  calls : ∃ made, Footprint made c d ∧ Touches s b (made.filter Call.isWrite)
  pods : ∀ p, p ≠ podPlace s b → d.pods.get? p = c.pods.get? p
  secrets : d.secrets = c.secrets
  configMaps : d.configMaps = c.configMaps
  services : d.services = c.services
  build : ∀ r, result = .ok r → r.reference = b.reference ∧ r.spec = b.spec

/-- Whoever asks for the changes of a step leaves all other objects alone. -/
theorem Tidy.of_writes {s : Settings} {b : Build} {α : Type} {w : Work α}
    (writes : Writes (Touches s b) w) (c : Cluster) {result : Except BuildError Build}
    (build : ∀ r, result = .ok r → r.reference = b.reference ∧ r.spec = b.spec) :
    Tidy s b c (w.run.run c).2 result := by
  -- All that is said of the cluster is read off the calls that were made.
  obtain ⟨made, touches, footprint⟩ := writes c
  exact ⟨⟨made, footprint, touches⟩, fun p => touches.pods_eq footprint, footprint.secrets,
    touches.configMaps_eq footprint, footprint.services, build⟩

variable {σ : Type} [BuildStore σ]

/-- Every reconciliation is tidy. -/
theorem tidy_reconcile [FaithfulStore σ] (s : Settings) (now : Instant) (b : Build) (g : Engine σ) :
    Tidy s b g.cluster ((reconcile s now b).run.run g).2.cluster
      ((reconcile s now b).run.run g).1 := by
  rw [cluster_reconcile]
  refine .of_writes (writes_stepWork s now b) g.cluster fun r returned => ?_
  -- What is returned is what the step made of the build, under the version of its save.
  obtain ⟨target, version, made, rfl⟩ :=
    Move.make_ok (m := .reconcile s now) (Prod.ext returned rfl)
  have same := Advance.only_status made
  rw [same]
  exact ⟨rfl, rfl⟩

end Engine

end ImageBuild
