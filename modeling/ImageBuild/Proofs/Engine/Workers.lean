import ImageBuild.Proofs.Cluster.Outside
import ImageBuild.Proofs.Engine.Unlogged

/-! What the work of the engine does to the worker pods of builds: all that a deletion and a creation can come to. -/

namespace ImageBuild

open Kubernetes Run Work Worker

namespace Engine

open Cluster

/-- The pod of a build is deleted, or is missing already, unless the call meets another failure. -/
theorem run_delete (s : Settings) (b : Build) (c : Cluster) :
    (deletePod s b).run.run c =
      match c.fault? with
      | some e => (if e.isNotFound then .ok () else .error (.cluster e),
          c.called (.deletePod (podPlace s b)))
      | none => (.ok (), { c.called (.deletePod (podPlace s b)) with
          pods := c.podsWithout (podPlace s b) }) := by
  unfold deletePod Work.find
  rw [run_bind, Work.run_callUnless, run_deletePod]
  cases c.fault? with
  | some e =>
    simp only
    cases e.isNotFound <;> rfl
  | none =>
    simp only
    -- That the pod is missing is no failure.
    cases c.pods.contains (podPlace s b) <;> rfl

/-- Looking for the pod of a build changes nothing. -/
theorem run_find (s : Settings) (b : Build) (c : Cluster) :
    (Work.find (getPod (podPlace s b))).run.run c =
      (match c.fault? with
        | some e => if e.isNotFound then .ok none else .error (.cluster e)
        | none => .ok (c.pods.get? (podPlace s b)),
      c.called (.getPod (podPlace s b))) := by
  unfold Work.find
  rw [Work.run_callUnless, looks_getPod]
  -- Not having found the pod is an answer here, and any other failure is passed on.
  cases c.fault? with
  | some e => rfl
  | none =>
    simp only [found]
    cases c.pods.get? (podPlace s b) <;> rfl

/-- What the creation of the pod of a build can come to: its result, and the pods after it. -/
inductive Creation (s : Settings) (b : Build) (c : Cluster) :
    Except BuildError Unit → Dict Reference Pod → Prop
  /-- The pod could not be put together, or the call failed. -/
  | failed (e : BuildError) : Creation s b c (.error e) c.pods
  /-- Some pod has the name already, or the cluster says so. -/
  | kept (taken : c.pods.contains (podPlace s b) ∨ ∃ e, some e ∈ c.faults ∧ e.isAlreadyExists) :
      Creation s b c (.ok ()) c.pods
  /-- The pod is there now, and was put together for it. -/
  | made {built : Pod} (assembled : ((pod s b).run.run c).1 = .ok built)
      (free : c.pods.get? (podPlace s b) = none) :
      Creation s b c (.ok ()) (c.pods.insert (podPlace s b) (built.bornAt c.clock))

/-- The creation of a pod comes to nothing else. -/
theorem create_cases (s : Settings) (b : Build) (c : Cluster) :
    Creation s b c ((createPod s b).run.run c).1 ((createPod s b).run.run c).2.pods := by
  -- Reading for the pod leaves pods and clock as they are, and plans no failure.
  have pods := pods_of_pod s b c
  have clock := clock_of_pod s b c
  have planned : ∀ e, some e ∈ ((pod s b).run.run c).2.faults → some e ∈ c.faults :=
    (reads_pod s b).keeps (P := fun d => ∀ e, some e ∈ d.faults → some e ∈ c.faults)
      (fun d _ within e member => within e (List.mem_of_mem_drop member)) c (fun _ member => member)
  unfold createPod
  rw [run_bind]
  rcases read : (pod s b).run.run c with ⟨result, d⟩
  rw [read] at pods clock planned
  simp only at pods clock planned
  cases result with
  | error e =>
    change Creation s b c (.error e) d.pods
    rw [pods]
    exact .failed e
  | ok built =>
    have named : built.reference = podPlace s b := (pod_ok read).1
    simp only
    rw [run_bind, Work.run_callUnless, run_createPod, named]
    cases fault : d.fault? with
    | some e =>
      simp only
      cases exists_ : e.isAlreadyExists with
      | false => exact pods ▸ .failed (.cluster e)
      | true =>
        -- The call is taken at its word.
        exact pods ▸ .kept (.inr ⟨e, planned e (mem_faults_of_fault? fault), exists_⟩)
    | none =>
      simp only
      cases taken : d.pods.contains (podPlace s b) with
      | true => exact pods ▸ .kept (.inl (pods ▸ taken))
      | false =>
        have free : c.pods.get? (podPlace s b) = none := by
          rw [pods] at taken
          simpa [Dict.contains] using taken
        change Creation s b c (.ok ()) (d.pods.insert (podPlace s b) (built.bornAt d.clock))
        rw [pods, clock]
        exact .made (by rw [read]) free

/-- Work that tends the pod of a build: it deletes the pod, looks for it, or creates one that may be needed. -/
inductive Tends (s : Settings) (b : Build) : {α : Type} → Work α → Prop
  /-- There is nothing to do. -/
  | pure {α : Type} (a : α) : Tends s b (Pure.pure a)
  | deletes : Tends s b (deletePod s b)
  | finds : Tends s b (Work.find (getPod (podPlace s b)))
  | creates (needed : b.phase = .scheduling ∨ b.phase = .pending) : Tends s b (createPod s b)
  /-- Other work follows. -/
  | bind {α β : Type} {w : Work α} {k : α → Work β} (first : Tends s b w)
      (later : ∀ a, Tends s b (k a)) : Tends s b (w >>= k)

/-- A step does nothing but to tend the pod of its build. -/
theorem tends_stepWork (s : Settings) (now : Instant) (b : Build) :
    Tends s b (stepWork s now b) := by
  unfold stepWork
  cases chosen : Action.next? b with
  | none => exact .pure b
  | some action =>
    have inside := Action.mem_phases (Action.accepts_of_next? chosen)
    cases action with
    | prepare =>
      -- Preparing deletes a pod and looks for it, and creates none.
      refine Tends.deletes.bind (fun _ => Tends.finds.bind (fun found => ?_))
      cases found <;> exact .pure _
    | launch =>
      -- Only scheduled builds are launched.
      have scheduled := List.mem_singleton.mp inside
      exact (Tends.creates (.inl scheduled)).bind (fun _ => .pure _)
    | monitor =>
      change Tends s b (follow s now b)
      unfold follow
      split
      · exact Tends.deletes.bind (fun _ => .pure _)
      · refine Tends.finds.bind (fun found => ?_)
        cases found with
        | some pod => exact .pure _
        | none =>
          simp only
          split
          · exact .pure _
          · -- A build that is followed and has not been seen running is pending.
            rename_i unseen
            have active : b.phase = .pending ∨ b.phase = .running := by
              simpa [Action.phases] using inside
            exact (Tends.creates (.inr (active.resolve_right unseen))).bind (fun _ => .pure _)
    | recover => exact .pure _
    | giveUp => exact .pure b
    | cleanUp => exact Tends.deletes.bind (fun _ => .pure b)

section

variable {P : Cluster → Prop} (noted : ∀ c call, P c → P (c.called call))

include noted

/-- The deletion of a pod keeps what is kept when a pod goes. -/
theorem keeps_delete (removed : ∀ c place, P c → P { c with pods := c.podsWithout place })
    (s : Settings) (b : Build) : Keeps P (deletePod s b) := by
  intro c holds
  have called := noted c (.deletePod (podPlace s b)) holds
  rw [run_delete]
  -- A call that fails is counted, and the pods stay.
  cases c.fault? with
  | some e => exact called
  | none => exact removed _ _ called

/-- A look at a pod keeps everything. -/
theorem keeps_find (s : Settings) (b : Build) :
    Keeps P (Work.find (getPod (podPlace s b))) := by
  -- Looking adds one call to the record.
  intro c holds
  rw [run_find]
  exact noted c _ holds

/-- The creation of a pod keeps what is kept when a pod comes. -/
theorem keeps_create
    (added : ∀ c place pod, P c → P { c with pods := c.pods.insert place pod })
    (s : Settings) (b : Build) : Keeps P (createPod s b) := by
  unfold createPod
  -- The pod is put together by reading alone, so that only its creation is left to look at.
  refine ((reads_pod s b).keeps noted).bind (fun built => Keeps.bind ?_ (fun _ => .pure P _))
  intro c holds
  have called := noted c (.createPod built.reference) holds
  rw [run_callUnless, run_createPod]
  cases c.fault? with
  | some e => exact called
  | none =>
    simp only
    split
    · exact called
    · exact added _ _ _ called

/-- Who tends the pod of a build keeps what is kept when pods go, and when pods come if one may be needed. -/
theorem Tends.keeps (removed : ∀ c place, P c → P { c with pods := c.podsWithout place })
    {s : Settings} {b : Build} (added : b.phase = .scheduling ∨ b.phase = .pending →
      ∀ c place pod, P c → P { c with pods := c.pods.insert place pod })
    {α : Type} {w : Work α} (tends : Tends s b w) : Keeps P w := by
  -- The induction is on how the work is put together from these three calls.
  induction tends with
  | pure a => exact .pure P a
  | deletes => exact keeps_delete noted removed s b
  | finds => exact keeps_find noted s b
  | creates needed => exact keeps_create noted (added needed) s b
  | bind _ _ keepsFirst keepsLater => exact keepsFirst.bind keepsLater

/-- A step keeps what is kept when pods go, and when pods come if the build is one that may need its pod. -/
theorem keeps_stepWork (removed : ∀ c place, P c → P { c with pods := c.podsWithout place })
    {b : Build} (added : b.phase = .scheduling ∨ b.phase = .pending →
      ∀ c place pod, P c → P { c with pods := c.pods.insert place pod })
    (s : Settings) (now : Instant) : Keeps P (stepWork s now b) :=
  (tends_stepWork s now b).keeps noted removed added

/-- A cancellation keeps what is kept when a pod goes. -/
theorem keeps_cancel {σ : Type} [BuildStore σ]
    (removed : ∀ c place, P c → P { c with pods := c.podsWithout place }) (s : Settings) (b : Build)
    {g : Engine σ} (holds : P g.cluster) : P ((cancel s b).run.run g).2.cluster := by
  rw [cluster_cancel]
  split
  · exact holds
  · split
    · -- The build has been saved as cancelled, so that its pod is deleted.
      exact keeps_delete noted removed s _ _ holds
    · exact holds

end

end Engine

end ImageBuild
