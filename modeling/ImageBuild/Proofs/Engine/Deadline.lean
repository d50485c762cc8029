import ImageBuild.Proofs.Engine.Restarted
import ImageBuild.Proofs.Engine.Timeless
import ImageBuild.Proofs.Instant.Order

/-! Active builds are followed until their deadline, which is fixed when their worker is started: a pending worker that
is missing is replaced by the same one, and no step moves the deadline. -/

namespace ImageBuild

open Cluster Kubernetes Run Work Worker

/-- A length of time is its nanoseconds. -/
theorem Duration.eq_of_nanos {a b : Duration} (same : a.nanos = b.nanos) : a = b := by
  -- A length of time is its number of nanoseconds.
  cases a
  cases b
  cases same
  rfl

/-- A length of time has passed since a moment if it is the difference of the moments. -/
theorem Instant.elapsedSince?_eq_some_iff {later earlier : Instant} {d : Duration} :
    later.elapsedSince? earlier = some d ↔ (d.nanos : Int) = later.since earlier := by
  have bound := since_lt later earlier
  unfold elapsedSince?
  simp only
  split
  · -- No length of time is negative.
    refine ⟨nofun, fun same => ?_⟩
    omega
  -- Any other time is a length, since moments lie no further apart than that.
  · have fits : (later.since earlier).toNat < 2 ^ 64 * nanosPerSecond := by omega
    rw [Duration.ofNanos?_of_lt fits, Option.some.injEq]
    constructor
    · rintro rfl
      simp only
      omega
    · intro same
      refine Duration.eq_of_nanos ?_
      simp only
      omega

/-- Some length of time has passed since a moment that is not later. -/
theorem Instant.exists_elapsedSince? {later earlier : Instant} (ordered : 0 ≤ later.since earlier) :
    ∃ d, later.elapsedSince? earlier = some d := by
  -- Two moments are never too far apart for a length.
  have fits : (later.since earlier).toNat < 2 ^ 64 * nanosPerSecond := by
    have bound := since_lt later earlier
    omega
  exact ⟨⟨_, fits⟩, elapsedSince?_eq_some_iff.mpr (Int.toNat_of_nonneg ordered)⟩

namespace Build

/-- Whether more time has passed since the worker of a build was started than the build is given; where it is given
none, there is no limit. -/
def PastDeadline (b : Build) (now : Instant) : Prop :=
  0 < b.spec.timeout.nanos ∧
    ∃ started, b.status.startedAt = some started ∧ (b.spec.timeout.nanos : Int) < now.since started

/-- A build whose deadline is past has taken some time since its start. -/
theorem PastDeadline.elapsed {b : Build} {now : Instant} (late : b.PastDeadline now) :
    ∃ started took, b.status.startedAt = some started ∧ b.elapsed? now = some took ∧
      (took.nanos : Int) = now.since started := by
  obtain ⟨_, started, since, longer⟩ := late
  -- The clock cannot be behind the start of the worker then.
  obtain ⟨took, measured⟩ : ∃ d, now.elapsedSince? started = some d :=
    Instant.exists_elapsedSince? (by omega)
  exact ⟨started, took, since, Option.bind_eq_some_iff.mpr ⟨started, since, measured⟩,
    Instant.elapsedSince?_eq_some_iff.mp measured⟩

/-- A worker has run for too long if its deadline is past. -/
theorem isOverdue_iff {b : Build} {now : Instant} : b.isOverdue now = true ↔ b.PastDeadline now := by
  -- A length of time is zero exactly if it has no nanoseconds.
  have limited : b.spec.timeout ≠ .zero ↔ 0 < b.spec.timeout.nanos := by
    rw [Nat.pos_iff_ne_zero]
    exact not_congr ⟨congrArg Duration.nanos, fun none => Duration.eq_of_nanos (b := .zero) none⟩
  rw [isOverdue, Bool.and_eq_true, decide_eq_true_iff, limited, Option.any_eq_true]
  -- The check is made on lengths of time, and the deadline on the moments themselves.
  constructor
  · rintro ⟨given, elapsed, measured, longer⟩
    obtain ⟨started, since, measured⟩ := Option.bind_eq_some_iff.mp measured
    refine ⟨given, started, since, ?_⟩
    rw [← Instant.elapsedSince?_eq_some_iff.mp measured]
    exact Int.ofNat_lt.mpr (of_decide_eq_true longer)
  · intro late
    obtain ⟨started, took, since, measured, same⟩ := late.elapsed
    obtain ⟨given, _, alsoSince, longer⟩ := late
    obtain rfl := Option.some.inj (since.symm.trans alsoSince)
    rw [← same] at longer
    exact ⟨given, took, measured, decide_eq_true (Int.ofNat_lt.mp longer)⟩

end Build

/-- The pod that a look at a place tells of: none where the call is made to fail. -/
def Cluster.told (c : Cluster) (place : Reference) : Option Pod :=
  match c.fault? with
  | some _ => none
  | none => c.pods.get? place

namespace Engine

/-- The creation of a worker pod depends on what is to be built only. -/
theorem createPod_congr (s : Settings) {b b' : Build} (reference : b'.reference = b.reference)
    (spec : b'.spec = b.spec) : createPod s b' = createPod s b := by
  -- The pod is put together from name and specification alone.
  obtain ⟨_, _, _, _⟩ := b
  obtain ⟨_, _, _, _⟩ := b'
  cases reference
  cases spec
  rfl

/-- What following a worker comes to where no call ends it. -/
inductive Followed (s : Settings) (now : Instant) (b : Build) (c : Cluster) : Build → Cluster → Prop
  /-- The worker has run for too long, and its pod has been deleted. -/
  | stopped {d : Cluster} (late : b.PastDeadline now) (ran : (deletePod s b).run.run c = (.ok (), d)) :
      Followed s now b c (b.failedFor (overdueReason b) now) d
  /-- The pod of the worker is there. -/
  | seen {pod : Pod} (early : ¬b.PastDeadline now) (there : c.told (podPlace s b) = some pod) :
      Followed s now b c (observed b pod now) (c.called (.getPod (podPlace s b)))
  /-- The pod of a running worker is missing. -/
  | lost (early : ¬b.PastDeadline now) (missing : c.told (podPlace s b) = none)
      (running : b.phase = .running) :
      Followed s now b c (b.failedFor "builder pod disappeared while running" now)
        (c.called (.getPod (podPlace s b)))
  /-- The pod of another worker was missing, and has been created. -/
  | replaced {d : Cluster} (early : ¬b.PastDeadline now) (missing : c.told (podPlace s b) = none)
      (unseen : b.phase ≠ .running) (answered : ∀ e, c.fault? = some e → e.isNotFound = true)
      (ran : (createPod s b).run.run (c.called (.getPod (podPlace s b))) = (.ok (), d)) :
      Followed s now b c b d

variable {s : Settings} {now : Instant} {b r : Build} {c d : Cluster}

/-- Following a worker comes to nothing else. -/
theorem follow_ok (ran : (follow s now b).run.run c = (.ok r, d)) : Followed s now b c r d := by
  unfold follow at ran
  split at ran
  · rename_i late
    obtain ⟨⟨⟩, _, deleted, ran⟩ := bind_ok ran
    obtain ⟨rfl, rfl⟩ := pure_ok ran
    exact .stopped (Build.isOverdue_iff.mp late) deleted
  · rename_i early
    rw [Build.isOverdue_iff] at early
    obtain ⟨found, t, looked, ran⟩ := bind_ok ran
    rw [run_find, Prod.mk.injEq] at looked
    obtain ⟨answer, rfl⟩ := looked
    -- A call that is made to fail has been taken for a missing pod.
    have told : c.told (podPlace s b) = found ∧ ∀ e, c.fault? = some e → e.isNotFound = true := by
      unfold Cluster.told
      cases fault : c.fault? with
      | none =>
        rw [fault] at answer
        exact ⟨Except.ok.inj answer, nofun⟩
      | some e =>
        rw [fault] at answer
        simp only at answer
        split at answer
        · rename_i notFound
          exact ⟨Except.ok.inj answer, fun _ same => Option.some.inj same ▸ notFound⟩
        · cases answer
    obtain ⟨told, answered⟩ := told
    -- What was seen decides: a pod, a running build without one, or a pending one whose pod is made again.
    cases found with
    | some pod =>
      obtain ⟨rfl, rfl⟩ := pure_ok ran
      exact .seen early told
    | none =>
      simp only at ran
      split at ran
      · rename_i running
        obtain ⟨rfl, rfl⟩ := pure_ok ran
        exact .lost early told running
      · rename_i unseen
        obtain ⟨⟨⟩, _, created, ran⟩ := bind_ok ran
        obtain ⟨rfl, rfl⟩ := pure_ok ran
        exact .replaced early told unseen answered created

/-- An active build of a pod is followed. -/
theorem stepWork_of_active (s : Settings) (now : Instant) (pod : b.spec.strategy = .pod)
    (active : b.phase = .pending ∨ b.phase = .running) : stepWork s now b = follow s now b := by
  -- Both phases call for monitoring.
  have accepted : Action.monitor.accepts b.phase = true := by
    rcases active with phase | phase <;> rw [phase] <;> rfl
  rw [stepWork, Action.next?_eq pod accepted]
  rfl

/-- The deletion of a worker pod asks for nothing else. -/
theorem writes_just_delete (s : Settings) (b : Build) :
    Writes ([.deletePod (podPlace s b)] = ·) (deletePod s b) :=
  (Writes.callUnless _ rfl rfl (Footprint.deletePod _)).bind_quiet fun _ => .pure _

/-- The creation of a worker pod that succeeds has asked for it, and for nothing else. -/
theorem create_ok (ran : (createPod s b).run.run c = (.ok (), d)) :
    ∃ made, made.filter Call.isWrite = [.createPod (podPlace s b)] ∧ Footprint made c d := by
  unfold createPod at ran
  obtain ⟨built, t, read, ran⟩ := bind_ok ran
  obtain ⟨made, reads, before⟩ := quiet_pod s b c
  rw [read] at before
  -- Of all calls only the last one writes.
  have writes : Writes ([.createPod built.reference] = ·)
      (Work.callUnless ClusterError.isAlreadyExists (Cluster.createPod built) >>= fun _ => pure ()) :=
    (Writes.callUnless _ rfl rfl (Footprint.createPod built)).bind_quiet fun _ => .pure _
  obtain ⟨more, asked, after⟩ := writes t
  rw [ran] at after
  refine ⟨made ++ more, ?_, before.trans after⟩
  rw [List.filter_append, Writes.filter_quiet reads, ← asked, (pod_ok read).1]
  rfl

/-- An active build has failed after a look at its pod just if the pod has. -/
theorem phase_observed_eq_failed (active : b.phase = .pending ∨ b.phase = .running) (pod : Pod)
    (now : Instant) : (observed b pod now).phase = .failed ↔ pod.phase = "Failed" := by
  have other : b.phase ≠ .failed := by rcases active with phase | phase <;> rw [phase] <;> decide
  unfold observed
  split
  case h_4 =>
    rename_i said
    exact ⟨fun _ => said, fun _ => rfl⟩
  case h_5 =>
    -- Of a pod in an unknown phase nothing is seen.
    rename_i unlike
    exact ⟨fun failed => absurd failed other, fun said => absurd said unlike⟩
  -- Otherwise the build goes on, or has succeeded.
  all_goals
    rename_i said
    rw [said]
    exact ⟨nofun, fun same => absurd same (by decide)⟩

/-- A look at a pod does not change when its worker was started. -/
theorem startedAt_observed (b : Build) (pod : Pod) (now : Instant) :
    (observed b pod now).status.startedAt = b.status.startedAt := by
  -- The report decides the phase and the error, never the time at which the worker was started.
  unfold observed
  split <;> rfl

/-- What happens to an active build and to its worker pod in one step. -/
structure Watched (s : Settings) (now : Instant) (b : Build) (c : Cluster) (r : Build) (d : Cluster) :
    Prop where
  /-- The pod is deleted just if the deadline is past, and created just if it is missing before the deadline while the
  build is pending; nothing else is changed. -/
  calls : ∃ made, Footprint made c d ∧ Touches s b (made.filter Call.isWrite) ∧
    (.deletePod (podPlace s b) ∈ made ↔ b.PastDeadline now) ∧
    (.createPod (podPlace s b) ∈ made
      ↔ ¬b.PastDeadline now ∧ c.told (podPlace s b) = none ∧ b.phase = .pending)
  deleted : b.PastDeadline now → c.Sincere → d.pods = c.podsWithout (podPlace s b)
  /-- Past its deadline the build has failed after the time since its start. -/
  late : b.PastDeadline now → r.phase = .failed ∧ ∃ started took, b.status.startedAt = some started ∧
    r.status.duration = some took ∧ (took.nanos : Int) = now.since started
  /-- Before that it has failed just if its pod has, or is missing while the build is running. -/
  early : ¬b.PastDeadline now → (r.phase = .failed ↔
    (∃ pod, c.told (podPlace s b) = some pod ∧ pod.phase = "Failed") ∨
      c.told (podPlace s b) = none ∧ b.phase = .running)
  /-- A pod that is created is there, and is the one that a launch of the build would create from the same objects. -/
  recreated : ¬b.PastDeadline now → c.told (podPlace s b) = none → b.phase = .pending →
    (c.Sincere → ∃ pod, d.pods.get? (podPlace s b) = some pod) ∧
    ∀ (start : Instant) (b' : Build), b'.reference = b.reference → b'.spec = b.spec →
      ∀ e, Alike { c with faults := c.faults.drop 1 } e →
        ∃ e', (launch s start b').run.run e = (.ok (b'.launched start), e') ∧ Alike d e'
  started : r.phase = .pending ∨ r.phase = .running → r.status.startedAt = b.status.startedAt

/-- Where a pod was created nothing else has happened, and it is the one that a launch would create. -/
theorem recreated_of_create (vacant : c.told (podPlace s b) = none)
    (answered : ∀ e, c.fault? = some e → e.isNotFound = true)
    (ran : (createPod s b).run.run (c.called (.getPod (podPlace s b))) = (.ok (), d)) :
    (c.Sincere → ∃ pod, d.pods.get? (podPlace s b) = some pod) ∧
    ∀ (start : Instant) (b' : Build), b'.reference = b.reference → b'.spec = b.spec →
      ∀ e, Alike { c with faults := c.faults.drop 1 } e →
        ∃ e', (launch s start b').run.run e = (.ok (b'.launched start), e') ∧ Alike d e' := by
  constructor
  · intro sincere
    -- A failure that is sincere is none that was taken for a missing pod.
    have calm : c.fault? = none := by
      rw [Option.eq_none_iff_forall_ne_some]
      intro e fault
      cases (answered e fault).symm.trans (sincere.of_fault? fault).1
    have free : c.pods.get? (podPlace s b) = none := by
      rw [Cluster.told, calm] at vacant
      exact vacant
    have launched := launch_vacant s .epoch (sincere.called (.getPod (podPlace s b))) free
    rw [launch, run_bind, ran] at launched
    obtain ⟨built, _, pods⟩ := launched
    have pods : d.pods = c.pods.insert (podPlace s b) (built.bornAt c.clock) := pods
    exact ⟨_, by rw [pods, Dict.get?_insert, if_pos rfl]⟩
  · intro start b' reference spec e alike
    have alike : Alike (c.called (.getPod (podPlace s b))) e := ⟨alike.pods, alike.secrets,
      alike.configMaps, alike.services, alike.lingering, alike.faults⟩
    -- The creation looks at the cluster only, which is the same for the restart as for the launch.
    obtain ⟨result, after⟩ := (confined_create s b).timeless _ _ alike
    rcases created : (createPod s b).run.run e with ⟨outcome, e'⟩
    rw [ran, created] at result after
    obtain rfl : .ok () = outcome := result
    refine ⟨e', ?_, after⟩
    rw [launch, createPod_congr s reference spec, run_bind, created]
    rfl

/-- Which changes were asked for tells which calls were made for the pod. -/
theorem calls_of_writes {made writes : List Call} {Deletes Creates : Prop}
    (asked : made.filter Call.isWrite = writes) (footprint : Footprint made c d)
    (touches : Touches s b writes) (deletes : .deletePod (podPlace s b) ∈ writes ↔ Deletes)
    (creates : .createPod (podPlace s b) ∈ writes ↔ Creates) :
    ∃ made, Footprint made c d ∧ Touches s b (made.filter Call.isWrite) ∧
      (.deletePod (podPlace s b) ∈ made ↔ Deletes) ∧
      (.createPod (podPlace s b) ∈ made ↔ Creates) := by
  -- Deleting and creating a pod are writes, so that looking for them among the writes is enough.
  have among : ∀ call : Call, call.isWrite = true → (call ∈ made ↔ call ∈ writes) := by
    intro call write
    rw [← asked, List.mem_filter, write]
    exact (and_iff_left rfl).symm
  exact ⟨made, footprint, asked ▸ touches, (among _ rfl).trans deletes, (among _ rfl).trans creates⟩

/-- A deletion that has succeeded where failures are sincere leaves no pod that was not deleted. -/
theorem pods_of_delete (sincere : c.Sincere) (ran : (deletePod s b).run.run c = (.ok (), d)) :
    d.pods = c.podsWithout (podPlace s b) := by
  rw [run_delete] at ran
  cases fault : c.fault? with
  | some e =>
    -- A failure that is sincere is not taken for a missing pod, so that the deletion would have failed.
    simp only [fault, (sincere.of_fault? fault).1] at ran
    cases ran
  | none =>
    rw [fault] at ran
    obtain ⟨_, rfl⟩ := Prod.mk.inj ran
    rfl

/-- Following the worker of an active build keeps its deadline. -/
theorem Followed.watched (followed : Followed s now b c r d)
    (active : b.phase = .pending ∨ b.phase = .running) : Watched s now b c r d := by
  have looked := Footprint.called c (.getPod (podPlace s b))
  cases followed with
  | stopped late ran =>
    -- Past the deadline the deletion is all that is asked for, and the build fails with the time it took.
    obtain ⟨made, asked, footprint⟩ := writes_just_delete s b c
    rw [ran] at footprint
    exact {
      calls := calls_of_writes asked.symm footprint .deletion (by simpa using late) (by simp [late])
      deleted := fun _ sincere => pods_of_delete sincere ran
      late := fun late => ⟨rfl, late.elapsed⟩
      early := fun early => absurd late early
      recreated := fun early => absurd late early
      started := fun _ => rfl }
  | @seen pod early there =>
    exact {
      calls := calls_of_writes rfl looked .nothing (by simpa using early) (by simp [there])
      deleted := fun late => absurd late early
      late := fun late => absurd late early
      early := fun _ => by simp [phase_observed_eq_failed active, there]
      recreated := fun _ missing => by cases there.symm.trans missing
      started := fun _ => startedAt_observed b pod now }
  | lost early missing running =>
    exact {
      calls := calls_of_writes rfl looked .nothing (by simpa using early) (by simp [running])
      deleted := fun late => absurd late early
      late := fun late => absurd late early
      early := fun _ => by simp [missing, running]
      recreated := fun _ _ pending => by cases running.symm.trans pending
      started := fun _ => rfl }
  | replaced early missing unseen answered ran =>
    have pending := active.resolve_right unseen
    obtain ⟨made, asked, after⟩ := create_ok ran
    -- The look that comes first asks for no change.
    have asked : ([Call.getPod (podPlace s b)] ++ made).filter Call.isWrite = _ := asked
    exact {
      calls := calls_of_writes asked (looked.trans after) (.creation (.inr pending))
        (by simpa using early) (by simp [early, missing, pending])
      deleted := fun late => absurd late early
      late := fun late => absurd late early
      early := fun _ => by simp [missing, pending]
      recreated := fun _ _ _ => recreated_of_create missing answered ran
      started := fun _ => rfl }

section Runs

variable {σ : Type} [BuildStore σ] [FaithfulStore σ] {g h : Engine σ}

/-- A reconciliation of an active build keeps its deadline. -/
theorem watched_of_reconcile (pod : b.spec.strategy = .pod)
    (active : b.phase = .pending ∨ b.phase = .running)
    (ran : (reconcile s now b).run.run g = (.ok r, h)) :
    Watched s now b g.cluster r h.cluster := by
  -- An active build is followed, and what following it comes to is then saved.
  have cluster := cluster_reconcile s now b g
  have result := result_reconcile s now b g
  rw [stepWork_of_active s now pod active, ran] at cluster result
  rcases followed : (follow s now b).run.run g.cluster with ⟨outcome, d⟩
  rw [followed] at cluster result
  cases outcome with
  | error e => cases result
  | ok target =>
    obtain ⟨version, rfl⟩ := filed_ok result.symm
    have cluster : h.cluster = d := cluster
    rw [cluster]
    -- The version under which the build was saved says nothing about it.
    obtain ⟨calls, deleted, late, early, recreated, started⟩ := (follow_ok followed).watched active
    exact ⟨calls, deleted, late, early, recreated, started⟩

/-- A reconciliation that leaves a build active does not change when its worker was started. -/
theorem Tick.startedAt (tick : Tick σ b r) (before : b.phase = .pending ∨ b.phase = .running)
    (after : r.phase = .pending ∨ r.phase = .running) :
    r.status.startedAt = b.status.startedAt := by
  rcases tick.advance with rfl | ⟨s, now, target, version, advance, rfl⟩
  · rfl
  · rw [Build.status_atVersion]
    rw [Build.phase_atVersion] at after
    cases advance with
    -- Of the steps that stay among the active phases none writes the time again.
    | observed active early pod => exact startedAt_observed b pod now
    | prepared starting => simp_all
    | launched scheduled => simp_all
    | _ => rfl

/-- As long as a build is active, neither its start nor what is to be built changes. -/
theorem startedAt_of_course {course : List Build} (run : Course (Tick σ) b course)
    (active : ∀ x ∈ course, x.phase = .pending ∨ x.phase = .running) :
    ∀ x ∈ course, x.status.startedAt = b.status.startedAt ∧ x.spec = b.spec := by
  induction run with
  | start =>
    intro x member
    rw [List.mem_singleton.mp member]
    exact ⟨rfl, rfl⟩
  | @next current later past run followed ih =>
    have earlier := ih fun x member => active x (List.mem_cons_of_mem _ member)
    intro x member
    rcases List.mem_cons.mp member with rfl | before
    -- The newest state is one tick away from the last one, for which this is known already.
    · have last := earlier current List.mem_cons_self
      have same := followed.startedAt (active current (List.mem_cons_of_mem _ List.mem_cons_self))
        (active x List.mem_cons_self)
      exact ⟨same.trans last.1, followed.spec.trans last.2⟩
    · exact earlier x before

/-- A launch that succeeds fixes the start of the worker. -/
theorem startedAt_of_launch (pod : b.spec.strategy = .pod) (scheduled : b.phase = .scheduling)
    (ran : (reconcile s now b).run.run g = (.ok r, h)) : r.status.startedAt = some now := by
  have result := result_reconcile s now b g
  rw [stepWork_of_scheduled s now pod scheduled, ran] at result
  -- The launch writes the time, and saving the build keeps it.
  rcases launched : (launch s now b).run.run g.cluster with ⟨outcome, d⟩
  rw [launched] at result
  cases outcome with
  | error e => cases result
  | ok target =>
    obtain ⟨version, rfl⟩ := filed_ok result.symm
    rw [Build.status_atVersion, launch_ok launched]
    rfl

end Runs

/-- A step of an active build deletes its pod just if the deadline is past, and creates it just if it is missing while
the build is pending. The deadline is fixed when the worker is started: in every course of an active build it is past
when more time has gone by since then than the build is given. -/
theorem deadline_is_kept {σ : Type} [BuildStore σ] [FaithfulStore σ] {s : Settings} {now : Instant}
    {b r : Build} {g h : Engine σ} (pod : b.spec.strategy = .pod)
    (ran : (reconcile s now b).run.run g = (.ok r, h)) :
    (b.phase = .pending ∨ b.phase = .running → Watched s now b g.cluster r h.cluster) ∧
    (b.phase = .scheduling → ∀ course, Course (Tick σ) r course →
      (∀ x ∈ course, x.phase = .pending ∨ x.phase = .running) →
      ∀ x ∈ course, x.status.startedAt = some now ∧ ∀ later,
        x.PastDeadline later
          ↔ 0 < b.spec.timeout.nanos ∧ (b.spec.timeout.nanos : Int) < later.since now) := by
  refine ⟨fun active => watched_of_reconcile pod active ran, ?_⟩
  intro scheduled course run active x member
  -- As long as the build is active, both the time it was started at and its time limit stay.
  obtain ⟨same, spec⟩ := startedAt_of_course run active x member
  have started := same.trans (startedAt_of_launch pod scheduled ran)
  have given : x.spec = b.spec := spec.trans (Tick.answered ran).spec
  refine ⟨started, fun later => ?_⟩
  rw [Build.PastDeadline, given]
  refine and_congr_right fun _ => ⟨?_, fun longer => ⟨now, started, longer⟩⟩
  rintro ⟨start, since, longer⟩
  obtain rfl := Option.some.inj (started.symm.trans since)
  exact longer

/-- A build that is given a second is past its deadline two seconds after its worker was started, although it has got
another one since then. -/
theorem deadline_is_kept_hastyRequest :
    let pending := hastyRequest.kanikoBuild.prepared.launched .epoch
    (∀ later, pending.PastDeadline later ↔ 1000000000 < later.since .epoch) ∧
    ∃ r h, (reconcile usualSettings twoSeconds pending).run.run storelessEngine = (.ok r, h) ∧
      r.phase = .failed ∧ ∃ took, r.status.duration = some took ∧ took.nanos = 2000000000 := by
  intro pending
  -- The worker is started, and created again where it is missing.
  obtain ⟨h, launched⟩ : ∃ h, (reconcile usualSettings .epoch hastyRequest.kanikoBuild.prepared).run.run
      storelessEngine = (.ok pending, h) := ⟨_, rfl⟩
  have again : Tick (Option Memory) pending pending :=
    .of_result usualSettings .epoch storelessEngine rfl
  have fixed := (deadline_is_kept rfl launched).2 rfl _ (.next .start again)
    (by rw [List.forall_mem_cons, List.forall_mem_singleton]; exact ⟨.inl rfl, .inl rfl⟩)
    pending List.mem_cons_self
  have past : ∀ later, pending.PastDeadline later ↔ 1000000000 < later.since .epoch := fun later =>
    (fixed.2 later).trans (and_iff_right (by decide))
  obtain ⟨r, e, ran⟩ : ∃ r e, (reconcile usualSettings twoSeconds pending).run.run storelessEngine
      = (.ok r, e) := ⟨_, _, rfl⟩
  -- Two seconds are more than the one that is allowed.
  have watched := (deadline_is_kept rfl ran).1 (.inl rfl)
  obtain ⟨failed, started, took, since, duration, same⟩ :=
    watched.late ((past twoSeconds).mpr (by decide))
  obtain rfl : .epoch = started := Option.some.inj since
  have same : (took.nanos : Int) = 2000000000 := same.trans (by decide)
  exact ⟨past, r, e, ran, failed, took, duration, by omega⟩

end Engine

end ImageBuild
