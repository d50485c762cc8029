import ImageBuild.Proofs.Engine.Saving
import ImageBuild.Proofs.Worker.Reading

/-! What a step does in the cluster, apart from what it records: each action is a piece of work. -/

namespace ImageBuild

open Run Worker

namespace Site

variable {α β : Type}

/-- Steps at a site do in the cluster what some work does there, whatever they record. -/
def Does (m : SiteM α) (w : Work α) : Prop :=
  ∀ t, ∃ log, m.run.run t = ((w.run.run t.cluster).1, ⟨(w.run.run t.cluster).2, log⟩)

namespace Does

/-- A value by itself is no work. -/
theorem pure (a : α) : Does (Pure.pure a) (Pure.pure a) := fun t => ⟨t.log, rfl⟩

/-- Work at a site is that work. -/
theorem work (w : Work α) : Does (Site.work w) w := fun t => ⟨t.log, run_work w t⟩

/-- Steps do some work when they run in parallel to it, as far as the cluster is concerned. -/
theorem iff_parallel {m : SiteM α} {w : Work α} :
    Does m w ↔ Parallel (fun t c => t.cluster = c) m w := by
  -- The log is what the two sides differ in, and no work reads it.
  constructor
  · rintro does t c rfl
    obtain ⟨log, ran⟩ := does t
    rw [ran]
    exact ⟨rfl, rfl⟩
  · intro parallel t
    obtain ⟨result, after⟩ := parallel t t.cluster rfl
    exact ⟨(m.run.run t).2.log, Prod.ext result (by rw [← after])⟩

/-- Joined steps do the work of their parts in turn. -/
theorem bind {m : SiteM α} {w : Work α} {k : α → SiteM β} {l : α → Work β} (first : Does m w)
    (later : ∀ a, Does (k a) (l a)) : Does (m >>= k) (w >>= l) :=
  iff_parallel.mpr ((iff_parallel.mp first).bind fun a => iff_parallel.mp (later a))

/-- What is recorded before the steps is no work. -/
theorem noted {m : SiteM α} {w : Work α} (does : Does m w) (e : Log.Event) :
    Does (record e >>= fun _ => m) w := by
  -- One more event in the log makes no difference to the work after it.
  intro t
  rw [run_bind, run_record]
  exact does ⟨t.cluster, t.log ++ [e]⟩

/-- What is recorded of a failure that is passed on is no work. -/
theorem watched {m : SiteM α} {w : Work α} (does : Does m w) (event : BuildError → Log.Event) :
    Does (tryCatch m (fun e => record (event e) >>= fun _ => throw e)) w := by
  intro t
  obtain ⟨log, ran⟩ := does t
  rw [run_tryCatch, ran]
  rcases w.run.run t.cluster with ⟨result, c⟩
  -- The failure is recorded and thrown again, so that the outcome is the same.
  cases result with
  | ok a => exact ⟨log, rfl⟩
  | error e => exact ⟨log ++ [event e], rfl⟩

end Does

end Site

namespace Engine

open Site

/-- The work of following a worker. -/
def follow (s : Settings) (now : Instant) (b : Build) : Work Build :=
  if b.isOverdue now then do
    deletePod s b
    pure (b.failedFor (overdueReason b) now)
  else do
    match ← Work.find (Cluster.getPod (podPlace s b)) with
    | some pod => pure (observed b pod now)
    | none =>
      if b.phase = .running then pure (b.failedFor "builder pod disappeared while running" now)
      else do
        createPod s b
        pure b

/-- A failed build once it has been looked at. -/
def recovered (c : RecoveryConfig) (now : Instant) (b : Build) : Build :=
  match b.status.failure with
  | none => b.noted c now
  | some f =>
    if f.recovery.attemptMax ≤ f.recovery.attempt then b.withPhase .error
    else if !isDue c now f then b
    else b.restarted now f

/-- The work of an action. -/
def task (s : Settings) (now : Instant) (b : Build) : Action → Work Build
  | .prepare => prepare s b
  | .launch => launch s now b
  | .monitor => follow s now b
  | .recover => pure (recovered s.config.recovery now b)
  | .giveUp => pure b
  | .cleanUp => cleanUp s b

/-- The work of a step. -/
def stepWork (s : Settings) (now : Instant) (b : Build) : Work Build :=
  match Action.next? b with
  | some action => task s now b action
  | none => pure b

/-- A worker is followed by its work. -/
theorem does_monitor (s : Settings) (now : Instant) (b : Build) :
    Does (monitor s now b) (follow s now b) := by
  unfold monitor follow
  split
  · exact (Does.work _).bind (fun _ => (Does.pure _).noted _)
  · refine (Does.work _).bind (fun found => ?_)
    cases found with
    | some pod => exact .pure _
    | none =>
      -- That the pod is missing is recorded before it is created again.
      simp only [replacePod]
      split
      · exact .pure _
      · exact ((Does.work _).bind (fun _ => .pure _)).noted _

/-- A failed build is looked at without any work. -/
theorem does_recover (c : RecoveryConfig) (now : Instant) (b : Build) :
    Does (recover c now b) (pure (recovered c now b)) := by
  unfold recover recovered
  cases b.status.failure with
  | none => exact .pure _
  | some f =>
    simp only
    -- At the limit the end of all attempts is recorded, and below it only a retry that is due.
    split
    · refine Does.noted ?_ _
      exact .pure _
    · split
      · exact .pure _
      · refine Does.noted ?_ _
        exact .pure _

/-- An action does its work. -/
theorem does_act (s : Settings) (now : Instant) (b : Build) (action : Action) :
    Does (act s now b action) (task s now b action) := by
  -- Only the following of a build and its recovery record anything themselves.
  cases action with
  | prepare => exact Does.work (prepare s b)
  | launch => exact Does.work (launch s now b)
  | monitor => exact does_monitor s now b
  | recover => exact does_recover _ now b
  | giveUp => exact Does.pure b
  | cleanUp => exact Does.work (cleanUp s b)

/-- A recorded action does its work. -/
theorem does_actRecorded (s : Settings) (now : Instant) (b : Build) (action : Action) :
    Does (actRecorded s now b action) (task s now b action) := by
  intro t
  -- The record of the beginning and that of the transition stand around the action itself.
  have acted := ((does_act s now b action).watched (fun e =>
    .error ("Failed to invoke action " ++ action.name ++ ": " ++ e.message)))
  obtain ⟨log, ran⟩ := acted ⟨t.cluster, t.log ++ [.info ("Invoking action " ++ action.name)]⟩
  unfold actRecorded
  rw [run_bind, run_record]
  simp only
  rw [run_bind, ran]
  rcases (task s now b action).run.run t.cluster with ⟨result, c⟩
  cases result with
  | error e => exact ⟨log, rfl⟩
  | ok target =>
    simp only
    split <;> exact ⟨_, rfl⟩

/-- A step does its work. -/
theorem does_step (s : Settings) (now : Instant) (b : Build) :
    Does (step s now b) (stepWork s now b) := by
  -- A step without an action does nothing, recorded or not.
  unfold step stepWork
  cases Action.next? b with
  | some action => exact does_actRecorded s now b action
  | none => exact .pure b

/-- Work of a step that succeeds makes one of the steps that are listed. -/
theorem stepWork_ok {s : Settings} {now : Instant} {b r : Build} {c d : Cluster}
    (ran : (stepWork s now b).run.run c = (.ok r, d)) : Advance s now b r := by
  -- A site is all that is needed for the step itself.
  obtain ⟨log, stepped⟩ := does_step s now b ⟨c, []⟩
  rw [ran] at stepped
  exact step_ok stepped

variable {σ : Type} [BuildStore σ]

/-- A cancellation that is saved deletes the pod; any other one leaves the cluster alone. -/
theorem cluster_cancel (s : Settings) (b : Build) (g : Engine σ) :
    ((cancel s b).run.run g).2.cluster =
      if b.phase.isTerminal then g.cluster
      else match (BuildStore.save (b.withPhase .cancelled) g.store).result with
        | .ok r => ((deletePod s r).run.run g.cluster).2
        | .error _ => g.cluster := by
  cases finished : b.phase.isTerminal with
  | true => rw [run_cancel_of_ended s finished, if_pos rfl]
  | false =>
    -- The pod is deleted only where the cancelled build could be saved.
    obtain ⟨notes, _, ran⟩ := run_cancel s finished g
    rw [if_neg Bool.false_ne_true]
    exact congrArg (fun ran => ran.2.cluster) ran

/-- A reconciliation does the work of a step, and saves the build if that changed it. -/
theorem run_reconcile_work (s : Settings) (now : Instant) (b : Build) (g : Engine σ) :
    ∃ log, (reconcile s now b).run.run g =
      match (stepWork s now b).run.run g.cluster with
      | (.error e, c) => (.error e, { g with cluster := c, log := log })
      | (.ok target, c) =>
        if target = b then (.ok b, { g with cluster := c, log := log })
        else (persist target).run.run { g with cluster := c, log := log } := by
  obtain ⟨log, ran⟩ := does_step s now b g.toSite
  -- The log is that of the step, whose outcome is the work's.
  refine ⟨log, ?_⟩
  rw [run_reconcile, ran]
  rcases (stepWork s now b).run.run g.cluster with ⟨result, c⟩
  cases result <;> rfl

/-- What a reconciliation does in the cluster is the work of a step. -/
theorem cluster_reconcile (s : Settings) (now : Instant) (b : Build) (g : Engine σ) :
    ((reconcile s now b).run.run g).2.cluster = ((stepWork s now b).run.run g.cluster).2 := by
  obtain ⟨log, ran⟩ := run_reconcile_work s now b g
  rw [ran]
  rcases (stepWork s now b).run.run g.cluster with ⟨result, c⟩
  cases result with
  | error e => rfl
  | ok target =>
    simp only
    -- Saving a build leaves the cluster.
    split
    · rfl
    · rw [run_persist]

/-- What a store makes of the result of a step: the build is saved if the step has changed it. -/
def filed (b : Build) (st : σ) : Except BuildError Build → Except BuildError Build × σ
  | .error e => (.error e, st)
  | .ok target =>
    if target = b then (.ok b, st)
    else ((BuildStore.save target st).result, (BuildStore.save target st).store)

/-- What was filed is the result of the step, under some version. -/
theorem filed_ok [FaithfulStore σ] {b target r : Build} {st : σ}
    (returned : (filed b st (.ok target)).1 = .ok r) : ∃ version, r = target.atVersion version := by
  rw [filed] at returned
  -- A build that has not changed is handed back in its own version.
  split at returned
  · rename_i same
    obtain rfl := Except.ok.inj returned
    exact ⟨target.version, same.symm⟩
  · exact FaithfulStore.saved returned

/-- What a reconciliation returns and saves depends on the result of its work and on the store only. -/
theorem reconcile_filed (s : Settings) (now : Instant) (b : Build) (g : Engine σ) :
    (((reconcile s now b).run.run g).1, ((reconcile s now b).run.run g).2.store) =
      filed b g.store ((stepWork s now b).run.run g.cluster).1 := by
  obtain ⟨log, ran⟩ := run_reconcile_work s now b g
  rw [ran]
  rcases (stepWork s now b).run.run g.cluster with ⟨result, c⟩
  -- What is filed goes by the result of the work, and the log has no part in it.
  cases result with
  | error e => rfl
  | ok target =>
    simp only [filed]
    split
    · rfl
    · rw [run_persist]

/-- A reconciliation returns what was filed. -/
theorem result_reconcile (s : Settings) (now : Instant) (b : Build) (g : Engine σ) :
    ((reconcile s now b).run.run g).1 =
      (filed b g.store ((stepWork s now b).run.run g.cluster).1).1 :=
  congrArg Prod.fst (reconcile_filed s now b g)

/-- A reconciliation leaves the store in which its result was filed. -/
theorem store_reconcile (s : Settings) (now : Instant) (b : Build) (g : Engine σ) :
    ((reconcile s now b).run.run g).2.store =
      (filed b g.store ((stepWork s now b).run.run g.cluster).1).2 :=
  congrArg Prod.snd (reconcile_filed s now b g)

/-- A schedule keeps the files of its draft, and does the work of a step once the build has been saved. -/
theorem cluster_schedule (s : Settings) (now : Instant) (d : Draft) (g : Engine σ) :
    ((schedule s now d).run.run g).2.cluster =
      match (Context.replace s.config.podNamePrefix d.build d.files).run.run g.cluster with
      | (.error _, c) => c
      | (.ok (), c) =>
        match (BuildStore.save d.build g.store).result with
        | .error _ => c
        | .ok r => ((stepWork s now r).run.run c).2 := by
  unfold schedule
  rw [run_bind, run_atSite, Site.run_work]
  rcases (Context.replace s.config.podNamePrefix d.build d.files).run.run g.cluster with ⟨result, c⟩
  cases result with
  | error e => rfl
  | ok kept =>
    simp only
    rw [run_bind, run_persist]
    simp only
    cases (BuildStore.save d.build g.store).result with
    | error e => rfl
    | ok r =>
      -- The note between the save and the step is no work.
      simp only
      rw [run_bind, note, run_atSite, Site.run_record]
      exact cluster_reconcile s now r _

end Engine

end ImageBuild
