import ImageBuild.Proofs.Engine.Attempts
import ImageBuild.Proofs.Engine.Timeless

/-! A failure that passes is harmless: a reconciliation that meets one says so and saves nothing, and comes to the
same as one without it when it is tried again. -/

namespace ImageBuild

open Cluster Kubernetes Run Worker

namespace Cluster

/-- The cluster where a call will fail after some others have not. -/
def failingAt (c : Cluster) (k : Nat) (e : ClusterError) : Cluster :=
  { c with faults := List.replicate k none ++ [some e] }

/-- Where no failures are planned, the next call meets none. -/
theorem fault?_of_calm {c : Cluster} (calm : c.faults = []) : c.fault? = none := by
  -- A failure that is met is the first of those that are planned.
  rw [fault?, calm]
  rfl

/-- The first call fails if it is the one to fail. -/
theorem fault?_failingAt_zero (c : Cluster) (e : ClusterError) :
    (c.failingAt 0 e).fault? = some e := rfl

/-- The first call does not fail if a later one will. -/
theorem fault?_failingAt_succ (c : Cluster) (k : Nat) (e : ClusterError) :
    (c.failingAt (k + 1) e).fault? = none := rfl

/-- The passing of time makes no difference without dates. -/
theorem Alike.later {c d : Cluster} (alike : Alike c d) (now : Instant) :
    Alike c { d with clock := now } :=
  { alike with }

/-- A call leaves no failures where none were planned. -/
theorem calm_called (c : Cluster) (call : Call) (calm : c.faults = []) :
    (c.called call).faults = [] := by
  -- A call uses up a planned failure, and there is none.
  rw [faults_called, calm]
  rfl

/-- A call that is only noted makes no difference where no failures are planned. -/
theorem Alike.noted {c d : Cluster} (alike : Alike c d) (calm : c.faults = []) (call : Call) :
    Alike c (d.called call) :=
  { alike with faults := calm.trans (calm_called d call (alike.faults.symm.trans calm)).symm }

end Cluster

namespace Work

variable {α β : Type}

/-- What becomes of work when a call will fail, beside what becomes of it without that. -/
inductive Interrupted (Left : Cluster → Prop) (w : Work α) (c : Cluster) (e : ClusterError) :
    Except BuildError α × Cluster → Prop
  /-- The work was over before, with the failure still to come. -/
  | missed (j : Nat) :
      Interrupted Left w c e ((w.run.run c).1, (w.run.run c).2.failingAt j e)
  /-- The failure ended the work, and left a cluster without any other. -/
  | met {d : Cluster} (spent : d.faults = []) (left : Left d) :
      Interrupted Left w c e (.error (.cluster e), d)

/-- Work that passes on every failure that may pass, whichever call meets it, and leaves a cluster of some kind. -/
def Survives (Left : Cluster → Cluster → Prop) (w : Work α) : Prop :=
  ∀ c e k, e.isTransient = true → c.faults = [] →
    Interrupted (Left c) w c e (w.run.run (c.failingAt k e))

/-- A value by itself meets no failure. -/
theorem Survives.pure (Left : Cluster → Cluster → Prop) (a : α) :
    Survives Left (Pure.pure a : Work α) := fun _ _ k _ _ => .missed k

/-- What is left may be described in other ways. -/
theorem Survives.mono {Left Other : Cluster → Cluster → Prop} {w : Work α}
    (survives : Survives Left w) (weaker : ∀ c d, c.faults = [] → Left c d → Other c d) :
    Survives Other w := by
  intro c e k transient calm
  -- Only what is left behind by the interruption is said in weaker words.
  have interrupted := survives c e k transient calm
  generalize w.run.run (c.failingAt k e) = outcome at interrupted
  cases interrupted with
  | missed j => exact .missed j
  | met spent left => exact .met spent (weaker c _ calm left)

/-- Joined work passes a failure on from whichever part meets it. -/
theorem Survives.bind {First Later Left : Cluster → Cluster → Prop} {w : Work α} {k : α → Work β}
    (first : Survives First w) (later : ∀ a, Survives Later (k a))
    (calms : Keeps (fun c => c.faults = []) w)
    (before : ∀ c d, c.faults = [] → First c d → Left c d)
    (after : ∀ c d, c.faults = [] → Later (w.run.run c).2 d → Left c d) :
    Survives Left (w >>= k) := by
  intro c e n transient calm
  have interrupted := first c e n transient calm
  have calm' := calms c calm
  have after := fun d => after c d calm
  rw [run_bind]
  generalize w.run.run (c.failingAt n e) = outcome at interrupted
  -- Either the failure is met in the first work, or it is still to come afterwards.
  cases interrupted with
  | met spent left => exact .met spent (before c _ calm left)
  | missed j =>
    -- The first work has come to its end, and the failure waits for the later one.
    have joined := run_bind w k c
    rcases ran : w.run.run c with ⟨result, d⟩
    rw [ran] at joined calm' after
    cases result with
    -- The first work fails by itself, so that the failure is never met.
    | error reason =>
      have missed : Interrupted (Left c) (w >>= k) c e _ := .missed j
      rw [joined] at missed
      exact missed
    | ok a =>
      have interrupted := later a d e j transient calm'
      simp only at joined ⊢
      generalize (k a).run.run (d.failingAt j e) = outcome at interrupted
      cases interrupted with
      | met spent left => exact .met spent (after _ left)
      | missed i =>
        have missed : Interrupted (Left c) (w >>= k) c e _ := .missed i
        rw [joined] at missed
        exact missed

/-- Nothing that follows without calls meets a failure. -/
theorem Survives.map {Left : Cluster → Cluster → Prop} {w : Work α} (first : Survives Left w)
    (calms : Keeps (fun c => c.faults = []) w) (f : α → β) :
    Survives Left (w >>= fun a => Pure.pure (f a)) :=
  -- What follows makes no call, so that no failure can meet it.
  first.bind (fun a => .pure (fun _ _ => False) (f a)) calms (fun _ _ _ left => left)
    (fun _ _ _ none => none.elim)

/-- What follows work that changes nothing leaves what it would leave by itself. -/
theorem Survives.bind_unchanged {w : Work α} {k : α → Work β} (first : Survives Alike w)
    (later : ∀ a, Survives Alike (k a)) (calms : Keeps (fun c => c.faults = []) w)
    (unchanged : ∀ c, c.faults = [] → Alike c (w.run.run c).2) : Survives Alike (w >>= k) :=
  -- As the first work changes nothing, what the later one leaves is like what there was at first.
  first.bind later calms (fun _ _ _ left => left)
    (fun c _ calm left => (unchanged c calm).trans left)

/-- A call that is noted, meets the failure that is planned for it, and else gives an answer and changes pods. -/
def Acts (call : ClusterM α) (record : Call) (answer : Cluster → Except ClusterError α)
    (after : Cluster → Dict Reference Pod) : Prop :=
  ∀ c, call.run.run c =
    match c.fault? with
    | some e => (.error e, c.called record)
    | none => (answer c, { c.called record with pods := after c })

/-- One call passes its failure on, as it does nothing else then, and as nothing but that depends on the plan. -/
theorem survives_of_call {w : Work β} {call : ClusterM α} {record : Call}
    (result : Except ClusterError α → Except BuildError β)
    {answer : Cluster → Except ClusterError α} {after : Cluster → Dict Reference Pod}
    (runs : ∀ c, w.run.run c = (result (call.run.run c).1, (call.run.run c).2))
    (passes : ∀ e, e.isTransient = true → result (.error e) = .error (.cluster e))
    (acts : Acts call record answer after)
    (blind : ∀ c k e, answer (c.failingAt k e) = answer c ∧ after (c.failingAt k e) = after c) :
    Survives Alike w := by
  intro c e k transient calm
  -- Without any failure the call answers and has its effect.
  have alone : w.run.run c = (result (answer c), { c.called record with pods := after c }) := by
    rw [runs, acts c, fault?_of_calm calm]
  rw [runs, acts (c.failingAt k e)]
  cases k with
  | zero =>
    -- The call itself meets the failure, and has no effect then.
    rw [fault?_failingAt_zero]
    simp only
    rw [passes e transient]
    exact .met rfl ⟨fun _ => rfl, rfl, rfl, rfl, rfl, calm⟩
  | succ k =>
    -- The failure is planned for a later call, of which there is none.
    have missed : Interrupted (Alike c) w c e _ := .missed k
    obtain ⟨sameAnswer, sameAfter⟩ := blind c (k + 1) e
    rw [alone] at missed
    rw [fault?_failingAt_succ]
    simp only
    rw [sameAnswer, sameAfter]
    exact missed

/-- Reading changes nothing where no failures are planned. -/
theorem Reads.unchanged {Allowed : Call → Prop} {w : Work α} (reads : Reads Allowed w)
    {c : Cluster} (calm : c.faults = []) : Alike c (w.run.run c).2 :=
  reads.keeps (P := Alike c) (fun _ call alike => alike.noted calm call) c (.refl c)

/-- A call that only reads leaves the pods as they are. -/
theorem acts_of_looks {call : ClusterM α} {record : Call}
    {answer : Cluster → Except ClusterError α} (looks : Looks call record answer) :
    Acts call record answer Cluster.pods := by
  -- A call that only looks leaves the pods with or without a failure.
  intro c
  rw [looks c]
  cases c.fault? <;> rfl

/-- What is made of the outcome of a call of which some failures are answers. -/
def answered (harmless : ClusterError → Bool) : Except ClusterError α → Except BuildError (Option α)
  | .ok a => .ok (some a)
  | .error e => if harmless e then .ok none else .error (.cluster e)

/-- A call of which some failures are answers passes on those that may pass. -/
theorem survives_callUnless {harmless : ClusterError → Bool} {call : ClusterM α} {record : Call}
    {answer : Cluster → Except ClusterError α} {after : Cluster → Dict Reference Pod}
    (harmful : ∀ e : ClusterError, e.isTransient = true → harmless e = false)
    (acts : Acts call record answer after)
    (blind : ∀ c k e, answer (c.failingAt k e) = answer c ∧ after (c.failingAt k e) = after c) :
    Survives Alike (callUnless harmless call) :=
  -- A transient failure is none of the harmless ones, so that it is passed on.
  survives_of_call (answered harmless) (run_callUnless harmless call)
    (fun e transient => by simp [answered, harmful e transient]) acts blind

/-- Whatever a call does, it plans no failures. -/
theorem calm_of_acts {harmless : ClusterError → Bool} {call : ClusterM α} {record : Call}
    {answer : Cluster → Except ClusterError α} {after : Cluster → Dict Reference Pod}
    (acts : Acts call record answer after) :
    Keeps (fun c => c.faults = []) (callUnless harmless call) := by
  -- Whatever the call does to the pods, it plans no failure.
  intro c calm
  rw [run_callUnless, acts c, fault?_of_calm calm]
  exact calm_called c record calm

/-- Reading passes on the failure of whichever call meets it. -/
theorem Reads.survives {Allowed : Call → Prop} {w : Work α} (reads : Reads Allowed w) :
    Survives Alike w := by
  -- The induction is on how the work is put together; reading leaves nothing behind at any point.
  induction reads with
  | pure a => exact .pure Alike a
  | throw e => exact fun _ _ k _ _ => .missed k
  | call allowed looks blind =>
    exact survives_of_call _ (run_call _) (fun _ _ => rfl) (acts_of_looks looks)
      (fun c k e => ⟨blind _ _ rfl rfl rfl, rfl⟩)
  | find allowed looks blind =>
    exact survives_callUnless (fun _ transient => (ClusterError.harmful_of_isTransient transient).1)
      (acts_of_looks looks) (fun c k e => ⟨blind _ _ rfl rfl rfl, rfl⟩)
  | bind first _ survivesFirst survivesLater =>
    exact survivesFirst.bind_unchanged survivesLater (first.keeps calm_called)
      (fun _ calm => first.unchanged calm)

end Work

namespace Engine

open Work

/-- A deletion changes the pods, and finds out whether there was one. -/
theorem acts_deletePod (p : Reference) :
    Acts (Cluster.deletePod p) (.deletePod p)
      (fun c => if c.pods.contains p then .ok () else .error (.notFound .pod p))
      (fun c => c.podsWithout p) := run_deletePod p

/-- A creation changes the pods, unless the name is taken. -/
theorem acts_createPod (pod : Pod) :
    Acts (Cluster.createPod pod) (.createPod pod.reference)
      (fun c =>
        if c.pods.contains pod.reference then .error (.alreadyExists .pod pod.reference)
        else .ok (pod.bornAt c.clock))
      (fun c =>
        if c.pods.contains pod.reference then c.pods
        else c.pods.insert pod.reference (pod.bornAt c.clock)) := by
  intro c
  rw [run_createPod]
  cases c.fault? with
  | some e => rfl
  | none =>
    simp only
    -- A place that is taken stays with its pod, and a free one gets the new pod.
    split <;> rfl

/-- A deletion passes its failure on, and has deleted nothing then. -/
theorem survives_delete (s : Settings) (b : Build) : Survives Alike (deletePod s b) :=
  -- The deletion is one call, which is taken back by its failure.
  (survives_callUnless (fun _ transient => (ClusterError.harmful_of_isTransient transient).1)
    (acts_deletePod _) (fun _ _ _ => ⟨rfl, rfl⟩)).map (calm_of_acts (acts_deletePod _)) _

/-- A look at a pod passes its failure on. -/
theorem survives_find (s : Settings) (b : Build) :
    Survives Alike (Work.find (getPod (podPlace s b))) :=
  -- Looking is one call that changes nothing.
  survives_callUnless (fun _ transient => (ClusterError.harmful_of_isTransient transient).1)
    (acts_of_looks (looks_getPod _)) (fun _ _ _ => ⟨rfl, rfl⟩)

/-- A look at a pod changes nothing where no failures are planned. -/
theorem unchanged_find (s : Settings) (b : Build) {c : Cluster} (calm : c.faults = []) :
    Alike c ((Work.find (getPod (podPlace s b))).run.run c).2 :=
  keeps_find (P := Alike c) (fun _ call alike => alike.noted calm call) s b c (.refl c)

/-- A creation passes on the failure of whichever call meets it, and has created nothing then. -/
theorem survives_create (s : Settings) (b : Build) : Survives Alike (createPod s b) := by
  refine (reads_pod s b).survives.bind_unchanged (fun built => ?_)
    ((reads_pod s b).keeps calm_called) (fun _ calm => (reads_pod s b).unchanged calm)
  -- That the pod is there already is no failure, but it is none that may pass either.
  exact (survives_callUnless (fun _ transient => (ClusterError.harmful_of_isTransient transient).2)
    (acts_createPod built) (fun _ _ _ => ⟨rfl, rfl⟩)).map (calm_of_acts (acts_createPod built)) _

/-- Following a worker passes on the failure of whichever call meets it, and has changed nothing then. -/
theorem survives_follow (s : Settings) (now : Instant) (b : Build) :
    Survives Alike (follow s now b) := by
  have deletes := keeps_delete calm_called (fun _ _ calm => calm) s b
  unfold follow
  split
  · exact (survives_delete s b).map deletes _
  -- The look comes first and changes nothing, so that a failure after it is as good as one before.
  · refine (survives_find s b).bind_unchanged (fun found => ?_) (keeps_find calm_called s b)
      (fun _ calm => unchanged_find s b calm)
    cases found with
    | some pod => exact .pure Alike _
    | none =>
      simp only
      split
      · exact .pure Alike _
      · exact (survives_create s b).map (keeps_create calm_called (fun _ _ _ calm => calm) s b) _

/-- Making room for a worker passes on the failure of whichever call meets it, and has deleted the last worker
then or changed nothing. -/
theorem survives_prepare (s : Settings) (b : Build) :
    Survives (fun c d => Alike c d ∨ Alike { c with pods := c.podsWithout (podPlace s b) } d)
      (prepare s b) := by
  have deletes := keeps_delete calm_called (fun _ _ calm => calm) s b
  refine (survives_delete s b).bind (fun _ => show Survives Alike _ from ?_) deletes
    (fun _ _ _ left => .inl left) (fun c d calm left => .inr ?_)
  · refine (survives_find s b).bind_unchanged (fun found => ?_) (keeps_find calm_called s b)
      (fun _ calm => unchanged_find s b calm)
    cases found <;> exact .pure Alike _
  · rw [run_delete, fault?_of_calm calm] at left
    -- Where the look at the pod fails, the deletion has been carried out.
    have deleted : Alike { c with pods := c.podsWithout (podPlace s b) }
        { c.called (.deletePod (podPlace s b)) with pods := c.podsWithout (podPlace s b) } :=
      (Alike.refl { c with pods := c.podsWithout (podPlace s b) }).noted calm _
    exact deleted.trans left

/-- Making room once more, after the last worker has been deleted, comes to the same. -/
theorem run_prepare_again (s : Settings) (b : Build) {c : Cluster} (calm : c.faults = []) :
    (prepare s b).run.run { c with pods := c.podsWithout (podPlace s b) } =
      (prepare s b).run.run c := by
  have again := podsWithout_podsWithout c (podPlace s b) c.clock
  have calm' : Cluster.fault? { c with pods := c.podsWithout (podPlace s b) } = none :=
    fault?_of_calm calm
  unfold prepare
  rw [run_bind, run_bind, run_delete, run_delete, fault?_of_calm calm, calm']
  simp only
  -- The second deletion finds its work done.
  rw [again]
  rfl

/-- The work comes to the same when it is done again from what an interruption has left, at any later time. -/
def Resumes {α : Type} (w : Work α) (c d : Cluster) : Prop :=
  ∀ later, (w.run.run { d with clock := later }).1 = (w.run.run c).1 ∧
    Alike (w.run.run c).2 (w.run.run { d with clock := later }).2

/-- Timeless work can be done again where nothing has been changed. -/
theorem resumes_of_timeless {α : Type} {w : Work α} (timeless : Timeless w) {c d : Cluster}
    (alike : Alike c d) : Resumes w c d := by
  -- Work that does not look at the time goes on alike from clusters that are alike.
  intro later
  obtain ⟨result, after⟩ := timeless c _ (alike.later later)
  exact ⟨result.symm, after⟩

/-- A step passes on the failure of whichever call meets it, and can be done again then. -/
theorem survives_stepWork (s : Settings) (now : Instant) (b : Build) :
    Survives (Resumes (stepWork s now b)) (stepWork s now b) := by
  have deletes := keeps_delete calm_called (fun _ _ calm => calm) s b
  have creates := keeps_create calm_called (fun _ _ _ calm => calm) s b
  have timeless := timeless_stepWork s now b
  -- All actions but one change nothing before the call that fails.
  have whole : ∀ {w : Work Build}, stepWork s now b = w → Survives Alike w →
      Survives (Resumes (stepWork s now b)) (stepWork s now b) := by
    rintro w same survives
    rw [← same] at survives
    exact survives.mono (fun _ _ _ left => resumes_of_timeless timeless left)
  cases chosen : Action.next? b with
  | none => exact whole (by rw [stepWork, chosen]) (.pure Alike b)
  | some action =>
    have work : stepWork s now b = task s now b action := by rw [stepWork, chosen]
    cases action with
    | prepare =>
      rw [work] at timeless ⊢
      refine (survives_prepare s b).mono (fun c d calm left => ?_)
      rcases left with left | left
      · exact resumes_of_timeless timeless left
      -- The pod is deleted by now, and deleting it again comes to the same.
      · have again := resumes_of_timeless timeless left
        have same := run_prepare_again s b calm
        intro later
        obtain ⟨result, after⟩ := again later
        change _ = ((prepare s b).run.run _).1 at result
        change Alike ((prepare s b).run.run _).2 _ at after
        rw [same] at result after
        exact ⟨result, after⟩
    | launch => exact whole work ((survives_create s b).map creates _)
    | monitor => exact whole work (survives_follow s now b)
    | recover => exact whole work (.pure Alike _)
    | giveUp => exact whole work (.pure Alike _)
    | cleanUp => exact whole work ((survives_delete s b).map deletes _)

variable {σ : Type} [BuildStore σ]

/-- Reconciliations whose work has the same result return and save the same. -/
theorem reconcile_of_work (s : Settings) (now : Instant) (b : Build) {g h : Engine σ}
    (store : h.store = g.store) (same : ((stepWork s now b).run.run h.cluster).1 =
      ((stepWork s now b).run.run g.cluster).1) :
    ((reconcile s now b).run.run h).1 = ((reconcile s now b).run.run g).1 ∧
      ((reconcile s now b).run.run h).2.store = ((reconcile s now b).run.run g).2.store := by
  -- The result of the work and the store are all that the save depends on.
  have filed := reconcile_filed s now b h
  rw [store, same, ← reconcile_filed] at filed
  exact Prod.mk.inj filed

/-- A failure that may pass ends a reconciliation, whichever call meets it, and leaves the store alone; the same
reconciliation later comes to what it would have come to without the failure. -/
theorem transient_failure_is_harmless (s : Settings) (now later : Instant) (b : Build)
    {g h : Engine σ} {e : ClusterError} {k : Nat} {result : Except BuildError Build}
    (calm : g.cluster.faults = []) (transient : e.isTransient = true)
    (ran : (reconcile s now b).run.run { g with cluster := g.cluster.failingAt k e }
      = (result, h)) :
    (h.cluster.faults = [] →
      result = .error (.cluster e) ∧ (BuildError.cluster e).isTransient = true ∧
      h.store = g.store ∧
      let again := (reconcile s now b).run.run { h with cluster := { h.cluster with clock := later } }
      let undisturbed := (reconcile s now b).run.run g
      again.1 = undisturbed.1 ∧ Alike undisturbed.2.cluster again.2.cluster ∧
        again.2.store = undisturbed.2.store) ∧
    (h.cluster.faults ≠ [] →
      result = ((reconcile s now b).run.run g).1 ∧
        h.store = ((reconcile s now b).run.run g).2.store) := by
  have interrupted := survives_stepWork s now b g.cluster e k transient calm
  obtain ⟨log, worked⟩ := run_reconcile_work s now b { g with cluster := g.cluster.failingAt k e }
  have cluster := cluster_reconcile s now b { g with cluster := g.cluster.failingAt k e }
  rw [ran] at worked cluster
  generalize outcome : (stepWork s now b).run.run (g.cluster.failingAt k e) = work
    at interrupted worked cluster
  -- Either the run ended before the call that was to fail, or it met the failure there.
  cases interrupted with
  | missed j =>
    have cluster : h.cluster = ((stepWork s now b).run.run g.cluster).2.failingAt j e := cluster
    refine ⟨fun used => ?_, fun _ => ?_⟩
    · -- The failure is still to come.
      rw [cluster] at used
      simp [failingAt] at used
    · have same := reconcile_of_work s now b (g := g)
        (h := { g with cluster := g.cluster.failingAt k e }) rfl (by rw [outcome])
      rw [ran] at same
      exact same
  | @met d spent left =>
    rw [Prod.mk.injEq] at worked
    obtain ⟨rfl, rfl⟩ := worked
    refine ⟨fun _ => ⟨rfl, transient, rfl, ?_⟩, fun left => absurd spent left⟩
    -- The run resumes at any later time and comes to what it would have come to.
    obtain ⟨same, after⟩ := left later
    obtain ⟨returned, saved⟩ := reconcile_of_work s now b (g := g)
      (h := ⟨⟨{ d with clock := later }, log⟩, g.store⟩) rfl same
    refine ⟨returned, ?_, saved⟩
    rw [cluster_reconcile, cluster_reconcile]
    exact after

/-- The API is not available when the engine looks at a pod that it has just deleted; asked again, it comes to
what it would have come to. -/
theorem transient_failure_is_harmless_secondCall :
    let failed := (reconcile usualSettings .epoch hastyRequest.kanikoBuild).run.run
      { crowdedEngine with
        cluster := crowdedEngine.cluster.failingAt 1 (.api 503 "unavailable") }
    failed.1 = .error (.cluster (.api 503 "unavailable")) ∧
    ((reconcile usualSettings .epoch hastyRequest.kanikoBuild).run.run
      { failed.2 with cluster := { failed.2.cluster with clock := twoSeconds } }).1 =
        ((reconcile usualSettings .epoch hastyRequest.kanikoBuild).run.run crowdedEngine).1 := by
  -- The deletion is the first call, so that the look at the pod fails.
  obtain ⟨met, _⟩ := transient_failure_is_harmless usualSettings .epoch twoSeconds
    hastyRequest.kanikoBuild (g := crowdedEngine) (e := .api 503 "unavailable") (k := 1)
    rfl rfl (Prod.ext rfl rfl)
  obtain ⟨failed, _, _, again, _, _⟩ := met rfl
  exact ⟨failed, again⟩

end Engine

end ImageBuild
