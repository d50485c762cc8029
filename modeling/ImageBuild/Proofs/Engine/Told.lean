import ImageBuild.Proofs.Engine.Saving

/-! What the log tells of the phases of builds, by the events that are recorded for it. -/

namespace ImageBuild

open Run Worker

namespace Log

/-- The phases between which an event tells of a build to have gone, if it tells that of the key. -/
def Event.crossed? (key : String) (e : Event) : Option (Phase × Phase) :=
  if e.message ∈ ["state transition", "build cancelled"] ∧ e.fields.lookup "build" = some key then
    match (e.fields.lookup "phase_from").bind Phase.ofName?, (e.fields.lookup "phase_to").bind Phase.ofName? with
    | some source, some target => some (source, target)
    | _, _ => none
  else none

/-- The phases between which a log tells of the build of a key to have gone, the oldest first. -/
def told (key : String) (log : List Event) : List (Phase × Phase) := log.filterMap (Event.crossed? key)

variable {key : String} {log : List Event}

/-- What is recorded last is told last. -/
theorem told_append (more : List Event) : told key (log ++ more) = told key log ++ told key more :=
  List.filterMap_append

/-- Events without fields tell of no phases. -/
theorem told_bares {events : List Event} (bare : ∀ e ∈ events, e.fields = []) :
    told key (log ++ events) = told key log := by
  -- What tells of a transition has fields that name the build and its phases.
  have nothing : told key events = [] :=
    List.filterMap_eq_nil_iff.mpr fun e member => by simp [Event.crossed?, bare e member]
  rw [told_append, nothing, List.append_nil]

/-- An event without fields tells of no phases. -/
theorem told_bare {e : Event} (bare : e.fields = []) : told key (log ++ [e]) = told key log :=
  told_bares fun _ member => List.mem_singleton.mp member ▸ bare

end Log

open Log

/-- What there is to tell of a build that goes from one phase to another: nothing, where these are one. -/
def Phase.crossed (source target : Phase) : List (Phase × Phase) :=
  if target = source then [] else [(source, target)]

/-- There is nothing to tell of a build that stays in its phase. -/
@[simp] theorem Phase.crossed_self (phase : Phase) : phase.crossed phase = [] := if_pos rfl

/-- What a build is told to have gone through under a key: its own, or nothing. -/
def Build.news (source target : Build) (key : String) : List (Phase × Phase) :=
  if source.reference.key = key then source.phase.crossed target.phase else []

/-- There is nothing to tell of a build that stays in its phase, under any key. -/
theorem Build.news_of_phase {source target : Build} (same : target.phase = source.phase) (key : String) :
    source.news target key = [] := by
  simp [news, same]

/-- The event of a build that goes to another phase tells of that, and under its key only. -/
theorem told_transition (message : String) (told : message ∈ ["state transition", "build cancelled"])
    {source target : Build} (changed : target.phase ≠ source.phase) (key : String) (log : List Event) :
    Log.told key (log ++ [Engine.transition message source target]) =
      Log.told key log ++ source.news target key := by
  -- The phases are read back from their names.
  have read : (Engine.transition message source target).crossed? key =
      if source.reference.key = key then some (source.phase, target.phase) else none := by
    simp only [Event.crossed?, Engine.transition, told, true_and, List.lookup_cons]
    simp
  rw [told_append, Build.news, Phase.crossed, if_neg changed]
  by_cases own : source.reference.key = key <;> simp [Log.told, read, own]

namespace Site

/-- Steps at a site that tell of no phases. -/
def Silent {α : Type} (m : SiteM α) : Prop := ∀ key t, told key (m.run.run t).2.log = told key t.log

variable {α β : Type}

/-- Steps are silent when they run in parallel to themselves, as far as the log has told the same before. -/
theorem silent_iff {m : SiteM α} :
    Silent m ↔ ∀ key pairs, Parallel (fun t u => t = u ∧ told key u.log = pairs) m m := by
  -- A run in parallel to itself starts where it does, so that only the log is to be followed.
  constructor
  · rintro silent key pairs t _ ⟨rfl, before⟩
    exact ⟨rfl, rfl, (silent key t).trans before⟩
  · intro parallel key t
    exact (parallel key _ t t ⟨rfl, rfl⟩).2.2

/-- A value by itself tells nothing. -/
theorem silent_pure (a : α) : Silent (pure a) := fun _ _ => rfl

/-- Work in the cluster tells nothing. -/
theorem silent_work (w : Work α) : Silent (work w) := fun _ t => by rw [run_work]

/-- An event without fields tells nothing. -/
theorem silent_record {e : Event} (bare : e.fields = []) : Silent (record e) := fun _ t => by
  -- An event without fields tells nothing.
  rw [run_record]
  exact told_bare bare

/-- Joined steps are silent when their parts are. -/
theorem Silent.bind {m : SiteM α} {k : α → SiteM β} (first : Silent m) (later : ∀ a, Silent (k a)) :
    Silent (m >>= k) :=
  -- Being silent is a run beside one that records nothing, and such runs compose.
  silent_iff.mpr fun key pairs =>
    (silent_iff.mp first key pairs).bind fun a => silent_iff.mp (later a) key pairs

/-- Watched steps are silent when they and what is recorded of their failures are. -/
theorem Silent.watched {m : SiteM α} (silent : Silent m) (event : BuildError → Event)
    (bare : ∀ e, (event e).fields = []) :
    Silent (tryCatch m fun e => do record (event e); throw e) :=
  -- The event that is recorded on a failure is itself a silent one.
  silent_iff.mpr fun key pairs => (silent_iff.mp silent key pairs).tryCatch fun e =>
    (silent_iff.mp (silent_record (bare e)) key pairs).bind fun _ => .throw e

end Site

namespace Engine

open Site

/-- No action tells of phases: it is up to the step to do so. -/
theorem silent_act (s : Settings) (now : Instant) (b : Build) (action : Action) :
    Silent (act s now b action) := by
  unfold act
  cases action with
  | prepare => exact silent_work _
  | launch => exact silent_work _
  | monitor =>
    simp only [monitor]
    split
    · exact (silent_work _).bind fun _ => (silent_record rfl).bind fun _ => silent_pure _
    · refine (silent_work _).bind fun found => ?_
      cases found with
      | some pod => exact silent_pure _
      | none =>
        -- That the pod is missing is recorded, but not under the key of a build.
        simp only [replacePod]
        split
        · exact silent_pure _
        · exact (silent_record rfl).bind fun _ => (silent_work _).bind fun _ => silent_pure _
  | recover =>
    -- Both the end of all attempts and a new one are recorded as texts.
    simp only [recover]
    split
    · exact silent_pure _
    · split
      · exact (silent_record rfl).bind fun _ => silent_pure _
      · split
        · exact silent_pure _
        · exact (silent_record rfl).bind fun _ => silent_pure _
  | giveUp => exact silent_pure _
  | cleanUp => exact silent_work _

/-- What a step has to tell, given its result: the phase to which it takes the build, where it succeeds. -/
def newsOf (b : Build) (key : String) : Except BuildError Build → List (Phase × Phase)
  | .ok target => b.news target key
  | .error _ => []

/-- An action that is recorded tells of the phase to which it takes the build, once it has succeeded. -/
theorem told_actRecorded (s : Settings) (now : Instant) (b : Build) (action : Action) (t : Site)
    (key : String) :
    told key ((actRecorded s now b action).run.run t).2.log =
      told key t.log ++ newsOf b key ((actRecorded s now b action).run.run t).1 := by
  -- All that comes before the transition is silent.
  have quiet := (silent_act s now b action).watched (fun e =>
    .error ("Failed to invoke action " ++ action.name ++ ": " ++ e.message)) (fun _ => rfl) key
    { t with log := t.log ++ [.info ("Invoking action " ++ action.name)] }
  rw [told_bare rfl] at quiet
  unfold actRecorded
  rw [run_bind, run_record]
  simp only
  rw [run_bind]
  revert quiet
  rcases (tryCatch (act s now b action) _ : SiteM Build).run.run _ with ⟨result, u⟩
  intro quiet
  cases result with
  | error e => simp [newsOf, quiet]
  | ok target =>
    simp only
    -- A transition is recorded only where there is something to tell.
    split
    · rename_i changed
      rw [run_bind, run_record]
      simp only
      rw [run_pure, told_transition _ (by simp) changed, quiet]
      rfl
    · rename_i same
      rw [run_pure]
      simp [newsOf, b.news_of_phase (Decidable.not_not.mp same), quiet]

/-- A step tells of the phase to which it takes a build, and of nothing where it fails. -/
theorem told_step (s : Settings) (now : Instant) (b : Build) (t : Site) (key : String) :
    told key ((step s now b).run.run t).2.log =
      told key t.log ++ newsOf b key ((step s now b).run.run t).1 := by
  unfold step
  -- Where no action is due nothing is recorded at all.
  split
  · exact told_actRecorded s now b _ t key
  · rw [run_pure]
    simp [newsOf, b.news_of_phase rfl]

variable {σ : Type} [BuildStore σ]

/-- The end of a call on a build: its result, the store after it, and what it has told under a key. What became of
the build is told before the store has taken it. -/
inductive Reports (Becomes : Build → Prop) (b : Build) (st : σ) (key : String) :
    Except BuildError Build → σ → List (Phase × Phase) → Prop
  /-- The call failed before anything was saved. -/
  | failed (e : BuildError) : Reports Becomes b st key (.error e) st []
  /-- The call left the build as it was. -/
  | kept (made : Becomes b) : Reports Becomes b st key (.ok b) st []
  /-- What became of the build was told, and given to the store. -/
  | saved (target : Build) (made : Becomes target) (changed : target ≠ b) :
      Reports Becomes b st key (BuildStore.save target st).result (BuildStore.save target st).store
        (b.news target key)

/-- A store that has nothing to tell of the builds of a name when they are saved. -/
def Unheard (place : Reference) (st : σ) : Prop :=
  ∀ b : Build, b.reference = place → (BuildStore.save b st).events = []

/-- A reconciliation reports what a step made of the build. -/
theorem reconcile_reports (s : Settings) (now : Instant) (b : Build) (g : Engine σ) (key : String)
    (unheard : Unheard b.reference g.store) :
    ∃ news, Reports (Advance s now b) b g.store key ((reconcile s now b).run.run g).1
        ((reconcile s now b).run.run g).2.store news ∧
      told key ((reconcile s now b).run.run g).2.log = told key g.log ++ news := by
  rw [run_reconcile]
  have heard := told_step s now b g.toSite key
  rcases stepped : (step s now b).run.run g.toSite with ⟨result, t⟩
  rw [stepped] at heard
  cases result with
  | error e => exact ⟨[], .failed e, heard⟩
  | ok target =>
    -- The step succeeded, and the transition it led to is in the record.
    have advance := step_ok stepped
    simp only
    split
    · -- A build that is as it was is in its phase, so that nothing has been told.
      rename_i same
      subst same
      exact ⟨[], .kept advance, by simpa [newsOf, Build.news] using heard⟩
    · rename_i changed
      -- What has been told before the save stays told, whatever the save comes to.
      have place : target.reference = b.reference := by rw [advance.only_status]
      rw [run_persist]
      refine ⟨b.news target key, .saved target advance changed, ?_⟩
      simpa [newsOf, unheard target place] using heard

/-- A cancellation reports that the build is cancelled, unless it had ended. -/
theorem cancel_reports (s : Settings) (b : Build) (g : Engine σ) (key : String)
    (unheard : Unheard b.reference g.store) :
    ∃ news, Reports (· = cancelled b) b g.store key ((cancel s b).run.run g).1
        ((cancel s b).run.run g).2.store news ∧
      told key ((cancel s b).run.run g).2.log = told key g.log ++ news := by
  cases finished : b.phase.isTerminal with
  | true =>
    rw [run_cancel_of_ended s finished]
    exact ⟨[], .kept (by simp [cancelled, finished]), (List.append_nil _).symm⟩
  | false =>
    have changed := cancelled_changes finished
    obtain ⟨notes, bare, ran⟩ := run_cancel s finished g
    rw [ran]
    refine ⟨b.news (b.withPhase .cancelled) key, .saved _ (by simp [cancelled, finished]) fun same =>
      changed (congrArg Build.phase same), ?_⟩
    -- After the transition nothing more is told, whether the pod can be deleted now or not.
    rw [told_bares bare, unheard (b.withPhase .cancelled) rfl, List.append_nil]
    exact told_transition _ (by simp) changed key g.log

/-- Every call on a build reports what became of it. -/
theorem Move.reports (m : Move) (b : Build) (g : Engine σ) (key : String)
    (unheard : Unheard b.reference g.store) :
    ∃ news, Reports (m.Becomes b) b g.store key ((m.make b).run.run g).1
        ((m.make b).run.run g).2.store news ∧
      told key ((m.make b).run.run g).2.log = told key g.log ++ news := by
  -- Both moves record the transition before they save.
  cases m with
  | reconcile s now => exact reconcile_reports s now b g key unheard
  | cancel s => exact cancel_reports s b g key unheard

end Engine

end ImageBuild
