import ImageBuild.Engine.Schedule
import ImageBuild.Proofs.Engine.Advance
import ImageBuild.Proofs.Store.Faithful

/-! What the calls of the engine do with its store: a call on a build saves what became of it, once or not at all. -/

namespace ImageBuild.Engine

open Run Worker

variable {σ : Type}

/-- A step at the site comes first, and only a build that it changed is saved. -/
theorem run_reconcile [BuildStore σ] (s : Settings) (now : Instant) (b : Build) (g : Engine σ) :
    (reconcile s now b).run.run g =
      match (step s now b).run.run g.toSite with
      | (.error e, t) => (.error e, { g with toSite := t })
      | (.ok target, t) =>
        if target = b then (.ok b, { g with toSite := t })
        else (persist target).run.run { g with toSite := t } := by
  unfold reconcile
  rw [run_bind, run_atSite]
  rcases (step s now b).run.run g.toSite with ⟨result, t⟩
  cases result with
  | error e => rfl
  | ok target =>
    simp only
    split
    · -- A build that has not changed is returned as it was given.
      rename_i same
      rw [run_pure, same]
    · rfl

/-- A step changes nothing of a build but its status. -/
theorem Advance.only_status {s : Settings} {now : Instant} {b r : Build}
    (advance : Advance s now b r) : r = { b with status := r.status } := by
  -- What is seen of a pod ends up in the status, whatever it is.
  cases advance with
  | observed active early pod =>
    unfold Engine.observed
    split <;> rfl
  | _ => rfl

/-- What a cancellation makes of a build. -/
def cancelled (b : Build) : Build := if b.phase.isTerminal then b else b.withPhase .cancelled

/-- The end of a call on a build: its result, and the store after it. -/
inductive Ends [BuildStore σ] (Becomes : Build → Prop) (b : Build) (st : σ) :
    Except BuildError Build → σ → Prop
  /-- The call failed before anything was saved. -/
  | failed (e : BuildError) : Ends Becomes b st (.error e) st
  /-- The call left the build as it was. -/
  | kept (made : Becomes b) : Ends Becomes b st (.ok b) st
  /-- What became of the build was given to the store. -/
  | saved (target : Build) (made : Becomes target) (changed : target ≠ b) :
      Ends Becomes b st (BuildStore.save target st).result (BuildStore.save target st).store

/-- What a call returns is what became of the build, under some version. -/
theorem Ends.of_ok [BuildStore σ] [FaithfulStore σ] {Becomes : Build → Prop} {b r : Build}
    {st after : σ} (ends : Ends Becomes b st (.ok r) after) :
    ∃ target version, Becomes target ∧ r = target.atVersion version := by
  generalize result : (Except.ok r : Except BuildError Build) = outcome at ends
  -- An answer comes from a build that was kept, which is its own version, or from a save.
  cases ends with
  | failed e => cases result
  | kept made =>
    cases result
    exact ⟨b, b.version, made, rfl⟩
  | saved target made changed =>
    obtain ⟨version, same⟩ := FaithfulStore.saved result.symm
    exact ⟨target, version, made, same⟩

/-- A call that cannot change the build leaves the store alone, and returns nothing else. -/
theorem Ends.of_fixed [BuildStore σ] {Becomes : Build → Prop} {b : Build} {st after : σ}
    {result : Except BuildError Build} (ends : Ends Becomes b st result after)
    (fixed : ∀ target, Becomes target → target = b) :
    after = st ∧ ∀ r, result = .ok r → r = b := by
  cases ends with
  | failed e => exact ⟨rfl, fun r returned => by cases returned⟩
  | kept made => exact ⟨rfl, fun r returned => (Except.ok.inj returned).symm⟩
  -- A save would need a build that has changed.
  | saved target made changed => exact absurd (fixed target made) changed

/-- A reconciliation ends with what a step made of the build. -/
theorem reconcile_ends [BuildStore σ] (s : Settings) (now : Instant) (b : Build) (g : Engine σ) :
    Ends (Advance s now b) b g.store ((reconcile s now b).run.run g).1
      ((reconcile s now b).run.run g).2.store := by
  rw [run_reconcile]
  rcases stepped : (step s now b).run.run g.toSite with ⟨result, t⟩
  cases result with
  | error e => exact .failed e
  | ok target =>
    -- What the step came to is saved only where it is another build.
    have advance := step_ok stepped
    simp only
    split
    · rename_i same
      exact .kept (same ▸ advance)
    · rename_i changed
      rw [run_persist]
      exact .saved target advance changed

/-- Work whose failure is only noted always succeeds, and records nothing but such notes. -/
theorem run_noting (w : Work Unit) (event : BuildError → Log.Event) (g : Engine σ) :
    ∃ notes, (∀ e ∈ notes, ∃ reason, e = event reason) ∧
      (tryCatch (atSite (Site.work w)) (fun e => note (event e)) : EngineM σ Unit).run.run g =
        (.ok (), { g with cluster := (w.run.run g.cluster).2, log := g.log ++ notes }) := by
  rw [run_tryCatch, run_atSite, Site.run_work]
  rcases w.run.run g.cluster with ⟨result, c⟩
  cases result with
  | ok done => exact ⟨[], nofun, by rw [List.append_nil]⟩
  | error e =>
    -- The cluster is not touched by the note.
    refine ⟨[event e], fun _ member => ⟨e, List.mem_singleton.mp member⟩, ?_⟩
    simp only [note]
    rw [run_atSite, Site.run_record]

section Cancelling

variable [BuildStore σ] (s : Settings) {b : Build}

/-- A cancellation of a build that has ended returns it. -/
theorem run_cancel_of_ended (ended : b.phase.isTerminal = true) (g : Engine σ) :
    (cancel s b).run.run g = (.ok b, g) := by
  -- The first thing that is asked is whether the build has ended.
  rw [cancel, if_pos ended]
  rfl

/-- A cancellation of a build that goes on is recorded, and comes to what the save after that comes to. Only once the
build has been saved its worker is deleted; no more is recorded then than that this has failed. -/
theorem run_cancel (going : b.phase.isTerminal = false) (g : Engine σ) :
    let saved := BuildStore.save (b.withPhase .cancelled) g.store
    ∃ notes : List Log.Event, (∀ e ∈ notes, e.fields = []) ∧
      (cancel s b).run.run g = (saved.result,
        { g with
          cluster := match saved.result with
            | .ok r => ((deletePod s r).run.run g.cluster).2
            | .error _ => g.cluster
          store := saved.store
          log := g.log ++ [transition "build cancelled" b (b.withPhase .cancelled)] ++ saved.events
            ++ notes }) := by
  unfold cancel
  rw [if_neg (by simp [going]), run_bind, note, run_atSite, Site.run_record]
  simp only
  rw [run_bind, run_persist]
  cases (BuildStore.save (b.withPhase .cancelled) g.store).result with
  | error e => exact ⟨[], nofun, by rw [List.append_nil]⟩
  | ok r =>
    -- The build has been saved by now, so that a failure of the deletion is only noted.
    simp only
    rw [run_bind]
    obtain ⟨notes, noted, ran⟩ := run_noting (deletePod s r) (fun e =>
      .warn ("Failed to delete pod of cancelled build " ++ r.reference.key ++ ": " ++ e.message)) _
    rw [ran]
    refine ⟨notes, fun e member => ?_, rfl⟩
    obtain ⟨reason, rfl⟩ := noted e member
    rfl

/-- A build that goes on has another phase than a cancelled one. -/
theorem cancelled_changes (going : b.phase.isTerminal = false) : (b.withPhase .cancelled).phase ≠ b.phase := by
  -- Being cancelled is an end, and the build has not ended.
  rintro (same : Phase.cancelled = b.phase)
  rw [← same] at going
  cases going

/-- A cancellation ends with the build cancelled, unless it had ended. -/
theorem cancel_ends (b : Build) (g : Engine σ) :
    Ends (· = cancelled b) b g.store ((cancel s b).run.run g).1 ((cancel s b).run.run g).2.store := by
  cases finished : b.phase.isTerminal with
  | true =>
    rw [run_cancel_of_ended s finished]
    exact .kept (by simp [cancelled, finished])
  | false =>
    obtain ⟨notes, _, ran⟩ := run_cancel s finished g
    rw [ran]
    -- A build that has not ended is saved as cancelled, whatever becomes of its pod.
    exact .saved _ (by simp [cancelled, finished]) fun same =>
      cancelled_changes finished (congrArg Build.phase same)

end Cancelling

/-- The end of a schedule: its result, and the store after it. -/
inductive Scheduled [BuildStore σ] (s : Settings) (now : Instant) (b : Build) (st : σ) :
    Except BuildError Build → σ → Prop
  /-- The files of the build could not be kept. -/
  | unready (e : BuildError) : Scheduled s now b st (.error e) st
  /-- The store did not take the build. -/
  | refused (e : BuildError) (refused : (BuildStore.save b st).result = .error e) :
      Scheduled s now b st (.error e) (BuildStore.save b st).store
  /-- The build was saved, and carried on from there. -/
  | carried {r : Build} {result : Except BuildError Build} {after : σ}
      (saved : (BuildStore.save b st).result = .ok r)
      (ends : Ends (Advance s now r) r (BuildStore.save b st).store result after) :
      Scheduled s now b st result after

/-- A schedule saves the new build before it carries it on. -/
theorem schedule_ends [BuildStore σ] (s : Settings) (now : Instant) (d : Draft) (g : Engine σ) :
    Scheduled s now d.build g.store ((schedule s now d).run.run g).1
      ((schedule s now d).run.run g).2.store := by
  unfold schedule
  rw [run_bind, run_atSite]
  rcases (Site.work (Context.replace s.config.podNamePrefix d.build d.files)).run.run g.toSite
    with ⟨result, t⟩
  cases result with
  | error e => exact .unready e
  | ok kept =>
    simp only
    rw [run_bind, run_persist]
    simp only
    cases saved : (BuildStore.save d.build g.store).result with
    -- A build that could not be saved is not carried on.
    | error e => exact .refused e saved
    | ok r =>
      -- The event between the save and the step touches neither store nor build.
      simp only
      rw [run_bind, note, run_atSite, Site.run_record]
      exact .carried saved (reconcile_ends s now r ⟨⟨t.cluster, _⟩, _⟩)

/-- A call that goes on with a build. -/
inductive Move
  | reconcile (s : Settings) (now : Instant)
  | cancel (s : Settings)

namespace Move

/-- The call on a build. -/
def make [BuildStore σ] (b : Build) : Move → EngineM σ Build
  | reconcile s now => Engine.reconcile s now b
  | cancel s => Engine.cancel s b

/-- What the call makes of a build, before that is saved. -/
def Becomes (b : Build) : Move → Build → Prop
  | reconcile s now, target => Advance s now b target
  | cancel _, target => target = cancelled b

/-- Every call on a build saves what became of it, once or not at all. -/
theorem ends [BuildStore σ] (m : Move) (b : Build) (g : Engine σ) :
    Ends (m.Becomes b) b g.store ((m.make b).run.run g).1 ((m.make b).run.run g).2.store := by
  cases m with
  | reconcile s now => exact reconcile_ends s now b g
  | cancel s => exact cancel_ends s b g

/-- A call changes nothing of a build but its status. -/
theorem only_status {m : Move} {b target : Build} (made : m.Becomes b target) :
    target = { b with status := target.status } := by
  cases m with
  | reconcile s now => exact Advance.only_status made
  | cancel s =>
    have same : target = cancelled b := made
    -- A cancelled build has another phase, which is part of its status.
    rw [same, cancelled]
    split <;> rfl

/-- A call that succeeds returns what it makes of the build, under some version. -/
theorem make_ok [BuildStore σ] [FaithfulStore σ] {m : Move} {b r : Build} {g h : Engine σ}
    (ran : (m.make b).run.run g = (.ok r, h)) :
    ∃ target version, m.Becomes b target ∧ r = target.atVersion version := by
  -- Every move ends in one of three ways, and only two of them give an answer.
  have ends := m.ends b g
  rw [ran] at ends
  exact ends.of_ok

end Move

end ImageBuild.Engine
