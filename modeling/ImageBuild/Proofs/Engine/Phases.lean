import ImageBuild.Proofs.Engine.Saving
import Mathlib.Logic.Relation

/-! The phases of a build follow the edges of one graph, and a build that has ended stays as it is. -/

namespace ImageBuild

open Worker

namespace Phase

/-- The phases that one step can lead to, beside the phase itself. -/
def successors : Phase → List Phase
  | new | initialization => [scheduling]
  | scheduling => [pending]
  | pending | running => [pending, running, succeeded, failed]
  | failed => [initialization, error]
  | succeeded | error | cancelled => []

/-- Before a worker is started there is one way to go on. -/
theorem successors_of_starting {p : Phase} (starting : p = .new ∨ p = .initialization) :
    p.successors = [.scheduling] := by
  rcases starting with rfl | rfl <;> rfl

/-- As long as a worker is followed there are the same four ways to go on. -/
theorem successors_of_active {p : Phase} (active : p = .pending ∨ p = .running) :
    p.successors = [.pending, .running, .succeeded, .failed] := by
  rcases active with rfl | rfl <;> rfl

/-- Before a worker is started a build has not ended. -/
theorem isTerminal_of_starting {p : Phase} (starting : p = .new ∨ p = .initialization) :
    p.isTerminal = false := by
  rcases starting with rfl | rfl <;> rfl

/-- As long as a worker is followed its build has not ended. -/
theorem isTerminal_of_active {p : Phase} (active : p = .pending ∨ p = .running) :
    p.isTerminal = false := by
  rcases active with rfl | rfl <;> rfl

end Phase

namespace Engine

open Run

variable {σ : Type}

/-- A look at a pod leads from an active phase to one of its successors. -/
theorem observed_moves {b : Build} (active : b.phase = .pending ∨ b.phase = .running)
    (pod : Kubernetes.Pod) (now : Instant) : (observed b pod now).phase ∈ b.phase.successors := by
  -- A pod that says nothing leaves the phase, which is among its own successors.
  rw [Phase.successors_of_active active]
  unfold observed
  split
  · simp
  · simp
  · simp [Build.phase]
  · simp
  · rcases active with phase | phase <;> simp [phase]

/-- A step stays in a phase or follows an edge from it. -/
theorem Advance.moves {s : Settings} {now : Instant} {b r : Build} (advance : Advance s now b r) :
    r.phase = b.phase ∨ r.phase ∈ b.phase.successors := by
  cases advance with
  | prepared starting => simp [Phase.successors_of_starting starting]
  | launched scheduled => simp [scheduled, Phase.successors]
  | overdue active late => simp [Phase.successors_of_active active]
  | observed active early pod => exact .inr (observed_moves active pod now)
  | vanished running early => simp [Phase.successors_of_active (.inr running)]
  | exhausted failed f recorded spent => simp [failed, Phase.successors]
  | restarted failed f recorded left due => simp [failed, Phase.successors]
  -- A failure is noted without leaving the phase, as are all steps that only wait.
  | noted failed unrecorded => exact .inl rfl
  | _ => exact .inl rfl

/-- A step makes nothing else of a build that has ended. -/
theorem Advance.of_terminal {s : Settings} {now : Instant} {b r : Build}
    (advance : Advance s now b r) (finished : b.phase.isTerminal = true) : r = b := by
  -- All steps that change a build start from a phase that is not terminal.
  cases advance with
  | prepared starting => simp [Phase.isTerminal_of_starting starting] at finished
  | launched scheduled => simp [scheduled, Phase.isTerminal] at finished
  | overdue active late => simp [Phase.isTerminal_of_active active] at finished
  | observed active early pod => simp [Phase.isTerminal_of_active active] at finished
  | vanished running early => simp [running, Phase.isTerminal] at finished
  | noted failed unrecorded => simp [failed, Phase.isTerminal] at finished
  | exhausted failed f recorded spent => simp [failed, Phase.isTerminal] at finished
  | restarted failed f recorded left due => simp [failed, Phase.isTerminal] at finished
  | _ => rfl

/-- A scheduled build of a pod is pending after every step that succeeds. -/
theorem Advance.of_scheduled {s : Settings} {now : Instant} {b r : Build}
    (advance : Advance s now b r) (pod : b.spec.strategy = .pod) (scheduled : b.phase = .scheduling) :
    r.phase = .pending := by
  cases advance with
  | idle unhandled =>
    -- Builds of pods have an action for this phase.
    simp [Action.next?, Action.forStrategy, pod, Action.forPods, scheduled, Action.accepts]
      at unhandled
  | launched _ => rfl
  -- Every other step that could leave the phase starts from another one.
  | _ => simp_all

/-- Giving up calls nothing, and is only recorded. -/
theorem run_giveUp (s : Settings) (now : Instant) (b : Build) (t : Site) :
    (actRecorded s now b .giveUp).run.run t =
      (.ok b, { t with log := t.log ++ [.info ("Invoking action " ++ Action.giveUp.name)] }) := by
  unfold actRecorded
  rw [run_bind, Site.run_record]
  simp only
  rw [run_bind, run_tryCatch, act, run_pure]
  -- The phase is the same, so that no transition is recorded.
  simp only [ne_eq, not_true_eq_false, if_false]
  rw [run_pure]

/-- A step of a build that has succeeded, or has been given up, leaves the cluster alone. -/
theorem step_quiet (s : Settings) (now : Instant) {b : Build}
    (finished : b.phase = .succeeded ∨ b.phase = .error) (t : Site) :
    ∃ log, (step s now b).run.run t = (.ok b, { t with log := log }) := by
  unfold step
  split
  · rename_i action chosen
    -- Of all actions only the one that does nothing accepts such a build.
    have accepted := Action.accepts_of_next? chosen
    have quiet : action = .giveUp := by
      rcases finished with phase | phase <;> cases action <;> simp [phase, Action.accepts] at accepted ⊢
    rw [quiet]
    exact ⟨_, run_giveUp s now b t⟩
  · exact ⟨t.log, run_pure b t⟩

/-- A call on a build that has succeeded, or has been given up, returns it and leaves the cluster alone. -/
theorem Move.make_quiet [BuildStore σ] (m : Move) {b : Build}
    (finished : b.phase = .succeeded ∨ b.phase = .error) (g : Engine σ) :
    ((m.make b).run.run g).1 = .ok b ∧ ((m.make b).run.run g).2.cluster = g.cluster := by
  cases m with
  | reconcile s now =>
    obtain ⟨log, stepped⟩ := step_quiet s now finished g.toSite
    simp [make, run_reconcile, stepped]
  | cancel s =>
    -- A build that has ended in any way cannot be cancelled.
    have terminal : b.phase.isTerminal = true := by
      rcases finished with phase | phase <;> rw [phase] <;> rfl
    simp only [make, Engine.cancel, terminal, if_true]
    exact ⟨rfl, rfl⟩

/-- Every call on a build that has ended leaves the store alone, and returns nothing but that build. -/
theorem Move.make_ended [BuildStore σ] (m : Move) {b : Build} (finished : b.phase.isTerminal = true)
    (g : Engine σ) :
    ((m.make b).run.run g).2.store = g.store ∧ ∀ r, ((m.make b).run.run g).1 = .ok r → r = b := by
  -- A move that leaves the build as it is has nothing to save.
  apply (m.ends b g).of_fixed
  intro target made
  cases m with
  | reconcile s now => exact made.of_terminal finished
  | cancel s =>
    change target = cancelled b at made
    simpa [cancelled, finished] using made

/-- One turn of a build that is carried on or cancelled, or of the cluster around it. -/
inductive Turn [BuildStore σ] : Engine σ × Build → Engine σ × Build → Prop
  /-- A call returned the build as it is now. -/
  | answered (m : Move) {g h : Engine σ} {b r : Build} (ran : (m.make b).run.run g = (.ok r, h)) :
      Turn (g, b) (h, r)
  /-- A call failed, and the build is still the one that was given to it. -/
  | refused (m : Move) {g h : Engine σ} {b : Build} {e : BuildError}
      (ran : (m.make b).run.run g = (.error e, h)) : Turn (g, b) (h, b)
  /-- The cluster changed in some way. -/
  | disturbed (g : Engine σ) (b : Build) (cluster : Cluster) :
      Turn (g, b) ({ g with cluster := cluster }, b)

/-- A run leaves a build that has ended, and the store, as they are. -/
theorem Turn.run_ended [BuildStore σ] {p q : Engine σ × Build}
    (run : Relation.ReflTransGen Turn p q) (finished : p.2.phase.isTerminal = true) :
    q.2 = p.2 ∧ q.1.store = p.1.store := by
  -- As the build stays the same one, every turn starts from a build that has ended.
  induction run with
  | refl => exact ⟨rfl, rfl⟩
  | tail _ turn ih =>
    obtain ⟨same, kept⟩ := ih
    cases turn with
    | @answered m g h b r ran =>
      -- An answer gives back the same build, and nothing is written.
      obtain ⟨store, fixed⟩ := m.make_ended (same ▸ finished) g
      rw [ran] at store fixed
      exact ⟨(fixed _ rfl).trans same, store.trans kept⟩
    | @refused m g h b e ran =>
      obtain ⟨store, _⟩ := m.make_ended (same ▸ finished) g
      rw [ran] at store
      exact ⟨same, store.trans kept⟩
    | disturbed g b cluster => exact ⟨same, kept⟩

/-- Every call follows the graph of phases, and a build that has ended stays for good. -/
theorem phases_follow_edges [BuildStore σ] [FaithfulStore σ] :
    (∀ (s : Settings) (now : Instant) (b r : Build) (g h : Engine σ),
      (reconcile s now b).run.run g = (.ok r, h) →
        (r.phase = b.phase ∨ r.phase ∈ b.phase.successors) ∧
        (b.spec.strategy = .pod → b.phase = .scheduling → r.phase = .pending)) ∧
    (∀ (s : Settings) (b r : Build) (g h : Engine σ),
      (cancel s b).run.run g = (.ok r, h) →
        if b.phase.isTerminal then r = b else r.phase = .cancelled) ∧
    (∀ (b c : Build) (g h : Engine σ), b.phase.isTerminal = true →
      Relation.ReflTransGen Turn (g, b) (h, c) →
        c = b ∧ h.store = g.store ∧ ∀ m : Move,
          ((m.make c).run.run h).2.store = h.store ∧
          (∀ r, ((m.make c).run.run h).1 = .ok r → r = b) ∧
          (b.phase ≠ .cancelled →
            ((m.make c).run.run h).1 = .ok b ∧ ((m.make c).run.run h).2.cluster = h.cluster)) := by
  refine ⟨?_, ?_, ?_⟩
  · intro s now b r g h ran
    -- Saving changes the version only, so the phase is the one that the step led to.
    obtain ⟨target, version, made, rfl⟩ := Move.make_ok (m := .reconcile s now) ran
    exact ⟨made.moves, made.of_scheduled⟩
  · intro s b r g h ran
    split
    · rename_i finished
      obtain ⟨_, fixed⟩ := Move.make_ended (.cancel s) finished g
      exact fixed r (congrArg Prod.fst ran)
    · rename_i going
      obtain ⟨target, version, made, rfl⟩ := Move.make_ok (m := .cancel s) ran
      have target_eq : target = cancelled b := made
      simp [target_eq, cancelled, going]
  · intro b c g h finished run
    obtain ⟨same, kept⟩ := Turn.run_ended run finished
    have same : c = b := same
    subst same
    refine ⟨rfl, kept, fun m => ?_⟩
    obtain ⟨store, fixed⟩ := m.make_ended finished h
    refine ⟨store, fixed, fun uncancelled => ?_⟩
    -- The other two terminal phases call for nothing in the cluster.
    have quiet : c.phase = .succeeded ∨ c.phase = .error := by
      cases phase : c.phase <;> simp [phase, Phase.isTerminal] at finished uncancelled ⊢
    exact m.make_quiet quiet h

/-- Usual settings, and no proxy. -/
def usualSettings : Settings := ⟨.standard, ⟨none, none, none⟩⟩

/-- An engine to which nothing has happened, with a store in memory. -/
def freshEngine : Engine Memory := ⟨⟨.empty .epoch, []⟩, .empty⟩

/-- A build without tasks, in a phase. -/
def bareBuild (phase : Phase) : Build :=
  ⟨⟨"ns", "app"⟩, 0, ⟨[], .pod, .zero⟩, { BuildStatus.fresh with phase := phase }⟩

/-- A scheduled build gets its pod, a running one is cancelled, and one that has succeeded stays so
while the cluster around it changes. -/
theorem phases_follow_edges_bareBuild :
    ((bareBuild .scheduling).launched .epoch |>.atVersion 1).phase = .pending ∧
    ((bareBuild .running).withPhase .cancelled |>.atVersion 1).phase = .cancelled ∧
    ∀ m : Move, ∀ r,
      ((m.make (bareBuild .succeeded)).run.run
        { freshEngine with cluster := freshEngine.cluster.setLingering true }).1 = .ok r →
          r = bareBuild .succeeded := by
  obtain ⟨edges, cancels, stays⟩ := phases_follow_edges (σ := Memory)
  refine ⟨?_, ?_, ?_⟩
  · exact (edges usualSettings .epoch (bareBuild .scheduling) _ freshEngine _ (Prod.ext rfl rfl)).2
      rfl rfl
  · exact cancels usualSettings (bareBuild .running) _ freshEngine _ (Prod.ext rfl rfl)
  · intro m
    -- The cluster is disturbed once, which is a turn that is none of the builder's.
    have turn : Turn (freshEngine, bareBuild .succeeded)
        ({ freshEngine with cluster := freshEngine.cluster.setLingering true },
          bareBuild .succeeded) := .disturbed _ _ _
    exact ((stays _ _ _ _ rfl (.single turn)).2.2 m).2.1

end Engine

end ImageBuild
