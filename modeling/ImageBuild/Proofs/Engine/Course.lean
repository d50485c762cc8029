import ImageBuild.Proofs.Engine.Phases

/-! Courses of builds: what becomes of one build, call after call, and how often it crosses an edge. -/

namespace ImageBuild

open Worker

/-- States as they follow one another, the last one first. -/
inductive Course {S : Type} (Next : S → S → Prop) (first : S) : List S → Prop
  /-- Nothing has followed the first state yet. -/
  | start : Course Next first [first]
  /-- One more state has followed. -/
  | next {current later : S} {past : List S} (course : Course Next first (current :: past))
      (followed : Next current later) : Course Next first (later :: current :: past)

/-- What every step keeps, and two steps keep when each of them does, is kept along a course. -/
theorem Course.pairwise {S : Type} {Next Keeps : S → S → Prop} {first : S} {course : List S}
    (run : Course Next first course) (step : ∀ {current later}, Next current later → Keeps later current)
    (trans : ∀ {last later earlier}, Keeps last later → Keeps later earlier → Keeps last earlier) :
    course.Pairwise Keeps := by
  -- The last state keeps what the one before it kept, and so what all earlier ones did.
  induction run with
  | start => exact List.pairwise_singleton _ _
  | @next current later past run followed ih =>
    have last := step followed
    refine List.pairwise_cons.mpr ⟨fun earlier member => ?_, ih⟩
    rcases List.mem_cons.mp member with rfl | before
    · exact last
    · exact trans last ((List.pairwise_cons.mp ih).1 earlier before)

namespace Engine

variable {σ : Type}

/-- A reconciliation, whatever the engine, the clock and the settings are like by then. -/
inductive Tick (σ : Type) [BuildStore σ] (b : Build) : Build → Prop
  /-- It returned the build as it is now. -/
  | answered {s : Settings} {now : Instant} {g h : Engine σ} {r : Build}
      (ran : (reconcile s now b).run.run g = (.ok r, h)) : Tick σ b r
  /-- It failed, and the build is still the one that was given to it. -/
  | refused {s : Settings} {now : Instant} {g h : Engine σ} {e : BuildError}
      (ran : (reconcile s now b).run.run g = (.error e, h)) : Tick σ b b

/-- A reconciliation leaves the build as it was, or makes one of the steps. -/
theorem Tick.advance [BuildStore σ] [FaithfulStore σ] {b r : Build} (tick : Tick σ b r) :
    r = b ∨ ∃ s now target version, Advance s now b target ∧ r = target.atVersion version := by
  cases tick with
  | @answered s now _ _ _ ran =>
    -- The store returns what it was given, under a version of its own.
    obtain ⟨target, version, made, same⟩ := Move.make_ok (m := .reconcile s now) ran
    exact .inr ⟨s, now, target, version, made, same⟩
  | refused ran => exact .inl rfl

/-- How often a course of builds has gone from one phase straight to another. -/
def crossings (source target : Phase) : List Build → Nat
  | later :: earlier :: past =>
    (if earlier.phase = source ∧ later.phase = target then 1 else 0)
      + crossings source target (earlier :: past)
  | _ => 0

/-- Nothing is crossed before the second state. -/
@[simp] theorem crossings_single (source target : Phase) (b : Build) :
    crossings source target [b] = 0 := rfl

/-- The last step of a course counts if it crosses the edge. -/
theorem crossings_cons (source target : Phase) (later earlier : Build) (past : List Build) :
    crossings source target (later :: earlier :: past) =
      (if earlier.phase = source ∧ later.phase = target then 1 else 0)
        + crossings source target (earlier :: past) := rfl

/-- A step that stays in a phase crosses nothing. -/
theorem crossings_stay {source target : Phase} (apart : source ≠ target) {later earlier : Build}
    (stayed : later.phase = earlier.phase) (past : List Build) :
    crossings source target (later :: earlier :: past)
      = crossings source target (earlier :: past) := by
  rw [crossings_cons, if_neg, Nat.zero_add]
  -- The edge leads to another phase, and this step led to the same one.
  rintro ⟨left, entered⟩
  exact apart (left.symm.trans (stayed.symm.trans entered))

end Engine

end ImageBuild
