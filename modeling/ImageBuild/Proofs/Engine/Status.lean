import ImageBuild.Proofs.Engine.Recovery

/-! The fields of a status match its phase in every build that the engine has come to. -/

namespace ImageBuild

open Worker

namespace BuildStatus

/-- What the other fields of a status are in its phase. -/
def FitsPhase (t : BuildStatus) : Prop :=
  match t.phase with
  | .new => t.startedAt = none ∧ t.error = none ∧ t.failure = none ∧ t.duration = none
  | .initialization => ∃ f, t.failure = some f ∧ 1 ≤ f.recovery.attempt
  | .scheduling => t.startedAt = none ∧ t.error = none ∧ t.duration = none
  | .pending | .running => t.startedAt.isSome ∧ t.error = none ∧ t.duration = none
  | .succeeded => t.startedAt.isSome ∧ t.error = none
  | .failed => t.error.isSome ∧ t.startedAt.isSome
  | .error => t.error.isSome ∧
      ∃ f, t.failure = some f ∧ f.recovery.attempt = f.recovery.attemptMax
  | .cancelled => True

/-- The phases of an attempt that has not failed yet. -/
def attemptPhases : List Phase := [.initialization, .scheduling, .pending, .running, .succeeded]

/-- Whether a status may stand in a build that the engine has come to. -/
structure Fits (t : BuildStatus) : Prop where
  /-- The fields match the phase. -/
  phase : t.FitsPhase
  /-- A build on its way that has failed before has been started again. -/
  retried : t.phase ∈ attemptPhases → ∀ f, t.failure = some f → 1 ≤ f.recovery.attempt
  /-- No more attempts have been made than may be. -/
  within : ∀ f, t.failure = some f → f.recovery.attempt ≤ f.recovery.attemptMax
  /-- The last attempt has a time when there was one. -/
  dated : ∀ f, t.failure = some f →
    (f.recovery.attemptTime.isSome = true ↔ 1 ≤ f.recovery.attempt)

/-- The status of a build to which nothing has happened fits. -/
theorem fits_fresh : fresh.Fits where
  -- A fresh status records nothing, so that all that is said of a record holds.
  phase := ⟨rfl, rfl, rfl, rfl⟩
  retried := by simp [fresh, attemptPhases]
  within := by simp [fresh]
  dated := by simp [fresh]

/-- A cancelled status fits when it did before. -/
theorem Fits.cancelled {t : BuildStatus} (fits : t.Fits) : { t with phase := .cancelled }.Fits where
  -- Of a cancelled build no field is asked for, and the record stays as it was.
  phase := trivial
  retried := by simp [attemptPhases]
  within := fits.within
  dated := fits.dated

end BuildStatus

namespace Engine

variable {σ : Type}

/-- In a phase where a worker is followed, the fields are the same. -/
theorem fitsPhase_of_active {t : BuildStatus} (active : t.phase = .pending ∨ t.phase = .running)
    (fits : t.FitsPhase) : t.startedAt.isSome ∧ t.error = none ∧ t.duration = none := by
  -- Both phases ask for the same fields.
  unfold BuildStatus.FitsPhase at fits
  rcases active with phase | phase <;> simpa [phase] using fits

/-- What is seen of a pod leads to a phase that the fields match. -/
theorem observed_fitsPhase {b : Build} (active : b.phase = .pending ∨ b.phase = .running)
    (fits : b.status.FitsPhase) (pod : Kubernetes.Pod) (now : Instant) :
    (observed b pod now).status.FitsPhase := by
  -- What an active build already has is what the phases after it ask for.
  obtain ⟨started, flawless, untimed⟩ := fitsPhase_of_active active fits
  unfold observed
  split
  · exact ⟨started, flawless, untimed⟩
  · exact ⟨started, flawless, untimed⟩
  · exact ⟨started, flawless⟩
  · exact ⟨rfl, started⟩
  · exact fits

/-- Every step keeps the fields and the phase matched. -/
theorem Advance.fitsPhase {s : Settings} {now : Instant} {b r : Build}
    (advance : Advance s now b r) (fits : b.status.Fits) : r.status.FitsPhase := by
  have matched := fits.phase
  cases advance with
  | prepared starting => exact ⟨rfl, rfl, rfl⟩
  | launched scheduled =>
    -- A scheduled build has neither an error nor a duration.
    have phase : b.status.phase = .scheduling := scheduled
    simp only [BuildStatus.FitsPhase, phase] at matched
    exact ⟨rfl, matched.2.1, matched.2.2⟩
  | overdue active late => exact ⟨rfl, (fitsPhase_of_active active matched).1⟩
  | observed active early pod => exact observed_fitsPhase active matched pod now
  | vanished running early => exact ⟨rfl, (fitsPhase_of_active (.inr running) matched).1⟩
  | noted failed unrecorded =>
    -- A failed build may have a record or none.
    have phase : b.status.phase = .failed := failed
    simpa [BuildStatus.FitsPhase, Build.noted, phase] using matched
  | exhausted failed f recorded spent =>
    have phase : b.status.phase = .failed := failed
    simp only [BuildStatus.FitsPhase, phase] at matched
    -- The limit bounds the attempts, so that those which exhaust it meet it.
    exact ⟨matched.1, f, recorded, UInt32.le_antisymm (fits.within f recorded) spent⟩
  | restarted failed f recorded left due =>
    -- The attempt that begins is the first one at least.
    refine ⟨attempted now f, rfl, ?_⟩
    rw [UInt32.le_iff_toNat_le, toNat_attempted left]
    simp
  | _ => exact matched

/-- A phase of an attempt is entered from another one, or from that of a new build. -/
theorem attemptPhases_edge {p q : Phase} (edge : q = p ∨ q ∈ p.successors)
    (still : ¬(p = .failed ∧ q = .initialization)) (inside : q ∈ BuildStatus.attemptPhases) :
    p = .new ∨ p ∈ BuildStatus.attemptPhases := by
  -- Only the edge that starts a failed build again enters from outside.
  revert edge still inside
  cases p <;> cases q <;> decide

/-- Every step leads from a status that fits to one that fits. -/
theorem Advance.fits {s : Settings} {now : Instant} {b r : Build} (advance : Advance s now b r)
    (fits : b.status.Fits) : r.status.Fits where
  phase := advance.fitsPhase fits
  within := advance.withinLimit fits.within
  retried := by
    intro inside f recorded
    -- The record is as it was, or new in a failed build, or has just counted an attempt.
    rcases advance.failure_cases with ⟨same, still⟩ | ⟨_, failed, _⟩ | ⟨g, _, _, _, left, counted⟩
    · rcases attemptPhases_edge advance.moves still inside with new | before
      · -- A new build has not failed, and its record is still the same.
        have phase : b.status.phase = .new := new
        have matched := fits.phase
        simp only [BuildStatus.FitsPhase, phase] at matched
        simp [same, matched.2.2.1] at recorded
      · exact fits.retried before f (same.symm.trans recorded)
    · -- A build whose failure is noted is in no attempt.
      have phase : r.status.phase = .failed := failed
      simp [phase, BuildStatus.attemptPhases] at inside
    · rw [← Option.some.inj (counted.symm.trans recorded), UInt32.le_iff_toNat_le,
        toNat_attempted left]
      simp
  dated := by
    intro f recorded
    rcases advance.failure_cases with ⟨same, _⟩ | ⟨_, _, noted⟩ | ⟨g, _, _, _, left, counted⟩
    · exact fits.dated f (same.symm.trans recorded)
    -- A new record has neither attempts nor a time, and a counted attempt has both.
    · rw [← Option.some.inj (noted.symm.trans recorded)]
      simp [firstFailure, UInt32.le_iff_toNat_le]
    · rw [← Option.some.inj (counted.symm.trans recorded), UInt32.le_iff_toNat_le,
        toNat_attempted left]
      simp [attempted]

/-- What a call makes of a build fits when the build did. -/
theorem Move.becomes_fits {m : Move} {b target : Build} (made : m.Becomes b target)
    (fits : b.status.Fits) : target.status.Fits := by
  cases m with
  | reconcile s now => exact Advance.fits made fits
  | cancel s =>
    -- Cancelling a build that has ended leaves its status.
    have same : target = cancelled b := made
    rw [same, cancelled]
    split
    · exact fits
    · exact fits.cancelled

/-- A build became another one by a call that succeeded, whatever the engine was like by then. -/
def Moved (σ : Type) [BuildStore σ] (b r : Build) : Prop :=
  ∃ (m : Move) (g h : Engine σ), (m.make b).run.run g = (.ok r, h)

/-- The status of every build that can be reached from a request fits. -/
theorem status_fits_of_run [BuildStore σ] [FaithfulStore σ] {q : BuildRequest} {first b : Build}
    (asked : q.build = .ok first) (run : Relation.ReflTransGen (Moved σ) first b) :
    b.status.Fits := by
  -- The invariant holds of the new build, and every call that succeeds keeps it.
  induction run with
  | refl =>
    rw [(status_of_request asked).1]
    exact BuildStatus.fits_fresh
  | tail _ moved ih =>
    obtain ⟨m, g, h, ran⟩ := moved
    -- The version under which a build is saved is no part of its status.
    obtain ⟨target, version, made, rfl⟩ := Move.make_ok ran
    have fits : target.status.Fits := Move.becomes_fits made ih
    exact fits

/-- The build of a request fits once its worker has been started. -/
theorem status_fits_of_run_launched :
    (hastyRequest.kanikoBuild.prepared.launched .epoch).status.Fits := by
  have asked : hastyRequest.build = .ok hastyRequest.kanikoBuild := by rfl
  -- Each of the two reconciliations is answered, and its answer is the next build.
  have moved : ∀ {b r : Build},
      ((reconcile usualSettings .epoch b).run.run storelessEngine).1 = .ok r →
        Moved (Option Memory) b r := fun returned =>
    ⟨.reconcile usualSettings .epoch, storelessEngine, _, Prod.ext returned rfl⟩
  have prepared : Moved (Option Memory) hastyRequest.kanikoBuild
      hastyRequest.kanikoBuild.prepared := moved rfl
  have launched : Moved (Option Memory) hastyRequest.kanikoBuild.prepared
      (hastyRequest.kanikoBuild.prepared.launched .epoch) := moved rfl
  exact status_fits_of_run asked (.tail (.single prepared) launched)

end Engine

end ImageBuild
