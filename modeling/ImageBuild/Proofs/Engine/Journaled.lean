import ImageBuild.Proofs.Engine.Saving
import ImageBuild.Proofs.Store.Journal

/-! The engine does the same whether its store keeps a journal or not. -/

namespace ImageBuild.Engine

open Run Worker

variable {σ α β : Type}

/-- The engine without the journal of its store. -/
def forget (g : Engine (Journal σ)) : Engine σ := ⟨g.toSite, g.store.store⟩

/-- Steps with a journal do what other steps do without it. -/
def Mirrors (journaled : EngineM (Journal σ) α) (plain : EngineM σ α) : Prop :=
  ∀ g, plain.run.run g.forget = ((journaled.run.run g).1, (journaled.run.run g).2.forget)

/-- A value by itself takes no note of a journal. -/
theorem Mirrors.pure (a : α) :
    Mirrors (Pure.pure a : EngineM (Journal σ) α) (Pure.pure a) := fun _ => rfl

/-- Steps mirror each other when they run in parallel from engines that differ in the journal only. -/
theorem mirrors_iff {m : EngineM (Journal σ) α} {n : EngineM σ α} :
    Mirrors m n ↔ Parallel (fun g h => g.forget = h) m n := by
  -- Forgetting the record of saves is a function, so that being related is being equal.
  constructor
  · rintro mirrors g h rfl
    rw [mirrors g]
    exact ⟨rfl, rfl⟩
  · intro parallel g
    obtain ⟨result, after⟩ := parallel g g.forget rfl
    exact Prod.ext result.symm after.symm

/-- Joined steps mirror each other when their parts do. -/
theorem Mirrors.bind {m : EngineM (Journal σ) α} {n : EngineM σ α}
    {k : α → EngineM (Journal σ) β} {l : α → EngineM σ β} (first : Mirrors m n)
    (later : ∀ a, Mirrors (k a) (l a)) : Mirrors (m >>= k) (n >>= l) :=
  mirrors_iff.mpr ((mirrors_iff.mp first).bind fun a => mirrors_iff.mp (later a))

/-- Watched steps mirror each other when they and their handlers do. -/
theorem Mirrors.tryCatch {m : EngineM (Journal σ) α} {n : EngineM σ α}
    {handle : BuildError → EngineM (Journal σ) α} {handlePlain : BuildError → EngineM σ α}
    (watched : Mirrors m n) (handled : ∀ e, Mirrors (handle e) (handlePlain e)) :
    Mirrors (MonadExcept.tryCatch m handle) (MonadExcept.tryCatch n handlePlain) :=
  mirrors_iff.mpr ((mirrors_iff.mp watched).tryCatch fun e => mirrors_iff.mp (handled e))

/-- Steps at the site know nothing of the store. -/
theorem mirrors_atSite (m : SiteM α) : Mirrors (σ := σ) (atSite m) (atSite m) := by
  -- The site has no record.
  intro g
  rw [run_atSite, run_atSite]
  rfl

variable [BuildStore σ]

/-- A build is saved as it is without a journal. -/
theorem mirrors_persist (b : Build) : Mirrors (σ := σ) (persist b) (persist b) := by
  -- The save below is the same, and the record is written beside it.
  intro g
  rw [run_persist, run_persist]
  rfl

/-- A build is loaded as it is without a journal. -/
theorem mirrors_load (place : Reference) : Mirrors (σ := σ) (load place) (load place) := by
  -- Loading looks at the store below.
  intro g
  rw [run_load, run_load]
  rfl

/-- A build is carried on as it is without a journal. -/
theorem mirrors_reconcile (s : Settings) (now : Instant) (b : Build) :
    Mirrors (σ := σ) (reconcile s now b) (reconcile s now b) := by
  unfold reconcile
  -- The step is the same, and what it returns decides whether there is a save.
  refine (mirrors_atSite _).bind (fun target => ?_)
  split
  · exact .pure target
  · exact mirrors_persist target

/-- A build is cancelled as it is without a journal. -/
theorem mirrors_cancel (s : Settings) (b : Build) :
    Mirrors (σ := σ) (cancel s b) (cancel s b) := by
  unfold cancel
  split
  · exact .pure b
  · refine (mirrors_atSite _).bind (fun _ => (mirrors_persist _).bind (fun target => ?_))
    -- The deletion of the pod and the note of its failure both happen at the site.
    have watched := (mirrors_atSite (σ := σ) (Site.work (deletePod s target))).tryCatch
      (fun e => mirrors_atSite (Site.record (.warn ("Failed to delete pod of cancelled build "
        ++ target.reference.key ++ ": " ++ e.message))))
    exact watched.bind (fun _ => .pure target)

/-- A build is scheduled as it is without a journal. -/
theorem mirrors_schedule (s : Settings) (now : Instant) (d : Draft) :
    Mirrors (σ := σ) (schedule s now d) (schedule s now d) := by
  -- Each step mirrors itself.
  unfold schedule
  refine (mirrors_atSite _).bind (fun _ => (mirrors_persist _).bind (fun b => ?_))
  exact (mirrors_atSite _).bind (fun _ => mirrors_reconcile s now b)

/-- A call on a build does the same with a journal and without it. -/
theorem Move.mirrors (m : Move) (b : Build) : Mirrors (σ := σ) (m.make b) (m.make b) := by
  -- Both moves have been dealt with.
  cases m with
  | reconcile s now => exact mirrors_reconcile s now b
  | cancel s => exact mirrors_cancel s b

end ImageBuild.Engine
