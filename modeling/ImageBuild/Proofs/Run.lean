import ImageBuild.Engine.Basic

/-! Runs of steps that may fail and keep their effects: each way of joining steps runs its parts in turn. -/

namespace ImageBuild.Run

variable {ε σ α β : Type}

/-- A value by itself does nothing. -/
theorem run_pure (a : α) (s : σ) : (pure a : ExceptT ε (StateM σ) α).run.run s = (.ok a, s) := rfl

/-- Looking at the state changes nothing. -/
theorem run_get (s : σ) : (get : ExceptT ε (StateM σ) σ).run.run s = (.ok s, s) := rfl

/-- Later steps start where the first ones end, and are left out when these fail. -/
theorem run_bind (m : ExceptT ε (StateM σ) α) (k : α → ExceptT ε (StateM σ) β) (s : σ) :
    (m >>= k).run.run s =
      match m.run.run s with
      | (.ok a, t) => (k a).run.run t
      | (.error e, t) => (.error e, t) := by
  -- Only the outcome of the first steps decides whether others follow.
  rw [ExceptT.run_bind, StateT.run_bind]
  rcases m.run.run s with ⟨result, t⟩
  cases result <;> rfl

/-- What is made of the result of steps changes nothing else. -/
theorem run_map (f : α → β) (m : ExceptT ε (StateM σ) α) (s : σ) :
    (f <$> m).run.run s = ((m.run.run s).1.map f, (m.run.run s).2) := by
  -- The results are mapped where they are bound.
  rw [← bind_pure_comp, run_bind]
  rcases m.run.run s with ⟨result, t⟩
  cases result <;> rfl

/-- A handler starts where the failed steps end, so that their effects stay. -/
theorem run_tryCatch (m : ExceptT ε (StateM σ) α) (handle : ε → ExceptT ε (StateM σ) α) (s : σ) :
    (tryCatch m handle).run.run s =
      match m.run.run s with
      | (.ok a, t) => (.ok a, t)
      | (.error e, t) => (handle e).run.run t := by
  -- Catching is a bind on the outcome of the steps that are watched.
  change (ExceptT.tryCatch m handle).run.run s = _
  unfold ExceptT.tryCatch
  change (m.run >>= _).run s = _
  rw [StateT.run_bind]
  rcases m.run.run s with ⟨result, t⟩
  cases result <;> rfl

/-- A value by itself is what a run of it returns. -/
theorem pure_ok {a b : α} {s t : σ}
    (ran : (pure a : ExceptT ε (StateM σ) α).run.run s = (.ok b, t)) : b = a ∧ t = s := by
  -- Pure work changes no state and has one outcome.
  rw [run_pure, Prod.mk.injEq, Except.ok.injEq] at ran
  exact ⟨ran.1.symm, ran.2.symm⟩

/-- Joined steps succeed only when the first ones do, and the others after them. -/
theorem bind_ok {m : ExceptT ε (StateM σ) α} {k : α → ExceptT ε (StateM σ) β} {b : β} {s u : σ}
    (ran : (m >>= k).run.run s = (.ok b, u)) :
    ∃ a t, m.run.run s = (.ok a, t) ∧ (k a).run.run t = (.ok b, u) := by
  -- The first part must have answered, since its failure would have been the answer.
  rw [run_bind] at ran
  rcases first : m.run.run s with ⟨result, t⟩
  rw [first] at ran
  cases result with
  | error e => cases ran
  | ok a => exact ⟨a, t, rfl, ran⟩

/-- What is made of the result of steps is there just when they succeed. -/
theorem map_ok {f : α → β} {m : ExceptT ε (StateM σ) α} {b : β} {s t : σ}
    (ran : (f <$> m).run.run s = (.ok b, t)) : ∃ a, m.run.run s = (.ok a, t) ∧ b = f a := by
  -- What is mapped is work followed by a value, so that the law of the two steps applies.
  rw [← bind_pure_comp] at ran
  obtain ⟨a, u, made, ended⟩ := bind_ok ran
  obtain ⟨rfl, rfl⟩ := pure_ok ended
  exact ⟨a, made, rfl⟩

/-- Work at a site succeeds as it does in the cluster. -/
theorem work_ok {w : Work α} {a : α} {s t : Site}
    (ran : (Site.work w).run.run s = (.ok a, t)) : w.run.run s.cluster = (.ok a, t.cluster) := by
  -- The cluster of the site is the one that the work has left.
  rw [Site.run_work, Prod.mk.injEq] at ran
  obtain ⟨result, rfl⟩ := ran
  exact Prod.ext result rfl

/-- Steps that run in parallel: from related states they come to the same result, and to related states. -/
def Parallel {τ : Type} (R : σ → τ → Prop) (m : ExceptT ε (StateM σ) α)
    (n : ExceptT ε (StateM τ) α) : Prop :=
  ∀ s t, R s t → (m.run.run s).1 = (n.run.run t).1 ∧ R (m.run.run s).2 (n.run.run t).2

namespace Parallel

variable {τ : Type} {R : σ → τ → Prop}

/-- A value by itself is the same anywhere. -/
theorem pure (a : α) :
    Parallel R (Pure.pure a : ExceptT ε (StateM σ) α) (Pure.pure a) := fun _ _ related => ⟨rfl, related⟩

/-- A failure by itself is the same anywhere. -/
theorem throw (e : ε) :
    Parallel R (MonadExcept.throw e : ExceptT ε (StateM σ) α) (MonadExcept.throw e) :=
  fun _ _ related => ⟨rfl, related⟩

/-- Joined steps run in parallel when their parts do. -/
theorem bind {m : ExceptT ε (StateM σ) α} {n : ExceptT ε (StateM τ) α}
    {k : α → ExceptT ε (StateM σ) β} {l : α → ExceptT ε (StateM τ) β} (first : Parallel R m n)
    (later : ∀ a, Parallel R (k a) (l a)) : Parallel R (m >>= k) (n >>= l) := by
  intro s t related
  obtain ⟨result, after⟩ := first s t related
  rw [run_bind, run_bind]
  rcases ranLeft : m.run.run s with ⟨r, s'⟩
  rcases ranRight : n.run.run t with ⟨r', t'⟩
  rw [ranLeft, ranRight] at result after
  obtain rfl : r = r' := result
  -- Both runs stop here, or go on from related states.
  cases r with
  | error e => exact ⟨rfl, after⟩
  | ok a => exact later a s' t' after

/-- Watched steps run in parallel when they and their handlers do. -/
theorem tryCatch {m : ExceptT ε (StateM σ) α} {n : ExceptT ε (StateM τ) α}
    {handle : ε → ExceptT ε (StateM σ) α} {handleOther : ε → ExceptT ε (StateM τ) α}
    (watched : Parallel R m n) (handled : ∀ e, Parallel R (handle e) (handleOther e)) :
    Parallel R (MonadExcept.tryCatch m handle) (MonadExcept.tryCatch n handleOther) := by
  intro s t related
  obtain ⟨result, after⟩ := watched s t related
  rw [run_tryCatch, run_tryCatch]
  rcases ranLeft : m.run.run s with ⟨r, s'⟩
  rcases ranRight : n.run.run t with ⟨r', t'⟩
  rw [ranLeft, ranRight] at result after
  obtain rfl : r = r' := result
  -- Both handlers start from the same failure, or neither does.
  cases r with
  | ok a => exact ⟨rfl, after⟩
  | error e => exact handled e s' t' after

/-- What is made of the results of parallel steps is the same. -/
theorem map {m : ExceptT ε (StateM σ) α} {n : ExceptT ε (StateM τ) α} (parallel : Parallel R m n)
    (f : α → β) : Parallel R (f <$> m) (f <$> n) := by
  -- The function changes both answers in the same way, and neither state.
  intro s t related
  obtain ⟨result, after⟩ := parallel s t related
  rw [run_map, run_map]
  exact ⟨congrArg (Except.map f) result, after⟩

/-- Loops run in parallel when each round does. -/
theorem foldlM {items : List β} {f : α → β → ExceptT ε (StateM σ) α}
    {g : α → β → ExceptT ε (StateM τ) α} (each : ∀ a, ∀ item ∈ items, Parallel R (f a item) (g a item))
    (a : α) : Parallel R (items.foldlM f a) (items.foldlM g a) := by
  -- Each member leaves the two runs related, so that the rest starts from related states.
  induction items generalizing a with
  | nil => exact pure a
  | cons item rest ih =>
    rw [List.foldlM_cons, List.foldlM_cons]
    exact (each a item List.mem_cons_self).bind fun b =>
      ih (fun c later member => each c later (List.mem_cons_of_mem _ member)) b

end Parallel

end ImageBuild.Run
