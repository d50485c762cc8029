import ImageBuild.Build.Error
import ImageBuild.Cluster.Basic

/-! Work on builds in a cluster, and what it makes of calls that fail. -/

namespace ImageBuild

/-- Work that calls a cluster, and may fail after some of its calls. -/
abbrev Work := ExceptT BuildError (StateM Cluster)

namespace Work

variable {α : Type}

/-- A call with its outcome, whatever that is. -/
def outcome (call : ClusterM α) : Work (Except ClusterError α) := liftM (call.run : StateM Cluster _)

/-- The outcome of a call is an answer, and the cluster is as the call leaves it. -/
theorem run_outcome (call : ClusterM α) (c : Cluster) :
    (outcome call).run.run c = (.ok (call.run.run c).1, (call.run.run c).2) := rfl

/-- A call whose failure ends the work. -/
def call (call : ClusterM α) : Work α := do
  match ← outcome call with
  | .ok answer => pure answer
  | .error e => throw (.cluster e)

/-- A call is made once, and its failure is that of the work. -/
theorem run_call (call : ClusterM α) (c : Cluster) :
    (Work.call call).run.run c = ((call.run.run c).1.mapError .cluster, (call.run.run c).2) := by
  -- The outcome of the call is looked at, and its failure is passed on as that of the work.
  have seen := run_outcome call c
  rcases made : call.run.run c with ⟨result, after⟩
  rw [made] at seen
  simp only [Work.call, ExceptT.run_bind, StateT.run_bind, seen]
  cases result <;> rfl

/-- A call of which one kind of failure is an answer, too. -/
def callUnless (harmless : ClusterError → Bool) (call : ClusterM α) : Work (Option α) := do
  match ← outcome call with
  | .ok answer => pure (some answer)
  | .error e => if harmless e then pure none else throw (.cluster e)

/-- A call is made once, and a failure of the harmless kind is not that of the work. -/
theorem run_callUnless (harmless : ClusterError → Bool) (call : ClusterM α) (c : Cluster) :
    (callUnless harmless call).run.run c =
      (match (call.run.run c).1 with
        | .ok answer => .ok (some answer)
        | .error e => if harmless e then .ok none else .error (.cluster e),
      (call.run.run c).2) := by
  -- The outcome of the call is looked at, and only a failure that does harm is passed on.
  have seen := run_outcome call c
  rcases made : call.run.run c with ⟨result, after⟩
  rw [made] at seen
  simp only [callUnless, ExceptT.run_bind, StateT.run_bind, seen]
  cases result with
  | ok answer => rfl
  | error e =>
    change (if harmless e then (pure none : Work (Option α)) else throw (.cluster e)).run.run after =
      (if harmless e then .ok none else .error (.cluster e), after)
    split <;> rfl

/-- A call for an object that may be missing. -/
def find (call : ClusterM α) : Work (Option α) := callUnless ClusterError.isNotFound call

end Work

end ImageBuild
