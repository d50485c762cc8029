import ImageBuild.Build.Work
import ImageBuild.Log

/-! Where builds are carried on: a cluster, and the record of what happened there. -/

namespace ImageBuild

/-- A cluster with the events so far, the oldest first. -/
structure Site where
  cluster : Cluster
  log : List Log.Event

/-- Steps at a site, which may fail after some of their effects. -/
abbrev SiteM := ExceptT BuildError (StateM Site)

namespace Site

/-- Records an event. -/
def record (e : Log.Event) : SiteM Unit := modify (fun s => { s with log := s.log ++ [e] })

/-- Recording an event leaves the cluster as it is. -/
theorem run_record (e : Log.Event) (s : Site) :
    (record e).run.run s = (.ok (), { s with log := s.log ++ [e] }) := rfl

/-- Does work in the cluster. -/
def work {α : Type} (w : Work α) : SiteM α := do
  let s ← get
  let (result, cluster) := w.run.run s.cluster
  set { s with cluster := cluster }
  liftExcept result

/-- Work in the cluster leaves the record as it is. -/
theorem run_work {α : Type} (w : Work α) (s : Site) :
    (work w).run.run s = ((w.run.run s.cluster).1, { s with cluster := (w.run.run s.cluster).2 }) := by
  -- What is left to do is to answer what the work has answered, after the cluster has been put back.
  change (liftExcept (w.run.run s.cluster).1 : SiteM α).run.run
    { s with cluster := (w.run.run s.cluster).2 } = _
  cases (w.run.run s.cluster).1 <;> rfl

end Site

end ImageBuild
