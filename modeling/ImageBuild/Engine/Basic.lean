import ImageBuild.Engine.Step
import ImageBuild.Store.Basic

/-! The engine, which makes builds, carries them on and cancels them. It knows nothing of a build but what
it is given, so that any number of builds can go on side by side. -/

namespace ImageBuild

open Worker

/-- A site, and the store in which every change of a build is saved. -/
structure Engine (σ : Type) extends Site where
  store : σ

/-- Steps of an engine, which may fail after some of their effects. -/
abbrev EngineM (σ : Type) := ExceptT BuildError (StateM (Engine σ))

namespace Engine

variable {σ : Type}

/-- Takes steps at the site. -/
def atSite {α : Type} (m : SiteM α) : EngineM σ α := do
  let g ← get
  let (result, site) := m.run.run g.toSite
  set { g with toSite := site }
  liftExcept result

/-- Steps at the site leave the store as it is. -/
theorem run_atSite {α : Type} (m : SiteM α) (g : Engine σ) :
    (atSite m).run.run g =
      ((m.run.run g.toSite).1, { g with toSite := (m.run.run g.toSite).2 }) := by
  -- The site is put back into the engine before the answer is passed on.
  change (liftExcept (m.run.run g.toSite).1 : EngineM σ α).run.run
    { g with toSite := (m.run.run g.toSite).2 } = _
  cases (m.run.run g.toSite).1 <;> rfl

/-- Records an event. -/
def note (e : Log.Event) : EngineM σ Unit := atSite (Site.record e)

variable [BuildStore σ]

/-- Saves a build. -/
def persist (b : Build) : EngineM σ Build := do
  let g ← get
  let saved := BuildStore.save b g.store
  set { g with store := saved.store, log := g.log ++ saved.events }
  liftExcept saved.result

/-- Saving leaves the cluster as it is. -/
theorem run_persist (b : Build) (g : Engine σ) :
    (persist b).run.run g = ((BuildStore.save b g.store).result,
      { g with
        store := (BuildStore.save b g.store).store
        log := g.log ++ (BuildStore.save b g.store).events }) := by
  -- What the store has become and has logged is put back whether the build was saved or not.
  change (liftExcept (BuildStore.save b g.store).result : EngineM σ Build).run.run
    { g with
      store := (BuildStore.save b g.store).store
      log := g.log ++ (BuildStore.save b g.store).events } = _
  cases (BuildStore.save b g.store).result <;> rfl

/-- Loads a build. -/
def load (place : Reference) : EngineM σ Build := do
  liftExcept (BuildStore.load place (← get).store)

/-- Loading changes nothing. -/
theorem run_load (place : Reference) (g : Engine σ) :
    (load place).run.run g = (BuildStore.load place g.store, g) := by
  -- Loading looks at the store and leaves it as it is.
  change (liftExcept (BuildStore.load place g.store) : EngineM σ Build).run.run g = _
  cases BuildStore.load place g.store <;> rfl

/-- Carries a build on by one step, and saves it if that changed anything. -/
def reconcile (s : Settings) (now : Instant) (b : Build) : EngineM σ Build := do
  let target ← atSite (step s now b)
  -- A build that has not changed keeps its version.
  if target = b then pure target else persist target

/-- Cancels a build, unless it has ended. Its pod is deleted then or, if that fails, by a later step. -/
def cancel (s : Settings) (b : Build) : EngineM σ Build := do
  if b.phase.isTerminal then pure b
  else
    let target := b.withPhase .cancelled
    note (transition "build cancelled" b target)
    let target ← persist target
    -- The build counts as cancelled once that is saved, and its pod can be deleted later.
    tryCatch (atSite (Site.work (deletePod s target))) (fun e =>
      note (.warn ("Failed to delete pod of cancelled build " ++ target.reference.key ++ ": "
        ++ e.message)))
    pure target

end Engine

end ImageBuild
