import ImageBuild.Context
import ImageBuild.Engine.Basic

/-! New builds, on their way to the engine. -/

namespace ImageBuild

open Worker

/-- A build that has not been saved yet, and the files of its context. -/
structure Draft where
  build : Build
  files : List ContextFile

namespace Draft

/-- A draft of the build that is asked for, with the usual limit of time where the platform has none. -/
def ofRequest (c : EngineConfig) (r : BuildRequest) : Except BuildError Draft :=
  match r.build with
  | .error e => .error (.request e)
  | .ok b =>
    let timeout := if b.spec.timeout = .zero then c.defaultTimeout else b.spec.timeout
    .ok ⟨{ b with spec := { b.spec with timeout := timeout } }, []⟩

/-- The draft with a file more. -/
def addFile (d : Draft) (file : ContextFile) : Draft := { d with files := d.files ++ [file] }

/-- The draft with a cache for Kaniko. -/
def withCache (d : Draft) (cache : LayerCache) : Draft :=
  { d with build := d.build.mapKanikoTask (fun task => { task with cache := cache }) }

/-- The draft with resources for Kaniko. -/
def withResources (d : Draft) (resources : ResourceRequirements) : Draft :=
  { d with build := d.build.mapKanikoTask (fun task => { task with resources := some resources }) }

/-- The draft with flags for Kaniko. -/
def withFlags (d : Draft) (flags : List String) : Draft :=
  { d with build := d.build.mapKanikoTask (fun task => { task with additionalFlags := flags }) }

end Draft

/-- Keeps the files of a draft, saves its build and carries it on by one step. -/
def Engine.schedule {σ : Type} [BuildStore σ] (s : Settings) (now : Instant) (d : Draft) :
    EngineM σ Build := do
  atSite (Site.work (Context.replace s.config.podNamePrefix d.build d.files))
  let b ← persist d.build
  note (.info ("Scheduled build " ++ b.reference.key))
  reconcile s now b

end ImageBuild
