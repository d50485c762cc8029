import ImageBuild.Build.Json
import ImageBuild.FileTree.Basic
import ImageBuild.Json.Printer
import ImageBuild.Json.Reader
import ImageBuild.Store.Basic

/-! A store of files: one for each build, beside it its last version, and a lock while it is written. -/

namespace ImageBuild

/-- A directory of builds, and who writes there at what time. -/
structure Directory where
  files : FileTree
  root : String
  holder : String
  clock : Instant

/-- Who holds a lock, and since when. -/
structure Lock where
  holder : String
  acquiredAt : Instant

namespace Lock

/-- A lock as JSON. -/
def toJson (l : Lock) : Json :=
  .object [("holder", .string l.holder), ("acquired_at", l.acquiredAt.toJson)]

/-- The lock that JSON denotes. -/
def ofJson? (j : Json) : Option Lock := do
  let r ← j.record? ["holder", "acquired_at"]
  return ⟨← r.required "holder" Json.string?, ← r.required "acquired_at" Instant.ofJson?⟩

/-- The seconds after which nobody is thought to hold a lock. -/
def staleSeconds : Nat := 60

/-- Whether a lock has been left behind. -/
def isStale (l : Lock) (now : Instant) : Bool :=
  (staleSeconds * nanosPerSecond : Nat) ≤ now.since l.acquiredAt

/-- The lock in a file; one that is only half written cannot be read. -/
def read? (files : FileTree) (path : String) : Option Lock :=
  match files.readText path with
  | .ok text => (Json.read? text).bind ofJson?
  | .error _ => none

end Lock

namespace Directory

/-- The directory of a namespace. -/
def scopePath (d : Directory) (place : Reference) : String := FileTree.joined d.root place.scope

/-- The path of the file of a build. -/
def path (d : Directory) (place : Reference) : String :=
  FileTree.joined (d.scopePath place) (place.name ++ ".json")

/-- The path of a file beside that of a build. -/
def sibling (d : Directory) (place : Reference) (ending : String) : String :=
  FileTree.joined (d.scopePath place) (place.name ++ ".json." ++ ending)

/-- The build in a file, if there is one. -/
def buildIn? (files : FileTree) (path : String) : Except BuildError (Option Build) :=
  -- A path that cannot be looked at counts as one where nothing is.
  if ¬files.contains path then .ok none
  else match files.readText path with
    | .error fault => .error (.io fault)
    | .ok text =>
      match (Json.read? text).bind Build.ofJson? with
      | some b => .ok (some b)
      | none => .error .serialization

/-- The build of a name. -/
def load (place : Reference) (d : Directory) : Except BuildError Build := do
  match ← buildIn? d.files (d.path place) with
  | some b => .ok b
  | none => .error (.notFound place.key)

/-- Changes of files on the way to a saved build, which are kept also when a later one fails. -/
abbrev SaveM := ExceptT BuildError (StateM (FileTree × List Log.Event))

namespace SaveM

/-- The files as they are. -/
def files : SaveM FileTree := return (← get).1

/-- Changes the files. -/
def change (f : FileTree → Except FileFault FileTree) : SaveM Unit := do
  match f (← files) with
  | .ok t => modify (fun s => (t, s.2))
  | .error fault => throw (.io fault)

/-- Records an event. -/
def note (e : Log.Event) : SaveM Unit := modify (fun s => (s.1, s.2 ++ [e]))

end SaveM

/-- Makes the directory of a build, unless it is there. -/
def makeRoom (d : Directory) (place : Reference) : SaveM Unit := do
  let parent := FileTree.parentPath (d.path place)
  if ¬(← SaveM.files).contains parent then SaveM.change (·.makeDirectory parent)

/-- The text of the lock of this writer. -/
def lockText (d : Directory) : String := (Lock.toJson ⟨d.holder, d.clock⟩).pretty

/-- The event of a lock that is taken away from whoever left it behind. -/
def staleEvent (key : String) (l : Lock) : Log.Event :=
  .warn ("Removing stale lock on build " ++ key ++ " held by " ++ l.holder ++ " since "
    ++ l.acquiredAt.toLogText)

/-- Locks a build, and tries again as often as may be when a stale lock is in the way. -/
def lock (d : Directory) (place : Reference) : Nat → SaveM Unit
  | 0 => throw (.locked place.key "unknown")
  | tries + 1 => do
    let path := d.sibling place "lock"
    match (← SaveM.files).create path (Text.toBytes d.lockText) with
    | .ok t => modify (fun s => (t, s.2))
    -- Somebody holds the lock, or has left it behind.
    | .error .taken =>
      match Lock.read? (← SaveM.files) path with
      | none => throw (.locked place.key "unknown")
      | some l =>
        if l.isStale d.clock then
          SaveM.note (staleEvent place.key l)
          SaveM.change (·.remove path)
          lock d place tries
        else throw (.locked place.key l.holder)
    | .error fault => throw (.io fault)

/-- Removes the lock of a build, if it is there. -/
def unlock (d : Directory) (place : Reference) : SaveM Unit := do
  let path := d.sibling place "lock"
  if (← SaveM.files).contains path then SaveM.change (·.remove path)

/-- Writes a build that is locked: its text goes into another file first, which takes the place of the
last version once that has been copied. -/
def writeLocked (d : Directory) (b : Build) : SaveM Unit := do
  let path := d.path b.reference
  let current ← liftExcept (buildIn? (← SaveM.files) path)
  match b.conflict? current with
  | some e => throw e
  | none => do
    let temporary := d.sibling b.reference "tmp"
    -- The text is complete before it can be seen under the name of the build.
    SaveM.change (·.write temporary (Text.toBytes b.nextVersion.toJson.pretty))
    if current.isSome then SaveM.change (·.copy path (d.sibling b.reference "backup"))
    SaveM.change (·.move temporary path)

/-- Writes a build, and leaves no lock behind whatever happens. -/
def saveSteps (d : Directory) (b : Build) : SaveM Build := do
  makeRoom d b.reference
  lock d b.reference 2
  -- The lock is given back before the failure is passed on.
  tryCatch (writeLocked d b) (fun e => do
    unlock d b.reference
    throw e)
  unlock d b.reference
  pure b.nextVersion

/-- Saves a build in place of its last version. -/
def save (b : Build) (d : Directory) : Saved Directory :=
  let (result, files, events) := (saveSteps d b).run.run (d.files, [])
  ⟨result, { d with files := files }, events⟩

end Directory

instance : BuildStore Directory := ⟨Directory.load, Directory.save⟩

end ImageBuild
