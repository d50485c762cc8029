import ImageBuild.Build.Work
import ImageBuild.Json.Printer
import ImageBuild.Json.Reader
import ImageBuild.Text.Blank
import ImageBuild.Text.Split
import ImageBuild.Text.Utf8
import ImageBuild.Worker.Mounts

/-! Contexts: the files that a build starts from, kept in a ConfigMap until its worker reads them. -/

namespace ImageBuild

open Kubernetes

/-- A file of a context: its path below the directory of the context, and its contents. -/
structure ContextFile where
  target : String
  content : Bytes
  deriving DecidableEq

namespace Context

/-- How a character of a path is written in a key. -/
def encodeChar (c : Char) : List Char :=
  match c with
  | '_' => ['_', '_']
  | '/' => ['_', '-']
  | c => [c]

/-- The key of a path. A key cannot hold a slash, and no two paths have the same key. -/
def key (path : String) : String := String.ofList (path.toList.flatMap encodeChar)

/-- Whether a character may stand in a path. -/
def isPathChar (c : Char) : Bool := Name.isAlphanumeric c || c = '-' || c = '.' || c = '_' || c = '/'

/-- Whether a part of a path names a file or directory of its own. -/
def isStep (part : List Char) : Bool := part ≠ [] && part ≠ ['.'] && part ≠ ['.', '.']

/-- The path that a target means, without the slashes at its start. -/
def path? (target : String) : Option String :=
  let path := target.toList.dropWhile (· == '/')
  if path.all isPathChar && (Text.splitAll '/' path).all isStep then some (String.ofList path) else none

/-- The greatest number of bytes in a key. -/
def maxKeyLength : Nat := 253

/-- Files by key, and the paths that the keys stand for. -/
structure Contents where
  paths : Dict String String
  data : Dict String String
  binaryData : Dict String Bytes

namespace Contents

/-- No files. -/
def empty : Contents := ⟨.empty, .empty, .empty⟩

/-- The files with one more, which has a path of its own. -/
def add (c : Contents) (file : ContextFile) : Except BuildError Contents :=
  match path? file.target with
  | none => .error (.invalidResource file.target)
  | some path =>
    if maxKeyLength < (key path).utf8ByteSize then
      .error (.invalidResource (file.target ++ ": path is longer than " ++ toString maxKeyLength
        ++ " characters once encoded"))
    -- Paths with one key are one path, so the later file would replace the earlier one.
    else if c.paths.contains (key path) then
      .error (.invalidResource (path ++ ": added more than once"))
    else
      let paths := c.paths.insert (key path) path
      -- Only text can be kept as text.
      .ok (match Text.ofBytes? file.content with
        | some text => ⟨paths, c.data.insert (key path) text, c.binaryData⟩
        | none => ⟨paths, c.data, c.binaryData.insert (key path) file.content⟩)

/-- All files of a list, unless one of them is refused. -/
def ofFiles (files : List ContextFile) : Except BuildError Contents := files.foldlM add empty

end Contents

/-- The annotation that holds the paths by key. -/
def pathsNote : String := "podforge.dev/resource-paths"

/-- Paths by key as a text. -/
def pathsText (paths : Dict String String) : String :=
  (Json.object (paths.entries.map (fun e => (e.1, .string e.2)))).compact

/-- The paths by key in a text. -/
def pathsOfText? (text : String) : Option (Dict String String) :=
  (Json.read? text).bind (dictOfJson? Json.string?)

/-- A dictionary, unless it is empty. -/
def nonempty {α : Type} (d : Dict String α) : Option (Dict String α) := if d.isEmpty then none else some d

/-- The place of the ConfigMap of a build. -/
def place (stem : String) (b : Build) : Reference :=
  ⟨b.reference.scope, Name.contextMap stem b.reference.name⟩

/-- The ConfigMap of a build with files. -/
def configMap (stem : String) (b : Build) (c : Contents) : ConfigMap where
  metadata := { Meta.none with
    scope := some (place stem b).scope
    name := some (place stem b).name
    labels := some (Dict.ofList [(Worker.buildLabel, b.reference.name)])
    annotations := some (Dict.ofList [(pathsNote, pathsText c.paths)]) }
  data := nonempty c.data
  binaryData := nonempty c.binaryData
  others := []

/-- Keeps the files of a build, in place of those of any earlier build of the name. No files at all leave
everything as it is. -/
def replace (stem : String) (b : Build) (files : List ContextFile) : Work Unit := do
  if files.isEmpty then pure ()
  else
    -- Files are checked before anything is deleted.
    let map := configMap stem b (← Contents.ofFiles files)
    let _ ← Work.find (Cluster.deleteConfigMap (place stem b))
    let _ ← Work.call (Cluster.createConfigMap map)

/-- The keys of a ConfigMap as files: under the paths that it names, else under the keys themselves. -/
def files (map : ConfigMap) : List KeyPath :=
  let paths := ((map.metadata.note? pathsNote).bind pathsOfText?).getD .empty
  map.keys.map (fun key => ⟨key, (paths.get? key).getD key, []⟩)

/-- The name of the volume of a context. -/
def volumeName : String := "build-context"

/-- Adds the files of a build in a directory of its worker, if there are any. -/
def mount (stem : String) (b : Build) (directory : String) (m : Worker.Mounts) : Work Worker.Mounts := do
  match ← Work.find (Cluster.getConfigMap (place stem b)) with
  | none => pure m
  | some map =>
    pure (m.add (.ofConfigMap volumeName (.of (place stem b).name (files map)))
      (.of volumeName directory))

end Context

end ImageBuild
