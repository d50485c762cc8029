import ImageBuild.Dict
import ImageBuild.FileTree.Fault
import ImageBuild.Text.Blank
import ImageBuild.Text.Split
import ImageBuild.Text.Utf8

/-! Trees of files, and what can be done with them under the text of a path. -/

namespace ImageBuild

/-- A place in a tree of files: the names on the way to it. -/
abbrev Path := List String

/-- What is in a place. -/
inductive Entry
  | directory
  | file (content : Bytes)
  deriving DecidableEq

/-- A tree of files, and the directory from which paths start that do not start at the root. -/
structure FileTree where
  entries : Dict Path Entry
  here : Path

namespace FileTree

/-- A tree without files. -/
def empty : FileTree := ⟨.empty, []⟩

/-- The entry of a place. The root is always there. -/
def get? (t : FileTree) (p : Path) : Option Entry :=
  if p = [] then some .directory else t.entries.get? p

/-- The tree with another entry in a place. -/
def put (t : FileTree) (p : Path) (e : Entry) : FileTree :=
  if p = [] then t else { t with entries := t.entries.insert p e }

/-- The tree without the entry of a place. -/
def erase (t : FileTree) (p : Path) : FileTree := { t with entries := t.entries.erase p }

/-- The greatest number of bytes in a name. -/
def maxNameLength : Nat := 255

/-- The number of bytes from which on a path is too long. -/
def pathLengthLimit : Nat := 4096

/-- The place to which names lead from another one; all but the last have to be there. -/
def follow (t : FileTree) (p : Path) : List String → Except FileFault Path
  | [] => .ok p
  | name :: rest =>
    match t.get? p with
    | none => .error .missing
    | some (.file _) => .error .notDirectory
    | some .directory =>
      -- Empty names and single points lead nowhere else, and two points lead back.
      if name = "" ∨ name = "." then follow t p rest
      else if name = ".." then follow t p.dropLast rest
      else if maxNameLength < name.utf8ByteSize then .error .nameTooLong
      else follow t (p ++ [name]) rest

/-- The place to which the text of a path leads. -/
def place (t : FileTree) (path : String) : Except FileFault Path :=
  if path.isEmpty then .error .missing
  else if path.toList.any (· == '\x00') then .error .badName
  else if pathLengthLimit ≤ path.utf8ByteSize then .error .nameTooLong
  else t.follow (if path.toList.head? = some '/' then [] else t.here) (Text.split '/' path)

/-- The entry under the text of a path. -/
def find? (t : FileTree) (path : String) : Except FileFault (Option Entry) :=
  (t.place path).map t.get?

/-- Whether there is an entry under the text of a path. -/
def contains (t : FileTree) (path : String) : Bool :=
  match t.find? path with
  | .ok (some _) => true
  | _ => false

/-- The contents of a file. -/
def read (t : FileTree) (path : String) : Except FileFault Bytes :=
  match t.find? path with
  | .ok (some (.file content)) => .ok content
  | .ok (some .directory) => .error .isDirectory
  | .ok none => .error .missing
  | .error fault => .error fault

/-- The contents of a file that holds a text. -/
def readText (t : FileTree) (path : String) : Except FileFault String := do
  match Text.ofBytes? (← t.read path) with
  | some text => .ok text
  | none => .error .notText

/-- Whether the text of a path ends in a slash, as only that of a directory can. -/
def endsInSlash (path : String) : Bool := path.toList.getLast? = some '/'

/-- Writes a file, in place of any other that is there. -/
def write (t : FileTree) (path : String) (content : Bytes) : Except FileFault FileTree := do
  let p ← t.place path
  if t.get? p = some .directory ∨ endsInSlash path then .error .isDirectory
  else .ok (t.put p (.file content))

/-- Writes a file that is not there yet. -/
def create (t : FileTree) (path : String) (content : Bytes) : Except FileFault FileTree := do
  if (t.get? (← t.place path)).isSome then .error .taken else t.write path content

/-- Removes a file. -/
def remove (t : FileTree) (path : String) : Except FileFault FileTree := do
  let p ← t.place path
  match t.get? p with
  | some (.file _) => .ok (t.erase p)
  | some .directory => .error .isDirectory
  | none => .error .missing

/-- Copies a file over any other. -/
def copy (t : FileTree) (source target : String) : Except FileFault FileTree := do
  t.write target (← t.read source)

/-- Moves a file over any other. -/
def move (t : FileTree) (source target : String) : Except FileFault FileTree := do
  let content ← t.read source
  (← t.write target content).remove source

/-- Makes the directories on the way from a place that are not there yet. -/
def makeFrom (t : FileTree) (p : Path) : List String → Except FileFault FileTree
  | [] => .ok t
  | name :: rest =>
    match t.follow p [name] with
    | .error fault => .error fault
    | .ok q =>
      match t.get? q with
      | some .directory => makeFrom t q rest
      -- A file at the end of the way is taken for the directory, one before it blocks the way.
      | some (.file _) => .error (if rest.all (·.isEmpty) then .taken else .notDirectory)
      | none => makeFrom (t.put q .directory) q rest

/-- Makes a directory, and those on the way to it. -/
def makeDirectory (t : FileTree) (path : String) : Except FileFault FileTree :=
  if path.isEmpty then .ok t
  else if path.toList.any (· == '\x00') then .error .badName
  else t.makeFrom (if path.toList.head? = some '/' then [] else t.here) (Text.split '/' path)

/-- The text of a path that goes on from another one. -/
def joined (base path : String) : String :=
  -- A path from the root starts anew.
  if path.toList.head? = some '/' ∨ base.isEmpty then path
  else if endsInSlash base then base ++ path
  else base ++ "/" ++ path

/-- The path before the last slash. -/
def parentPath (path : String) : String :=
  let parent := (path.toList.reverse.dropWhile (· ≠ '/')).reverse
  match Text.dropEndWhile (· == '/') parent with
  | [] => String.ofList (parent.take 1)
  | names => String.ofList names

/-- The files below a directory, by the text of the way from there. -/
def filesBelow (t : FileTree) (p : Path) : List (String × Bytes) :=
  t.entries.entries.filterMap (fun e =>
    match e.2 with
    | .file content =>
      if p.isPrefixOf e.1 then some ("/".intercalate (e.1.drop p.length), content) else none
    | .directory => none)

end FileTree

end ImageBuild
