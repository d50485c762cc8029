import ImageBuild.Command.Program

/-! The program at the command line. It looks at the files that a command may need, carries the command out
on what it has seen, and makes the directory that the command has made. -/

namespace ImageBuild.Main

/-- The tree with a file or a directory that is there. -/
def seen (t : FileTree) (path : String) : IO FileTree := do
  match ← (IO.FS.readBinFile path).toBaseIO with
  | .ok bytes =>
    let t := (t.makeDirectory (FileTree.parentPath path)).toOption.getD t
    pure ((t.write path bytes.toList).toOption.getD t)
  | .error (.inappropriateType ..) => pure ((t.makeDirectory path).toOption.getD t)
  | .error _ => pure t

/-- The environment of the process. -/
def environment : IO Command.Environment := do
  return {
    configFile := ← IO.getEnv "PODFORGE_CONFIG"
    configHome := ← IO.getEnv "XDG_CONFIG_HOME"
    home := ← IO.getEnv "HOME"
    storeDir := ← IO.getEnv "PODFORGE_STORE_DIR"
    forcedColor := ← IO.getEnv "CLICOLOR_FORCE"
    proxy := ⟨← IO.getEnv "HTTP_PROXY", ← IO.getEnv "HTTPS_PROXY", ← IO.getEnv "NO_PROXY"⟩ }

/-- Makes a directory that is in one tree but not yet in another. -/
def makeNew (before after : FileTree) (path : String) : IO Unit := do
  if after.contains path ∧ ¬before.contains path then IO.FS.createDirAll path

/-- Tells about an event. -/
def tell (e : Log.Event) : IO Unit := IO.eprintln (e.level.name ++ " " ++ e.message)

/-- Runs the program with arguments, and says how it ended. -/
def run (args : List String) : IO UInt32 := do
  let e ← environment
  let here := (Text.split '/' (← IO.currentDir).toString).filter (fun name => !name.isEmpty)
  let paths := e.paths ⟨.empty, here⟩ args
  let start := ((FileTree.empty.makeDirectory ("/" ++ "/".intercalate here)).toOption.getD .empty)
  let before ← paths.foldlM seen { start with here := here }
  let o := Command.run e .epoch args before
  o.events.forM tell
  IO.print o.output
  match o.failure with
  | some message => IO.eprintln ("Error: " ++ message)
  | none => if o.exit ≠ 0 then IO.eprint Command.helpText
  paths.forM (makeNew before o.files)
  return o.exit.toUInt32

end ImageBuild.Main

/-- Runs the program with the arguments of the process. -/
def main (args : List String) : IO UInt32 := ImageBuild.Main.run args
