import ImageBuild.Command.Session
import ImageBuild.Config.Load

/-! The program: one command, from its arguments to its exit. -/

namespace ImageBuild.Command

open Worker

/-- What the process is told by its environment. -/
structure Environment where
  configFile : Option String
  configHome : Option String
  home : Option String
  storeDir : Option String
  forcedColor : Option String
  proxy : Proxy

/-- What a command has come to. -/
structure Outcome where
  exit : Nat
  output : String
  failure : Option String
  files : FileTree
  events : List Log.Event

namespace Outcome

/-- The outcome of a command that succeeded. -/
def success (output : String) (t : FileTree) (events : List Log.Event) : Outcome :=
  ⟨0, output, none, t, events⟩

/-- The outcome of arguments that make no command. -/
def misuse (t : FileTree) : Outcome := ⟨2, "", none, t, []⟩

/-- The outcome of a command that failed after some output. -/
def failed (output message : String) (t : FileTree) (events : List Log.Event) : Outcome :=
  ⟨1, output, some message, t, events⟩

end Outcome

namespace Environment

/-- The places of settings. -/
def configPlaces (e : Environment) : ConfigPlaces :=
  ⟨e.configFile, ConfigPlaces.userDirectoryOf e.configHome e.home⟩

/-- The directory of builds for a command, and the tree with it; an own one is made where none is given. -/
def storeRoot (e : Environment) (inv : Invocation) (t : FileTree) :
    Except ConfigError (String × FileTree) :=
  match (inv.storeDirs ++ e.storeDir.toList).head? with
  | some root => .ok (root, t)
  | none => (e.configPlaces.makeDirectory t).map (fun p => (FileTree.joined p.1 "builds", p.2))

/-- Whether the directory of builds is left empty where it counts. -/
def lacksStore (e : Environment) (inv : Invocation) : Bool :=
  e.storeDir = some "" && inv.storeDirs.length < 2

end Environment

/-- The short explanation of the program. -/
def helpText : String :=
  "Kubernetes の Pod でコンテナイメージをビルドする\n\nUsage: podforge [OPTIONS] <COMMAND>\n\nCommands: "
    ++ ", ".intercalate commandNames ++ "\n"

/-- A session over a directory of builds, in a cluster. -/
def Session.ofDirectory (cluster : Cluster) (changes : List Change) (d : Directory) : Session :=
  ⟨⟨⟨cluster, []⟩, d⟩, "", 0, changes⟩

/-- Carries out a command in a session where the clock stands still and nobody else is at work. -/
def Session.outcomeOf (s : Session) (m : Mode) (request : Request) : Outcome × Cluster :=
  let (result, s) := (perform m (fun _ => .quiet m.now) request).run.run s
  let files := s.engine.store.files
  (match result with
    | .ok _ => .success s.output files s.engine.log
    | .error message => .failed s.output message files s.engine.log, s.engine.cluster)

/-- Whether a command goes without a cluster. -/
def Request.isLocal : Request → Bool
  | .status .. => true
  | _ => false

/-- Carries out a command with the settings that have been found; no cluster is within reach. -/
def runWith (e : Environment) (now : Instant) (inv : Invocation) (config : EngineConfig) (t : FileTree)
    (events : List Log.Event) : Outcome :=
  match e.storeRoot inv t with
  | .error fault => .failed "" fault.message t events
  | .ok (root, t) =>
    if inv.request.isLocal then
      let session := Session.ofDirectory (.empty now) [] ⟨t, root, "unknown", now⟩
      let (outcome, _) := session.outcomeOf ⟨⟨config, e.proxy⟩, now, isForced e.forcedColor⟩ inv.request
      { outcome with events := events ++ outcome.events }
    else .failed "" "Kubernetes クラスタに接続できません" t events

/-- Runs the program. -/
def run (e : Environment) (now : Instant) (args : List String) (t : FileTree) : Outcome :=
  match parse globalFlags commandNames args with
  | .error .help => .success helpText t []
  | .error .usage => .misuse t
  | .ok inv =>
    -- A variable that names no directory is as wrong as an empty option.
    if e.lacksStore inv then .misuse t
    else if inv.request = .version then .success (versionText ++ "\n") t []
    else
      let events := e.configPlaces.events t
      match e.configPlaces.load t with
      | .error _ => .failed "" "設定ファイルの読み込みに失敗しました" t events
      | .ok config =>
        if inv.request = .config then .success config.toYaml t events
        else runWith e now inv config t events

/-- The paths that a command looks at, beside those that its own files name. -/
def Environment.paths (e : Environment) (t : FileTree) (args : List String) : List String :=
  let places := e.configPlaces
  let stored := match parse globalFlags commandNames args with
    | .ok inv =>
      match e.storeRoot inv t, inv.request with
      | .ok (root, _), .status key _ =>
        ((keyOfText? key).map (fun place => (⟨t, root, "", .epoch⟩ : Directory).path place)).toList
      | _, _ => []
    | .error _ => []
  places.named.toList ++ places.candidates t ++ places.directory?.toList ++ stored

end ImageBuild.Command
