import ImageBuild.Config.Yaml
import ImageBuild.FileTree.Basic
import ImageBuild.Log

/-! Settings of the engine from files, and where those are looked for. -/

namespace ImageBuild

/-- Why there are no settings. -/
inductive ConfigError
  | noDirectory
  | io (fault : FileFault)
  | parse (path : String)
  | invalid (fault : ConfigFault)
  deriving DecidableEq

/-- The wording of a failure to load settings. -/
def ConfigError.message : ConfigError → String
  | noDirectory => "Config directory not found"
  | io fault => "IO error: " ++ fault.message
  | parse path => "Failed to parse " ++ path
  | invalid fault => "Invalid configuration: " ++ fault.message

/-- The places of settings: a file that is named outright, and the directory of the user's settings. -/
structure ConfigPlaces where
  named : Option String
  userDirectory : Option String

namespace EngineConfig

/-- The settings that a text makes: the standard ones where it is blank. -/
def ofText? (text : String) : Option EngineConfig :=
  if text.toList.all Text.isBlank then some standard
  else (Yaml.Document.ofText? text).bind (fun d => ofYaml? d d.root)

/-- The settings in a file, unless they are at fault. -/
def loadFrom (t : FileTree) (path : String) : Except ConfigError EngineConfig :=
  match t.readText path with
  | .error fault => .error (.io fault)
  | .ok text =>
    match ofText? text with
    | none => .error (.parse path)
    | some config =>
      match config.fault? with
      | some fault => .error (.invalid fault)
      | none => .ok config

end EngineConfig

namespace ConfigPlaces

/-- The directory of the user's settings, by the variables that name it or the home of the user. -/
def userDirectoryOf (configHome home : Option String) : Option String :=
  -- A directory that is not given from the root does not count.
  match configHome.filter (fun path => path.toList.head? = some '/') with
  | some path => some path
  | none => (home.filter (fun path => !path.isEmpty)).map (FileTree.joined · ".config")

/-- The directory of this program below that of the user's settings. -/
def directory? (p : ConfigPlaces) : Option String := p.userDirectory.map (FileTree.joined · "podforge")

/-- The path of the directory in which a tree is looked at. -/
def workingDirectory (t : FileTree) : String := "/" ++ "/".intercalate t.here

/-- The files in which settings are looked for after the one that is named outright. -/
def candidates (p : ConfigPlaces) (t : FileTree) : List String :=
  ["podforge.yaml", ".podforge.yaml"].map (FileTree.joined (workingDirectory t))
    ++ (p.directory?.map (FileTree.joined · "config.yaml")).toList

/-- The file that is named outright, if it is there. -/
def named? (p : ConfigPlaces) (t : FileTree) : Option String := p.named.filter t.contains

/-- The file that holds the settings, if there is one. -/
def find? (p : ConfigPlaces) (t : FileTree) : Option String :=
  match p.named? t with
  | some path => some path
  | none => (p.candidates t).find? t.contains

/-- What is noted about a file that is named outright but is not there. -/
def events (p : ConfigPlaces) (t : FileTree) : List Log.Event :=
  match p.named with
  | some path =>
    if t.contains path then []
    else [.warn ("PODFORGE_CONFIG points at a missing file: " ++ path)]
  | none => []

/-- The settings that are found, or the standard ones. -/
def load (p : ConfigPlaces) (t : FileTree) : Except ConfigError EngineConfig :=
  match p.find? t with
  | some path => EngineConfig.loadFrom t path
  | none => .ok .standard

/-- The directory of this program, which is made unless it is there. -/
def makeDirectory (p : ConfigPlaces) (t : FileTree) : Except ConfigError (String × FileTree) :=
  match p.directory? with
  | none => .error .noDirectory
  | some path =>
    if t.contains path then .ok (path, t)
    else match t.makeDirectory path with
      | .ok t => .ok (path, t)
      | .error fault => .error (.io fault)

end ConfigPlaces

end ImageBuild
