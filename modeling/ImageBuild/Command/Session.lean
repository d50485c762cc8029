import ImageBuild.Command.Args
import ImageBuild.Command.Report
import ImageBuild.Engine.Schedule
import ImageBuild.Platform.Yaml
import ImageBuild.Store.Directory

/-! Commands at work: what they do with the engine, and what they print. -/

namespace ImageBuild.Command

open Worker

/-- A change of the cluster from outside, and the milliseconds after which it comes. -/
structure Change where
  due : Nat
  effect : Cluster → Cluster

/-- An engine in use: what has been printed, the time spent asleep, and the changes still to come. -/
structure Session where
  engine : Engine Directory
  output : String
  slept : Nat
  changes : List Change

/-- Commands, which may end with a message after some of their effects. -/
abbrev CommandM := ExceptT String (StateM Session)

/-- How commands are carried out: with settings, from a reading of the clock on, in color or not. -/
structure Mode where
  settings : Settings
  now : Instant
  shown : Bool

/-- A pause before a look at a build: what the clock reads after it, and what others make of the cluster and the store
meanwhile. -/
structure Pause where
  now : Instant
  others : Engine Directory → Engine Directory

/-- A pause in which nobody does anything. -/
def Pause.quiet (now : Instant) : Pause := ⟨now, id⟩

namespace Session

/-- Prints a text as it is. -/
def write (text : String) : CommandM Unit := modify (fun s => { s with output := s.output ++ text })

/-- Prints a line. -/
def print (line : String) : CommandM Unit := write (line ++ "\n")

/-- Prints lines. -/
def printAll (lines : List String) : CommandM Unit := write (String.join (lines.map (· ++ "\n")))

/-- The outcome of steps of the engine. -/
def outcome {α : Type} (m : EngineM Directory α) : CommandM (Except BuildError α) := do
  let s ← get
  let (result, engine) := m.run.run s.engine
  set { s with engine := engine }
  pure result

/-- Takes steps of the engine, whose failure ends the command with advice. -/
def run {α : Type} (m : EngineM Directory α) : CommandM α := do
  match ← outcome m with
  | .ok a => pure a
  | .error e => throw e.advice

/-- The files that can be seen. -/
def files : CommandM FileTree := return (← get).engine.store.files

/-- Lets time pass, in which the cluster changes. -/
def sleep (seconds : Nat) : CommandM Unit := modify (fun s =>
  let slept := s.slept + seconds * 1000
  -- Changes come in their order, those due now before the next look.
  let due := s.changes.takeWhile (fun c => c.due ≤ slept)
  let cluster := due.foldl (fun cluster c => c.effect cluster) s.engine.cluster
  { s with
    slept := slept
    changes := s.changes.drop due.length
    engine := { s.engine with cluster := cluster } })

/-- Lets others do what they do to the cluster and the store. -/
def disturb (others : Engine Directory → Engine Directory) : CommandM Unit :=
  modify (fun s => { s with engine := others s.engine })

end Session

/-- The parts of a key: a namespace and a name. -/
def keyOfText? (text : String) : Option Reference :=
  match Text.splitOnce? '/' text with
  | some (scope, name) =>
    if scope.isEmpty || name.isEmpty || name.toList.contains '/' then none else some ⟨scope, name⟩
  | none => none

/-- What is said about a text that is no key. -/
def badKey (text : String) : String :=
  "ビルドは <namespace>/<name> の形式で指定してください: " ++ text

/-- The place that a key names. -/
def placeOf (key : String) : Except String Reference :=
  match keyOfText? key with
  | some place => .ok place
  | none => .error (badKey key)

/-- The target and the path of a file for the context of a build. -/
def resourceOfText (text : String) : Except String (String × String) :=
  match Text.splitOnce? '=' text with
  | some (target, path) =>
    if target.isEmpty || path.isEmpty then
      .error ("リソースは <target>=<path> の形式で指定してください: " ++ text)
    else .ok (Text.trimStartChar '/' target, path)
  | none => .error ("リソースは <target>=<path> の形式で指定してください: " ++ text)

/-- The platform in a file. -/
def platformIn (t : FileTree) (path : String) : Except String Platform :=
  match t.readText path with
  | .error _ => .error ("プラットフォーム定義を読み込めません: " ++ path)
  | .ok text =>
    match Platform.ofYaml? text with
    | some platform => .ok platform
    | none => .error ("プラットフォーム定義の形式が不正です: " ++ path)

/-- A file for the context of a build, as it is given. -/
def fileOfText (t : FileTree) (text : String) : Except String ContextFile := do
  let (target, path) ← resourceOfText text
  match t.read path with
  | .ok content => .ok ⟨target, content⟩
  | .error _ => .error ("リソースを読み込めません: " ++ path)

/-- The draft of a build that is asked for, with its files. -/
def draftOf (c : EngineConfig) (t : FileTree) (args : BuildArgs) : Except String Draft := do
  let platform ← platformIn t args.platform
  match Draft.ofRequest c ⟨args.image, args.name, platform⟩ with
  | .error e => .error e.advice
  | .ok draft => args.resources.foldlM (fun d text => d.addFile <$> fileOfText t text) draft

/-- One look at a build that is waited for: it goes on, or starts from what is stored where that may help. -/
def look (m : Mode) (interval : Nat) (pause : Pause) (b : Build) : CommandM Build := do
  Session.sleep interval
  Session.disturb pause.others
  match ← Session.outcome (Engine.reconcile m.settings pause.now b) with
  | .ok next =>
    if next.phase ≠ b.phase then Session.print ("  " ++ changeText m.shown b.phase next.phase)
    pure next
  | .error e =>
    -- What is stored may be newer than what has been worked on.
    if e.isTransient then Session.run (Engine.load b.reference) else throw e.advice

/-- A step of waiting, after a number of looks that have been taken: the result, or where the next look has led. -/
def waitStep (m : Mode) (interval : Nat) (pauses : Nat → Pause) :
    Nat × Build × Session → (Nat × Build × Session) ⊕ (Except String Build × Session)
  | (taken, b, s) =>
    if b.phase.isTerminal then .inr (.ok b, s)
    else
      match (look m interval (pauses taken) b).run.run s with
      | (.ok next, t) => .inl (taken + 1, next, t)
      | (.error message, t) => .inr (.error message, t)

/-- Waits in a session until a build has ended. Nothing bounds the looks to come: a build that never ends is waited
for without end. -/
def waitIn (m : Mode) (interval : Nat) (pauses : Nat → Pause) (taken : Nat) (b : Build) (s : Session) :
    Except String Build × Session :=
  have : Nonempty Session := ⟨s⟩
  Id.run (repeatM (fun state => pure (waitStep m interval pauses state)) (taken, b, s))

/-- Waits until a build has ended. -/
def waitFor (m : Mode) (interval : Nat) (pauses : Nat → Pause) (b : Build) : CommandM Build :=
  ExceptT.mk (waitIn m interval pauses 0 b)

/-- What is said about a build that has not succeeded. -/
def endedBadly (b : Build) : String :=
  "ビルドが " ++ b.phase.name ++ " で終了しました: " ++ b.status.error.getD "-"

/-- Schedules a build and, if asked, waits until it has ended. -/
def build (m : Mode) (pauses : Nat → Pause) (args : BuildArgs) : CommandM Unit := do
  let draft ← liftExcept (draftOf m.settings.config (← Session.files) args)
  Session.print (styled m.shown .blue "ビルドをスケジュール中...")
  let b ← Session.run (Engine.schedule m.settings m.now draft)
  Session.print (styled m.shown .green "✓ スケジュールしました:" ++ " "
    ++ styled m.shown .cyan b.reference.key)
  if ¬args.wait then Session.printAll (buildLines m.shown b)
  else
    let b ← waitFor m (max args.interval 1) pauses b
    Session.printAll (buildLines m.shown b)
    if b.phase ≠ .succeeded then throw (endedBadly b)

/-- Carries a stored build on by one step. -/
def reconcile (m : Mode) (place : Reference) : CommandM Unit := do
  let b ← Session.run (Engine.load place)
  let next ← Session.run (Engine.reconcile m.settings m.now b)
  if next.phase = b.phase then
    Session.print (styled m.shown .dimmed "フェーズに変化はありません")
  else Session.print (changeText m.shown b.phase next.phase)
  Session.printAll (buildLines m.shown next)

/-- Cancels a stored build, unless it has ended. -/
def cancel (m : Mode) (place : Reference) : CommandM Unit := do
  let b ← Session.run (Engine.load place)
  if b.phase.isTerminal then
    Session.print (styled m.shown .yellow "ビルドは既に終了しています:" ++ " "
      ++ phaseText m.shown b.phase)
  else
    let b ← Session.run (Engine.cancel m.settings b)
    Session.print (styled m.shown .green "✓ キャンセルしました:" ++ " "
      ++ styled m.shown .cyan b.reference.key)

/-- Tells about a stored build. -/
def status (shown json : Bool) (place : Reference) : CommandM Unit := do
  let b ← Session.run (Engine.load place)
  if json then Session.print b.toJson.pretty else Session.printAll (buildLines shown b)

/-- The name and the version of the program. -/
def versionText : String := "podforge 0.3.0"

/-- Carries out a command. -/
def perform (m : Mode) (pauses : Nat → Pause) : Request → CommandM Unit
  | .build args => build m pauses args
  | .reconcile key => do reconcile m (← liftExcept (placeOf key))
  | .status key json => do status m.shown json (← liftExcept (placeOf key))
  | .cancel key => do cancel m (← liftExcept (placeOf key))
  | .config => Session.write m.settings.config.toYaml
  | .version => Session.print versionText

end ImageBuild.Command
