import ImageBuild.Build.Basic
import ImageBuild.Command.Style
import ImageBuild.Instant.Text

/-! What is told about a build. -/

namespace ImageBuild.Command

/-- The word for a phase. -/
def phaseWord (phase : Phase) : String :=
  match phase with
  | .new => "New"
  | phase => phase.name

/-- The style of a phase. -/
def phaseStyle : Phase → Style
  | .succeeded => .green
  | .failed | .error => .red
  | .cancelled => .yellow
  | _ => .cyan

/-- A phase in its style. -/
def phaseText (shown : Bool) (phase : Phase) : String := styled shown (phaseStyle phase) (phaseWord phase)

/-- The step from one phase to another. -/
def changeText (shown : Bool) (source target : Phase) : String :=
  phaseText shown source ++ " → " ++ phaseText shown target

/-- The lines about the first task of a build. -/
def taskLines (b : Build) : List String :=
  match b.spec.tasks.head? with
  | some task => ["  タスク:   " ++ task.name, "  イメージ: " ++ task.publication.image]
  | none => []

/-- The lines about a build. -/
def buildLines (shown : Bool) (b : Build) : List String :=
  [styled shown .bold "ビルド:" ++ " " ++ styled shown .cyan b.reference.key,
    "  フェーズ: " ++ phaseText shown b.phase]
    ++ taskLines b
    ++ (b.status.startedAt.map (fun t => "  開始:     " ++ t.toOffsetText)).toList
    ++ (b.status.duration.map (fun d => "  所要時間: " ++ toString d.seconds ++ "s")).toList
    ++ (b.status.error.map (fun e => "  エラー:   " ++ styled shown .red e)).toList
    ++ (b.status.failure.map (fun f => "  リカバリ: " ++ toString f.recovery.attempt.toNat ++ "/"
      ++ toString f.recovery.attemptMax.toNat)).toList

end ImageBuild.Command
