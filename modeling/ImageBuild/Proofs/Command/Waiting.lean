import ImageBuild.Cluster.Remote
import ImageBuild.Command.Session
import ImageBuild.Proofs.Engine.Attempts
import ImageBuild.Proofs.Instant.Order
import ImageBuild.Proofs.Store.Refinement
import Mathlib.Data.Prod.Basic

/-! Waiting for a build goes on as long as that may help: after a conflict, beside a lock, and after every call that the
cluster has failed to carry out, unless something is missing or taken. -/

namespace ImageBuild

open Run Worker

/-- A failure of a kind that goes by. -/
inductive BuildError.GoesBy : BuildError → Prop
  /-- Somebody else has saved the build. -/
  | conflict (key : String) (stored given : UInt64) : GoesBy (.conflict key stored given)
  /-- Somebody else is saving the build. -/
  | locked (key holder : String) : GoesBy (.locked key holder)
  /-- Somebody else has changed an object. -/
  | changed (kind : ObjectKind) (place : Reference) (message : String) :
      GoesBy (.cluster (.conflict kind place message))
  /-- The cluster could not be reached. -/
  | unreached (message : String) : GoesBy (.cluster (.client message))
  /-- The cluster has failed to carry out a call, whatever the code says that it answers. -/
  | failed (code : Nat) (message : String) : GoesBy (.cluster (.api code message))

/-- These are the failures after which another reconciliation may succeed. -/
theorem BuildError.isTransient_iff {e : BuildError} : e.isTransient = true ↔ e.GoesBy := by
  constructor
  · intro transient
    -- Every other failure is told by its kind alone, and says no.
    cases e with
    | conflict key stored given => exact .conflict key stored given
    | locked key holder => exact .locked key holder
    | cluster reason =>
      cases reason with
      | conflict kind place message => exact .changed kind place message
      | client message => exact .unreached message
      | api code message => exact .failed code message
      | _ => exact nomatch transient
    | _ => exact nomatch transient
  · intro goes
    cases goes <;> rfl

/-- Of what a cluster refuses, only what is missing or taken is never tried again. -/
theorem Remote.Refusal.isTransient_error (r : Refusal) (kind : ObjectKind) (place : Reference) :
    (BuildError.cluster (r.error kind place)).isTransient = false
      ↔ r.code = 404 ∨ r.code = 409 ∧ r.reason = "AlreadyExists" := by
  -- Two codes have errors of their own, and the reason decides about the second one.
  unfold error
  split
  case isTrue missing => simp [missing, BuildError.isTransient, ClusterError.isTransient]
  case isFalse there =>
    split
    case isTrue clash =>
      split
      case isTrue taken => simp [clash, taken, BuildError.isTransient, ClusterError.isTransient]
      case isFalse changed => simp [clash, changed, BuildError.isTransient, ClusterError.isTransient]
    case isFalse other => simp [there, other, BuildError.isTransient, ClusterError.isTransient]

namespace Command

namespace Session

/-- The session once some seconds have passed. -/
def rested (seconds : Nat) (s : Session) : Session := ((sleep seconds).run.run s).2

/-- Time always passes. -/
theorem run_sleep (seconds : Nat) (s : Session) : (sleep seconds).run.run s = (.ok (), s.rested seconds) := rfl

/-- Others are never kept from what they do. -/
theorem run_disturb (others : Engine Directory → Engine Directory) (s : Session) :
    (disturb others).run.run s = (.ok (), { s with engine := others s.engine }) := rfl

/-- Printing a line always succeeds. -/
theorem run_print (line : String) (s : Session) :
    (print line).run.run s = (.ok (), { s with output := s.output ++ (line ++ "\n") }) := rfl

/-- The outcome of steps of the engine is there, whatever it is. -/
theorem run_outcome {α : Type} (m : EngineM Directory α) (s : Session) :
    (outcome m).run.run s = (.ok (m.run.run s.engine).1, { s with engine := (m.run.run s.engine).2 }) := rfl

/-- The session once a pause is over. -/
def after (interval : Nat) (pause : Pause) (s : Session) : Session :=
  { s.rested interval with engine := pause.others (s.rested interval).engine }

/-- What the reconciliation in the next look at a build comes to. -/
def seen (m : Mode) (interval : Nat) (pause : Pause) (s : Session) (b : Build) : Except BuildError Build :=
  ((Engine.reconcile m.settings pause.now b).run.run (s.after interval pause).engine).1

end Session

variable {m : Mode} {interval : Nat} {pause : Pause} {pauses : Nat → Pause} {s : Session} {b : Build}

/-- A look begins with a pause and a reconciliation, and then depends on what that came to. -/
theorem run_look (m : Mode) (interval : Nat) (pause : Pause) (s : Session) (b : Build) :
    ∃ t, (look m interval pause b).run.run s =
      (match s.seen m interval pause b with
        | .ok next => do
          if next.phase ≠ b.phase then Session.print ("  " ++ changeText m.shown b.phase next.phase)
          pure next
        | .error e => if e.isTransient then Session.run (Engine.load b.reference) else throw e.advice :
        CommandM Build).run.run t := by
  -- Neither the time that passes nor what others do can fail, and the reconciliation has an outcome in any case.
  let g := ((Engine.reconcile m.settings pause.now b).run.run (s.after interval pause).engine).2
  refine ⟨{ s.after interval pause with engine := g }, ?_⟩
  unfold look
  rw [run_bind, Session.run_sleep]
  simp only
  rw [run_bind, Session.run_disturb]
  simp only
  rw [run_bind, Session.run_outcome]
  simp only [Session.seen, Session.after]
  cases ((Engine.reconcile m.settings pause.now b).run.run (s.after interval pause).engine).1 <;> rfl

/-- A look that sees how a build goes on returns it. -/
theorem look_of_ok {next : Build} (seen : s.seen m interval pause b = .ok next) :
    ∃ t, (look m interval pause b).run.run s = (.ok next, t) := by
  obtain ⟨t, looked⟩ := run_look m interval pause s b
  rw [looked, seen]
  simp only
  -- A change of phase is printed, or there is nothing to print.
  split
  · rw [run_bind, Session.run_print]
    exact ⟨_, rfl⟩
  · exact ⟨t, rfl⟩

/-- A look that sees a failure which does not go by returns that. -/
theorem look_of_lasting {e : BuildError} (seen : s.seen m interval pause b = .error e)
    (lasting : e.isTransient = false) : ∃ t, (look m interval pause b).run.run s = (.error e.advice, t) := by
  -- Nothing is loaded, so that the failure itself is what the look ends with.
  obtain ⟨t, looked⟩ := run_look m interval pause s b
  rw [looked, seen]
  simp only [lasting]
  exact ⟨t, rfl⟩

/-- Waiting goes on from where its next step leads, or ends with the result of that. -/
theorem waitIn_step (m : Mode) (interval : Nat) (pauses : Nat → Pause) (taken : Nat) (b : Build) (s : Session) :
    waitIn m interval pauses taken b s =
      match waitStep m interval pauses (taken, b, s) with
      | .inl (looks, next, t) => waitIn m interval pauses looks next t
      | .inr result => result := by
  -- The loop unfolds without any condition, as there is nothing that it may run out of.
  have : Nonempty Session := ⟨s⟩
  unfold waitIn
  simp only
  rw [repeatM_eq_of_monadTail]
  simp only [repeatM.body, pure_bind]
  rcases waitStep m interval pauses (taken, b, s) with ⟨_, _, _⟩ | _ <;> rfl

/-- A build that has ended is returned. -/
theorem waitIn_of_ended {taken : Nat} (finished : b.phase.isTerminal = true) :
    waitIn m interval pauses taken b s = (.ok b, s) := by
  rw [waitIn_step, waitStep, if_pos finished]

/-- Any other build is looked at, which ends the waiting or leads on. -/
theorem waitIn_of_going {taken : Nat} (going : b.phase.isTerminal = false) :
    waitIn m interval pauses taken b s =
      match (look m interval (pauses taken) b).run.run s with
      | (.ok next, t) => waitIn m interval pauses (taken + 1) next t
      | (.error message, t) => (.error message, t) := by
  -- The phase is no terminal one, so a step is a look, and its outcome decides whether to go on.
  rw [waitIn_step, waitStep, if_neg (by simp [going])]
  rcases (look m interval (pauses taken) b).run.run s with ⟨_ | _, _⟩ <;> rfl

/-- Waiting runs in a session, from the first look on. -/
theorem run_waitFor (m : Mode) (interval : Nat) (pauses : Nat → Pause) (b : Build) (s : Session) :
    (waitFor m interval pauses b).run.run s = waitIn m interval pauses 0 b s := rfl

/-- How waiting goes, look after look: what each reconciliation came to, and what waiting has come to itself, if it is
over by then. -/
inductive Waits (m : Mode) (interval : Nat) (pauses : Nat → Pause) :
    Nat → Session → Build → List (Except BuildError Build) → Option (Except String Build) → Session → Prop
  /-- The build has ended. -/
  | ended {taken : Nat} {s : Session} {b : Build} (finished : b.phase.isTerminal = true) :
      Waits m interval pauses taken s b [] (some (.ok b)) s
  /-- The build has not ended, and the next look is still to come. -/
  | going {taken : Nat} {s : Session} {b : Build} (going : b.phase.isTerminal = false) :
      Waits m interval pauses taken s b [] none s
  /-- The build goes on. -/
  | carried {taken : Nat} {s t u : Session} {b next : Build} {seen : List (Except BuildError Build)}
      {result : Option (Except String Build)} (going : b.phase.isTerminal = false)
      (reconciled : s.seen m interval (pauses taken) b = .ok next)
      (looked : (look m interval (pauses taken) b).run.run s = (.ok next, t))
      (rest : Waits m interval pauses (taken + 1) t next seen result u) :
      Waits m interval pauses taken s b (.ok next :: seen) result u
  /-- A failure is taken for one that goes by, and the build is loaded again. -/
  | retried {taken : Nat} {s t u : Session} {b stored : Build} {e : BuildError}
      {seen : List (Except BuildError Build)} {result : Option (Except String Build)}
      (going : b.phase.isTerminal = false) (failed : s.seen m interval (pauses taken) b = .error e)
      (transient : e.isTransient = true)
      (looked : (look m interval (pauses taken) b).run.run s = (.ok stored, t))
      (rest : Waits m interval pauses (taken + 1) t stored seen result u) :
      Waits m interval pauses taken s b (.error e :: seen) result u
  /-- It cannot be loaded again. -/
  | lost {taken : Nat} {s t : Session} {b : Build} {e : BuildError} {reason : String}
      (going : b.phase.isTerminal = false) (failed : s.seen m interval (pauses taken) b = .error e)
      (transient : e.isTransient = true)
      (looked : (look m interval (pauses taken) b).run.run s = (.error reason, t)) :
      Waits m interval pauses taken s b [.error e] (some (.error reason)) t
  /-- A failure is taken for one that stays. -/
  | stopped {taken : Nat} {s t : Session} {b : Build} {e : BuildError} (going : b.phase.isTerminal = false)
      (failed : s.seen m interval (pauses taken) b = .error e) (lasting : e.isTransient = false)
      (looked : (look m interval (pauses taken) b).run.run s = (.error e.advice, t)) :
      Waits m interval pauses taken s b [.error e] (some (.error e.advice)) t

/-- Waiting goes in this way for any number of looks, unless it is over before. -/
theorem waits (m : Mode) (interval : Nat) (pauses : Nat → Pause) (looks taken : Nat) (s : Session) (b : Build) :
    ∃ seen result u, Waits m interval pauses taken s b seen result u ∧ seen.length ≤ looks ∧
      (result = none → seen.length = looks) := by
  -- Every look may change the session and the build, and the rest of the waiting starts from there.
  induction looks generalizing taken s b with
  | zero =>
    cases going : b.phase.isTerminal with
    | true => exact ⟨[], _, s, .ended going, Nat.le_refl 0, fun _ => rfl⟩
    | false => exact ⟨[], none, s, .going going, Nat.le_refl 0, fun _ => rfl⟩
  | succ looks ih =>
    cases going : b.phase.isTerminal with
    | true => exact ⟨[], _, s, .ended going, Nat.zero_le _, nofun⟩
    | false =>
      -- A build that goes on is looked at, and what the reconciliation comes to decides how.
      cases reconciled : s.seen m interval (pauses taken) b with
      | ok next =>
        obtain ⟨t, looked⟩ := look_of_ok reconciled
        obtain ⟨seen, result, u, rest, few, all⟩ := ih (taken + 1) t next
        exact ⟨_, result, u, .carried going reconciled looked rest, Nat.succ_le_succ few,
          fun open_ => congrArg Nat.succ (all open_)⟩
      | error e =>
        cases transient : e.isTransient with
        | true =>
          rcases looked : (look m interval (pauses taken) b).run.run s with ⟨loaded, t⟩
          -- Loading the build may fail, which ends the waiting like a failure that stays.
          cases loaded with
          | ok stored =>
            obtain ⟨seen, result, u, rest, few, all⟩ := ih (taken + 1) t stored
            exact ⟨_, result, u, .retried going reconciled transient looked rest, Nat.succ_le_succ few,
              fun open_ => congrArg Nat.succ (all open_)⟩
          | error reason =>
            exact ⟨_, _, t, .lost going reconciled transient looked, Nat.succ_le_succ (Nat.zero_le _), nofun⟩
        | false =>
          obtain ⟨t, looked⟩ := look_of_lasting reconciled transient
          exact ⟨_, _, t, .stopped going reconciled transient looked, Nat.succ_le_succ (Nat.zero_le _), nofun⟩

namespace Waits

variable {taken : Nat} {u : Session} {seen : List (Except BuildError Build)}
  {result : Option (Except String Build)}

/-- What waiting has come to is what it returns. -/
theorem returned (waits : Waits m interval pauses taken s b seen result u) {r : Except String Build}
    (complete : result = some r) : waitIn m interval pauses taken b s = (r, u) := by
  -- Each way to go on is one turn of the loop.
  induction waits with
  | ended finished =>
    rw [waitIn_of_ended finished, Option.some.inj complete]
  | going => exact nomatch complete
  | carried going _ looked _ ih | retried going _ _ looked _ ih =>
    rw [waitIn_of_going going, looked]
    exact ih complete
  | lost going _ _ looked | stopped going _ _ looked =>
    obtain rfl := Option.some.inj complete
    rw [waitIn_of_going going, looked]

/-- Only a build that has not ended is looked at. -/
theorem going_of_seen (waits : Waits m interval pauses taken s b seen result u) (some_ : seen ≠ []) :
    b.phase.isTerminal = false := by
  -- The two ways that take no look have an empty list.
  cases waits with
  | ended | going => exact absurd rfl some_
  | carried going | retried going | lost going | stopped going => exact going

/-- What is seen first of a build is what the first reconciliation came to. -/
theorem first_seen (waits : Waits m interval pauses taken s b seen result u) (some_ : seen ≠ []) :
    ∃ later, seen = s.seen m interval (pauses taken) b :: later := by
  -- Every other way begins with the look at the session as it stands.
  cases waits with
  | ended | going => exact absurd rfl some_
  | carried _ outcome | retried _ outcome | lost _ outcome | stopped _ outcome =>
    rw [outcome]
    exact ⟨_, rfl⟩

/-- There is another look only after a build has gone on and not ended, or after a failure that goes by. -/
theorem again (waits : Waits m interval pauses taken s b seen result u)
    {before after : List (Except BuildError Build)} {outcome : Except BuildError Build}
    (shape : seen = before ++ outcome :: after) (more : after ≠ []) :
    (∃ next, outcome = .ok next ∧ next.phase.isTerminal = false)
      ∨ ∃ e, outcome = .error e ∧ e.GoesBy := by
  -- The outcome is that of the first look, after which others follow, or it is one of theirs.
  induction waits generalizing before with
  | ended | going => exact absurd shape (by simp)
  | lost | stopped =>
    -- Nothing was seen after the only outcome.
    obtain ⟨rfl, first⟩ | ⟨earlier, rfl, later⟩ := List.cons_eq_append_iff.mp shape
    · exact absurd (List.cons.inj first).2 more
    · exact absurd later (by simp)
  | @carried _ _ _ _ _ next _ _ going reconciled looked rest ih =>
    obtain ⟨rfl, first⟩ | ⟨earlier, rfl, later⟩ := List.cons_eq_append_iff.mp shape
    · obtain ⟨rfl, rfl⟩ := List.cons.inj first
      exact .inl ⟨next, rfl, rest.going_of_seen more⟩
    · exact ih later
  | @retried _ _ _ _ _ _ e _ _ going failed transient looked rest ih =>
    obtain ⟨rfl, first⟩ | ⟨earlier, rfl, later⟩ := List.cons_eq_append_iff.mp shape
    · obtain ⟨rfl, rfl⟩ := List.cons.inj first
      exact .inr ⟨e, rfl, BuildError.isTransient_iff.mp transient⟩
    · exact ih later

/-- A failure that does not go by is what waiting comes to. -/
theorem of_lasting (waits : Waits m interval pauses taken s b seen result u) {e : BuildError}
    (member : .error e ∈ seen) (lasting : ¬ e.GoesBy) : result = some (.error e.advice) := by
  have lasting : e.isTransient = false := by
    rwa [← BuildError.isTransient_iff, Bool.not_eq_true] at lasting
  -- Waiting ends at once with such a failure, so that it cannot be an earlier one.
  induction waits with
  | ended | going => exact absurd member List.not_mem_nil
  | carried going reconciled looked rest ih =>
    obtain other | later := List.mem_cons.mp member
    · exact nomatch other
    · exact ih later
  | retried going failed transient looked rest ih =>
    obtain same | later := List.mem_cons.mp member
    -- The first outcome goes by, and this failure does not.
    · obtain rfl := Except.error.inj same
      exact nomatch transient.symm.trans lasting
    · exact ih later
  | lost going failed transient =>
    obtain rfl := Except.error.inj (List.mem_singleton.mp member)
    exact nomatch transient.symm.trans lasting
  | stopped =>
    obtain rfl := Except.error.inj (List.mem_singleton.mp member)
    rfl

/-- Only a build that has ended is waited for with success. -/
theorem terminal_of_ok (waits : Waits m interval pauses taken s b seen result u) {c : Build}
    (returned : result = some (.ok c)) : c.phase.isTerminal = true := by
  -- Only the rule for an ended build returns one, and the induction carries the result there.
  induction waits with
  | ended finished => exact Except.ok.inj (Option.some.inj returned) ▸ finished
  | carried _ _ _ _ ih | retried _ _ _ _ _ ih => exact ih returned
  | going | lost | stopped => exact nomatch returned

end Waits

/-- However the clock runs and whatever others do, waiting goes on look after look until it is over. Another look
follows only a build that has gone on and not ended, or a failure that goes by. Every other failure is what waiting
comes to, which else succeeds only with a build that has ended. Of the refusals of a cluster, those that tell of
something missing or taken are of the other kind. -/
theorem waiting_ends_with_other_failures (m : Mode) (interval : Nat) (pauses : Nat → Pause) (s : Session)
    (b : Build) :
    (∀ looks, ∃ seen result t, Waits m interval pauses 0 s b seen result t ∧ seen.length ≤ looks ∧
      (result = none → seen.length = looks)) ∧
    (∀ seen result t, Waits m interval pauses 0 s b seen result t →
      (∀ r, result = some r → (waitFor m interval pauses b).run.run s = (r, t)) ∧
      (∀ before outcome after, seen = before ++ outcome :: after → after ≠ [] →
        (∃ next, outcome = .ok next ∧ next.phase.isTerminal = false) ∨ ∃ e, outcome = .error e ∧ e.GoesBy) ∧
      (∀ e, .error e ∈ seen → ¬ e.GoesBy → result = some (.error e.advice)) ∧
      ∀ c, result = some (.ok c) → c.phase.isTerminal = true) ∧
    ∀ (o : Remote.Operation) (status : Nat) (body : String), 400 ≤ status → status < 600 →
      ∃ e, o.answer (.reply status body) = .error e ∧
        let refusal := Remote.refusal status body
        (¬ (BuildError.cluster e).GoesBy ↔
          refusal.code = 404 ∨ refusal.code = 409 ∧ refusal.reason = "AlreadyExists") := by
  -- The first part says that there is a run of any length, the second what a run does, the third what an answer of
  -- the API counts as.
  refine ⟨fun looks => waits m interval pauses looks 0 s b, fun seen result t run => ?_,
    fun o status body above below => ?_⟩
  · exact ⟨fun r complete => (run_waitFor m interval pauses b s).trans (run.returned complete),
      fun before outcome after shape more => run.again shape more,
      fun e member lasting => run.of_lasting member lasting, fun c returned => run.terminal_of_ok returned⟩
  · refine ⟨(Remote.refusal status body).error o.subject.1 o.subject.2, ?_, ?_⟩
    · rw [Remote.Operation.answer, if_pos ⟨above, below⟩]
    · -- What goes by is told from the kind of the error, which the code and the reason decide.
      rw [← BuildError.isTransient_iff, Bool.not_eq_true]
      exact (Remote.refusal status body).isTransient_error _ _

/-- Usual settings at the start of 1970, without color. -/
def plainMode : Mode := ⟨Engine.usualSettings, .epoch, false⟩

/-- Pauses of five seconds each, in which nobody else does anything. -/
def plainPauses (taken : Nat) : Pause :=
  .quiet (Instant.atSecond ((5 * taken + 5) % 86400) (Nat.mod_lt _ (by decide)))

/-- A session with a cluster, where a build has been saved. -/
def sessionWith (c : Cluster) (b : Build) : Session :=
  ⟨⟨⟨c, []⟩, (Directory.emptyDirectory.save b).store⟩, "", 0, []⟩

/-- A request for a build that needs a Secret. -/
def discreetRequest : BuildRequest :=
  { Engine.hastyRequest with platform := { Engine.hastyRequest.platform with spec :=
    { PlatformSpec.unspecified with registry := { RegistrySpec.unspecified with secret := some "cred" } } } }

/-- A scheduled build that needs a Secret. -/
def discreetBuild : Build := discreetRequest.kanikoBuild.prepared

/-- A build whose Secret is missing is given up at once. -/
theorem waiting_ends_with_other_failures_discreetBuild :
    let session := sessionWith (.empty .epoch) discreetBuild
    session.seen plainMode 5 (plainPauses 0) discreetBuild =
      .error (.cluster (.notFound .secret ⟨"ns", "cred"⟩)) ∧
    ((waitFor plainMode 5 plainPauses discreetBuild).run.run session).1 = .error "Secret ns/cred not found" := by
  intro session
  have failed : session.seen plainMode 5 (plainPauses 0) discreetBuild =
      .error (.cluster (.notFound .secret ⟨"ns", "cred"⟩)) := by
    decide +kernel
  obtain ⟨reaches, comes, _⟩ := waiting_ends_with_other_failures plainMode 5 plainPauses session discreetBuild
  obtain ⟨seen, result, t, waits, _, open_⟩ := reaches 1
  have some_ : seen ≠ [] := by
    -- The build has not ended at the beginning, so that at least one look is taken.
    rintro rfl
    cases waits with
    | ended finished => exact absurd finished (by decide)
    | going => exact nomatch open_ rfl
  obtain ⟨later, rfl⟩ := waits.first_seen some_
  obtain ⟨returned, _, lasting, _⟩ := comes _ _ _ waits
  rw [failed] at lasting
  exact ⟨failed, congrArg Prod.fst (returned _ (lasting _ List.mem_cons_self nofun))⟩

/-- A cluster where the worker of a build has succeeded, and the next call is forbidden. -/
def forbiddingCluster : Cluster :=
  { (Cluster.empty .epoch).insertPod
      { Engine.leftoverPod with status := some (.ofPhase "Succeeded") } with
    faults := [some (.api 403 "forbidden")] }

/-- The refusal of a cluster that forbids something. -/
def forbiddingReply : Remote.Reply :=
  .reply 403 (Json.compact (.object [("kind", .string "Status"), ("status", .string "Failure"),
    ("message", .string "forbidden"), ("reason", .string "Forbidden"), ("code", .ofNat 403)]))

/-- A call that is forbidden is made again: the failure is not what waiting comes to. -/
theorem forbidden_call_is_made_again :
    let pending := (Engine.bareBuild .pending).nextVersion
    let session := sessionWith forbiddingCluster (Engine.bareBuild .pending)
    (Remote.Operation.getPod (Worker.place "podforge" pending)).answer forbiddingReply =
      .error (.api 403 "forbidden") ∧
    session.seen plainMode 5 (plainPauses 0) pending = .error (.cluster (.api 403 "forbidden")) ∧
    ((waitFor plainMode 5 plainPauses pending).run.run session).1 =
      .ok (pending.withPhase .succeeded).nextVersion := by
  intro pending session
  -- The refused call is the first look, and the second one finds the worker that has succeeded.
  let first := ((look plainMode 5 (plainPauses 0) pending).run.run session).2
  have failed : session.seen plainMode 5 (plainPauses 0) pending = .error (.cluster (.api 403 "forbidden")) := by
    decide +kernel
  -- What the second look sees starts from what the first one has loaded, so that both are computed together.
  obtain ⟨loaded, carried⟩ : ((look plainMode 5 (plainPauses 0) pending).run.run session).1 = .ok pending ∧
      first.seen plainMode 5 (plainPauses 1) pending = .ok (pending.withPhase .succeeded).nextVersion := by
    decide +kernel
  obtain ⟨last, looked⟩ := look_of_ok carried
  have waits : Waits plainMode 5 plainPauses 0 session pending _ (some (.ok _)) last :=
    .retried (by decide) failed rfl (Prod.fst_eq_iff.mp loaded) (.carried (by decide) carried looked (.ended (by decide)))
  refine ⟨?_, failed, ?_⟩
  · rw [forbiddingReply, Remote.Operation.answer, if_pos (by decide)]
    exact congrArg Except.error (by decide +kernel)
  · rw [run_waitFor, waits.returned rfl]

end Command

end ImageBuild
