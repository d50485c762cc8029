import ImageBuild.Proofs.Run

/-! Everything that one step can make of a build, with what was seen of the build before it. -/

namespace ImageBuild

open Worker

namespace Build

/-- The build with room for its worker. -/
def prepared (b : Build) : Build :=
  { b with status := { b.status with
    phase := .scheduling, startedAt := none, error := none, duration := none } }

/-- The build whose worker has been started. -/
def launched (b : Build) (now : Instant) : Build :=
  { b with status := { b.status with phase := .pending, startedAt := some now } }

/-- The failed build with the record of its first failure. -/
def noted (b : Build) (c : RecoveryConfig) (now : Instant) : Build :=
  { b with status := { b.status with failure := some (Engine.firstFailure c now b) } }

/-- The failed build on its way to another attempt. -/
def restarted (b : Build) (now : Instant) (f : Failure) : Build :=
  { b with status := { b.status with
    phase := .initialization, failure := some (Engine.attempted now f) } }

@[simp] theorem phase_withPhase (b : Build) (phase : Phase) : (b.withPhase phase).phase = phase := rfl

@[simp] theorem phase_failedFor (b : Build) (reason : String) (now : Instant) :
    (b.failedFor reason now).phase = .failed := rfl

@[simp] theorem phase_prepared (b : Build) : b.prepared.phase = .scheduling := rfl

@[simp] theorem phase_launched (b : Build) (now : Instant) : (b.launched now).phase = .pending := rfl

@[simp] theorem phase_noted (b : Build) (c : RecoveryConfig) (now : Instant) :
    (b.noted c now).phase = b.phase := rfl

@[simp] theorem phase_restarted (b : Build) (now : Instant) (f : Failure) :
    (b.restarted now f).phase = .initialization := rfl

end Build

namespace Action

/-- The phases in which an action goes on with builds. -/
def phases : Action → List Phase
  | prepare => [.new, .initialization]
  | launch => [.scheduling]
  | monitor => [.pending, .running]
  | recover => [.failed]
  | giveUp => [.error]
  | cleanUp => [.cancelled]

/-- An action accepts no other phase than its own ones. -/
theorem mem_phases {action : Action} {p : Phase} (accepted : action.accepts p = true) :
    p ∈ action.phases := by
  -- Both are tables over the same actions and phases.
  revert accepted
  cases action <;> cases p <;> decide

/-- The action that goes on with a build accepts its phase. -/
theorem accepts_of_next? {b : Build} {action : Action} (chosen : next? b = some action) :
    action.accepts b.phase = true := by
  -- The action chosen is the first one that accepts the phase.
  unfold next? at chosen
  have accepted := List.find?_some chosen
  exact accepted

end Action

namespace Engine

/-- What a step makes of a build. -/
inductive Advance (s : Settings) (now : Instant) (b : Build) : Build → Prop
  /-- No action goes on with the build. -/
  | idle (unhandled : Action.next? b = none) : Advance s now b b
  /-- The last pod of the name has not gone yet. -/
  | crowded (starting : b.phase = .new ∨ b.phase = .initialization) : Advance s now b b
  /-- There is room for the worker. -/
  | prepared (starting : b.phase = .new ∨ b.phase = .initialization) : Advance s now b b.prepared
  /-- The worker has been started. -/
  | launched (scheduled : b.phase = .scheduling) : Advance s now b (b.launched now)
  /-- The worker has been stopped, as it ran for too long. -/
  | overdue (active : b.phase = .pending ∨ b.phase = .running) (late : b.isOverdue now = true) :
      Advance s now b (b.failedFor (overdueReason b) now)
  /-- The pod of the worker was there to be looked at. -/
  | observed (active : b.phase = .pending ∨ b.phase = .running) (early : b.isOverdue now = false)
      (pod : Kubernetes.Pod) : Advance s now b (Engine.observed b pod now)
  /-- The pod of a running worker was gone. -/
  | vanished (running : b.phase = .running) (early : b.isOverdue now = false) :
      Advance s now b (b.failedFor "builder pod disappeared while running" now)
  /-- The pod of a worker that has not been seen running was gone, and there is another one now. -/
  | replaced (pending : b.phase = .pending) (early : b.isOverdue now = false) : Advance s now b b
  /-- The first failure has been recorded. -/
  | noted (failed : b.phase = .failed) (unrecorded : b.status.failure = none) :
      Advance s now b (b.noted s.config.recovery now)
  /-- There are no attempts left. -/
  | exhausted (failed : b.phase = .failed) (f : Failure) (recorded : b.status.failure = some f)
      (spent : f.recovery.attemptMax ≤ f.recovery.attempt) : Advance s now b (b.withPhase .error)
  /-- The next attempt is not due yet. -/
  | waiting (failed : b.phase = .failed) (f : Failure) (recorded : b.status.failure = some f)
      (left : ¬f.recovery.attemptMax ≤ f.recovery.attempt)
      (early : isDue s.config.recovery now f = false) : Advance s now b b
  /-- The next attempt has begun. -/
  | restarted (failed : b.phase = .failed) (f : Failure) (recorded : b.status.failure = some f)
      (left : ¬f.recovery.attemptMax ≤ f.recovery.attempt)
      (due : isDue s.config.recovery now f = true) : Advance s now b (b.restarted now f)
  /-- The build had ended. -/
  | ended (finished : b.phase = .error ∨ b.phase = .cancelled) : Advance s now b b

open Run

/-- Making room leaves the build as it is, or ready to be started. -/
theorem prepare_ok {s : Settings} {b r : Build} {c d : Cluster}
    (ran : (prepare s b).run.run c = (.ok r, d)) : r = b ∨ r = b.prepared := by
  -- The pod is deleted, then looked for.
  unfold prepare at ran
  obtain ⟨_, _, _, ran⟩ := bind_ok ran
  obtain ⟨found, _, _, ran⟩ := bind_ok ran
  cases found with
  | some pod => exact .inl (pure_ok ran).1
  | none => exact .inr (pure_ok ran).1

/-- A started build is pending from the reading of the clock on. -/
theorem launch_ok {s : Settings} {now : Instant} {b r : Build} {c d : Cluster}
    (ran : (launch s now b).run.run c = (.ok r, d)) : r = b.launched now := by
  -- Whatever comes of creating the pod, a launch that succeeds returns the launched build.
  unfold launch at ran
  obtain ⟨_, _, _, ran⟩ := bind_ok ran
  exact (pure_ok ran).1

/-- Cleaning up leaves the build as it is. -/
theorem cleanUp_ok {s : Settings} {b r : Build} {c d : Cluster}
    (ran : (cleanUp s b).run.run c = (.ok r, d)) : r = b := by
  -- Deleting the pod leaves the build alone.
  unfold cleanUp at ran
  obtain ⟨_, _, _, ran⟩ := bind_ok ran
  exact (pure_ok ran).1

/-- A build without its pod fails if it was running, and stays as it is otherwise. -/
theorem replacePod_ok {s : Settings} {now : Instant} {b r : Build} {t u : Site}
    (ran : (replacePod s now b).run.run t = (.ok r, u)) :
    (b.phase = .running ∧ r = b.failedFor "builder pod disappeared while running" now) ∨
      (b.phase ≠ .running ∧ r = b) := by
  unfold replacePod at ran
  split at ran
  · rename_i running
    exact .inl ⟨running, (pure_ok ran).1⟩
  · rename_i unseen
    -- The pod is created again, which tells nothing about the build.
    obtain ⟨_, _, _, ran⟩ := bind_ok ran
    obtain ⟨_, _, _, ran⟩ := bind_ok ran
    exact .inr ⟨unseen, (pure_ok ran).1⟩

/-- Following a worker is one of the steps of an active build. -/
theorem monitor_ok {s : Settings} {now : Instant} {b r : Build} {t u : Site}
    (active : b.phase = .pending ∨ b.phase = .running)
    (ran : (monitor s now b).run.run t = (.ok r, u)) : Advance s now b r := by
  -- The clock is looked at before the pod.
  unfold monitor at ran
  split at ran
  · -- A build that is late fails, whatever its pod says.
    rename_i late
    obtain ⟨_, _, _, ran⟩ := bind_ok ran
    obtain ⟨_, _, _, ran⟩ := bind_ok ran
    rw [(pure_ok ran).1]
    exact .overdue active late
  · rename_i early
    have early : b.isOverdue now = false := by simpa using early
    obtain ⟨found, _, _, ran⟩ := bind_ok ran
    cases found with
    | some pod =>
      rw [(pure_ok ran).1]
      exact .observed active early pod
    | none =>
      -- Of the two active phases a build that was not running is in the first.
      rcases replacePod_ok ran with ⟨running, rfl⟩ | ⟨unseen, rfl⟩
      · exact .vanished running early
      · exact .replaced (active.resolve_right unseen) early

/-- Going on with a failed build is one of the four steps of recovery. -/
theorem recover_ok {s : Settings} {now : Instant} {b r : Build} {t u : Site}
    (failed : b.phase = .failed)
    (ran : (recover s.config.recovery now b).run.run t = (.ok r, u)) : Advance s now b r := by
  unfold recover at ran
  split at ran
  · rename_i unrecorded
    rw [(pure_ok ran).1]
    exact .noted failed unrecorded
  · rename_i f recorded
    simp only at ran
    -- The limit is looked at before the clock.
    split at ran
    · rename_i spent
      obtain ⟨_, _, _, ran⟩ := bind_ok ran
      rw [(pure_ok ran).1]
      exact .exhausted failed f recorded spent
    · rename_i left
      split at ran
      · rename_i early
        rw [(pure_ok ran).1]
        exact .waiting failed f recorded left (by simpa using early)
      -- Only now an attempt is counted and the build begins anew.
      · rename_i due
        obtain ⟨_, _, _, ran⟩ := bind_ok ran
        rw [(pure_ok ran).1]
        exact .restarted failed f recorded left (by simpa using due)

/-- An action that accepts the phase of a build makes one of the steps of that phase. -/
theorem act_ok {s : Settings} {now : Instant} {b r : Build} {action : Action} {t u : Site}
    (accepted : action.accepts b.phase = true)
    (ran : (act s now b action).run.run t = (.ok r, u)) : Advance s now b r := by
  -- The guard of a step is that the build is in one of the phases of the action.
  have inside := Action.mem_phases accepted
  cases action with
  | prepare =>
    have starting : b.phase = .new ∨ b.phase = .initialization := by
      simpa [Action.phases] using inside
    rcases prepare_ok (work_ok ran) with rfl | rfl
    · exact .crowded starting
    · exact .prepared starting
  | launch =>
    -- A pod that is there already counts as launched.
    rw [launch_ok (work_ok ran)]
    exact .launched (List.mem_singleton.mp inside)
  | monitor => exact monitor_ok (by simpa [Action.phases] using inside) ran
  | recover => exact recover_ok (List.mem_singleton.mp inside) ran
  | giveUp =>
    rw [(pure_ok ran).1]
    exact .ended (.inl (List.mem_singleton.mp inside))
  | cleanUp =>
    rw [cleanUp_ok (work_ok ran)]
    exact .ended (.inr (List.mem_singleton.mp inside))

/-- A recorded action returns what the action returns. -/
theorem actRecorded_ok {s : Settings} {now : Instant} {b r : Build} {action : Action} {t u : Site}
    (ran : (actRecorded s now b action).run.run t = (.ok r, u)) :
    ∃ v w, (act s now b action).run.run v = (.ok r, w) := by
  unfold actRecorded at ran
  obtain ⟨_, v, _, ran⟩ := bind_ok ran
  obtain ⟨target, w, caught, ran⟩ := bind_ok ran
  -- The handler passes the failure on, so that a success is that of the action.
  have acted : (act s now b action).run.run v = (.ok target, w) := by
    rw [run_tryCatch] at caught
    rcases made : (act s now b action).run.run v with ⟨result, x⟩
    rw [made] at caught
    cases result with
    | ok a => exact caught
    | error e =>
      obtain ⟨_, _, _, thrown⟩ := bind_ok caught
      cases thrown
  -- Whether the change of phase is recorded or not, the build is returned as it is.
  have same : r = target := by
    simp only at ran
    split at ran
    · obtain ⟨_, _, _, ran⟩ := bind_ok ran
      exact (pure_ok ran).1
    · exact (pure_ok ran).1
  exact ⟨v, w, same ▸ acted⟩

/-- A step that succeeds is one of those listed. -/
theorem step_ok {s : Settings} {now : Instant} {b r : Build} {t u : Site}
    (ran : (step s now b).run.run t = (.ok r, u)) : Advance s now b r := by
  -- A build is carried on by the action that its phase calls for.
  unfold step at ran
  split at ran
  · rename_i action chosen
    obtain ⟨_, _, acted⟩ := actRecorded_ok ran
    exact act_ok (Action.accepts_of_next? chosen) acted
  · -- Without an action there is nothing to do.
    rename_i unhandled
    rw [(pure_ok ran).1]
    exact .idle unhandled

end Engine

end ImageBuild
