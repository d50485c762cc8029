import ImageBuild.Backoff
import ImageBuild.Engine.Site

/-! Failed builds, and when they are started again. The first failure is kept also when a later attempt
succeeds, so that the limit counts all attempts of a build. -/

namespace ImageBuild.Engine

/-- The failure of a build that has failed for the first time. -/
def firstFailure (c : RecoveryConfig) (now : Instant) (b : Build) : Failure :=
  ⟨b.status.error.getD "", now, ⟨0, c.attemptMax, none⟩⟩

/-- The moment of the last attempt, or of the failure where none was made after it. -/
def lastAttempt (f : Failure) : Instant :=
  match f.recovery.attemptTime with
  -- A clock that was set back must not shorten the wait.
  | some time => time.later f.time
  | none => f.time

/-- Whether a build may be started again: waits are over where the clock says so. -/
def isDue (c : RecoveryConfig) (now : Instant) (f : Failure) : Bool :=
  let elapsed := (now.elapsedSince? (lastAttempt f)).getD .zero
  !(elapsed < (Backoff.ofConfig c).wait f.recovery.attempt)

/-- The failure with one more attempt. -/
def attempted (now : Instant) (f : Failure) : Failure :=
  { f with recovery := { f.recovery with
    attempt := f.recovery.attempt + 1, attemptTime := some now } }

/-- Goes on with a failed build: notes the first failure, gives up, waits or starts again. -/
def recover (c : RecoveryConfig) (now : Instant) (b : Build) : SiteM Build := do
  match b.status.failure with
  | none => pure { b with status := { b.status with failure := some (firstFailure c now b) } }
  | some f =>
    let r := f.recovery
    if r.attemptMax ≤ r.attempt then
      Site.record (.warn ("Build " ++ b.reference.key ++ " failed after " ++ toString r.attempt.toNat
        ++ " recovery attempts"))
      pure (b.withPhase .error)
    else if !isDue c now f then pure b
    else
      let f := attempted now f
      Site.record (.info ("Recovery attempt (" ++ toString f.recovery.attempt.toNat ++ "/"
        ++ toString r.attemptMax.toNat ++ ")"))
      pure { b with status := { b.status with phase := .initialization, failure := some f } }

end ImageBuild.Engine
