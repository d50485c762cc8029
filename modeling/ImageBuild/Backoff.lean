import ImageBuild.Config.Basic

/-! Waits before a failed build is started again. -/

namespace ImageBuild

/-- Waits that grow by a factor, within two bounds. -/
structure Backoff where
  min : Duration
  max : Duration
  factor : Binary64

namespace Backoff

/-- The waits that settings ask for. -/
def ofConfig (c : RecoveryConfig) : Backoff := ⟨c.minWait, c.maxWait, c.factor⟩

/-- The greatest exponent of a wait. -/
def maxExponent : Nat := 2147483647

/-- The least wait times the factor for every attempt made, and no less than it, before the upper bound. -/
def uncapped (b : Backoff) (attempt : UInt32) : Binary64 :=
  b.min.toBinary64.mul (b.factor.pow (Nat.min attempt.toNat maxExponent))

/-- The wait before a build is started again for the time of the given number. -/
def wait (b : Backoff) (attempt : UInt32) : Duration :=
  let wait := b.uncapped attempt
  -- A wait beyond all bounds, or undefined, is the longest.
  if !wait.isFinite || wait.ge b.max.toBinary64 then b.max
  else (Duration.ofBinary64? (wait.maximum b.min.toBinary64)).getD b.max

end Backoff

end ImageBuild
