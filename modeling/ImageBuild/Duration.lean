import ImageBuild.Binary64

/-! Lengths of time in whole nanoseconds, whose seconds fit a 64-bit word. -/

namespace ImageBuild

/-- The nanoseconds of a second. -/
abbrev nanosPerSecond : Nat := 1000000000

/-- A length of time. -/
structure Duration where
  nanos : Nat
  fits : nanos < Nat.pow 2 64 * nanosPerSecond
  deriving DecidableEq

namespace Duration

/-- The length of time of some nanoseconds, unless it is too long. -/
def ofNanos? (n : Nat) : Option Duration :=
  if h : n < Nat.pow 2 64 * nanosPerSecond then some ⟨n, h⟩ else none

/-- Nanoseconds whose seconds fit a word are a length of time. -/
theorem ofNanos?_of_lt {n : Nat} (fits : n < Nat.pow 2 64 * nanosPerSecond) : ofNanos? n = some ⟨n, fits⟩ :=
  dif_pos fits

/-- The length of time of some seconds below 2 ^ 64. -/
def ofSeconds (s : Nat) (below : s < Nat.pow 2 64 := by decide) : Duration :=
  ⟨s * nanosPerSecond, Nat.mul_lt_mul_of_pos_right below (by decide)⟩

/-- No time at all. -/
def zero : Duration := ofSeconds 0

instance : Inhabited Duration := ⟨zero⟩

/-- The whole seconds. -/
def seconds (d : Duration) : Nat := d.nanos / nanosPerSecond

/-- The nanoseconds beyond the whole seconds. -/
def subsecond (d : Duration) : Nat := d.nanos % nanosPerSecond

instance : LE Duration := ⟨fun a b => a.nanos ≤ b.nanos⟩

instance : LT Duration := ⟨fun a b => a.nanos < b.nanos⟩

instance (a b : Duration) : Decidable (a ≤ b) := inferInstanceAs (Decidable (a.nanos ≤ b.nanos))

instance (a b : Duration) : Decidable (a < b) := inferInstanceAs (Decidable (a.nanos < b.nanos))

/-- The seconds as a floating-point number: the whole ones and the rest are rounded, then the sum. -/
def toBinary64 (d : Duration) : Binary64 :=
  (Binary64.ofNat d.seconds).add (Binary64.round false d.subsecond nanosPerSecond)

/-- The length of time nearest to some seconds, a half nanosecond going to the even one. -/
def ofBinary64? : Binary64 → Option Duration
  | .finite false m e =>
    let (num, den) := Binary64.descale m 1 (-e)
    ofNanos? (Binary64.nearest (num * nanosPerSecond) den)
  | _ => none

end Duration

end ImageBuild
