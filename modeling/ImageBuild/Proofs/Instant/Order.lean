import ImageBuild.Instant
import Mathlib.Algebra.Group.Nat.Defs

/-! Moments in their order, and the time from one to another. -/

namespace ImageBuild.Instant

/-- A second of the first day of 1970. -/
def atSecond (second : Nat) (early : second < 86400 := by decide) : Instant :=
  { epoch with
    second := second, second_lt := early, leap_ends_minute := fun leap => absurd leap (by decide) }

/-- One moment is not after another. -/
instance : LE Instant := ⟨fun a b => a.cmp b ≠ .gt⟩

instance (a b : Instant) : Decidable (a ≤ b) := inferInstanceAs (Decidable (a.cmp b ≠ .gt))

/-- Moments are ordered by day, then by second, then by nanoseconds. -/
theorem le_iff {a b : Instant} : a ≤ b ↔
    a.day < b.day ∨ a.day = b.day ∧
      (a.second < b.second ∨ a.second = b.second ∧ a.nanos ≤ b.nanos) := by
  change a.cmp b ≠ .gt ↔ _
  -- A later comparison counts only where those before it find no difference.
  simp only [cmp, ne_eq, Ordering.then_eq_gt, Int.compare_eq_gt, Nat.compare_eq_gt,
    Std.LawfulEqCmp.compare_eq_iff_eq]
  omega

/-- A moment is not after itself. -/
theorem le_refl (a : Instant) : a ≤ a := le_iff.mpr (by omega)

/-- A moment that is not after another one is not after later ones. -/
theorem le_trans {a b c : Instant} (first : a ≤ b) (second : b ≤ c) : a ≤ c := by
  -- The order is that of days, seconds and nanoseconds.
  rw [le_iff] at *
  omega

/-- Of two moments the one that is not before the other is the later one. -/
theorem later_eq_left {a b : Instant} (ordered : b ≤ a) : a.later b = a := if_neg ordered

/-- A moment that names no leap second. -/
def IsPlain (t : Instant) : Prop := t.nanos < nanosPerSecond

instance (t : Instant) : Decidable t.IsPlain := inferInstanceAs (Decidable (t.nanos < nanosPerSecond))

/-- The time since a moment that names no leap second gets no longer when that is replaced by a later one. -/
theorem since_later_le {now a b : Instant} (reading : now.IsPlain) (first : a.IsPlain) (second : b.IsPlain) :
    now.since (a.later b) ≤ now.since a := by
  unfold later
  split
  · rename_i after
    have after : ¬b ≤ a := fun ordered => ordered after
    rw [le_iff] at after
    have early := a.second_lt
    have late := b.second_lt
    -- With no leap second, the time is that between two points of one scale.
    unfold IsPlain at reading first second
    simp only [since, if_neg (Nat.not_le.mpr reading), if_neg (Nat.not_le.mpr first),
      if_neg (Nat.not_le.mpr second), ite_self]
    unfold nanosPerSecond at *
    omega
  · exact Int.le_refl _

/-- The time between two moments fits a length of time. -/
theorem since_lt (later earlier : Instant) :
    later.since earlier < (2 ^ 64 * nanosPerSecond : Nat) := by
  -- The calendar is far shorter than what a word of seconds holds.
  have last := later.day_fits
  have first := earlier.day_fits
  have seconds := later.second_lt
  have nanos := later.nanos_lt
  unfold nanosPerSecond at nanos
  simp only [since, nanosPerSecond]
  omega

/-- The time that has passed is the difference of the moments, and none where that is negative. -/
theorem nanos_elapsedSince? (later earlier : Instant) :
    (((later.elapsedSince? earlier).getD .zero).nanos : Int) = max 0 (later.since earlier) := by
  unfold elapsedSince?
  simp only
  split
  · rename_i negative
    rw [Int.max_eq_left (Int.le_of_lt negative)]
    rfl
  -- Two moments are never so far apart that the time between them has no length.
  · rename_i positive
    have fits : (later.since earlier).toNat < 2 ^ 64 * nanosPerSecond := by
      have bound := since_lt later earlier
      omega
    rw [Duration.ofNanos?_of_lt fits, Option.getD_some]
    simp only
    omega

end ImageBuild.Instant
