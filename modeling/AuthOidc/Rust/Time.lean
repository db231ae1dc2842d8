import Mathlib.Algebra.Ring.Nat
import Mathlib.Order.Defs.LinearOrder
import Mathlib.Order.Basic

/-!
# Durations and instants

A `Duration` is a number of nanoseconds below the range limit of the standard
library type, whose seconds are a `u64`.  An `Instant` is a reading of the
monotonic clock, in nanoseconds since an origin that is never observed.
-/

namespace AuthOidc.Rust

structure Duration where
  nanos : Nat
  nanos_le : nanos ≤ (2 ^ 64 - 1) * 1000000000 + 999999999
  deriving DecidableEq

namespace Duration

def maxNanos : Nat := (2 ^ 64 - 1) * 1000000000 + 999999999

/-- The duration of a number of nanoseconds, saturating at `Duration::MAX`. -/
def saturatingOfNanos (nanos : Nat) : Duration :=
  ⟨min nanos maxNanos, Nat.min_le_right _ _⟩

def fromSecs (seconds : UInt64) : Duration :=
  ⟨seconds.toNat * 1000000000, by
    have bound := seconds.toNat_lt
    omega⟩

def saturatingMul (duration : Duration) (factor : Nat) : Duration :=
  saturatingOfNanos (duration.nanos * factor)

instance : LE Duration := ⟨fun left right => left.nanos ≤ right.nanos⟩

instance : LT Duration := ⟨fun left right => left.nanos < right.nanos⟩

instance (left right : Duration) : Decidable (left ≤ right) :=
  inferInstanceAs (Decidable (left.nanos ≤ right.nanos))

instance (left right : Duration) : Decidable (left < right) :=
  inferInstanceAs (Decidable (left.nanos < right.nanos))

/-- `std::cmp::max`: the second argument when they are equal. -/
def max (left right : Duration) : Duration :=
  if left ≤ right then right else left

theorem le_iff {left right : Duration} :
    left ≤ right ↔ left.nanos ≤ right.nanos := Iff.rfl

theorem not_le {left right : Duration} : ¬ left ≤ right ↔ right < left :=
  Nat.not_le

@[simp] theorem nanos_fromSecs (seconds : UInt64) :
    (fromSecs seconds).nanos = seconds.toNat * 1000000000 := rfl

@[simp] theorem nanos_saturatingOfNanos (nanos : Nat) :
    (saturatingOfNanos nanos).nanos = min nanos maxNanos := rfl

@[simp] theorem nanos_saturatingMul (duration : Duration) (factor : Nat) :
    (duration.saturatingMul factor).nanos =
      min (duration.nanos * factor) maxNanos := rfl

@[simp] theorem nanos_max (left right : Duration) :
    (max left right).nanos = Nat.max left.nanos right.nanos := by
  unfold max
  split
  · rename_i ordered
    exact (Nat.max_eq_right ordered).symm
  · rename_i reversed
    exact (Nat.max_eq_left (Nat.le_of_not_le reversed)).symm

end Duration

abbrev Instant := Nat

namespace Instant

/-- `Instant::saturating_duration_since`: zero when `earlier` is later. -/
def saturatingDurationSince (now earlier : Instant) : Duration :=
  Duration.saturatingOfNanos (now - earlier)

/-- No duration is beyond the range in which the difference saturates. -/
theorem le_saturatingDurationSince {now earlier : Instant}
    {duration : Duration} :
    duration ≤ saturatingDurationSince now earlier ↔
      duration.nanos ≤ now - earlier := by
  have bound := duration.nanos_le
  simp only [Duration.le_iff, saturatingDurationSince,
    Duration.nanos_saturatingOfNanos, Duration.maxNanos]
  omega

theorem saturatingDurationSince_lt {now earlier : Instant}
    {duration : Duration} :
    saturatingDurationSince now earlier < duration ↔
      now - earlier < duration.nanos := by
  rw [← Duration.not_le, le_saturatingDurationSince, Nat.not_le]

end Instant

end AuthOidc.Rust
