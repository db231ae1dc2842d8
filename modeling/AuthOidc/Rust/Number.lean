import Mathlib.Data.Rat.Floor
import Mathlib.Data.Int.Order.Basic
import Mathlib.Tactic.Linarith

/-!
# Machine integers and numeric casts

`i64` is `Int64` and `u64` is `UInt64`; saturating operations clamp the exact
result.  A finite `f64` is the rational number it denotes.  Every rational is
allowed here, so a statement about all of them covers the binary64 values.
-/

namespace AuthOidc.Rust

namespace I64

def saturatingAdd (left right : Int64) : Int64 :=
  Int64.ofIntClamp (left.toInt + right.toInt)

def saturatingSub (left right : Int64) : Int64 :=
  Int64.ofIntClamp (left.toInt - right.toInt)

def clamp (value low high : Int64) : Int64 :=
  if value < low then low else if high < value then high else value

theorem toInt_ofIntClamp (value : Int) :
    (Int64.ofIntClamp value).toInt =
      Max.max (-2 ^ 63) (Min.min value (2 ^ 63 - 1)) := by
  have minimum : Int64.minValue.toInt = -2 ^ 63 := by decide
  have maximum : Int64.maxValue.toInt = 2 ^ 63 - 1 := by decide
  unfold Int64.ofIntClamp
  split
  · split
    · rw [Int64.toInt_ofIntLE]
      omega
    · omega
  · omega

theorem toInt_clamp (value low high : Int64) :
    (clamp value low high).toInt =
      if value.toInt < low.toInt then low.toInt
      else if high.toInt < value.toInt then high.toInt
      else value.toInt := by
  unfold clamp
  simp only [Int64.lt_iff_toInt_lt]
  split
  · rfl
  · split <;> rfl

/-- `as u64` of a non-negative value. -/
theorem toNat_toUInt64 {value : Int64} (nonnegative : 0 ≤ value.toInt) :
    (value.toUInt64.toNat : Int) = value.toInt := by
  have ordered : (0 : Int64) ≤ value := by
    rw [Int64.le_iff_toInt_le]
    simpa using nonnegative
  rw [Int64.toNat_toUInt64_of_le ordered, Int64.toNatClampNeg]
  exact Int.toNat_of_nonneg nonnegative

end I64

namespace F64

def floor (value : ℚ) : ℚ := (⌊value⌋ : ℚ)

def ceil (value : ℚ) : ℚ := (⌈value⌉ : ℚ)

/-- `as i64`: truncation towards zero, saturating. -/
def toI64 (value : ℚ) : Int64 :=
  Int64.ofIntClamp (if 0 ≤ value then ⌊value⌋ else ⌈value⌉)

/-- `as f64` of a `u64`: round to 53 significant bits, ties to even. -/
def ofU64 (value : UInt64) : ℚ :=
  let exact := value.toNat
  if exact < 2 ^ 53 then (exact : ℚ)
  else
    let shift := exact.log2 - 52
    let quotient := exact / 2 ^ shift
    let remainder := exact % 2 ^ shift
    let half := 2 ^ (shift - 1)
    if remainder < half ∨ (remainder = half ∧ quotient % 2 = 0) then
      ((quotient * 2 ^ shift : Nat) : ℚ)
    else (((quotient + 1) * 2 ^ shift : Nat) : ℚ)

theorem toInt_toI64_floor (value : ℚ) :
    (toI64 (floor value)).toInt =
      Max.max (-2 ^ 63) (Min.min ⌊value⌋ (2 ^ 63 - 1)) := by
  simp [toI64, floor, I64.toInt_ofIntClamp]

theorem toInt_toI64_ceil (value : ℚ) :
    (toI64 (ceil value)).toInt =
      Max.max (-2 ^ 63) (Min.min ⌈value⌉ (2 ^ 63 - 1)) := by
  simp [toI64, ceil, I64.toInt_ofIntClamp]

/-- Rounding to 53 bits does not leave the upper half of the `u64` range. -/
theorem le_ofU64 {value : UInt64} (large : 2 ^ 63 ≤ value.toNat) :
    (2 ^ 63 : ℚ) ≤ ofU64 value := by
  have bound := value.toNat_lt
  have logarithm : value.toNat.log2 = 63 := by
    rw [Nat.log2_eq_iff (by omega)]
    omega
  have quotientLarge : 2 ^ 52 ≤ value.toNat / 2 ^ 11 := by
    omega
  have rounded : ∃ natural : Nat,
      2 ^ 63 ≤ natural ∧ ofU64 value = (natural : ℚ) := by
    unfold ofU64
    simp only [logarithm]
    rw [if_neg (by omega)]
    split
    · exact ⟨_, by omega, rfl⟩
    · exact ⟨_, by omega, rfl⟩
  obtain ⟨natural, naturalLarge, equality⟩ := rounded
  rw [equality]
  exact_mod_cast naturalLarge

end F64

end AuthOidc.Rust
