import AuthOidc.Claims.Window

/-!
# The host clock

A reading below the sanity floor is replaced by the top of the `i64` range,
for the `exp` check to fail.  That check adds its skew with saturation at the
same top, so the tokens whose `exp` reaches it pass.
-/

namespace AuthOidc

open Rust SerdeJson OidcVerifier

def isClockSane (t : Int64) : Bool :=
  decide (clockSanityFloorUnix ≤ t)

def clockOrFailClosed (t : Int64) : Int64 :=
  if isClockSane t then t else Int64.maxValue

/-- `now_unix`, from the seconds since the epoch; `none` is a host clock before
it. -/
def nowUnix (sinceEpoch : Option UInt64) : Int64 :=
  clockOrFailClosed ((sinceEpoch.map UInt64.toInt64).getD Int64.maxValue)

namespace Clock

variable {self : OidcVerifier} {claims : Value}

theorem clockOrFailClosed_insane {t : Int64}
    (insane : t < clockSanityFloorUnix) :
    clockOrFailClosed t = Int64.maxValue := by
  rw [clockOrFailClosed, isClockSane, if_neg]
  rw [decide_eq_true_iff, Int64.not_le]
  exact insane

/-- Whatever the host clock says, the module works with a reading at or above
the floor. -/
theorem floor_le_nowUnix (sinceEpoch : Option UInt64) :
    clockSanityFloorUnix ≤ nowUnix sinceEpoch := by
  unfold nowUnix clockOrFailClosed isClockSane
  split
  · simp_all
  · decide

/-- The `exp` of a token that the top of the range does not expire. -/
def ReachesTop (claims : Value) : Prop :=
  ∃ number : Number, claims.get "exp" = some (.number number) ∧
    2 ^ 63 - 1 - 60 ≤ ⌊number.exact⌋

/-- An `nbf` that can be evaluated, or none. -/
def NbfReadable (claims : Value) : Prop :=
  claims.get "nbf" = none ∨ claims.get "nbf" = some .null ∨
    ∃ number : Number, claims.get "nbf" = some (.number number)

theorem accepts_top_iff :
    Accepts self claims Int64.maxValue ↔
      OtherChecks self claims ∧ ReachesTop claims ∧ NbfReadable claims := by
  have top : Int64.maxValue.toInt = 2 ^ 63 - 1 := by decide
  rw [accepts_iff, Window.checkExp_accepts_iff,
    Window.checkNbf_accepts_iff, top]
  have expSide : ∀ number : Number,
      (2 ^ 63 - 1 : ℤ) ≤ max (-2 ^ 63) (min ⌊number.exact⌋ (2 ^ 63 - 1)) + 60 ↔
        2 ^ 63 - 1 - 60 ≤ ⌊number.exact⌋ := by
    intro number
    omega
  -- no readable `nbf` is after the top
  have nbfSide : ∀ number : Number,
      max (-2 ^ 63) (min ⌈number.exact⌉ (2 ^ 63 - 1)) - 60 ≤
        (2 ^ 63 - 1 : ℤ) := by
    intro number
    omega
  simp only [expSide, nbfSide, and_true, ReachesTop, NbfReadable]

theorem rejects_iff {nowUnix : Int64} :
    (∃ e, self.validateClaims claims nowUnix = .error e) ↔
      ¬ Accepts self claims nowUnix := by
  unfold Accepts
  cases self.validateClaims claims nowUnix <;> simp

/-- An untrusted clock rejects exactly the claims objects that fail another
check or whose `exp` stays more than the skew below the top of the range. -/
theorem untrusted_clock_rejects_iff (self : OidcVerifier) (claims : Value)
    (t : Int64) (insane : t < clockSanityFloorUnix) :
    (∃ e, self.validateClaims claims (clockOrFailClosed t) = .error e) ↔
      ¬ OtherChecks self claims ∨ ¬ NbfReadable claims ∨
        ¬ ReachesTop claims := by
  rw [clockOrFailClosed_insane insane, rejects_iff, accepts_top_iff]
  tauto

theorem untrusted_clock_rejects_expired :
    ∃ e, Sample.apiVerifier.validateClaims
      (Sample.tokenClaims (.number (.posInt 1800000000))
        [("sub", .string "alice")]) (clockOrFailClosed 0) = .error e :=
  (untrusted_clock_rejects_iff _ _ 0 (by decide)).mpr (.inr (.inr (by
    intro given
    obtain ⟨number, found, reaches⟩ := given
    cases found
    revert reaches
    decide)))

/-- A token with `exp` at the top of the range authenticates at the epoch. -/
theorem untrusted_clock_accepts_top :
    ¬ ∀ (self : OidcVerifier) (claims : Value) (t : Int64),
      t < clockSanityFloorUnix →
      ∃ e, self.validateClaims claims (clockOrFailClosed t) = .error e := by
  intro closed
  obtain ⟨e, rejected⟩ := closed Sample.apiVerifier
    (Sample.tokenClaims (.number (.posInt 9223372036854775807))
      [("sub", .string "alice")]) 0 (by decide)
  have accepted : Accepts Sample.apiVerifier
      (Sample.tokenClaims (.number (.posInt 9223372036854775807))
        [("sub", .string "alice")]) (clockOrFailClosed 0) := ⟨_, rfl⟩
  exact rejects_iff.mp ⟨e, rejected⟩ accepted

end Clock

end AuthOidc
