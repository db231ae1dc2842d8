import AuthOidc.Claims.Checks

/-!
# The validity window

The two time checks in exact arithmetic.  At any `i64` reading they compare it
with the rounded dates, clamped to the `i64` range; between the sanity floor
and the top of the range the clamps do not show.
-/

namespace AuthOidc

open Rust SerdeJson OidcVerifier

namespace Sample

def apiVerifier : OidcVerifier := ⟨"https://idp", "api", "groups"⟩

/-- Claims for `apiVerifier` with the given `exp` and further members. -/
def tokenClaims (exp : Value) (more : List (String × Value)) : Value :=
  .object ([("iss", .string "https://idp"), ("aud", .string "api"),
    ("exp", exp)] ++ more)

end Sample

namespace Window

variable {self : OidcVerifier} {claims : Value} {nowUnix : Int64}

theorem toInt_saturatingSub_skew (nbf : Int64) :
    (I64.saturatingSub nbf clockSkewSecs).toInt =
      max (nbf.toInt - 60) (-2 ^ 63) := by
  have skew : clockSkewSecs.toInt = 60 := by decide
  have high := nbf.toInt_lt
  rw [I64.saturatingSub, I64.toInt_ofIntClamp, skew]
  omega

/-- `exp` at any reading. -/
theorem checkExp_accepts_iff :
    (∃ exp, checkExp claims nowUnix = .ok exp) ↔
      ∃ number : Number, claims.get "exp" = some (.number number) ∧
        nowUnix.toInt ≤
          max (-2 ^ 63) (min ⌊number.exact⌋ (2 ^ 63 - 1)) + 60 := by
  have high := nowUnix.toInt_lt
  constructor
  · intro allowed
    obtain ⟨exp, expOk⟩ := allowed
    obtain ⟨converted, inTime⟩ := checkExp_eq_ok_iff.mp expOk
    obtain ⟨number, found, dateEq⟩ := asNumericDateFloor_eq_some converted
    rw [Int64.le_iff_toInt_le, Replay.toInt_saturatingAdd_skew] at inTime
    exact ⟨number, found, by omega⟩
  · intro allowed
    obtain ⟨number, found, inTime⟩ := allowed
    obtain ⟨exp, converted⟩ := asNumericDate_number number F64.floor
    obtain ⟨same, sameEq, dateEq⟩ := asNumericDateFloor_eq_some converted
    cases sameEq
    refine ⟨exp, checkExp_eq_ok_iff.mpr ⟨by rw [found]; exact converted, ?_⟩⟩
    rw [Int64.le_iff_toInt_le, Replay.toInt_saturatingAdd_skew]
    omega

theorem checkNbf_present {raw : Value}
    (found : claims.get "nbf" = some raw) (notNull : raw ≠ .null) :
    checkNbf claims nowUnix = .ok () ↔
      ∃ nbf, asNumericDateCeil (some raw) = some nbf ∧
        I64.saturatingSub nbf clockSkewSecs ≤ nowUnix := by
  unfold checkNbf
  rw [found]
  cases converted : asNumericDateCeil (some raw) with
  | none => cases raw <;> simp_all
  | some nbf => cases raw <;> simp_all

/-- `nbf` at any reading. -/
theorem checkNbf_accepts_iff :
    checkNbf claims nowUnix = .ok () ↔
      claims.get "nbf" = none ∨ claims.get "nbf" = some .null ∨
        ∃ number : Number, claims.get "nbf" = some (.number number) ∧
          max (-2 ^ 63) (min ⌈number.exact⌉ (2 ^ 63 - 1)) - 60 ≤
            nowUnix.toInt := by
  have low := nowUnix.le_toInt
  cases found : claims.get "nbf" with
  | none => simp [checkNbf, found]
  | some raw =>
      by_cases null : raw = .null
      · simp [checkNbf, found, null]
      · rw [checkNbf_present found null]
        simp only [Int64.le_iff_toInt_le, toInt_saturatingSub_skew,
          reduceCtorEq, Option.some.injEq, null, false_or]
        constructor
        · intro allowed
          obtain ⟨nbf, converted, inTime⟩ := allowed
          obtain ⟨number, same, dateEq⟩ :=
            asNumericDateCeil_eq_some converted
          exact ⟨number, Option.some.inj same, by omega⟩
        · intro allowed
          obtain ⟨number, rfl, inTime⟩ := allowed
          obtain ⟨nbf, converted⟩ := asNumericDate_number number F64.ceil
          obtain ⟨same, sameEq, dateEq⟩ :=
            asNumericDateCeil_eq_some converted
          cases sameEq
          exact ⟨nbf, converted, by omega⟩

/-- `exp` between the sanity floor and the top of the range. -/
def ExpAllows (claims : Value) (nowUnix : Int64) : Prop :=
  ∃ number : Number, claims.get "exp" = some (.number number) ∧
    nowUnix.toInt ≤ ⌊number.exact⌋ + 60

def NbfAllows (claims : Value) (nowUnix : Int64) : Prop :=
  claims.get "nbf" = none ∨ claims.get "nbf" = some .null ∨
    ∃ number : Number, claims.get "nbf" = some (.number number) ∧
      ⌈number.exact⌉ - 60 ≤ nowUnix.toInt

theorem sane_bounds (sane : Replay.Sane nowUnix) :
    0 ≤ nowUnix.toInt ∧ nowUnix.toInt < 2 ^ 63 - 1 - 60 := by
  have floor : clockSanityFloorUnix.toInt = 1767225600 := by decide
  obtain ⟨above, below⟩ := sane
  constructor <;> omega

theorem accepts_iff_of_sane (sane : Replay.Sane nowUnix) :
    Accepts self claims nowUnix ↔
      OtherChecks self claims ∧ ExpAllows claims nowUnix ∧
        NbfAllows claims nowUnix := by
  obtain ⟨above, below⟩ := sane_bounds sane
  rw [accepts_iff, checkExp_accepts_iff, checkNbf_accepts_iff]
  have expSide : ∀ number : Number,
      nowUnix.toInt ≤ max (-2 ^ 63) (min ⌊number.exact⌋ (2 ^ 63 - 1)) + 60 ↔
        nowUnix.toInt ≤ ⌊number.exact⌋ + 60 := by
    intro number
    omega
  have nbfSide : ∀ number : Number,
      max (-2 ^ 63) (min ⌈number.exact⌉ (2 ^ 63 - 1)) - 60 ≤ nowUnix.toInt ↔
        ⌈number.exact⌉ - 60 ≤ nowUnix.toInt := by
    intro number
    omega
  simp only [expSide, nbfSide, ExpAllows, NbfAllows]

/-- Acceptance keeps inside the real dates. -/
theorem real_bounds (sane : Replay.Sane nowUnix)
    (accepted : Accepts self claims nowUnix) :
    (∃ number : Number, claims.get "exp" = some (.number number) ∧
      (nowUnix.toInt : ℚ) ≤ number.exact + 60) ∧
    ∀ number : Number, claims.get "nbf" = some (.number number) →
      number.exact - 60 ≤ (nowUnix.toInt : ℚ) := by
  obtain ⟨principal, validated⟩ := accepted
  constructor
  · exact Replay.accepted_within_skew sane validated
  · intro number found
    have allowed := ((accepts_iff_of_sane sane).mp ⟨_, validated⟩).2.2
    simp only [NbfAllows, found, reduceCtorEq, Option.some.injEq,
      Value.number.injEq, exists_eq_left', false_or] at allowed
    have rounded : number.exact ≤ (⌈number.exact⌉ : ℚ) := Int.le_ceil _
    have inTime : ((⌈number.exact⌉ - 60 : ℤ) : ℚ) ≤ (nowUnix.toInt : ℚ) := by
      exact_mod_cast allowed
    push_cast at inTime
    linarith

/-- The accepting readings form one interval of the whole `i64` range. -/
theorem accepts_between {early late : Int64}
    (atEarly : Accepts self claims early) (atLate : Accepts self claims late)
    (afterEarly : early ≤ nowUnix) (beforeLate : nowUnix ≤ late) :
    Accepts self claims nowUnix := by
  rw [Int64.le_iff_toInt_le] at afterEarly beforeLate
  rw [accepts_iff, checkExp_accepts_iff, checkNbf_accepts_iff] at *
  obtain ⟨others, _, nbf⟩ := atEarly
  obtain ⟨_, ⟨number, found, inTime⟩, _⟩ := atLate
  refine ⟨others, ⟨number, found, by omega⟩, ?_⟩
  rcases nbf with absent | null | ⟨date, dateFound, dateInTime⟩
  · exact .inl absent
  · exact .inr (.inl null)
  · exact .inr (.inr ⟨date, dateFound, by omega⟩)

/-- Two acceptances of one claims object differ in the lifetime only, and the
later one has no more of it. -/
theorem principals_differ_in_ttl {early late : Int64}
    {first second : Principal}
    (atEarly : self.validateClaims claims early = .ok first)
    (atLate : self.validateClaims claims late = .ok second)
    (ordered : early ≤ late) :
    ∃ before after : UInt64, first.ttlSecs = some before ∧
      second = { first with ttlSecs := some after } ∧ after ≤ before := by
  obtain ⟨_, _, exp, expOk, _, _, subject, subjectOk, rfl⟩ :=
    validateClaims_eq_ok_iff.mp atEarly
  obtain ⟨_, _, sameExp, sameExpOk, _, _, sameSubject, sameSubjectOk, rfl⟩ :=
    validateClaims_eq_ok_iff.mp atLate
  have converted := (checkExp_eq_ok_iff.mp expOk).1
  rw [(checkExp_eq_ok_iff.mp sameExpOk).1] at converted
  cases converted
  rw [subjectOk] at sameSubjectOk
  cases sameSubjectOk
  refine ⟨ttl exp early, ttl exp late, rfl, rfl, ?_⟩
  have before := Replay.toNat_ttl exp early
  have after := Replay.toNat_ttl exp late
  rw [Int64.le_iff_toInt_le] at ordered
  rw [UInt64.le_iff_toNat_le]
  omega

/-- The validity window of one claims object: acceptance at the sane readings
in exact terms, its real bounds, the exact value of each arithmetic step, and
what a later acceptance changes. -/
theorem validity_window (self : OidcVerifier) (claims : Value)
    (others : OtherChecks self claims) :
    (∀ nowUnix, Replay.Sane nowUnix →
      (Accepts self claims nowUnix ↔
        ExpAllows claims nowUnix ∧ NbfAllows claims nowUnix)) ∧
    (∀ nowUnix, Replay.Sane nowUnix → Accepts self claims nowUnix →
      (∃ number : Number, claims.get "exp" = some (.number number) ∧
        (nowUnix.toInt : ℚ) ≤ number.exact + 60) ∧
      ∀ number : Number, claims.get "nbf" = some (.number number) →
        number.exact - 60 ≤ (nowUnix.toInt : ℚ)) ∧
    (∀ date nowUnix : Int64,
      (I64.saturatingAdd date clockSkewSecs).toInt =
        min (date.toInt + 60) (2 ^ 63 - 1) ∧
      (I64.saturatingSub date clockSkewSecs).toInt =
        max (date.toInt - 60) (-2 ^ 63) ∧
      ((ttl date nowUnix).toNat : Int) =
        max 0 (min (date.toInt - nowUnix.toInt) 300)) ∧
    (∀ early nowUnix late, Accepts self claims early →
      Accepts self claims late → early ≤ nowUnix → nowUnix ≤ late →
      Accepts self claims nowUnix) ∧
    ∀ early late first second, early ≤ late →
      self.validateClaims claims early = .ok first →
      self.validateClaims claims late = .ok second →
      ∃ before after : UInt64, first.ttlSecs = some before ∧
        second = { first with ttlSecs := some after } ∧ after ≤ before := by
  refine ⟨?_, ?_, ?_, ?_, ?_⟩
  · intro nowUnix sane
    simp only [accepts_iff_of_sane sane, others, true_and]
  · intro nowUnix sane accepted
    exact real_bounds sane accepted
  · intro date nowUnix
    exact ⟨Replay.toInt_saturatingAdd_skew date, toInt_saturatingSub_skew date,
      Replay.toNat_ttl date nowUnix⟩
  · intro early nowUnix late atEarly atLate afterEarly beforeLate
    exact accepts_between atEarly atLate afterEarly beforeLate
  · intro early late first second ordered atEarly atLate
    exact principals_differ_in_ttl atEarly atLate ordered

end Window

theorem Sample.otherChecks_alice {exp : Value} :
    OtherChecks apiVerifier (tokenClaims exp [("sub", .string "alice")]) where
  iss := rfl
  aud := .inl rfl
  overage := by
    intro _ marked
    rw [← isGroupsOverage_iff] at marked
    cases marked
  subject := ⟨"sub", by decide, "alice", rfl, by decide⟩

namespace Window

theorem validity_window_fractional :
    Accepts Sample.apiVerifier
      (Sample.tokenClaims (.number (.float (3600000001 / 2)))
        [("sub", .string "alice")]) 1800000060 ∧
    ¬ Accepts Sample.apiVerifier
      (Sample.tokenClaims (.number (.float (3600000001 / 2)))
        [("sub", .string "alice")]) 1800000061 := by
  have window := (validity_window Sample.apiVerifier
    (Sample.tokenClaims (.number (.float (3600000001 / 2)))
      [("sub", .string "alice")]) Sample.otherChecks_alice).1
  have floor : ⌊(3600000001 / 2 : ℚ)⌋ = 1800000000 := by norm_num
  constructor
  · rw [window _ (by constructor <;> decide)]
    refine ⟨⟨.float (3600000001 / 2), rfl, ?_⟩, .inl rfl⟩
    rw [Number.exact, floor]
    decide
  · rw [window _ (by constructor <;> decide)]
    intro allowed
    obtain ⟨⟨number, found, inTime⟩, _⟩ := allowed
    cases found
    rw [Number.exact, floor] at inTime
    revert inTime
    decide

end Window

end AuthOidc
