import AuthOidc.Claims.Replay

/-!
# What the checks ask of a claims object

The checks that do not read the clock, each as a property of the members of
the claims object, and together as the part of acceptance that time does not
change.
-/

namespace AuthOidc

open Rust SerdeJson

/-- The Entra marker, spelled out: names with a `groups` member, or names and
sources without a `groups` claim. -/
def OverageMarked (claims : Value) : Prop :=
  (∃ names, claims.get "_claim_names" = some names ∧
    (names.get "groups").isSome) ∨
  ((claims.get "_claim_names").isSome ∧ (claims.get "_claim_sources").isSome ∧
    claims.get "groups" = none)

/-- What these checks ask: the issuer of the verifier; its audience, alone or
next to others with an `azp` that names it; no overage marker where roles are
read from `groups`; an `oid` or a `sub` that is not blank. -/
structure OtherChecks (verifier : OidcVerifier) (claims : Value) : Prop where
  iss : claims.get "iss" = some (.string verifier.issuer)
  aud : claims.get "aud" = some (.string verifier.audience) ∨
    ∃ items, claims.get "aud" = some (.array items) ∧
      .string verifier.audience ∈ items ∧
      ((∀ item ∈ items, item = .string verifier.audience) ∨
        claims.get "azp" = some (.string verifier.audience))
  overage : verifier.roleClaim = "groups" → ¬ OverageMarked claims
  subject : ∃ name ∈ ["oid", "sub"], ∃ text,
    claims.get name = some (.string text) ∧ Text.isBlank text = false

/-- The claims object is accepted at this reading. -/
def Accepts (self : OidcVerifier) (claims : Value) (nowUnix : Int64) : Prop :=
  ∃ principal, self.validateClaims claims nowUnix = .ok principal

theorem nonEmptyClaim_eq_some_iff {value : Option Value} {text : String} :
    nonEmptyClaim value = some text ↔
      value = some (.string text) ∧ Text.isBlank text = false := by
  unfold nonEmptyClaim
  rw [Option.filter_eq_some_iff, Option.bind_eq_some_iff]
  constructor
  · rintro ⟨⟨present, rfl, isText⟩, kept⟩
    exact ⟨by rw [Value.asStr_eq_some_iff.mp isText], by simpa using kept⟩
  · rintro ⟨rfl, kept⟩
    exact ⟨⟨_, rfl, rfl⟩, by simpa using kept⟩

theorem isGroupsOverage_iff {claims : Value} :
    isGroupsOverage claims = true ↔ OverageMarked claims := by
  unfold isGroupsOverage OverageMarked
  cases claims.get "_claim_names" with
  | none => simp
  | some names =>
      cases claims.get "_claim_sources" <;> cases claims.get "groups" <;>
        cases names <;> simp [Value.asObject, Value.get]

/-- A check that fails on a condition, whatever its text. -/
theorem guard_eq_ok_iff {condition : Prop} [Decidable condition]
    {e : String} :
    (if condition then .error e else .ok () : Except String Unit) = .ok () ↔
      ¬ condition := by
  by_cases holds : condition <;> simp [holds]

namespace OidcVerifier

variable {self : OidcVerifier} {claims : Value} {nowUnix : Int64}

theorem checkIss_eq_ok_iff :
    self.checkIss claims = .ok () ↔
      claims.get "iss" = some (.string self.issuer) := by
  rw [← Value.getStr_eq_some_iff]
  unfold checkIss
  cases claims.getStr "iss" with
  | none => simp
  | some iss =>
      by_cases same : iss = self.issuer <;> simp [same]

theorem checkOverage_eq_ok_iff :
    self.checkOverage claims = .ok () ↔
      (self.roleClaim = "groups" → ¬ OverageMarked claims) := by
  rw [← isGroupsOverage_iff, ← not_and]
  exact guard_eq_ok_iff

theorem exists_readSubject_iff :
    (∃ subject, readSubject claims = .ok subject) ↔
      ∃ name ∈ ["oid", "sub"], ∃ text,
        claims.get name = some (.string text) ∧
          Text.isBlank text = false := by
  simp only [List.mem_cons, List.not_mem_nil, or_false, exists_eq_or_imp,
    exists_eq_left, ← nonEmptyClaim_eq_some_iff]
  rw [← Option.isSome_iff_exists, ← Option.isSome_iff_exists,
    ← Bool.or_eq_true, ← Option.isSome_or]
  unfold readSubject
  cases (nonEmptyClaim (claims.get "oid")).or
    (nonEmptyClaim (claims.get "sub")) with
  | some subject => exact ⟨fun _ => rfl, fun _ => ⟨subject, rfl⟩⟩
  | none =>
      constructor
      · rintro ⟨_, read⟩
        cases read
      · intro found
        cases found

end OidcVerifier

open OidcVerifier

variable {self : OidcVerifier} {claims : Value} {nowUnix : Int64}

theorem otherChecks_iff :
    OtherChecks self claims ↔
      self.checkIss claims = .ok () ∧ self.checkAud claims = .ok () ∧
        self.checkOverage claims = .ok () ∧
        ∃ subject, readSubject claims = .ok subject := by
  rw [checkIss_eq_ok_iff, checkAud_eq_ok_iff, audOk_iff,
    checkOverage_eq_ok_iff, exists_readSubject_iff]
  constructor
  · rintro ⟨iss, aud, overage, subject⟩
    exact ⟨iss, aud, overage, subject⟩
  · rintro ⟨iss, aud, overage, subject⟩
    exact ⟨iss, aud, overage, subject⟩

/-- Acceptance at any reading: the checks that do not read the clock, and the
two that do. -/
theorem accepts_iff :
    Accepts self claims nowUnix ↔
      OtherChecks self claims ∧
        (∃ exp, checkExp claims nowUnix = .ok exp) ∧
        checkNbf claims nowUnix = .ok () := by
  rw [otherChecks_iff]
  simp only [Accepts, validateClaims_eq_ok_iff]
  constructor
  · rintro ⟨_, iss, aud, exp, expOk, nbf, overage, subject, subjectOk, _⟩
    exact ⟨⟨iss, aud, overage, subject, subjectOk⟩, ⟨exp, expOk⟩, nbf⟩
  · rintro ⟨⟨iss, aud, overage, subject, subjectOk⟩, ⟨exp, expOk⟩, nbf⟩
    exact ⟨_, iss, aud, exp, expOk, nbf, overage, subject, subjectOk, rfl⟩

end AuthOidc
