import AuthOidc.SerdeJson
import AuthOidc.Rust.Text

/-!
# Claim policy

`OidcVerifier.validateClaims` checks a decoded claims object whose signature
has already been verified and builds the principal.  Each check of the source
is a definition of its own; `validateClaims_eq_ok_iff` is the one statement
later results use.
-/

namespace AuthOidc

open Rust SerdeJson

def defaultRoleClaim : String := "groups"

def clockSkewSecs : Int64 := 60

def maxCacheTtlSecs : Int64 := 300

/-- 2026-01-01T00:00:00Z. -/
def clockSanityFloorUnix : Int64 := 1767225600

/-- The fields of the contract's principal that the module sets. -/
structure Principal where
  id : String
  name : Option String
  roles : List String
  ttlSecs : Option UInt64
  deriving DecidableEq

structure OidcVerifier where
  issuer : String
  audience : String
  roleClaim : String

section Readers

/-- `as_numeric_date`: the integer fast path, else the float rounded by
`round` and cast. -/
def asNumericDate (value : Option Value) (round : ℚ → ℚ) : Option Int64 :=
  value.bind fun value =>
    match value.asI64 with
    | some integer => some integer
    | none => value.asF64.map fun float => F64.toI64 (round float)

def asNumericDateFloor (value : Option Value) : Option Int64 :=
  asNumericDate value F64.floor

def asNumericDateCeil (value : Option Value) : Option Int64 :=
  asNumericDate value F64.ceil

/-- A present string that is not blank. -/
def nonEmptyClaim (value : Option Value) : Option String :=
  (value.bind Value.asStr).filter fun text => !Text.isBlank text

/-- The string entries of an array, or one scalar string. -/
def extractStringList : Option Value → List String
  | some (.array items) => items.filterMap Value.asStr
  | some (.string text) => [text]
  | _ => []

/-- The Entra marker of a groups claim too large for the token. -/
def isGroupsOverage (claims : Value) : Bool :=
  let namesHasGroups :=
    ((claims.get "_claim_names").bind Value.asObject).any fun members =>
      (members.lookup "groups").isSome
  namesHasGroups ||
    ((claims.get "_claim_sources").isSome && (claims.get "groups").isNone &&
      (claims.get "_claim_names").isSome)

end Readers

namespace OidcVerifier

variable (self : OidcVerifier)

def checkIss (claims : Value) : Except String Unit :=
  match claims.getStr "iss" with
  | some iss =>
      if iss = self.issuer then .ok ()
      else .error
        s!"token issuer '{iss}' does not match the configured issuer"
  | none => .error "token has no 'iss' claim"

/-- The audience rule: the trusted audience alone, or next to others when
`azp` names it. -/
def audOk (claims : Value) : Bool :=
  let trusted := self.audience
  match claims.get "aud" with
  | some (.string aud) => aud == trusted
  | some (.array items) =>
      let trustedPresent := items.any fun item => item.asStr == some trusted
      let hasUntrustedExtra :=
        items.any fun item => item.asStr != some trusted
      if !trustedPresent then false
      else if hasUntrustedExtra then claims.getStr "azp" == some trusted
      else true
  | _ => false

def checkAud (claims : Value) : Except String Unit :=
  if self.audOk claims then .ok ()
  else .error ("token audience does not match the configured audience (or " ++
    "lists an untrusted additional audience without an azp naming the " ++
    "trusted client)")

def checkExp (claims : Value) (nowUnix : Int64) : Except String Int64 :=
  match asNumericDateFloor (claims.get "exp") with
  | some exp =>
      if nowUnix ≤ I64.saturatingAdd exp clockSkewSecs then .ok exp
      else .error "token has expired"
  | none => .error "token has no 'exp' claim"

def checkNbf (claims : Value) (nowUnix : Int64) : Except String Unit :=
  match claims.get "nbf" with
  | none => .ok ()
  | some .null => .ok ()
  | some raw =>
      match asNumericDateCeil (some raw) with
      | some nbf =>
          if nowUnix < I64.saturatingSub nbf clockSkewSecs then
            .error "token is not yet valid (nbf in the future)"
          else .ok ()
      | none =>
          .error ("token has an 'nbf' claim that is not a NumericDate; " ++
            "refusing to ignore a not-before constraint it cannot evaluate")

def checkOverage (claims : Value) : Except String Unit :=
  if self.roleClaim = defaultRoleClaim ∧ isGroupsOverage claims then
    .error ("token carries an Entra groups OVERAGE marker " ++
      "(_claim_names/_claim_sources): the user is in too many groups to " ++
      "fit the token, so the 'groups' claim was omitted. busbar does not " ++
      "call the Graph API to expand it. Switch this app to APP-ROLES and " ++
      "set role_claim: roles (app-role assignments are bounded and ride " ++
      "in the token), or reduce the user's group count.")
  else .ok ()

/-- The identity anchor: `oid`, else `sub`. -/
def readSubject (claims : Value) : Except String String :=
  match (nonEmptyClaim (claims.get "oid")).or
      (nonEmptyClaim (claims.get "sub")) with
  | some subject => .ok subject
  | none =>
      .error ("token has no non-empty 'oid' or 'sub' claim (both are absent " ++
        "or blank, so no IMMUTABLE identifier is available); refusing to " ++
        "derive identity from a mutable claim like " ++
        "preferred_username/upn/email or from an empty subject — this IdP " ++
        "is not OIDC Core 1.0 compliant (sub is a REQUIRED, non-empty claim)")

def displayName (claims : Value) : Option String :=
  (claims.getStr "name").or <|
    (claims.getStr "preferred_username").or <|
      (claims.getStr "upn").or (claims.getStr "email")

/-- The credential-cache lifetime: what is left of `exp`, at most the
ceiling. -/
def ttl (exp nowUnix : Int64) : UInt64 :=
  (I64.clamp (I64.saturatingSub exp nowUnix) 0 maxCacheTtlSecs).toUInt64

def validateClaims (claims : Value) (nowUnix : Int64) :
    Except String Principal := do
  self.checkIss claims
  self.checkAud claims
  let exp ← checkExp claims nowUnix
  checkNbf claims nowUnix
  self.checkOverage claims
  let roles := extractStringList (claims.get self.roleClaim)
  let subject ← readSubject claims
  return {
    id := "oidc:" ++ subject
    name := displayName claims
    roles
    ttlSecs := some (ttl exp nowUnix) }

end OidcVerifier

theorem Except.bind_eq_ok_iff {ε α β : Type} {first : Except ε α}
    {next : α → Except ε β} {result : β} :
    (first >>= next) = .ok result ↔
      ∃ value, first = .ok value ∧ next value = .ok result := by
  cases first with
  | error error => simp [bind, Except.bind]
  | ok value => simp [bind, Except.bind]

namespace OidcVerifier

variable {self : OidcVerifier} {claims : Value} {nowUnix : Int64}

/-- Acceptance, check by check. -/
theorem validateClaims_eq_ok_iff {principal : Principal} :
    self.validateClaims claims nowUnix = .ok principal ↔
      self.checkIss claims = .ok () ∧ self.checkAud claims = .ok () ∧
        ∃ exp, checkExp claims nowUnix = .ok exp ∧
          checkNbf claims nowUnix = .ok () ∧
          self.checkOverage claims = .ok () ∧
          ∃ subject, readSubject claims = .ok subject ∧
            principal =
              { id := "oidc:" ++ subject
                name := displayName claims
                roles := extractStringList (claims.get self.roleClaim)
                ttlSecs := some (ttl exp nowUnix) } := by
  unfold validateClaims
  simp only [Except.bind_eq_ok_iff]
  constructor
  · rintro ⟨⟨⟩, iss, ⟨⟩, aud, exp, expOk, ⟨⟩, nbf, ⟨⟩, overage, subject,
      subjectOk, built⟩
    cases built
    exact ⟨iss, aud, exp, expOk, nbf, overage, subject, subjectOk, rfl⟩
  · rintro ⟨iss, aud, exp, expOk, nbf, overage, subject, subjectOk, rfl⟩
    exact ⟨(), iss, (), aud, exp, expOk, (), nbf, (), overage, subject,
      subjectOk, rfl⟩

theorem checkAud_eq_ok_iff :
    self.checkAud claims = .ok () ↔ self.audOk claims = true := by
  unfold checkAud
  split <;> simp_all

/-- The audience rule over every shape of `aud`. -/
theorem audOk_iff :
    self.audOk claims = true ↔
      claims.get "aud" = some (.string self.audience) ∨
        ∃ items, claims.get "aud" = some (.array items) ∧
          .string self.audience ∈ items ∧
          ((∀ item ∈ items, item = .string self.audience) ∨
            claims.get "azp" = some (.string self.audience)) := by
  unfold audOk
  cases claims.get "aud" with
  | none => simp
  | some aud =>
      cases aud with
      | array items =>
          have trustedPresent :
              (items.any fun item => item.asStr == some self.audience) =
                true ↔ .string self.audience ∈ items := by
            simp
          have onlyTrusted :
              (items.any fun item => item.asStr != some self.audience) =
                false ↔ ∀ item ∈ items, item = .string self.audience := by
            simp
          simp only [← trustedPresent, ← onlyTrusted, Option.some.injEq,
            Value.array.injEq, reduceCtorEq, false_or, exists_eq_left']
          cases items.any fun item => item.asStr == some self.audience with
          | false => simp
          | true =>
              cases items.any fun item =>
                item.asStr != some self.audience <;> simp
      | _ => simp

-- an `azp` that names the extra audience does not help
example : (OidcVerifier.mk "https://idp" "api" "groups").audOk
    (.object [("aud", .array [.string "api", .string "other"]),
      ("azp", .string "other")]) = false := by
  decide

theorem checkExp_eq_ok_iff {exp : Int64} :
    checkExp claims nowUnix = .ok exp ↔
      asNumericDateFloor (claims.get "exp") = some exp ∧
        nowUnix ≤ I64.saturatingAdd exp clockSkewSecs := by
  unfold checkExp
  cases read : asNumericDateFloor (claims.get "exp") with
  | none => simp
  | some value =>
      by_cases inTime : nowUnix ≤ I64.saturatingAdd value clockSkewSecs
      · simp only [if_pos inTime, Except.ok.injEq, Option.some.injEq]
        constructor
        · intro equal
          subst equal
          exact ⟨rfl, inTime⟩
        · exact And.left
      · simp only [if_neg inTime, reduceCtorEq, Option.some.injEq, false_iff,
          not_and]
        intro equal
        subst equal
        exact inTime

end OidcVerifier

section Reads

/-! Each check reads its own members only. -/

variable {self : OidcVerifier} {left right : Value} {nowUnix : Int64}

namespace OidcVerifier

theorem checkIss_congr (iss : left.get "iss" = right.get "iss") :
    self.checkIss left = self.checkIss right := by
  unfold checkIss Value.getStr
  rw [iss]

theorem checkAud_congr (aud : left.get "aud" = right.get "aud")
    (azp : left.get "azp" = right.get "azp") :
    self.checkAud left = self.checkAud right := by
  unfold checkAud audOk Value.getStr
  rw [aud, azp]

theorem checkExp_congr (exp : left.get "exp" = right.get "exp") :
    checkExp left nowUnix = checkExp right nowUnix := by
  unfold checkExp
  rw [exp]

theorem checkNbf_congr (nbf : left.get "nbf" = right.get "nbf") :
    checkNbf left nowUnix = checkNbf right nowUnix := by
  unfold checkNbf
  rw [nbf]

theorem readSubject_congr (oid : left.get "oid" = right.get "oid")
    (sub : left.get "sub" = right.get "sub") :
    readSubject left = readSubject right := by
  unfold readSubject
  rw [oid, sub]

theorem displayName_congr (name : left.get "name" = right.get "name")
    (preferred : left.get "preferred_username" =
      right.get "preferred_username")
    (upn : left.get "upn" = right.get "upn")
    (email : left.get "email" = right.get "email") :
    displayName left = displayName right := by
  unfold displayName Value.getStr
  rw [name, preferred, upn, email]

end OidcVerifier

end Reads

section NumericDates

theorem toInt_toInt64 {value : UInt64} (small : value.toNat < 2 ^ 63) :
    value.toInt64.toInt = (value.toNat : Int) := by
  change value.toBitVec.toInt = _
  rw [BitVec.toInt_eq_toNat_of_lt]
  · rfl
  · change 2 * value.toNat < 2 ^ 64
    omega

/-- Only a JSON number reads as a date. -/
theorem asNumericDate_eq_some {value : Option Value} {round : ℚ → ℚ}
    {date : Int64} (converted : asNumericDate value round = some date) :
    ∃ number, value = some (.number number) ∧
      date = match number.asI64 with
        | some integer => integer
        | none => F64.toI64 (round number.asF64) := by
  cases value with
  | none => simp [asNumericDate] at converted
  | some present =>
      cases present with
      | number number =>
          refine ⟨number, rfl, ?_⟩
          simp only [asNumericDate, Option.bind_some, Value.asI64,
            Value.asF64, Option.map_some] at converted
          cases integer : number.asI64 <;> simp_all
      | _ => simp [asNumericDate, Value.asI64, Value.asF64] at converted

/-- A number always reads as a date. -/
theorem asNumericDate_number (number : Number) (round : ℚ → ℚ) :
    ∃ date, asNumericDate (some (.number number)) round = some date := by
  cases integer : number.asI64 with
  | some date => exact ⟨date, by simp [asNumericDate, Value.asI64, integer]⟩
  | none =>
      exact ⟨F64.toI64 (round number.asF64), by
        simp [asNumericDate, Value.asI64, Value.asF64, integer]⟩

/-- Reading a date by a monotone rounding that keeps the integers: the rounded
exact value, clamped to the `i64` range. -/
theorem asNumericDate_exact {round : ℚ → ℚ} {whole : ℚ → ℤ}
    (monotone : ∀ low high, low ≤ high → whole low ≤ whole high)
    (keeps : ∀ integer : ℤ, whole integer = integer)
    (cast : ∀ value, (F64.toI64 (round value)).toInt =
      max (-2 ^ 63) (min (whole value) (2 ^ 63 - 1)))
    {value : Option Value} {date : Int64}
    (converted : asNumericDate value round = some date) :
    ∃ number, value = some (.number number) ∧
      date.toInt = max (-2 ^ 63) (min (whole number.exact) (2 ^ 63 - 1)) := by
  obtain ⟨number, rfl, dateEq⟩ := asNumericDate_eq_some converted
  refine ⟨number, rfl, ?_⟩
  subst dateEq
  cases number with
  | posInt integer =>
      have kept : whole (integer.toNat : ℚ) = (integer.toNat : ℤ) := by
        exact_mod_cast keeps (integer.toNat : ℤ)
      by_cases small : integer.toNat < 2 ^ 63
      · simp only [Number.asI64, if_pos small, toInt_toInt64 small,
          Number.exact, kept]
        omega
      · have bound := integer.toNat_lt
        have rounded : (2 ^ 63 : ℤ) ≤ whole (F64.ofU64 integer) := by
          rw [← keeps (2 ^ 63)]
          apply monotone _ _
          exact_mod_cast F64.le_ofU64 (Nat.le_of_not_lt small)
        simp only [Number.asI64, if_neg small, Number.asF64, cast,
          Number.exact, kept]
        omega
  | negInt integer =>
      have low := integer.le_toInt
      have high := integer.toInt_lt
      simp only [Number.asI64, Number.exact, keeps]
      omega
  | float float => exact cast float

/-- Reading a date down: the integer part of the exact value, clamped to the
`i64` range. -/
theorem asNumericDateFloor_eq_some {value : Option Value} {date : Int64}
    (converted : asNumericDateFloor value = some date) :
    ∃ number, value = some (.number number) ∧
      date.toInt = max (-2 ^ 63) (min ⌊number.exact⌋ (2 ^ 63 - 1)) :=
  asNumericDate_exact (fun _ _ ordered => Int.floor_mono ordered)
    Int.floor_intCast F64.toInt_toI64_floor converted

/-- Reading a date up. -/
theorem asNumericDateCeil_eq_some {value : Option Value} {date : Int64}
    (converted : asNumericDateCeil value = some date) :
    ∃ number, value = some (.number number) ∧
      date.toInt = max (-2 ^ 63) (min ⌈number.exact⌉ (2 ^ 63 - 1)) :=
  asNumericDate_exact (fun _ _ ordered => Int.ceil_mono ordered)
    Int.ceil_intCast F64.toInt_toI64_ceil converted

end NumericDates

end AuthOidc
