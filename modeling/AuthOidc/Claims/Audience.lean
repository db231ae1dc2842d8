import AuthOidc.Claims.Identity

/-!
# The audience policy

The audience rule reads the entries of `aud` as a set, next to `azp`; the
other checks do not read `aud` at all.
-/

namespace AuthOidc

open Rust SerdeJson OidcVerifier

namespace Audience

variable {self : OidcVerifier} {claims left right : Value} {nowUnix : Int64}

/-- What every check but the one of the audience asks at a reading. -/
structure ChecksButAud (verifier : OidcVerifier) (claims : Value)
    (nowUnix : Int64) : Prop where
  iss : claims.get "iss" = some (.string verifier.issuer)
  exp : ∃ number : Number, claims.get "exp" = some (.number number) ∧
    nowUnix.toInt ≤ max (-2 ^ 63) (min ⌊number.exact⌋ (2 ^ 63 - 1)) + 60
  nbf : claims.get "nbf" = none ∨ claims.get "nbf" = some .null ∨
    ∃ number : Number, claims.get "nbf" = some (.number number) ∧
      max (-2 ^ 63) (min ⌈number.exact⌉ (2 ^ 63 - 1)) - 60 ≤ nowUnix.toInt
  overage : verifier.roleClaim = "groups" → ¬ OverageMarked claims
  subject : ∃ name ∈ ["oid", "sub"], ∃ text,
    claims.get name = some (.string text) ∧ Text.isBlank text = false

theorem accepts_iff_audOk :
    Accepts self claims nowUnix ↔
      ChecksButAud self claims nowUnix ∧ self.audOk claims = true := by
  rw [accepts_iff, Window.checkExp_accepts_iff, Window.checkNbf_accepts_iff,
    audOk_iff]
  constructor
  · rintro ⟨others, exp, nbf⟩
    exact ⟨⟨others.iss, exp, nbf, others.overage, others.subject⟩, others.aud⟩
  · rintro ⟨checks, aud⟩
    exact ⟨⟨checks.iss, aud, checks.overage, checks.subject⟩, checks.exp,
      checks.nbf⟩

theorem agreeExcept_symm {names : List String}
    (agree : AgreeExcept names left right) : AgreeExcept names right left :=
  fun name notNamed => (agree name notNamed).symm

theorem ChecksButAud.of_agreeExcept (agree : AgreeExcept ["aud"] left right)
    (checks : ChecksButAud self left nowUnix) :
    ChecksButAud self right nowUnix where
  iss := by
    rw [← agree "iss" (by decide)]
    exact checks.iss
  exp := by
    rw [← agree "exp" (by decide)]
    exact checks.exp
  nbf := by
    rw [← agree "nbf" (by decide)]
    exact checks.nbf
  overage := by
    unfold OverageMarked
    rw [← agree "_claim_names" (by decide),
      ← agree "_claim_sources" (by decide), ← agree "groups" (by decide)]
    exact checks.overage
  subject := by
    obtain ⟨name, named, text, found, notBlank⟩ := checks.subject
    have other : name ∉ ["aud"] := by
      intro member
      rw [List.mem_singleton.mp member] at named
      revert named
      decide
    exact ⟨name, named, text, (agree name other).symm.trans found, notBlank⟩

/-- Claims objects that differ in `aud` only: the verdict follows the audience
rule. -/
theorem accepts_of_audOk (agree : AgreeExcept ["aud"] left right)
    (rule : self.audOk left = true → self.audOk right = true)
    (accepted : Accepts self left nowUnix) : Accepts self right nowUnix := by
  obtain ⟨checks, aud⟩ := accepts_iff_audOk.mp accepted
  exact accepts_iff_audOk.mpr ⟨checks.of_agreeExcept agree, rule aud⟩

theorem audOk_array_iff {items : List Value}
    (found : claims.get "aud" = some (.array items)) :
    self.audOk claims = true ↔
      .string self.audience ∈ items ∧
        ((∀ item ∈ items, item = .string self.audience) ∨
          claims.get "azp" = some (.string self.audience)) := by
  rw [audOk_iff, found]
  simp

theorem audOk_string_iff {aud : String}
    (found : claims.get "aud" = some (.string aud)) :
    self.audOk claims = true ↔ aud = self.audience := by
  rw [audOk_iff, found]
  simp

/-- The rule reads the entries as a set. -/
theorem audOk_of_same_entries {items others : List Value}
    (agree : AgreeExcept ["aud"] left right)
    (leftAud : left.get "aud" = some (.array items))
    (rightAud : right.get "aud" = some (.array others))
    (same : ∀ item, item ∈ items ↔ item ∈ others) :
    self.audOk left = true → self.audOk right = true := by
  rw [audOk_array_iff leftAud, audOk_array_iff rightAud,
    agree "azp" (by decide)]
  simp only [same]
  exact id

/-- Dropping an entry that is not the trusted audience keeps acceptance. -/
theorem audOk_of_fewer_entries {front back : List Value} {item : Value}
    (agree : AgreeExcept ["aud"] left right)
    (leftAud : left.get "aud" = some (.array (front ++ item :: back)))
    (rightAud : right.get "aud" = some (.array (front ++ back)))
    (untrusted : item ≠ .string self.audience) :
    self.audOk left = true → self.audOk right = true := by
  rw [audOk_array_iff leftAud, audOk_array_iff rightAud,
    agree "azp" (by decide)]
  intro given
  obtain ⟨present, only⟩ := given
  constructor
  · simp only [List.mem_append, List.mem_cons] at present ⊢
    rcases present with inFront | equality | inBack
    · exact .inl inFront
    · exact absurd equality.symm untrusted
    · exact .inr inBack
  · rcases only with everyEntry | azp
    · exact absurd (everyEntry item (by simp)) untrusted
    · exact .inr azp

/-- The audience policy over every shape of `aud`, and what changing `aud`
alone does to the verdict. -/
theorem audience_policy (self : OidcVerifier) (nowUnix : Int64) :
    (∀ claims, ChecksButAud self claims nowUnix →
      (Accepts self claims nowUnix ↔
        claims.get "aud" = some (.string self.audience) ∨
          ∃ items, claims.get "aud" = some (.array items) ∧
            .string self.audience ∈ items ∧
            ((∀ item ∈ items, item = .string self.audience) ∨
              claims.get "azp" = some (.string self.audience)))) ∧
    (∀ left right items others, AgreeExcept ["aud"] left right →
      left.get "aud" = some (.array items) →
      right.get "aud" = some (.array others) →
      (∀ item, item ∈ items ↔ item ∈ others) →
      (Accepts self left nowUnix ↔ Accepts self right nowUnix)) ∧
    (∀ left right aud, AgreeExcept ["aud"] left right →
      left.get "aud" = some (.string aud) →
      right.get "aud" = some (.array [.string aud]) →
      (Accepts self left nowUnix ↔ Accepts self right nowUnix)) ∧
    (∀ left right front item back, AgreeExcept ["aud"] left right →
      left.get "aud" = some (.array (front ++ item :: back)) →
      right.get "aud" = some (.array (front ++ back)) →
      item ≠ .string self.audience →
      Accepts self left nowUnix → Accepts self right nowUnix) ∧
    (∀ claims, claims.get "azp" ≠ some (.string self.audience) →
      Accepts self claims nowUnix →
      (∀ aud, claims.get "aud" = some (.string aud) → aud = self.audience) ∧
      ∀ items, claims.get "aud" = some (.array items) →
        ∀ item ∈ items, item = .string self.audience) := by
  refine ⟨?_, ?_, ?_, ?_, ?_⟩
  · intro claims checks
    rw [accepts_iff_audOk, audOk_iff]
    simp only [checks, true_and]
  · intro left right items others agree leftAud rightAud same
    constructor
    · exact accepts_of_audOk agree
        (audOk_of_same_entries agree leftAud rightAud same)
    · exact accepts_of_audOk (agreeExcept_symm agree)
        (audOk_of_same_entries (agreeExcept_symm agree) rightAud leftAud
          fun item => (same item).symm)
  · intro left right aud agree leftAud rightAud
    have same : self.audOk left = true ↔ self.audOk right = true := by
      rw [audOk_string_iff leftAud, audOk_array_iff rightAud]
      simp only [List.mem_singleton, Value.string.injEq, forall_eq]
      constructor
      · intro trusted
        exact ⟨trusted.symm, .inl trusted⟩
      · intro given
        obtain ⟨trusted, _⟩ := given
        exact trusted.symm
    exact ⟨accepts_of_audOk agree same.mp,
      accepts_of_audOk (agreeExcept_symm agree) same.mpr⟩
  · intro left right front item back agree leftAud rightAud untrusted
    exact accepts_of_audOk agree
      (audOk_of_fewer_entries agree leftAud rightAud untrusted)
  · intro claims noAzp accepted
    obtain ⟨_, rule⟩ := accepts_iff_audOk.mp accepted
    constructor
    · intro aud found
      exact (audOk_string_iff found).mp rule
    · intro items found
      exact ((audOk_array_iff found).mp rule).2.resolve_right noAzp

end Audience

end AuthOidc
