import AuthOidc.Claims.Window

/-!
# Identity and roles

What an accepted principal depends on.  Its id comes from the anchor alone and
its roles from the role claim alone; the overage marker matters only to a
verifier that reads roles from `groups`.
-/

namespace AuthOidc

open Rust SerdeJson OidcVerifier

/-- Two claims objects that may differ in the named members only. -/
def AgreeExcept (names : List String) (left right : Value) : Prop :=
  ∀ name, name ∉ names → left.get name = right.get name

namespace Identity

variable {self : OidcVerifier} {claims left right : Value}
  {nowUnix early late : Int64} {principal first second : Principal}

/-- The anchor of a claims object: the non-blank `oid`, else the non-blank
`sub`. -/
def anchor (claims : Value) : Option String :=
  (nonEmptyClaim (claims.get "oid")).or (nonEmptyClaim (claims.get "sub"))

theorem readSubject_eq_ok_iff {subject : String} :
    readSubject claims = .ok subject ↔ anchor claims = some subject := by
  unfold readSubject anchor
  cases (nonEmptyClaim (claims.get "oid")).or
    (nonEmptyClaim (claims.get "sub")) with
  | some found =>
      dsimp only
      rw [Except.ok.injEq, Option.some.injEq]
  | none =>
      constructor
      · intro read
        cases read
      · intro found
        cases found

theorem id_of_accepted
    (accepted : self.validateClaims claims nowUnix = .ok principal) :
    ∃ subject, anchor claims = some subject ∧
      principal.id = "oidc:" ++ subject := by
  obtain ⟨_, _, _, _, _, _, subject, subjectOk, rfl⟩ :=
    validateClaims_eq_ok_iff.mp accepted
  exact ⟨subject, readSubject_eq_ok_iff.mp subjectOk, rfl⟩

theorem roles_of_accepted
    (accepted : self.validateClaims claims nowUnix = .ok principal) :
    principal.roles = extractStringList (claims.get self.roleClaim) := by
  obtain ⟨_, _, _, _, _, _, _, _, rfl⟩ :=
    validateClaims_eq_ok_iff.mp accepted
  rfl

theorem id_eq_iff_anchor_eq
    (leftAccepted : self.validateClaims left early = .ok first)
    (rightAccepted : self.validateClaims right late = .ok second) :
    first.id = second.id ↔ anchor left = anchor right := by
  obtain ⟨leftSubject, leftAnchor, leftId⟩ := id_of_accepted leftAccepted
  obtain ⟨rightSubject, rightAnchor, rightId⟩ := id_of_accepted rightAccepted
  rw [leftId, rightId, leftAnchor, rightAnchor, Option.some.injEq,
    String.append_right_inj]

theorem not_overage_of_accepted (fromGroups : self.roleClaim = "groups")
    (accepted : self.validateClaims claims nowUnix = .ok principal) :
    ¬ OverageMarked claims := by
  obtain ⟨_, _, _, _, _, overage, _⟩ := validateClaims_eq_ok_iff.mp accepted
  exact checkOverage_eq_ok_iff.mp overage fromGroups

/-- A verifier that reads its roles elsewhere does not see the three members
of the marker. -/
theorem validateClaims_eq_of_agreeExcept_marker
    (elsewhere : self.roleClaim ∉ ["groups", "_claim_names", "_claim_sources"])
    (agree : AgreeExcept ["groups", "_claim_names", "_claim_sources"]
      left right) :
    self.validateClaims left nowUnix = self.validateClaims right nowUnix := by
  have notGroups : self.roleClaim ≠ "groups" := by
    intro equality
    simp [equality] at elsewhere
  have leftOverage : self.checkOverage left = .ok () :=
    checkOverage_eq_ok_iff.mpr fun equality => absurd equality notGroups
  have rightOverage : self.checkOverage right = .ok () :=
    checkOverage_eq_ok_iff.mpr fun equality => absurd equality notGroups
  unfold validateClaims
  rw [leftOverage, rightOverage, checkIss_congr (agree "iss" (by decide)),
    checkAud_congr (agree "aud" (by decide)) (agree "azp" (by decide)),
    checkExp_congr (agree "exp" (by decide)),
    checkNbf_congr (agree "nbf" (by decide)),
    readSubject_congr (agree "oid" (by decide)) (agree "sub" (by decide)),
    displayName_congr (agree "name" (by decide))
      (agree "preferred_username" (by decide)) (agree "upn" (by decide))
      (agree "email" (by decide)),
    agree self.roleClaim elsewhere]

/-- Identity and roles depend on their own claims only, and overage never
strips roles. -/
theorem identity_and_roles (self : OidcVerifier) :
    (∀ left right early late first second,
      self.validateClaims left early = .ok first →
      self.validateClaims right late = .ok second →
      (left.get "oid" = right.get "oid" →
        left.get "sub" = right.get "sub" → first.id = second.id) ∧
      (left.get self.roleClaim = right.get self.roleClaim →
        first.roles = second.roles)) ∧
    (∀ claims nowUnix principal,
      self.validateClaims claims nowUnix = .ok principal →
      (∀ items, claims.get self.roleClaim = some (.array items) →
        principal.roles = items.filterMap Value.asStr) ∧
      (∀ text, claims.get self.roleClaim = some (.string text) →
        principal.roles = [text]) ∧
      ((∀ items, claims.get self.roleClaim ≠ some (.array items)) →
        (∀ text, claims.get self.roleClaim ≠ some (.string text)) →
        principal.roles = []) ∧
      (self.roleClaim = "groups" → ¬ OverageMarked claims)) ∧
    (self.roleClaim ∉ ["groups", "_claim_names", "_claim_sources"] →
      ∀ left right nowUnix,
        AgreeExcept ["groups", "_claim_names", "_claim_sources"] left right →
        self.validateClaims left nowUnix =
          self.validateClaims right nowUnix) := by
  refine ⟨?_, ?_, ?_⟩
  · intro left right early late first second leftAccepted rightAccepted
    constructor
    · intro sameOid sameSub
      rw [id_eq_iff_anchor_eq leftAccepted rightAccepted]
      simp only [anchor, sameOid, sameSub]
    · intro sameRoles
      rw [roles_of_accepted leftAccepted, roles_of_accepted rightAccepted,
        sameRoles]
  · intro claims nowUnix principal accepted
    rw [roles_of_accepted accepted]
    refine ⟨?_, ?_, ?_, ?_⟩
    · intro items found
      rw [found]
      rfl
    · intro text found
      rw [found]
      rfl
    · intro notArray notString
      unfold extractStringList
      split
      · exact absurd ‹_› (notArray _)
      · exact absurd ‹_› (notString _)
      · rfl
    · intro fromGroups
      exact not_overage_of_accepted fromGroups accepted
  · intro elsewhere left right nowUnix agree
    exact validateClaims_eq_of_agreeExcept_marker elsewhere agree

theorem anchor_of_oid {oid : String}
    (found : nonEmptyClaim (claims.get "oid") = some oid) :
    anchor claims = some oid := by
  rw [anchor, found, Option.some_or]

theorem anchor_of_no_oid (absent : nonEmptyClaim (claims.get "oid") = none) :
    anchor claims = nonEmptyClaim (claims.get "sub") := by
  rw [anchor, absent, Option.none_or]

theorem nonEmptyClaim_eq_some {value : Option Value} {text : String}
    (found : nonEmptyClaim value = some text) :
    value = some (.string text) :=
  (nonEmptyClaim_eq_some_iff.mp found).1

/-- Present strings that are both not blank are equal exactly if the claims
are. -/
theorem nonEmptyClaim_eq_iff {value other : Option Value} {text : String}
    (found : nonEmptyClaim value = some text) :
    (∃ same, nonEmptyClaim other = some same) →
      (nonEmptyClaim value = nonEmptyClaim other ↔ value = other) := by
  intro given
  obtain ⟨same, otherFound⟩ := given
  rw [found, otherFound, nonEmptyClaim_eq_some found,
    nonEmptyClaim_eq_some otherFound]
  simp

/-- Two accepted principals share their id exactly if their anchors are one
string.  The anchor keeps no record of the claim it came from, so an `oid` can
meet the `sub` of a token that has none. -/
theorem same_id_iff (self : OidcVerifier) (left right : Value)
    (early late : Int64) (first second : Principal)
    (leftAccepted : self.validateClaims left early = .ok first)
    (rightAccepted : self.validateClaims right late = .ok second) :
    (first.id = second.id ↔ anchor left = anchor right) ∧
    (∀ oid other, nonEmptyClaim (left.get "oid") = some oid →
      nonEmptyClaim (right.get "oid") = some other →
      (first.id = second.id ↔ oid = other)) ∧
    (nonEmptyClaim (left.get "oid") = none →
      nonEmptyClaim (right.get "oid") = none →
      (first.id = second.id ↔ left.get "sub" = right.get "sub")) ∧
    (∀ oid, nonEmptyClaim (left.get "oid") = some oid →
      nonEmptyClaim (right.get "oid") = none →
      (first.id = second.id ↔ right.get "sub" = some (.string oid))) := by
  have byAnchor := id_eq_iff_anchor_eq leftAccepted rightAccepted
  obtain ⟨leftSubject, leftAnchor, _⟩ := id_of_accepted leftAccepted
  obtain ⟨rightSubject, rightAnchor, _⟩ := id_of_accepted rightAccepted
  refine ⟨byAnchor, ?_, ?_, ?_⟩
  · intro oid other leftOid rightOid
    rw [byAnchor, anchor_of_oid leftOid, anchor_of_oid rightOid,
      Option.some.injEq]
  · intro noLeftOid noRightOid
    rw [anchor_of_no_oid noLeftOid] at leftAnchor byAnchor
    rw [anchor_of_no_oid noRightOid] at rightAnchor byAnchor
    rw [byAnchor]
    exact nonEmptyClaim_eq_iff leftAnchor ⟨rightSubject, rightAnchor⟩
  · intro oid leftOid noRightOid
    rw [anchor_of_oid leftOid] at byAnchor
    rw [anchor_of_no_oid noRightOid] at rightAnchor byAnchor
    rw [byAnchor, rightAnchor, nonEmptyClaim_eq_some rightAnchor]
    simp [eq_comm]

theorem same_id_iff_two_subs :
    (Principal.mk "oidc:alice" none [] (some 300)).id ≠
      (Principal.mk "oidc:bob" none [] (some 300)).id := by
  let left := Sample.tokenClaims (.number (.posInt 1800000000))
    [("sub", .string "alice")]
  let right := Sample.tokenClaims (.number (.posInt 1800000000))
    [("sub", .string "bob")]
  have sameSub := (same_id_iff Sample.apiVerifier left right 1790000000
    1790000000 ⟨"oidc:alice", none, [], some 300⟩
    ⟨"oidc:bob", none, [], some 300⟩ rfl rfl).2.2.1 rfl rfl
  have leftSub : left.get "sub" = some (.string "alice") := rfl
  have rightSub : right.get "sub" = some (.string "bob") := rfl
  rw [Ne, sameSub, leftSub, rightSub]
  simp

/-- The `oid` of one user and the `sub` of another who has no `oid` make one
principal. -/
theorem oid_meets_sub :
    ¬ ∀ (self : OidcVerifier) (left right : Value) (early late : Int64)
      (first second : Principal),
      self.validateClaims left early = .ok first →
      self.validateClaims right late = .ok second →
      first.id = second.id →
      (∃ oid, nonEmptyClaim (left.get "oid") = some oid ∧
        nonEmptyClaim (right.get "oid") = some oid) ∨
      (nonEmptyClaim (left.get "oid") = none ∧
        nonEmptyClaim (right.get "oid") = none ∧
        left.get "sub" = right.get "sub") := by
  intro separate
  let left := Sample.tokenClaims (.number (.posInt 1800000000))
    [("oid", .string "x"), ("sub", .string "alice")]
  let right := Sample.tokenClaims (.number (.posInt 1800000000))
    [("sub", .string "x")]
  have leftOid : nonEmptyClaim (left.get "oid") = some "x" := rfl
  have rightOid : nonEmptyClaim (right.get "oid") = none := rfl
  rcases separate Sample.apiVerifier left right 1790000000 1790000000
    ⟨"oidc:x", none, [], some 300⟩ ⟨"oidc:x", none, [], some 300⟩ rfl rfl rfl
    with ⟨oid, _, carried⟩ | ⟨noLeftOid, _⟩
  · rw [rightOid] at carried
    cases carried
  · rw [leftOid] at noLeftOid
    cases noLeftOid

end Identity

end AuthOidc
