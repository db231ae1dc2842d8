import Mathlib.Data.List.Induction
import Mathlib.Data.List.Pairwise
import AuthOidc.Claims

/-!
# The replay window of the credential cache

A host verifies one token at times of its choosing and may reuse an accepted
principal for as long as its `ttlSecs` says.  The suggested lifetime never
reaches past the exact `exp` of the token, so neither does a cached request,
unless its own full verification already did within the skew.
-/

namespace AuthOidc

open Rust SerdeJson OidcVerifier

namespace Replay

theorem toNat_ttl (exp nowUnix : Int64) :
    ((ttl exp nowUnix).toNat : Int) =
      max 0 (min (exp.toInt - nowUnix.toInt) 300) := by
  have zero : (0 : Int64).toInt = 0 := by decide
  have ceiling : maxCacheTtlSecs.toInt = 300 := by decide
  have clamped :
      (I64.clamp (I64.saturatingSub exp nowUnix) 0 maxCacheTtlSecs).toInt =
        max 0 (min (exp.toInt - nowUnix.toInt) 300) := by
    rw [I64.toInt_clamp, I64.saturatingSub, I64.toInt_ofIntClamp, zero,
      ceiling]
    split <;> omega
  rw [ttl, I64.toNat_toUInt64 (by rw [clamped]; omega), clamped]

theorem toInt_saturatingAdd_skew (exp : Int64) :
    (I64.saturatingAdd exp clockSkewSecs).toInt =
      min (exp.toInt + 60) (2 ^ 63 - 1) := by
  have skew : clockSkewSecs.toInt = 60 := by decide
  have low := exp.le_toInt
  rw [I64.saturatingAdd, I64.toInt_ofIntClamp, skew]
  omega

/-- What acceptance says about `exp`: the date read from it, and the lifetime
derived from that date. -/
theorem exp_of_accepted {self : OidcVerifier} {claims : Value}
    {nowUnix : Int64} {principal : Principal}
    (accepted : self.validateClaims claims nowUnix = .ok principal) :
    ∃ (number : Number) (exp : Int64),
      claims.get "exp" = some (.number number) ∧
        exp.toInt = max (-2 ^ 63) (min ⌊number.exact⌋ (2 ^ 63 - 1)) ∧
        nowUnix.toInt ≤ min (exp.toInt + 60) (2 ^ 63 - 1) ∧
        principal.ttlSecs = some (ttl exp nowUnix) := by
  obtain ⟨_, _, exp, expOk, _, _, _, _, rfl⟩ :=
    validateClaims_eq_ok_iff.mp accepted
  obtain ⟨converted, inTime⟩ := checkExp_eq_ok_iff.mp expOk
  obtain ⟨number, found, dateEq⟩ := asNumericDateFloor_eq_some converted
  rw [Int64.le_iff_toInt_le, toInt_saturatingAdd_skew] at inTime
  exact ⟨number, exp, found, dateEq, inTime, rfl⟩

/-- The lifetime bounds of one accepted principal. -/
theorem ttl_bounds {self : OidcVerifier} {claims : Value} {nowUnix : Int64}
    {principal : Principal}
    (accepted : self.validateClaims claims nowUnix = .ok principal) :
    ∃ (number : Number) (lifetime : UInt64),
      claims.get "exp" = some (.number number) ∧
        principal.ttlSecs = some lifetime ∧
        lifetime.toNat ≤ 300 ∧
        (0 < lifetime.toNat →
          ((nowUnix.toInt + lifetime.toNat : ℤ) : ℚ) ≤ number.exact) ∧
        (number.exact < (nowUnix.toInt : ℚ) → lifetime.toNat = 0) := by
  obtain ⟨number, exp, found, dateEq, _, lifetimeEq⟩ :=
    exp_of_accepted accepted
  have lifetime := toNat_ttl exp nowUnix
  refine ⟨number, ttl exp nowUnix, found, lifetimeEq, by omega, ?_, ?_⟩
  · intro positive
    -- a positive lifetime excludes the lower saturation of `exp`
    have low := nowUnix.le_toInt
    apply Int.le_floor.mp
    omega
  · intro past
    have floorPast : ⌊number.exact⌋ < nowUnix.toInt := Int.floor_lt.mpr past
    have low := nowUnix.le_toInt
    omega

/-- A sane clock reading. -/
def Sane (nowUnix : Int64) : Prop :=
  clockSanityFloorUnix.toInt ≤ nowUnix.toInt ∧
    nowUnix.toInt < 2 ^ 63 - 1 - 60

theorem accepted_within_skew {self : OidcVerifier} {claims : Value}
    {nowUnix : Int64} {principal : Principal} (sane : Sane nowUnix)
    (accepted : self.validateClaims claims nowUnix = .ok principal) :
    ∃ number : Number, claims.get "exp" = some (.number number) ∧
      (nowUnix.toInt : ℚ) ≤ number.exact + 60 := by
  obtain ⟨number, exp, found, dateEq, inTime, _⟩ := exp_of_accepted accepted
  have floor : clockSanityFloorUnix.toInt = 1767225600 := by decide
  have aboveFloor := sane.1
  have withinFloor : nowUnix.toInt - 60 ≤ ⌊number.exact⌋ := by omega
  have withinExact : ((nowUnix.toInt - 60 : ℤ) : ℚ) ≤ number.exact :=
    Int.le_floor.mp withinFloor
  refine ⟨number, found, ?_⟩
  push_cast at withinExact
  linarith

/-- What a host does with one token: a full verification, or reusing from its
cache the principal that was accepted at `verifiedAt`. -/
inductive HostEvent where
  | verify (nowUnix : Int64)
  | reuse (nowUnix verifiedAt : Int64)
  deriving DecidableEq

namespace HostEvent

def reading : HostEvent → Int64
  | verify nowUnix => nowUnix
  | reuse nowUnix _ => nowUnix

def verification : HostEvent → Option Int64
  | verify nowUnix => some nowUnix
  | reuse _ _ => none

theorem reading_of_verification {event : HostEvent} {nowUnix : Int64}
    (isVerification : event.verification = some nowUnix) :
    event.reading = nowUnix := by
  cases event with
  | verify reading => exact Option.some.inj isVerification
  | reuse reading verifiedAt => cases isVerification

end HostEvent

/-- The runs of a host with one token.  The claims object is the one decoded
from the token; a reuse needs an earlier verification that accepted it, and
comes at most the suggested lifetime after that. -/
inductive HostRun (self : OidcVerifier) (claims : Value) :
    List HostEvent → Prop where
  | start : HostRun self claims []
  | verify {past : List HostEvent} {nowUnix : Int64} :
      HostRun self claims past → Sane nowUnix →
      HostRun self claims (past ++ [.verify nowUnix])
  | reuse {past : List HostEvent} {nowUnix verifiedAt : Int64}
      {principal : Principal} {lifetime : UInt64} :
      HostRun self claims past → Sane nowUnix →
      .verify verifiedAt ∈ past →
      self.validateClaims claims verifiedAt = .ok principal →
      principal.ttlSecs = some lifetime →
      nowUnix.toInt ≤ verifiedAt.toInt + lifetime.toNat →
      HostRun self claims (past ++ [.reuse nowUnix verifiedAt])

/-- The event authenticates a request: a verification that accepts, or any
reuse. -/
def Authenticates (self : OidcVerifier) (claims : Value) :
    HostEvent → Prop
  | .verify nowUnix =>
      ∃ principal, self.validateClaims claims nowUnix = .ok principal
  | .reuse _ _ => True

/-- The time of the last full verification of a run. -/
def lastVerification (run : List HostEvent) : Option Int64 :=
  (run.filterMap HostEvent.verification).getLast?

variable {self : OidcVerifier} {claims : Value}

theorem HostRun.sane {run : List HostEvent} (host : HostRun self claims run) :
    ∀ event ∈ run, Sane event.reading := by
  induction host with
  | start => simp
  | verify _ sane induction =>
      intro event member
      rcases List.mem_append.mp member with earlier | latest
      · exact induction event earlier
      · rw [List.mem_singleton.mp latest]
        exact sane
  | reuse _ sane _ _ _ _ induction =>
      intro event member
      rcases List.mem_append.mp member with earlier | latest
      · exact induction event earlier
      · rw [List.mem_singleton.mp latest]
        exact sane

/-- A reuse falls within the lifetime of an accepted verification that is part
of the run. -/
theorem HostRun.reuse_source {run : List HostEvent}
    (host : HostRun self claims run) {nowUnix verifiedAt : Int64}
    (member : .reuse nowUnix verifiedAt ∈ run) :
    .verify verifiedAt ∈ run ∧
      ∃ principal lifetime,
        self.validateClaims claims verifiedAt = .ok principal ∧
          principal.ttlSecs = some lifetime ∧
          nowUnix.toInt ≤ verifiedAt.toInt + lifetime.toNat := by
  induction host with
  | start => simp at member
  | verify _ _ induction =>
      have earlier := (List.mem_append.mp member).resolve_right (by simp)
      obtain ⟨verified, source⟩ := induction earlier
      exact ⟨List.mem_append_left _ verified, source⟩
  | @reuse past latestNow latestVerified principal lifetime _ _ verified
      accepted lifetimeEq inTime induction =>
      rcases List.mem_append.mp member with earlier | latest
      · obtain ⟨stillVerified, source⟩ := induction earlier
        exact ⟨List.mem_append_left _ stillVerified, source⟩
      · cases List.mem_singleton.mp latest
        exact ⟨List.mem_append_left _ verified, principal, lifetime, accepted,
          lifetimeEq, inTime⟩

theorem reuse_le_max {nowUnix verifiedAt : Int64} {principal : Principal}
    {lifetime : UInt64}
    (accepted : self.validateClaims claims verifiedAt = .ok principal)
    (lifetimeEq : principal.ttlSecs = some lifetime)
    (inTime : nowUnix.toInt ≤ verifiedAt.toInt + lifetime.toNat) :
    ∃ number : Number, claims.get "exp" = some (.number number) ∧
      (nowUnix.toInt : ℚ) ≤ max number.exact (verifiedAt.toInt : ℚ) := by
  obtain ⟨number, sameLifetime, found, sameEq, _, beforeExp, _⟩ :=
    ttl_bounds accepted
  rw [lifetimeEq, Option.some.injEq] at sameEq
  subst sameEq
  refine ⟨number, found, ?_⟩
  have inTimeExact :
      (nowUnix.toInt : ℚ) ≤ ((verifiedAt.toInt + lifetime.toNat : ℤ) : ℚ) := by
    exact_mod_cast inTime
  by_cases positive : 0 < lifetime.toNat
  · exact le_max_of_le_left (le_trans inTimeExact (beforeExp positive))
  · have noLifetime : lifetime.toNat = 0 := by omega
    rw [noLifetime] at inTimeExact
    exact le_max_of_le_right (by simpa using inTimeExact)

theorem HostRun.authenticated_within_skew {run : List HostEvent}
    (host : HostRun self claims run) {event : HostEvent}
    (member : event ∈ run) (authenticates : Authenticates self claims event) :
    ∃ number : Number, claims.get "exp" = some (.number number) ∧
      (event.reading.toInt : ℚ) ≤
        number.exact + (clockSkewSecs.toInt : ℚ) := by
  have skew : clockSkewSecs.toInt = 60 := by decide
  rw [skew]
  cases event with
  | verify nowUnix =>
      obtain ⟨principal, accepted⟩ := authenticates
      exact accepted_within_skew (host.sane _ member) accepted
  | reuse nowUnix verifiedAt =>
      obtain ⟨verified, principal, lifetime, accepted, lifetimeEq, inTime⟩ :=
        host.reuse_source member
      obtain ⟨number, found, bound⟩ :=
        reuse_le_max accepted lifetimeEq inTime
      obtain ⟨sameNumber, sameFound, verifiedInTime⟩ :=
        accepted_within_skew (host.sane _ verified) accepted
      rw [found, Option.some.injEq, Value.number.injEq] at sameFound
      subst sameFound
      refine ⟨number, found, le_trans bound ?_⟩
      apply max_le
      · have skewNonneg : (0 : ℚ) ≤ ((60 : ℤ) : ℚ) := by norm_num
        exact le_add_of_nonneg_right skewNonneg
      · exact_mod_cast verifiedInTime

/-- Readings that never go backwards put every verification of the run at or
before its last one. -/
theorem verification_le_last {past : List HostEvent}
    (ordered : (past.map fun event => event.reading.toInt).Pairwise (· ≤ ·))
    {verifiedAt last : Int64} (member : .verify verifiedAt ∈ past)
    (isLast : lastVerification past = some last) :
    verifiedAt.toInt ≤ last.toInt := by
  have sorted : (past.filterMap HostEvent.verification).Pairwise
      fun earlier later => earlier.toInt ≤ later.toInt := by
    apply (List.pairwise_map.mp ordered).filterMap
    intro event later inOrder nowUnix isNow laterUnix isLater
    rwa [HostEvent.reading_of_verification isNow,
      HostEvent.reading_of_verification isLater] at inOrder
  have verified : verifiedAt ∈ past.filterMap HostEvent.verification :=
    List.mem_filterMap.mpr ⟨_, member, rfl⟩
  rw [← List.getLast_of_mem_getLast? isLast]
  exact sorted.rel_getLast_of_rel_getLast_getLast verified (le_refl _)

theorem lastVerification_isSome {past : List HostEvent} {verifiedAt : Int64}
    (member : .verify verifiedAt ∈ past) :
    ∃ last, lastVerification past = some last := by
  apply Option.isSome_iff_exists.mp
  rw [lastVerification, Option.isSome_iff_ne_none, Ne,
    List.getLast?_eq_none_iff]
  apply List.ne_nil_of_mem (a := verifiedAt)
  exact List.mem_filterMap.mpr ⟨_, member, rfl⟩

theorem HostRun.dropLast {past : List HostEvent} {event : HostEvent}
    (host : HostRun self claims (past ++ [event])) :
    HostRun self claims past := by
  generalize split : past ++ [event] = run at host
  cases host with
  | start => simp at split
  | verify earlier _ =>
      rw [(List.append_inj' split rfl).1]
      exact earlier
  | reuse earlier _ _ _ _ _ =>
      rw [(List.append_inj' split rfl).1]
      exact earlier

theorem HostRun.before {past : List HostEvent} :
    ∀ {rest : List HostEvent}, HostRun self claims (past ++ rest) →
      HostRun self claims past := by
  intro rest
  induction rest using List.reverseRecOn with
  | nil =>
      intro host
      rwa [List.append_nil] at host
  | append_singleton rest event induction =>
      intro host
      rw [← List.append_assoc] at host
      exact induction host.dropLast

theorem HostRun.reuse_le_last {past rest : List HostEvent}
    {nowUnix verifiedAt : Int64}
    (host : HostRun self claims (past ++ .reuse nowUnix verifiedAt :: rest))
    (ordered : (past.map fun event => event.reading.toInt).Pairwise (· ≤ ·)) :
    ∃ (number : Number) (last : Int64),
      claims.get "exp" = some (.number number) ∧
        lastVerification past = some last ∧
        (nowUnix.toInt : ℚ) ≤ max number.exact (last.toInt : ℚ) := by
  rw [List.append_cons] at host
  obtain ⟨verifiedByNow, principal, lifetime, accepted, lifetimeEq, inTime⟩ :=
    host.before.reuse_source
      (List.mem_append_right past (List.mem_singleton_self _))
  have verified : .verify verifiedAt ∈ past :=
    (List.mem_append.mp verifiedByNow).resolve_right (by simp)
  obtain ⟨last, isLast⟩ := lastVerification_isSome verified
  have verifiedBeforeLast := verification_le_last ordered verified isLast
  obtain ⟨number, found, bound⟩ := reuse_le_max accepted lifetimeEq inTime
  refine ⟨number, last, found, isLast, le_trans bound ?_⟩
  apply max_le_max_left
  exact_mod_cast verifiedBeforeLast

/-- The replay window: the lifetime bounds of every accepted principal; no
request authenticated past `exp` plus the skew; none from the cache past both
`exp` and the full verification that filled it, nor, with readings that never
go backwards, past both `exp` and the last full verification of all. -/
theorem replay_window (self : OidcVerifier) (claims : Value) :
    (∀ (nowUnix : Int64) (principal : Principal),
      self.validateClaims claims nowUnix = .ok principal →
        ∃ (number : Number) (lifetime : UInt64),
          claims.get "exp" = some (.number number) ∧
            principal.ttlSecs = some lifetime ∧
            lifetime.toNat ≤ 300 ∧
            (0 < lifetime.toNat →
              ((nowUnix.toInt + lifetime.toNat : ℤ) : ℚ) ≤ number.exact) ∧
            (number.exact < (nowUnix.toInt : ℚ) → lifetime.toNat = 0)) ∧
      ∀ run, HostRun self claims run →
        (∀ event ∈ run, Authenticates self claims event →
          ∃ number : Number, claims.get "exp" = some (.number number) ∧
            (event.reading.toInt : ℚ) ≤
              number.exact + (clockSkewSecs.toInt : ℚ)) ∧
        (∀ nowUnix verifiedAt, .reuse nowUnix verifiedAt ∈ run →
          .verify verifiedAt ∈ run ∧
            ∃ number : Number, claims.get "exp" = some (.number number) ∧
              (nowUnix.toInt : ℚ) ≤
                max number.exact (verifiedAt.toInt : ℚ)) ∧
        (∀ past nowUnix verifiedAt rest,
          run = past ++ .reuse nowUnix verifiedAt :: rest →
          (past.map fun event => event.reading.toInt).Pairwise (· ≤ ·) →
          ∃ (number : Number) (last : Int64),
            claims.get "exp" = some (.number number) ∧
              lastVerification past = some last ∧
              (nowUnix.toInt : ℚ) ≤
                max number.exact (last.toInt : ℚ)) := by
  refine ⟨fun _ _ accepted => ttl_bounds accepted, fun run host => ?_⟩
  refine ⟨?_, ?_, ?_⟩
  · intro event member authenticates
    exact host.authenticated_within_skew member authenticates
  · intro nowUnix verifiedAt member
    obtain ⟨verified, principal, lifetime, accepted, lifetimeEq, inTime⟩ :=
      host.reuse_source member
    exact ⟨verified, reuse_le_max accepted lifetimeEq inTime⟩
  · intro past nowUnix verifiedAt rest split ordered
    subst split
    exact host.reuse_le_last ordered

end Replay

end AuthOidc
