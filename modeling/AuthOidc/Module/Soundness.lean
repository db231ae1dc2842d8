import AuthOidc.Module
import AuthOidc.Jwt.Splitter
import AuthOidc.Cache.Ceiling
import AuthOidc.Cache.Provenance

/-!
# Soundness of verification

Whatever else happens on the cache, an identified principal was read from the
very bytes of the token whose signature a published key of the right type
verified.
-/

namespace AuthOidc

open Rust SerdeJson Transition AttemptLog Interaction

/-- Ring's verifier for exactly the algorithm of the header accepted the key
material decoded from `key`, the message and the signature. -/
inductive SignedBy (foreign : Foreign) (header : Header) (key : Jwk)
    (message : String) (signature : Bytes) : Prop where
  | rs256 {n e : Bytes} :
      header.alg = "RS256" → key.kty = "RSA" →
      key.n.bind b64Decode = some n → key.e.bind b64Decode = some e →
      foreign.rsaVerify n e (Text.asBytes message) signature = true →
      SignedBy foreign header key message signature
  | es256 {x y : Bytes} :
      header.alg = "ES256" → key.kty = "EC" → key.crv = some "P-256" →
      key.x.bind b64Decode = some x → key.y.bind b64Decode = some y →
      foreign.ecdsaVerify (0x04 :: (x ++ y)) (Text.asBytes message)
        signature = true →
      SignedBy foreign header key message signature

/-- The key verifies the token: `h`, `p` and `s` are its segments. -/
structure Vouches (foreign : Foreign) (key : Jwk)
    (token h p s : String) (header : Header) (payload : Bytes) : Prop where
  token_eq : token = h ++ "." ++ p ++ "." ++ s
  two_dots : token.toList.count '.' = 2
  header_read : ∃ bytes, b64Decode h = some bytes ∧
    foreign.headerFromSlice bytes = .ok header
  no_crit : header.crit.getD [] = []
  algorithm : header.alg = "RS256" ∨ header.alg = "ES256"
  payload_read : b64Decode p = some payload
  /-- A header without a `kid` asks for the empty one. -/
  kid : key.kid = some (header.kid.getD "") ∨
    header.kid.getD "" = "" ∧ key.kid = none
  not_enc : key.keyUse ≠ some "enc"
  signed : ∃ signature, b64Decode s = some signature ∧
    SignedBy foreign header key (h ++ "." ++ p) signature

theorem SignedBy.algorithm {foreign : Foreign} {header : Header} {key : Jwk}
    {message : String} {signature : Bytes}
    (signed : SignedBy foreign header key message signature) :
    header.alg = "RS256" ∨ header.alg = "ES256" := by
  cases signed with
  | rs256 alg => exact .inl alg
  | es256 alg => exact .inr alg

theorem SignedBy.of_verified {foreign : Foreign} {parts : Parts} {key : Jwk}
    (verified : Jwt.Verified foreign parts key) :
    SignedBy foreign parts.header key parts.signingInput
      parts.signature := by
  cases verified with
  | rs256 alg kty material accepted =>
      obtain ⟨_, n, e⟩ := material_eq_rsa_iff.mp material
      exact .rs256 alg kty n e accepted
  | es256 alg kty crv material accepted =>
      obtain ⟨_, x, y, xDecoded, yDecoded, rfl⟩ :=
        material_eq_ec_iff.mp material
      exact .es256 alg kty crv xDecoded yDecoded accepted

theorem count_dots {h p s : String} (hFree : '.' ∉ h.toList)
    (pFree : '.' ∉ p.toList) (sFree : '.' ∉ s.toList) :
    (h ++ "." ++ p ++ "." ++ s).toList.count '.' = 2 := by
  simp [List.count_append, List.count_eq_zero.mpr hFree,
    List.count_eq_zero.mpr pFree, List.count_eq_zero.mpr sFree]

/-- A closure that accepted a key that the lookup found vouches for the
token. -/
theorem Vouches.of_accepted {foreign : Foreign} {token : String}
    {parts : Parts} {key : Jwk} {set : JwkSet}
    (splits : Jwt.split foreign token = .ok parts)
    (found : key ∈ set.findAll (parts.header.kid.getD ""))
    (accepted : Jwt.verifySignature foreign parts key = .ok ()) :
    ∃ h p s, Vouches foreign key token h p s parts.header parts.payload := by
  obtain ⟨h, p, s, bytes, segments, hDecoded, headerRead, pDecoded,
    sDecoded, inputEq⟩ := Jwt.split_eq_ok_iff.mp splits
  obtain ⟨hFree, pFree, sFree, shape⟩ := Text.split_eq_three_iff.mp segments
  have tokenEq : token = h ++ "." ++ p ++ "." ++ s := by
    apply String.toList_inj.mp
    simpa using shape
  obtain ⟨noCrit, notEnc, verified⟩ :=
    Jwt.verifySignature_eq_ok_iff.mp accepted
  have signed := SignedBy.of_verified verified
  rw [inputEq] at signed
  exact ⟨h, p, s, {
    token_eq := tokenEq
    two_dots := tokenEq ▸ count_dots hFree pFree sFree
    header_read := ⟨bytes, hDecoded, headerRead⟩
    no_crit := noCrit
    algorithm := signed.algorithm
    payload_read := pDecoded
    kid := (JwkSet.mem_findAll_iff.mp found).2
    not_enc := notEnc
    signed := ⟨parts.signature, sDecoded, signed⟩ }⟩

namespace OidcModule

/-- A verification that identifies asked the cache one question, was answered
by a success, and accepted the claims. -/
theorem verifyWith_yields_identify_iff {foreign : Foreign}
    {verifier : OidcVerifier} {token : String} {nowUnix : Int64}
    {nowMono : Instant} {principal : Principal}
    {answer : Call Unit → Except String Unit → Prop} :
    (verifyWith foreign verifier token nowUnix nowMono).Yields answer
        (.identify principal) ↔
      ∃ parts claims, Jwt.split foreign token = .ok parts ∧
        answer ⟨parts.header.kid.getD "", nowMono,
          Jwt.verifySignature foreign parts⟩ (.ok ()) ∧
        foreign.valueFromSlice parts.payload = .ok claims ∧
        verifier.validateClaims claims nowUnix = .ok principal := by
  unfold verifyWith
  cases splits : Jwt.split foreign token with
  | error error => simp [Program.Yields]
  | ok parts =>
      simp only [Program.Yields, Except.ok.injEq, exists_eq_left',
        exists_and_left, ← Jwt.claims_eq_ok_iff]
      constructor
      · rintro ⟨response, answered, yields⟩
        cases response with
        | error error => cases yields
        | ok value =>
            refine ⟨answered, ?_⟩
            dsimp only [verifyAnswer, verifyClaims] at yields
            cases read : Jwt.claims foreign parts with
            | error error => simp [read, Program.Yields] at yields
            | ok claims =>
                refine ⟨claims, rfl, ?_⟩
                cases validated : verifier.validateClaims claims nowUnix with
                | error error =>
                    simp [read, validated, Program.Yields] at yields
                | ok found =>
                    simp [read, validated, Program.Yields] at yields
                    rw [yields]
      · rintro ⟨answered, claims, read, validated⟩
        refine ⟨.ok (), answered, ?_⟩
        simp [verifyAnswer, verifyClaims, read, validated, Program.Yields]

/-- What follows the answer of the cache asks no more of it. -/
theorem verifyAnswer_run {State : Type} (foreign : Foreign)
    (verifier : OidcVerifier) (parts : Parts) (nowUnix : Int64)
    (handler : State → Call Unit → Except String Unit × State)
    (answer : Call Unit → Except String Unit → Prop)
    (response : Except String Unit) (state : State) :
    let program := verifyAnswer foreign verifier parts nowUnix response
    (program.run handler state).2.2 = state ∧
      program.Yields answer (program.run handler state).1 := by
  cases response with
  | error error => exact ⟨rfl, rfl⟩
  | ok accepted =>
      unfold verifyAnswer verifyClaims
      cases Jwt.claims foreign parts with
      | error error => exact ⟨rfl, rfl⟩
      | ok claims =>
          dsimp only
          cases verifier.validateClaims claims nowUnix with
          | error error => exact ⟨rfl, rfl⟩
          | ok principal => exact ⟨rfl, rfl⟩

end OidcModule

variable {ι : Type} [DecidableEq ι]

/-! ## A sample run

One verification of a token signed with the only key of the document. -/

namespace Sample

def signatureBytes : Bytes := (b64Decode signature).getD []

def token : String :=
  Jwt.compact (Text.asBytes header) (Text.asBytes payload) signatureBytes

def parts : Parts where
  header := ⟨"ES256", some "k1", none⟩
  payload := Text.asBytes payload
  signature := signatureBytes
  signingInput := b64Encode (Text.asBytes header) ++ "." ++
    b64Encode (Text.asBytes payload)

theorem split_token : Jwt.split foreign token = .ok parts :=
  Jwt.split_compact (by decide +kernel)

/-- One caller, which verifies the token. -/
def verification : System Unit Unit where
  foreign := foreign
  cache := cache
  call _ :=
    { kid := "k1", now := 0, f := Jwt.verifySignature foreign parts }

def verificationSchedule : List (Action Unit) :=
  List.replicate 4 (.run ()) ++ .fetched () (.ok document) ::
    List.replicate 3 (.run ())

theorem verification_enabled :
    (verification.machine.exec .fresh verificationSchedule).isSome =
      true := by
  decide +kernel

def verified : State Unit Unit × List (Event Unit) :=
  (verification.machine.exec .fresh verificationSchedule).get
    verification_enabled

theorem verifiedRun :
    verification.Runs verificationSchedule verified.2 verified.1 :=
  .of_isSome verification_enabled

def verifier : OidcVerifier := ⟨"https://idp", "api", defaultRoleClaim⟩

def principal : Principal := ⟨"oidc:u1", none, [], some 300⟩

end Sample

namespace System

variable {system : System ι Unit} {schedule : List (Action ι)}
  {history : List (Event ι)} {state : State ι Unit}

/-- What the cache answers in the state: the results of the calls that are
done. -/
def Answered (system : System ι Unit) (state : State ι Unit)
    (call : Call Unit) (result : Except String Unit) : Prop :=
  ∃ c, system.call c = call ∧ state.phase c = .done result

/-- A verification that is alone on the cache is a run of the machine: the
sequential cache leaves the same data and the result is one that the machine
answers. -/
theorem verifyWith_alone {World : Type} (system : System ι Unit)
    {self : OidcModule} (sameCache : self.jwks = system.cache)
    (fetcher : Fetcher World) (world : World) {verifier : OidcVerifier}
    {token : String} {nowUnix : Int64} {nowMono : Instant} {c : ι}
    {state : State ι Unit} (stands : state.phase c = .snapshot)
    (free : state.fetchGate = none)
    (asks : ∀ parts, Jwt.split system.foreign token = .ok parts →
      system.call c = ⟨parts.header.kid.getD "", nowMono,
        Jwt.verifySignature system.foreign parts⟩) :
    ∃ final, system.Alone c state final ∧ final.fetchGate = none ∧
      let program := OidcModule.verifyWith system.foreign verifier token
        nowUnix nowMono
      let (result, _, inner, _) := program.run
        (self.handleCall system.foreign fetcher) (state.inner, world)
      final.inner = inner ∧ program.Yields (system.Answered final) result := by
  unfold OidcModule.verifyWith
  cases splits : Jwt.split system.foreign token with
  | error error => exact ⟨state, .refl, free, rfl, rfl⟩
  | ok parts =>
      obtain ⟨final, alone, released, innerEq, finished⟩ :=
        withKey_alone system fetcher world stands free
      rw [← sameCache, asks parts splits] at innerEq finished
      obtain ⟨unchanged, yields⟩ := OidcModule.verifyAnswer_run
        system.foreign verifier parts nowUnix
        (self.handleCall system.foreign fetcher) (system.Answered final) _ _
      refine ⟨final, alone, released, ?_, _,
        ⟨c, asks parts splits, finished⟩, yields⟩
      rw [innerEq]
      exact (congrArg Prod.fst unchanged).symm

/-- A call that succeeds did so on a key that its closure accepted, from a set
parsed from a body that the fetcher returned. -/
theorem Runs.accepted_key {T : Type} {system : System ι T}
    {state : State ι T} (run : system.Runs schedule history state) {c : ι}
    {value : T} (succeeded : state.phase c = .done (.ok value)) :
    ∃ owner body set key, .returned owner (.ok body) ∈ history ∧
      JwkSet.parse system.foreign body = .ok set ∧
      key ∈ set.findAll (system.call c).kid ∧
      (system.call c).f key = .ok value := by
  obtain ⟨set, key, invoked, accepted⟩ :=
    run.fresh.succeeded c value succeeded
  obtain ⟨keyMember, attempt, member, outcome, _⟩ :=
    run.fresh.invoked c set key invoked
  obtain ⟨body, returned, parsed⟩ :=
    run.sourced.outcomes attempt member (.ok set) outcome
  cases body with
  | error error => cases parsed
  | ok text =>
      exact ⟨attempt.owner, text, set, key, returned, parsed.symm, keyMember,
        accepted⟩

/-- An identified principal is the result of validating the claims of a token
that a published key vouches for. -/
theorem Runs.verify_with_sound (run : system.Runs schedule history state)
    {verifier : OidcVerifier} {token : String} {nowUnix : Int64}
    {nowMono : Instant} {principal : Principal}
    (identified :
      (OidcModule.verifyWith system.foreign verifier token nowUnix
        nowMono).Yields (system.Answered state) (.identify principal)) :
    ∃ owner body set key h p s header payload claims,
      .returned owner (.ok body) ∈ history ∧
      JwkSet.parse system.foreign body = .ok set ∧ key ∈ set.keys ∧
      Vouches system.foreign key token h p s header payload ∧
      system.foreign.valueFromSlice payload = .ok claims ∧
      verifier.validateClaims claims nowUnix = .ok principal := by
  obtain ⟨parts, claims, splits, ⟨c, callEq, done⟩, read, validated⟩ :=
    OidcModule.verifyWith_yields_identify_iff.mp identified
  obtain ⟨owner, body, set, key, returned, parsed, found, accepted⟩ :=
    run.accepted_key done
  rw [callEq] at found accepted
  obtain ⟨h, p, s, vouches⟩ := Vouches.of_accepted splits found accepted
  exact ⟨owner, body, set, key, h, p, s, parts.header, parts.payload, claims,
    returned, parsed, (JwkSet.mem_findAll_iff.mp found).1, vouches, read,
    validated⟩

theorem Runs.verify_with_sound_sample :
    ∃ owner body set key h p s header payload claims,
      .returned owner (.ok body) ∈ Sample.verified.2 ∧
      JwkSet.parse Sample.foreign body = .ok set ∧ key ∈ set.keys ∧
      Vouches Sample.foreign key Sample.token h p s header payload ∧
      Sample.foreign.valueFromSlice payload = .ok claims ∧
      Sample.verifier.validateClaims claims 1799999000 =
        .ok Sample.principal := by
  have done : Sample.verified.1.phase () = .done (.ok ()) := by
    decide +kernel
  have read : Sample.foreign.valueFromSlice Sample.parts.payload =
      .ok Sample.claims := by
    simp only [Sample.foreign, Sample.parts, if_pos]
  have validated : Sample.verifier.validateClaims Sample.claims 1799999000 =
      .ok Sample.principal := by
    decide +kernel
  have answered : Sample.verification.Answered Sample.verified.1
      ⟨Sample.parts.header.kid.getD "", 0,
        Jwt.verifySignature Sample.foreign Sample.parts⟩ (.ok ()) :=
    ⟨(), rfl, done⟩
  have identified :
      (OidcModule.verifyWith Sample.foreign Sample.verifier Sample.token
        1799999000 0).Yields (Sample.verification.Answered Sample.verified.1)
        (.identify Sample.principal) :=
    OidcModule.verifyWith_yields_identify_iff.mpr
      ⟨Sample.parts, Sample.claims, Sample.split_token, answered, read,
        validated⟩
  exact Runs.verify_with_sound Sample.verifiedRun identified

end System

end AuthOidc
