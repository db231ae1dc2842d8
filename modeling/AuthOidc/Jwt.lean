import AuthOidc.Jwks
import AuthOidc.Rust.Text

/-!
# Compact JWS tokens

Splitting a token into its decoded parts, and verifying its signature against
one key.  The splitter has two places that could panic, the `expect` on
`rfind` and the slice in front of the last dot; `splitOrPanic` keeps them
visible and `split` is its value once they are known to be unreachable.
-/

namespace AuthOidc

open Rust SerdeJson

structure Parts where
  header : Header
  payload : Bytes
  signature : Bytes
  signingInput : String
  deriving DecidableEq

namespace Jwt

/-- `jwt::split`; `none` is a panic. -/
def splitOrPanic (foreign : Foreign) (token : String) :
    Option (Except String Parts) :=
  match Text.split '.' token with
  | [h, p, s] =>
      match b64Decode h with
      | none => some (.error "malformed JWT: header is not base64url")
      | some headerBytes =>
          match foreign.headerFromSlice headerBytes with
          | .error error => some (.error s!"malformed JWT header: {error}")
          | .ok header =>
              match b64Decode p with
              | none =>
                  some (.error "malformed JWT: payload is not base64url")
              | some payload =>
                  match b64Decode s with
                  | none =>
                      some (.error "malformed JWT: signature is not base64url")
                  | some signature =>
                      -- the signing input is cut from the token itself
                      match Text.rfind '.' token with
                      | none => none
                      | some lastDot =>
                          match Text.sliceTo token lastDot with
                          | none => none
                          | some signingInput =>
                              some (.ok
                                { header, payload, signature, signingInput })
  | _ =>
      some (.error "malformed JWT: expected three dot-separated segments")

/-- On three segments the backward scan cuts the token where the forward scan
put the last dot. -/
theorem sliceTo_rfind_of_split {token h p s : String}
    (segments : Text.split '.' token = [h, p, s]) :
    (Text.rfind '.' token).bind (Text.sliceTo token) =
      some (h ++ "." ++ p) := by
  obtain ⟨_, _, lastFree, shape⟩ := Text.split_eq_three_iff.mp segments
  apply Text.sliceTo_rfind lastFree
  simpa using shape

/-- What a splitter run amounts to once the two cuts are known to agree. -/
theorem splitOrPanic_of_segments {foreign : Foreign} {token h p s : String}
    (segments : Text.split '.' token = [h, p, s]) :
    splitOrPanic foreign token =
      match b64Decode h with
      | none => some (.error "malformed JWT: header is not base64url")
      | some headerBytes =>
          match foreign.headerFromSlice headerBytes with
          | .error error => some (.error s!"malformed JWT header: {error}")
          | .ok header =>
              match b64Decode p, b64Decode s with
              | none, _ =>
                  some (.error "malformed JWT: payload is not base64url")
              | some _, none =>
                  some (.error "malformed JWT: signature is not base64url")
              | some payload, some signature =>
                  some (.ok
                    { header, payload, signature
                      signingInput := h ++ "." ++ p }) := by
  obtain ⟨lastDot, found, sliced⟩ :=
    Option.bind_eq_some_iff.mp (sliceTo_rfind_of_split segments)
  simp only [splitOrPanic, segments, found, sliced]
  cases b64Decode h with
  | none => rfl
  | some headerBytes =>
      cases read : foreign.headerFromSlice headerBytes with
      | error error => simp [read]
      | ok header =>
          cases b64Decode p with
          | none => simp [read]
          | some payload => cases b64Decode s <;> simp [read]

theorem splitOrPanic_isSome (foreign : Foreign) (token : String) :
    (splitOrPanic foreign token).isSome = true := by
  by_cases three : ∃ h p s, Text.split '.' token = [h, p, s]
  · obtain ⟨h, p, s, segments⟩ := three
    rw [splitOrPanic_of_segments segments]
    split
    · rfl
    · split
      · rfl
      · split <;> rfl
  · unfold splitOrPanic
    split
    · rename_i h p s segments
      exact (three ⟨h, p, s, segments⟩).elim
    · rfl

/-- `jwt::split`. -/
def split (foreign : Foreign) (token : String) : Except String Parts :=
  (splitOrPanic foreign token).get (splitOrPanic_isSome foreign token)

theorem split_eq_iff {foreign : Foreign} {token : String}
    {result : Except String Parts} :
    split foreign token = result ↔
      splitOrPanic foreign token = some result := by
  rw [Option.eq_some_iff_get_eq]
  exact ⟨fun equality => ⟨splitOrPanic_isSome foreign token, equality⟩,
    fun ⟨_, equality⟩ => equality⟩

-- from here on a concrete token is split only through `split_eq_iff`
attribute [irreducible] split

/-- The splitter accepts exactly the tokens of three segments that all
decode, the first one to a header. -/
theorem split_eq_ok_iff {foreign : Foreign} {token : String} {parts : Parts} :
    split foreign token = .ok parts ↔
      ∃ h p s headerBytes,
        Text.split '.' token = [h, p, s] ∧
        b64Decode h = some headerBytes ∧
        foreign.headerFromSlice headerBytes = .ok parts.header ∧
        b64Decode p = some parts.payload ∧
        b64Decode s = some parts.signature ∧
        parts.signingInput = h ++ "." ++ p := by
  rw [split_eq_iff]
  constructor
  · intro accepted
    by_cases three : ∃ h p s, Text.split '.' token = [h, p, s]
    · obtain ⟨h, p, s, segments⟩ := three
      rw [splitOrPanic_of_segments segments] at accepted
      split at accepted
      · simp at accepted
      · rename_i headerBytes headerDecoded
        split at accepted
        · simp at accepted
        · rename_i header headerRead
          split at accepted
          · simp at accepted
          · simp at accepted
          · rename_i payload signature payloadDecoded signatureDecoded
            cases accepted
            exact ⟨h, p, s, headerBytes, segments, headerDecoded, headerRead,
              payloadDecoded, signatureDecoded, rfl⟩
    · unfold splitOrPanic at accepted
      split at accepted
      · rename_i h p s segments
        exact (three ⟨h, p, s, segments⟩).elim
      · simp at accepted
  · rintro ⟨h, p, s, headerBytes, segments, headerDecoded, headerRead,
      payloadDecoded, signatureDecoded, inputEq⟩
    rw [splitOrPanic_of_segments segments]
    simp only [headerDecoded, headerRead, payloadDecoded, signatureDecoded]
    cases parts
    simp_all

/-- `verify_signature`. -/
def verifySignature (foreign : Foreign) (parts : Parts) (key : Jwk) :
    Except String Unit :=
  let crit := parts.header.crit.getD []
  if crit ≠ [] then
    .error ("JWT header names critical extension(s) " ++
      foreign.debugList crit ++ " (RFC 7515 §4.1.11) that this verifier " ++
      "does not implement; refusing to process the token")
  else if key.keyUse = some "enc" then
    .error ("JWKS key has \"use\": \"enc\" (encryption-only) and must not " ++
      "verify signatures")
  else if parts.header.alg = "RS256" then
    if key.kty ≠ "RSA" then
      .error (s!"token alg RS256 but JWKS key kty is {key.kty} " ++
        "(alg/key-type mismatch)")
    else
      match key.material with
      | .unusable error => .error error
      | .ec _ => .error "JWKS key material does not match its kty"
      | .rsa n e =>
          if foreign.rsaVerify n e (Text.asBytes parts.signingInput)
              parts.signature then .ok ()
          else .error "JWT signature verification failed"
  else if parts.header.alg = "ES256" then
    if key.kty ≠ "EC" then
      .error (s!"token alg ES256 but JWKS key kty is {key.kty} " ++
        "(alg/key-type mismatch)")
    else if key.crv ≠ some "P-256" then
      .error ("ES256 requires curve P-256, JWKS key has crv " ++
        foreign.debugOption key.crv)
    else
      match key.material with
      | .unusable error => .error error
      | .rsa _ _ => .error "JWKS key material does not match its kty"
      | .ec point =>
          if foreign.ecdsaVerify point (Text.asBytes parts.signingInput)
              parts.signature then .ok ()
          else .error "JWT signature verification failed"
  else
    .error (s!"unsupported/forbidden JWT alg '" ++
      foreign.escapeDebug parts.header.alg ++
      "': only RS256 and ES256 are accepted")

/-- `jwt::claims`. -/
def claims (foreign : Foreign) (parts : Parts) : Except String Value :=
  match foreign.valueFromSlice parts.payload with
  | .error error => .error s!"malformed JWT claims: {error}"
  | .ok value => .ok value

/-- The algorithm policy: the verifier of exactly the algorithm of the header
accepted the material of a key of the matching type. -/
inductive Verified (foreign : Foreign) (parts : Parts) (key : Jwk) : Prop where
  | rs256 {n e : Bytes} :
      parts.header.alg = "RS256" → key.kty = "RSA" →
      key.material = .rsa n e →
      foreign.rsaVerify n e (Text.asBytes parts.signingInput)
        parts.signature = true →
      Verified foreign parts key
  | es256 {point : Bytes} :
      parts.header.alg = "ES256" → key.kty = "EC" →
      key.crv = some "P-256" → key.material = .ec point →
      foreign.ecdsaVerify point (Text.asBytes parts.signingInput)
        parts.signature = true →
      Verified foreign parts key

theorem verifySignature_eq_ok_iff {foreign : Foreign} {parts : Parts}
    {key : Jwk} :
    verifySignature foreign parts key = .ok () ↔
      parts.header.crit.getD [] = [] ∧ key.keyUse ≠ some "enc" ∧
        Verified foreign parts key := by
  constructor
  · intro accepted
    unfold verifySignature at accepted
    simp only at accepted
    split at accepted
    · simp at accepted
    rename_i noCrit
    split at accepted
    · simp at accepted
    rename_i notEnc
    refine ⟨by simpa using noCrit, notEnc, ?_⟩
    split at accepted
    · rename_i alg
      split at accepted
      · simp at accepted
      rename_i kty
      cases material : key.material with
      | unusable error => simp [material] at accepted
      | ec point => simp [material] at accepted
      | rsa n e =>
          simp only [material] at accepted
          split at accepted
          · rename_i verified
            exact .rs256 alg (by simpa using kty) material verified
          · simp at accepted
    · split at accepted
      · rename_i alg
        split at accepted
        · simp at accepted
        rename_i kty
        split at accepted
        · simp at accepted
        rename_i crv
        cases material : key.material with
        | unusable error => simp [material] at accepted
        | rsa n e => simp [material] at accepted
        | ec point =>
            simp only [material] at accepted
            split at accepted
            · rename_i verified
              exact .es256 alg (by simpa using kty) (by simpa using crv)
                material verified
            · simp at accepted
      · simp at accepted
  · rintro ⟨noCrit, notEnc, verified⟩
    cases verified with
    | rs256 alg kty material verified =>
        simp [verifySignature, noCrit, notEnc, alg, kty, material, verified]
    | es256 alg kty crv material verified =>
        simp [verifySignature, noCrit, notEnc, alg, kty, crv, material,
          verified]

theorem claims_eq_ok_iff {foreign : Foreign} {parts : Parts}
    {value : Value} :
    claims foreign parts = .ok value ↔
      foreign.valueFromSlice parts.payload = .ok value := by
  unfold claims
  cases foreign.valueFromSlice parts.payload <;> simp

end Jwt

end AuthOidc
