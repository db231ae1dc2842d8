import AuthOidc.Jwt

/-!
# The splitter inverts the encoding

`Jwt.compact` writes three byte strings as a compact token.  The splitter
accepts exactly the compact tokens whose first byte string reads as a header,
and recovers all three of them together with the signing input.
-/

namespace AuthOidc.Jwt

open Rust

/-- The compact form of header bytes, payload and signature. -/
def compact (headerBytes payload signature : Bytes) : String :=
  b64Encode headerBytes ++ "." ++ b64Encode payload ++ "." ++
    b64Encode signature

/-- The header bytes of a token, decoded from its first segment. -/
def headerBytes (token : String) : Option Bytes :=
  (Text.split '.' token).head?.bind b64Decode

theorem split_compact_segments (header payload signature : Bytes) :
    Text.split '.' (compact header payload signature) =
      [b64Encode header, b64Encode payload, b64Encode signature] := by
  apply Text.split_eq_three_iff.mpr
  refine ⟨dot_not_mem_b64Encode _, dot_not_mem_b64Encode _,
    dot_not_mem_b64Encode _, ?_⟩
  simp [compact]

theorem eq_compact_of_segments {token h p s : String}
    {header payload signature : Bytes}
    (segments : Text.split '.' token = [h, p, s])
    (headerDecoded : b64Decode h = some header)
    (payloadDecoded : b64Decode p = some payload)
    (signatureDecoded : b64Decode s = some signature) :
    token = compact header payload signature := by
  obtain ⟨_, _, _, shape⟩ := Text.split_eq_three_iff.mp segments
  apply String.toList_inj.mp
  rw [shape, compact, b64Decode_eq_some_iff.mp headerDecoded,
    b64Decode_eq_some_iff.mp payloadDecoded,
    b64Decode_eq_some_iff.mp signatureDecoded]
  simp

variable {foreign : Foreign}

theorem split_compact {header : Header} {bytes payload signature : Bytes}
    (read : foreign.headerFromSlice bytes = .ok header) :
    split foreign (compact bytes payload signature) =
      .ok { header, payload, signature
            signingInput := b64Encode bytes ++ "." ++ b64Encode payload } := by
  apply split_eq_ok_iff.mpr
  exact ⟨_, _, _, bytes, split_compact_segments bytes payload signature,
    b64Decode_b64Encode _, read, b64Decode_b64Encode _,
    b64Decode_b64Encode _, rfl⟩

/-- Everything an accepted token determines. -/
theorem compact_of_split {token : String} {parts : Parts}
    (accepted : split foreign token = .ok parts) :
    ∃ bytes,
      headerBytes token = some bytes ∧
        foreign.headerFromSlice bytes = .ok parts.header ∧
        token = compact bytes parts.payload parts.signature ∧
        parts.signingInput =
          b64Encode bytes ++ "." ++ b64Encode parts.payload := by
  obtain ⟨h, p, s, bytes, segments, headerDecoded, headerRead,
    payloadDecoded, signatureDecoded, inputEq⟩ := split_eq_ok_iff.mp accepted
  refine ⟨bytes, by simp [headerBytes, segments, headerDecoded], headerRead,
    eq_compact_of_segments segments headerDecoded payloadDecoded
      signatureDecoded, ?_⟩
  rw [inputEq, b64Decode_eq_some_iff.mp headerDecoded,
    b64Decode_eq_some_iff.mp payloadDecoded]

theorem signingInput_segments {token : String} {parts : Parts}
    (accepted : split foreign token = .ok parts) :
    ∃ h, Text.split '.' parts.signingInput =
      [h, b64Encode parts.payload] := by
  obtain ⟨bytes, _, _, _, inputEq⟩ := compact_of_split accepted
  rw [inputEq]
  exact ⟨_, Text.split_pair (dot_not_mem_b64Encode _)
    (dot_not_mem_b64Encode _)⟩

theorem signingInput_append_signature {token : String} {parts : Parts}
    (accepted : split foreign token = .ok parts) :
    parts.signingInput ++ "." ++ b64Encode parts.signature = token := by
  obtain ⟨bytes, _, _, tokenEq, inputEq⟩ := compact_of_split accepted
  rw [tokenEq, inputEq, compact]

theorem token_eq_of_decoded_eq {left right : String}
    {leftParts rightParts : Parts}
    (leftAccepted : split foreign left = .ok leftParts)
    (rightAccepted : split foreign right = .ok rightParts)
    (sameHeader : headerBytes left = headerBytes right)
    (samePayload : leftParts.payload = rightParts.payload)
    (sameSignature : leftParts.signature = rightParts.signature) :
    left = right := by
  obtain ⟨leftBytes, leftHeader, _, leftEq, _⟩ :=
    compact_of_split leftAccepted
  obtain ⟨rightBytes, rightHeader, _, rightEq, _⟩ :=
    compact_of_split rightAccepted
  have sameBytes : leftBytes = rightBytes := by
    rw [leftHeader, rightHeader] at sameHeader
    exact Option.some.inj sameHeader
  rw [leftEq, rightEq, sameBytes, samePayload, sameSignature]

theorem split_error_of_not_compact {token : String}
    (foreignShape : ∀ bytes payload signature header,
      foreign.headerFromSlice bytes = .ok header →
      token ≠ compact bytes payload signature) :
    ∃ error, split foreign token = .error error := by
  cases result : split foreign token with
  | error error => exact ⟨error, rfl⟩
  | ok parts =>
      obtain ⟨bytes, _, headerRead, tokenEq, _⟩ := compact_of_split result
      exact (foreignShape bytes _ _ _ headerRead tokenEq).elim

/-- The splitter is an exact inverse of the compact encoding, and neither its
`expect` nor its slice can panic. -/
theorem split_inverts_compact (foreign : Foreign) :
    (∀ bytes payload signature header,
      foreign.headerFromSlice bytes = .ok header →
      split foreign (b64Encode bytes ++ "." ++ b64Encode payload ++ "." ++
          b64Encode signature) =
        .ok { header, payload, signature
              signingInput :=
                b64Encode bytes ++ "." ++ b64Encode payload }) ∧
    (∀ token parts, split foreign token = .ok parts →
      (∃ bytes,
        headerBytes token = some bytes ∧
          foreign.headerFromSlice bytes = .ok parts.header ∧
          token = b64Encode bytes ++ "." ++ b64Encode parts.payload ++ "." ++
            b64Encode parts.signature) ∧
      parts.signingInput ++ "." ++ b64Encode parts.signature = token ∧
      ∃ h, Text.split '.' parts.signingInput =
        [h, b64Encode parts.payload]) ∧
    (∀ left right leftParts rightParts,
      split foreign left = .ok leftParts →
      split foreign right = .ok rightParts →
      headerBytes left = headerBytes right →
      leftParts.payload = rightParts.payload →
      leftParts.signature = rightParts.signature → left = right) ∧
    (∀ token,
      (∀ bytes payload signature header,
        foreign.headerFromSlice bytes = .ok header →
        token ≠ b64Encode bytes ++ "." ++ b64Encode payload ++ "." ++
          b64Encode signature) →
      ∃ error, split foreign token = .error error) ∧
    ∀ token, splitOrPanic foreign token ≠ none := by
  refine ⟨?_, ?_, ?_, ?_, ?_⟩
  · intro bytes payload signature header read
    exact split_compact read
  · intro token parts accepted
    obtain ⟨bytes, decoded, read, tokenEq, _⟩ := compact_of_split accepted
    exact ⟨⟨bytes, decoded, read, tokenEq⟩,
      signingInput_append_signature accepted, signingInput_segments accepted⟩
  · intro left right leftParts rightParts leftAccepted rightAccepted
    exact token_eq_of_decoded_eq leftAccepted rightAccepted
  · intro token
    exact split_error_of_not_compact
  · intro token
    exact Option.isSome_iff_ne_none.mp (splitOrPanic_isSome foreign token)

end AuthOidc.Jwt
