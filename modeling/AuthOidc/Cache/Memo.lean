import AuthOidc.Cache
import AuthOidc.Jwt
import AuthOidc.Library.Once

/-!
# Key material decoded once

Callers share the key sets, and a key decodes its material into a `OnceLock`
of its own at its first use.  Here the lookup of a key and the check of the
signature are programs that read this memo; the keys in memory are told apart
by their slots, and a refresh brings fresh ones.
-/

namespace AuthOidc

open Interaction Once Transition

/-- A program that reads the material of keys in memory. -/
abbrev Memoised (Slot Result : Type) :=
  Program Slot KeyMaterial Empty Result

/-- A lookup by `kid` in a key set in memory, for a token. -/
structure Lookup (Slot : Type) where
  keys : List Slot
  kid : String
  parts : Parts

section Programs

variable {Slot T : Type} (foreign : Foreign) (jwk : Slot → Jwk)

/-- The RS256 branch of `verify_signature`, from the material on. -/
def rs256With (parts : Parts) : KeyMaterial → Except String Unit
  | .unusable error => .error error
  | .ec _ => .error "JWKS key material does not match its kty"
  | .rsa n e =>
      if foreign.rsaVerify n e (Rust.Text.asBytes parts.signingInput)
          parts.signature then .ok ()
      else .error "JWT signature verification failed"

/-- The ES256 branch of `verify_signature`, from the material on. -/
def es256With (parts : Parts) : KeyMaterial → Except String Unit
  | .unusable error => .error error
  | .rsa _ _ => .error "JWKS key material does not match its kty"
  | .ec point =>
      if foreign.ecdsaVerify point (Rust.Text.asBytes parts.signingInput)
          parts.signature then .ok ()
      else .error "JWT signature verification failed"

/-- `verify_signature` on a key in memory. -/
def verifySignatureAt (parts : Parts) (slot : Slot) :
    Memoised Slot (Except String Unit) :=
  let key := jwk slot
  let crit := parts.header.crit.getD []
  if crit ≠ [] then
    .ret (.error ("JWT header names critical extension(s) " ++
      foreign.debugList crit ++ " (RFC 7515 §4.1.11) that this verifier " ++
      "does not implement; refusing to process the token"))
  else if key.keyUse = some "enc" then
    .ret (.error ("JWKS key has \"use\": \"enc\" (encryption-only) and " ++
      "must not verify signatures"))
  else if parts.header.alg = "RS256" then
    if key.kty ≠ "RSA" then
      .ret (.error (s!"token alg RS256 but JWKS key kty is {key.kty} " ++
        "(alg/key-type mismatch)"))
    else .ask slot fun material => .ret (rs256With foreign parts material)
  else if parts.header.alg = "ES256" then
    if key.kty ≠ "EC" then
      .ret (.error (s!"token alg ES256 but JWKS key kty is {key.kty} " ++
        "(alg/key-type mismatch)"))
    else if key.crv ≠ some "P-256" then
      .ret (.error ("ES256 requires curve P-256, JWKS key has crv " ++
        foreign.debugOption key.crv))
    else .ask slot fun material => .ret (es256With foreign parts material)
  else
    .ret (.error (s!"unsupported/forbidden JWT alg '" ++
      foreign.escapeDebug parts.header.alg ++
      "': only RS256 and ES256 are accepted"))

/-- `try_all` on the matching keys in memory. -/
def tryKeysAt (f : Slot → Memoised Slot (Except String T)) :
    List Slot → Option String → Memoised Slot (Option (Except String T))
  | [], lastErr => .ret (lastErr.map .error)
  | slot :: rest, _ =>
      (f slot).bind fun
        | .ok v => .ret (some (.ok v))
        | .error e => tryKeysAt f rest (some e)

def Lookup.program (lookup : Lookup Slot) :
    Memoised Slot (Option (Except String Unit)) :=
  tryKeysAt (verifySignatureAt foreign jwk lookup.parts)
    (lookup.keys.filter fun slot => (jwk slot).matchesKid lookup.kid) none

/-- What the memo of a key in memory is filled with. -/
def materialAt (slot : Slot) : KeyMaterial :=
  KeyMaterial.fromJwk (jwk slot)

end Programs

/-! ## The memo and the function -/

variable {Slot T : Type} {foreign : Foreign} {jwk : Slot → Jwk}

theorem verifySignatureAt_eval (parts : Parts) (slot : Slot) :
    (verifySignatureAt foreign jwk parts slot).eval (materialAt jwk) =
      Jwt.verifySignature foreign parts (jwk slot) := by
  unfold verifySignatureAt Jwt.verifySignature
  dsimp only
  split
  · rfl
  split
  · rfl
  split
  · split
    · rfl
    · change rs256With foreign parts (jwk slot).material = _
      cases (jwk slot).material <;> rfl
  split
  · split
    · rfl
    split
    · rfl
    · change es256With foreign parts (jwk slot).material = _
      cases (jwk slot).material <;> rfl
  · rfl

theorem verifySignatureAt_steps_le (parts : Parts) (slot : Slot) :
    programSteps (materialAt jwk) (verifySignatureAt foreign jwk parts slot) ≤
      3 := by
  unfold verifySignatureAt
  dsimp only
  split
  · exact Nat.le_add_left 1 2
  split
  · exact Nat.le_add_left 1 2
  split
  · split
    · exact Nat.le_add_left 1 2
    · exact Nat.le_refl 3
  split
  · split
    · exact Nat.le_add_left 1 2
    split
    · exact Nat.le_add_left 1 2
    · exact Nat.le_refl 3
  · exact Nat.le_add_left 1 2

theorem tryKeysAt_eval {f : Slot → Memoised Slot (Except String T)}
    {plain : Jwk → Except String T}
    (same : ∀ slot, (f slot).eval (materialAt jwk) = plain (jwk slot))
    (keys : List Slot) (lastErr : Option String) :
    (tryKeysAt f keys lastErr).eval (materialAt jwk) =
      tryKeys plain (keys.map jwk) lastErr := by
  induction keys generalizing lastErr with
  | nil => rfl
  | cons slot rest induction =>
      rw [tryKeysAt, Program.eval_bind, same, List.map_cons, tryKeys]
      cases plain (jwk slot) with
      | ok v => rfl
      | error e => exact induction (some e)

theorem tryKeysAt_steps_le {f : Slot → Memoised Slot (Except String T)}
    (short : ∀ slot, programSteps (materialAt jwk) (f slot) ≤ 3)
    (keys : List Slot) (lastErr : Option String) :
    programSteps (materialAt jwk) (tryKeysAt f keys lastErr) ≤
      2 * keys.length + 1 := by
  induction keys generalizing lastErr with
  | nil => exact Nat.le_refl 1
  | cons slot rest induction =>
      rw [tryKeysAt, List.length_cons, Nat.mul_succ, Nat.add_comm _ 2]
      refine programSteps_bind_le (short slot) ?_
      cases (f slot).eval (materialAt jwk) with
      | ok v => exact Nat.le_add_left 1 _
      | error e => exact induction (some e)

theorem Lookup.program_eval (lookup : Lookup Slot) :
    (lookup.program foreign jwk).eval (materialAt jwk) =
      JwksCache.tryAll ⟨lookup.keys.map jwk⟩ lookup.kid
        (Jwt.verifySignature foreign lookup.parts) := by
  rw [Lookup.program, tryKeysAt_eval (verifySignatureAt_eval lookup.parts),
    JwksCache.tryAll, JwkSet.findAll, List.filter_map]
  rfl

theorem Lookup.program_steps_le (lookup : Lookup Slot) :
    programSteps (materialAt jwk) (lookup.program foreign jwk) ≤
      2 * lookup.keys.length + 1 := by
  have matching := List.length_filter_le
    (fun slot => (jwk slot).matchesKid lookup.kid) lookup.keys
  refine (tryKeysAt_steps_le (verifySignatureAt_steps_le lookup.parts) _
    none).trans ?_
  omega

/-- Under every interleaving of callers that look keys up in shared key sets,
the material of a key is decoded at most once, every lookup comes to what it
comes to when each use decodes anew, nobody waits for ever, and a caller is
done after two steps for each key and one more. -/
theorem material_once {ι : Type} [DecidableEq ι] [DecidableEq Slot]
    {lookup : ι → Lookup Slot} {schedule : List ι}
    {history : List (Once.Event ι Slot KeyMaterial)}
    {state :
      Once.State ι Slot KeyMaterial Empty (Option (Except String Unit))}
    (run : (machine (materialAt jwk)).Runs
      (.initial fun c => (lookup c).program foreign jwk) schedule history
      state) :
    (∀ slot, history.countP (Once.Event.starts slot) ≤ 1) ∧
    (∀ c result, state.thread c = .ended result →
      result = JwksCache.tryAll ⟨(lookup c).keys.map jwk⟩ (lookup c).kid
        (Jwt.verifySignature foreign (lookup c).parts)) ∧
    ((machine (materialAt jwk)).Stuck state →
      ∀ c, ∃ result, state.thread c = .ended result) ∧
    ∀ c, schedule.count c ≤ 2 * (lookup c).keys.length + 1 := by
  have coherent := coherent_of_runs run
  refine ⟨?_, ?_, ?_, ?_⟩
  · intro slot
    rw [coherent.starts]
    cases state.cell slot with
    | empty => exact Nat.zero_le 1
    | filling _ | full _ => exact Nat.le_refl 1
  · intro c result ended
    have comes := coherent.eval c
    rw [ended] at comes
    exact comes.trans (lookup c).program_eval
  · intro stuck c
    exact ⟨_, coherent.ended_of_stuck stuck c⟩
  · intro c
    exact (Nat.le_of_add_right_le (count_schedule_le run c)).trans
      (lookup c).program_steps_le

/-! ## A sample run

Two callers on one key: the first decodes it, the second reads the memo. -/

namespace Sample

def lookup : Lookup Unit where
  keys := [()]
  kid := "k1"
  parts := ⟨⟨"ES256", some "k1", none⟩, [], [], "e30.e30"⟩

def memoKey : Jwk where
  kty := "EC"
  kid := some "k1"
  n := none
  e := none
  crv := some "P-256"
  x := some x
  y := some y
  keyUse := some "sig"

def memoSchedule : List Bool :=
  [false, false, true, true, false]

def memoStart :
    Once.State Bool Unit KeyMaterial Empty (Option (Except String Unit)) :=
  .initial fun _ => lookup.program Sample.foreign fun _ => memoKey

theorem memo_enabled :
    ((machine (materialAt fun _ => memoKey)).exec memoStart
      memoSchedule).isSome = true := by
  decide +kernel

def memoOutcome :=
  ((machine (materialAt fun _ => memoKey)).exec memoStart memoSchedule).get
    memo_enabled

theorem memoRun :
    (machine (materialAt fun _ => memoKey)).Runs
      (.initial fun _ => lookup.program Sample.foreign fun _ => memoKey)
      memoSchedule memoOutcome.2 memoOutcome.1 :=
  .of_isSome memo_enabled

end Sample

theorem material_once_sample :
    Sample.memoOutcome.2.countP (Once.Event.starts ()) ≤ 1 :=
  (material_once Sample.memoRun).1 ()

end AuthOidc
