import AuthOidc.Jwt

/-!
# The texts of signature errors

What an error of the signature check says is put together from fixed texts and
from strings that the token or the key set brought along.  All of these are
escaped but one: the key type, in the error about an algorithm that it does not
match.
-/

namespace AuthOidc

open Rust Charset

/-- What the formatters and the JSON reader promise of the texts they write.
An error of the reader consists of fixed texts and of strings in their `Debug`
form. -/
structure Foreign.Escapes (foreign : Foreign) : Prop where
  escapeDebug : ∀ text, Text.ControlFree (foreign.escapeDebug text)
  debugStr : ∀ text, Text.ControlFree (foreign.debugStr text)
  debugDuration : ∀ duration,
    Text.ControlFree (foreign.debugDuration duration)
  jwksError : ∀ body error, foreign.jwksEntriesFromStr body = .error error →
    Assembled (fun piece => Text.ControlFree piece ∨
      ∃ text, piece = foreign.debugStr text) error

namespace Foreign.Escapes

variable {foreign : Foreign}

theorem debugList (escapes : foreign.Escapes) (texts : List String) :
    Text.ControlFree (foreign.debugList texts) := by
  have pieces : ∀ text ∈ texts.map foreign.debugStr,
      Text.ControlFree text := by
    intro text member
    obtain ⟨source, _, rfl⟩ := List.mem_map.mp member
    exact escapes.debugStr source
  have inner := avoids_intercalate
    (show Text.ControlFree ", " by decide) pieces
  exact (Avoids.append (by decide) inner).append (by decide)

theorem debugOption (escapes : foreign.Escapes) (text : Option String) :
    Text.ControlFree (foreign.debugOption text) := by
  cases text with
  | none => exact (by decide : Text.ControlFree "None")
  | some text =>
      exact (Avoids.append (by decide) (escapes.debugStr text)).append
        (by decide)

theorem jwksError_controlFree (escapes : foreign.Escapes)
    {body error : String}
    (refused : foreign.jwksEntriesFromStr body = .error error) :
    Text.ControlFree error := by
  apply (escapes.jwksError body error refused).avoids
  intro piece known
  rcases known with free | ⟨text, rfl⟩
  · exact free
  · exact escapes.debugStr text

theorem parse_controlFree (escapes : foreign.Escapes) {body error : String}
    (failed : JwkSet.parse foreign body = .error error) :
    Text.ControlFree error := by
  unfold JwkSet.parse at failed
  split at failed
  · rename_i refused
    cases failed
    exact Avoids.append (by decide) (escapes.jwksError_controlFree refused)
  · dsimp only at failed
    split at failed
    · cases failed
      decide +kernel
    · cases failed

end Foreign.Escapes

theorem b64_controlFree {field : Option String} {what error : String}
    (known : Text.ControlFree what) (failed : b64 field what = .error error) :
    Text.ControlFree error := by
  unfold b64 at failed
  split at failed
  · cases failed
    exact Avoids.append (by decide) known
  · split at failed
    · cases failed
      exact (Avoids.append (by decide) known).append (by decide)
    · cases failed

/-- The material of a key of a known type names the fields it lacks, and
nothing that the key says. -/
theorem material_controlFree {key : Jwk} {error : String}
    (known : key.kty = "RSA" ∨ key.kty = "EC")
    (unusable : key.material = .unusable error) :
    Text.ControlFree error := by
  unfold Jwk.material KeyMaterial.fromJwk at unusable
  split at unusable
  · split at unusable
    · rename_i failed
      cases unusable
      exact b64_controlFree (by decide) failed
    · split at unusable
      · rename_i failed
        cases unusable
        exact b64_controlFree (by decide) failed
      · cases unusable
  · rename_i notRsa
    rw [if_pos (known.resolve_left notRsa)] at unusable
    split at unusable
    · rename_i failed
      cases unusable
      exact b64_controlFree (by decide) failed
    · split at unusable
      · rename_i failed
        cases unusable
        exact b64_controlFree (by decide) failed
      · cases unusable

namespace Jwt

/-- The check ends in the error about the algorithm and the key type: nothing
is wrong before that, the algorithm is one of the two, and the type is not the
one it takes. -/
def KtyMismatch (parts : Parts) (key : Jwk) : Prop :=
  parts.header.crit.getD [] = [] ∧ key.keyUse ≠ some "enc" ∧
    (parts.header.alg = "RS256" ∧ key.kty ≠ "RSA" ∨
      parts.header.alg = "ES256" ∧ key.kty ≠ "EC")

variable {foreign : Foreign} {parts : Parts} {key : Jwk} {error : String}

/-- In the error about the key type, the type is as the key set has it. -/
theorem verifySignature_of_ktyMismatch (foreign : Foreign)
    (mismatch : KtyMismatch parts key) :
    ∃ before after, Text.ControlFree before ∧ Text.ControlFree after ∧
      verifySignature foreign parts key =
        .error (before ++ key.kty ++ after) := by
  have afterFree : Text.ControlFree (" " ++ "(alg/key-type mismatch)") := by
    decide +kernel
  obtain ⟨noCrit, notEnc, ⟨alg, kty⟩ | ⟨alg, kty⟩⟩ := mismatch
  · refine ⟨"token alg RS256 but JWKS key kty is ", _, by decide +kernel,
      afterFree, ?_⟩
    rw [← String.append_assoc]
    simp only [verifySignature, noCrit, notEnc, alg, kty, ne_eq,
      not_true_eq_false, ↓reduceIte, not_false_eq_true]
    rfl
  · refine ⟨"token alg ES256 but JWKS key kty is ", _, by decide +kernel,
      afterFree, ?_⟩
    rw [← String.append_assoc]
    simp only [verifySignature, noCrit, notEnc, alg, kty, ne_eq,
      not_true_eq_false, ↓reduceIte, String.reduceEq, not_false_eq_true]
    rfl

/-- Every other error is escaped throughout. -/
theorem verifySignature_controlFree (escapes : foreign.Escapes)
    (matching : ¬ KtyMismatch parts key)
    (rejected : verifySignature foreign parts key = .error error) :
    Text.ControlFree error := by
  have failedFree : Text.ControlFree "JWT signature verification failed" := by
    decide +kernel
  have materialFree :
      Text.ControlFree "JWKS key material does not match its kty" := by
    decide +kernel
  unfold verifySignature at rejected
  dsimp only at rejected
  split at rejected
  · cases rejected
    exact ((Avoids.append (by decide +kernel) (escapes.debugList _)).append
      (by decide +kernel)).append (by decide +kernel)
  rename_i noCrit
  split at rejected
  · cases rejected
    decide +kernel
  rename_i notEnc
  split at rejected
  · rename_i alg
    split at rejected
    · rename_i kty
      exact absurd ⟨not_not.mp noCrit, notEnc, .inl ⟨alg, kty⟩⟩ matching
    rename_i kty
    split at rejected
    · rename_i unusable
      cases rejected
      exact material_controlFree (.inl (not_not.mp kty)) unusable
    · cases rejected
      exact materialFree
    · split at rejected
      · cases rejected
      · cases rejected
        exact failedFree
  split at rejected
  · rename_i alg
    split at rejected
    · rename_i kty
      exact absurd ⟨not_not.mp noCrit, notEnc, .inr ⟨alg, kty⟩⟩ matching
    rename_i kty
    split at rejected
    · cases rejected
      exact Avoids.append (by decide +kernel) (escapes.debugOption _)
    split at rejected
    · rename_i unusable
      cases rejected
      exact material_controlFree (.inr (not_not.mp kty)) unusable
    · cases rejected
      exact materialFree
    · split at rejected
      · cases rejected
      · cases rejected
        exact failedFree
  · cases rejected
    exact (Avoids.append (by decide +kernel) (escapes.escapeDebug _)).append
      (by decide +kernel)

/-- The error has no control character exactly if a key type that it quotes has
none. -/
theorem verifySignature_controlFree_iff (escapes : foreign.Escapes)
    (rejected : verifySignature foreign parts key = .error error) :
    Text.ControlFree error ↔
      (KtyMismatch parts key → Text.ControlFree key.kty) := by
  by_cases mismatch : KtyMismatch parts key
  · obtain ⟨before, after, beforeFree, afterFree, quoted⟩ :=
      verifySignature_of_ktyMismatch foreign mismatch
    rw [quoted, Except.error.injEq] at rejected
    simp only [← rejected, avoids_append, beforeFree, afterFree, true_and,
      and_true, mismatch, true_imp_iff]
  · exact ⟨fun _ holds => absurd holds mismatch,
      fun _ => verifySignature_controlFree escapes mismatch rejected⟩

end Jwt

end AuthOidc
