import AuthOidc.Cache.Refinement
import AuthOidc.Module.Completeness

/-!
# Verification on threads that may panic

The soundness of verification carried down to the code with its locks: whatever
the fetcher, the closures and the logger do on other threads, an identified
principal comes from a token that an allowed document vouches for.
-/

namespace AuthOidc

open Rust SerdeJson Interaction

variable {ι : Type}

namespace System

/-- What the cache answers in the state: the results of the calls that have
returned. -/
def LockAnswered (system : System ι Unit) (state : LockState ι Unit)
    (call : Call Unit) (result : Except String Unit) : Prop :=
  ∃ c, system.call c = call ∧ state.thread c = .ended (some result)

variable [DecidableEq ι] {system : System ι Unit} {allowed : String → Prop}
  {state : LockState ι Unit}

/-- A call that returns with a success accepted a key of an allowed
document. -/
theorem lock_accepted_key (reached :
    Locking.Reachable (system.Lawful allowed) system.lockStart state) {c : ι}
    (returned : state.thread c = .ended (some (.ok ()))) :
    ∃ text set key, allowed text ∧
      JwkSet.parse system.foreign text = .ok set ∧
      key ∈ set.findAll (system.call c).kid ∧
      (system.call c).f key = .ok () := by
  obtain ⟨schedule, history, coarse, run, fetched, represents⟩ :=
    represented_of_reachable reached
  have done := represents.done_of_ended returned
  obtain ⟨owner, text, set, key, bodyReturned, parsed, found, accepted⟩ :=
    run.accepted_key done
  exact ⟨text, set, key,
    fetched owner text (run.scheduled_of_returned bodyReturned), parsed,
    found, accepted⟩

/-- An identified principal is the result of validating the claims of a token
that a key of an allowed document vouches for. -/
theorem lock_verify_with_sound (reached :
    Locking.Reachable (system.Lawful allowed) system.lockStart state)
    {verifier : OidcVerifier} {token : String} {nowUnix : Int64}
    {nowMono : Instant} {principal : Principal}
    (identified :
      (OidcModule.verifyWith system.foreign verifier token nowUnix
        nowMono).Yields (system.LockAnswered state) (.identify principal)) :
    ∃ text set key h p s header payload claims, allowed text ∧
      JwkSet.parse system.foreign text = .ok set ∧ key ∈ set.keys ∧
      Vouches system.foreign key token h p s header payload ∧
      system.foreign.valueFromSlice payload = .ok claims ∧
      verifier.validateClaims claims nowUnix = .ok principal := by
  obtain ⟨parts, claims, splits, ⟨c, callEq, returned⟩, read, validated⟩ :=
    OidcModule.verifyWith_yields_identify_iff.mp identified
  obtain ⟨text, set, key, textAllowed, parsed, found, accepted⟩ :=
    lock_accepted_key reached returned
  rw [callEq] at found accepted
  obtain ⟨h, p, s, vouches⟩ := Vouches.of_accepted splits found accepted
  exact ⟨text, set, key, h, p, s, parts.header, parts.payload, claims,
    textAllowed, parsed, (JwkSet.mem_findAll_iff.mp found).1, vouches, read,
    validated⟩

end System

namespace Sample

/-- What outside code answers; the key of the document is known to verify. -/
def answers : ∀ query : Outside, Unit → query.Answer Unit
  | .fetch _, _ => .ok document
  | .apply other, _ =>
      if other = key then .ok () else Jwt.verifySignature foreign parts other
  | .warn _, _ => ()

theorem verifying_enabled :
    ((List.replicate 17 ()).foldlM (Locking.State.proceed answers)
      verification.lockStart).isSome = true := by
  decide +kernel

def lockVerified : System.LockState Unit Unit :=
  Option.get _ verifying_enabled

theorem lockVerified_reached :
    Locking.Reachable (verification.Lawful (· = document))
      verification.lockStart lockVerified := by
  have lawful : ∀ c query, verification.Lawful (· = document) c
      (.answered query (answers query c)) := by
    intro c query
    cases query with
    | fetch url =>
        intro text same
        exact (Except.ok.inj same).symm
    | apply other =>
        change (if other = key then .ok () else
          Jwt.verifySignature foreign parts other) =
            Jwt.verifySignature foreign parts other
        by_cases same : other = key
        · rw [if_pos same, same, key_accepted]
        · rw [if_neg same]
    | warn error => trivial
  exact .of_answers (fun _ => trivial) lawful
    (Option.some_get verifying_enabled).symm

end Sample

namespace System

theorem lock_verify_with_sound_sample :
    ∃ key h p s header payload claims,
      Vouches Sample.foreign key Sample.token h p s header payload ∧
      Sample.foreign.valueFromSlice payload = .ok claims ∧
      Sample.verifier.validateClaims claims 1799999000 =
        .ok Sample.principal := by
  have returned : (Sample.lockVerified.thread ()).returned =
      some (.ok ()) := by
    decide +kernel
  have answered : Sample.verification.LockAnswered Sample.lockVerified
      ⟨Sample.parts.header.kid.getD "", 0,
        Jwt.verifySignature Sample.foreign Sample.parts⟩ (.ok ()) :=
    ⟨(), rfl, Locking.Thread.ended_of_returned returned⟩
  have identified :
      (OidcModule.verifyWith Sample.foreign Sample.verifier Sample.token
        1799999000 0).Yields
        (Sample.verification.LockAnswered Sample.lockVerified)
        (.identify Sample.principal) :=
    OidcModule.verifyWith_yields_identify_iff.mpr
      ⟨Sample.parts, Sample.claims, Sample.split_token, answered,
        Sample.claims_read, Sample.claims_validated⟩
  obtain ⟨_, _, key, h, p, s, header, payload, claims, _, _, _, vouches,
    read, validated⟩ :=
    lock_verify_with_sound Sample.lockVerified_reached identified
  exact ⟨key, h, p, s, header, payload, claims, vouches, read, validated⟩

end System

end AuthOidc
