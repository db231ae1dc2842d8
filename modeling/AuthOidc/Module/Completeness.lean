import AuthOidc.Module.Soundness
import AuthOidc.Cache.Healthy
import AuthOidc.Cache.Lookup

/-!
# Completeness of verification

Every verification comes to a verdict.  And when the provider publishes, with
every fetch, a key that verifies a token, the token is never refused for the
sake of its signature: its claims alone decide, however many other callers are
under way and whatever they ask for.
-/

namespace AuthOidc

open Rust SerdeJson Transition Interaction

/-- The published document holds a key that the token asks for and that
verifies its signature. -/
def Publishes (foreign : Foreign) (parts : Parts)
    (body : Except String String) : Prop :=
  ∃ text set, body = .ok text ∧ JwkSet.parse foreign text = .ok set ∧
    ∃ key ∈ set.keys, key.GoesBy (parts.header.kid.getD "") ∧
      Jwt.verifySignature foreign parts key = .ok ()

namespace OidcModule

/-- After a success of the cache the claims decide. -/
theorem verifyAnswer_yields_of_ok {foreign : Foreign}
    {verifier : OidcVerifier} {parts : Parts} {nowUnix : Int64}
    {answer : Call Unit → Except String Unit → Prop} {verdict : AuthVerdict}
    (yields : (verifyAnswer foreign verifier parts nowUnix
      (.ok ())).Yields answer verdict) :
    (∃ claims principal, foreign.valueFromSlice parts.payload = .ok claims ∧
        verifier.validateClaims claims nowUnix = .ok principal ∧
        verdict = .identify principal) ∨
      ((∀ claims, foreign.valueFromSlice parts.payload = .ok claims →
        ∃ e, verifier.validateClaims claims nowUnix = .error e) ∧
        verdict = .reject) := by
  simp only [← Jwt.claims_eq_ok_iff]
  dsimp only [verifyAnswer, verifyClaims] at yields
  cases read : Jwt.claims foreign parts with
  | error e =>
      simp only [read, Program.Yields] at yields
      refine .inr ⟨fun _ found => ?_, yields.symm⟩
      cases found
  | ok claims =>
      cases validated : verifier.validateClaims claims nowUnix with
      | error e =>
          simp only [read, validated, Program.Yields] at yields
          refine .inr ⟨fun other found => ?_, yields.symm⟩
          cases found
          exact ⟨e, validated⟩
      | ok principal =>
          simp only [read, validated, Program.Yields] at yields
          exact .inl ⟨claims, principal, rfl, validated, yields.symm⟩

/-- From the answer of the cache on there is one verdict. -/
theorem verifyAnswer_yields_unique (foreign : Foreign)
    (verifier : OidcVerifier) (parts : Parts) (nowUnix : Int64)
    (answer : Call Unit → Except String Unit → Prop)
    (response : Except String Unit) :
    ∃! verdict, (verifyAnswer foreign verifier parts nowUnix
      response).Yields answer verdict := by
  unfold verifyAnswer verifyClaims
  cases response with
  | error e => simp [Program.Yields]
  | ok accepted =>
      cases Jwt.claims foreign parts with
      | error e => simp [Program.Yields]
      | ok claims =>
          dsimp only
          cases verifier.validateClaims claims nowUnix with
          | error e => simp [Program.Yields]
          | ok principal => simp [Program.Yields]

end OidcModule

variable {ι : Type}

namespace System

variable {system : System ι Unit} {schedule : List (Action ι)}
  {history : List (Event ι)} {state : State ι Unit}

/-- Published documents make the provider healthy for the call that verifies
the token. -/
theorem healthy_of_publishes {parts : Parts} {c : ι} {nowMono : Instant}
    (asks : system.call c = ⟨parts.header.kid.getD "", nowMono,
      Jwt.verifySignature system.foreign parts⟩)
    (published : ∀ owner body, .returned owner body ∈ history →
      Publishes system.foreign parts body) : system.Healthy history c := by
  intro owner body returned
  obtain ⟨text, set, rfl, parsed, key, member, goesBy, accepted⟩ :=
    published owner body returned
  refine ⟨set, parsed, ?_⟩
  unfold Accepts
  rw [asks]
  exact ⟨key, member, goesBy, (), accepted⟩

variable [DecidableEq ι]

/-- A call that verifies a token with published keys does not fail. -/
theorem Runs.done_ok_of_publishes (run : system.Runs schedule history state)
    (positive : 0 < system.cache.minRefetchInterval.nanos)
    (outlasted : system.cache.minRefetchInterval ≤ system.cache.maxStale)
    {parts : Parts} {c : ι} {nowMono : Instant} {result : Except String Unit}
    (asks : system.call c = ⟨parts.header.kid.getD "", nowMono,
      Jwt.verifySignature system.foreign parts⟩)
    (published : ∀ owner body, .returned owner body ∈ history →
      Publishes system.foreign parts body)
    (finished : state.phase c = .done result) : result = .ok () := by
  have onTrack := run.onTrack positive outlasted c
    (healthy_of_publishes asks published)
  rw [finished] at onTrack
  cases onTrack with
  | done => rfl

/-- The lookup that finds a key is the last step of its caller. -/
theorem Runs.found (run : system.Runs schedule history state) {c : ι}
    {round : Round} {set : JwkSet} {key : Jwk} {kid : String} {now : Instant}
    {f : Jwk → Except String Unit} (lookup : state.phase c = .lookup round set)
    (asks : system.call c = ⟨kid, now, f⟩) (member : key ∈ set.keys)
    (goesBy : key.GoesBy kid) (accepted : f key = .ok ()) :
    system.Runs (schedule ++ [.run c]) (history ++ system.invocations c set)
      (state.move c (.done (.ok ()))) := by
  obtain ⟨⟨⟩, tried⟩ := JwksCache.exists_tryAll_eq_ok_iff.mpr
    ⟨key, member, goesBy, (), accepted⟩
  refine run.trans (.single ?_)
  change system.runStep state c = _
  rw [runStep, lookup]
  dsimp only
  rw [system.afterLookup_of_some (by rw [asks]; exact tried)]

/-- While every fetch brings a key that verifies the token, the verdict on the
token is that of its claims. -/
theorem Runs.verify_with_complete (run : system.Runs schedule history state)
    (positive : 0 < system.cache.minRefetchInterval.nanos)
    (outlasted : system.cache.minRefetchInterval ≤ system.cache.maxStale)
    {verifier : OidcVerifier} {token : String} {parts : Parts}
    {nowUnix : Int64} {nowMono : Instant} {verdict : AuthVerdict}
    (splits : Jwt.split system.foreign token = .ok parts)
    (published : ∀ owner body, .returned owner body ∈ history →
      Publishes system.foreign parts body)
    (yields : (OidcModule.verifyWith system.foreign verifier token nowUnix
      nowMono).Yields (system.Answered state) verdict) :
    (∃ claims principal,
        system.foreign.valueFromSlice parts.payload = .ok claims ∧
        verifier.validateClaims claims nowUnix = .ok principal ∧
        verdict = .identify principal) ∨
      ((∀ claims, system.foreign.valueFromSlice parts.payload = .ok claims →
        ∃ e, verifier.validateClaims claims nowUnix = .error e) ∧
        verdict = .reject) := by
  rw [OidcModule.verifyWith, splits] at yields
  obtain ⟨response, ⟨c, asks, finished⟩, answered⟩ := yields
  rw [run.done_ok_of_publishes positive outlasted asks published finished]
    at answered
  exact OidcModule.verifyAnswer_yields_of_ok answered

/-- What the caller is answered. -/
def AnsweredTo (system : System ι Unit) (state : State ι Unit) (c : ι)
    (call : Call Unit) (result : Except String Unit) : Prop :=
  system.call c = call ∧ state.phase c = .done result

/-- Verifications come to an end: a run is not longer than seventeen steps for
each caller, it can always be completed, and once nobody can go on every
caller has one verdict. -/
theorem Runs.verify_with_ends [Fintype ι]
    (run : system.Runs schedule history state) :
    schedule.length ≤ 17 * Fintype.card ι ∧
      (∃ later laterHistory final,
        system.machine.Runs state later laterHistory final ∧
          system.machine.Stuck final) ∧
      (system.machine.Stuck state →
        ∀ c verifier token nowUnix nowMono,
          (∀ parts, Jwt.split system.foreign token = .ok parts →
            system.call c = ⟨parts.header.kid.getD "", nowMono,
              Jwt.verifySignature system.foreign parts⟩) →
          ∃! verdict, (OidcModule.verifyWith system.foreign verifier token
            nowUnix nowMono).Yields (system.AnsweredTo state c) verdict) := by
  refine ⟨schedule_length_le run, ?_, ?_⟩
  · exact Machine.Runs.exists_stuck fun _ _ _ laterRun =>
      schedule_length_le laterRun
  · intro stuck c verifier token nowUnix nowMono asks
    obtain ⟨result, finished⟩ := Runs.done_of_stuck run stuck c
    unfold OidcModule.verifyWith
    cases splits : Jwt.split system.foreign token with
    | error e => simp [Program.Yields]
    | ok parts =>
        obtain ⟨verdict, yields, only⟩ :=
          OidcModule.verifyAnswer_yields_unique system.foreign verifier parts
            nowUnix (system.AnsweredTo state c) result
        refine ⟨verdict, ⟨result, ⟨asks parts splits, finished⟩, yields⟩, ?_⟩
        rintro other ⟨response, ⟨_, done⟩, otherYields⟩
        rw [finished] at done
        cases done
        exact only other otherYields

end System

namespace Sample

/-- The key of the document. -/
def key : Jwk where
  kty := "EC"
  kid := some "k1"
  n := none
  e := none
  crv := some "P-256"
  x := some x
  y := some y
  keyUse := some "sig"

theorem key_accepted : Jwt.verifySignature foreign parts key = .ok () := by
  decide +kernel

theorem claims_read :
    foreign.valueFromSlice parts.payload = .ok claims := by
  simp only [foreign, parts, if_pos]

theorem claims_validated :
    verifier.validateClaims claims 1799999000 = .ok principal := by
  decide +kernel

/-- The steps before the lookup. -/
def fetchSchedule : List (Action Unit) :=
  List.replicate 4 (.run ()) ++ .fetched () (.ok document) ::
    List.replicate 2 (.run ())

theorem fetch_enabled :
    (verification.machine.exec .fresh fetchSchedule).isSome = true := by
  decide +kernel

def lookingUp : State Unit Unit × List (Event Unit) :=
  (verification.machine.exec .fresh fetchSchedule).get fetch_enabled

theorem lookingUpRun :
    verification.Runs fetchSchedule lookingUp.2 lookingUp.1 :=
  .of_isSome fetch_enabled

theorem verification_asks : verification.call () =
    ⟨parts.header.kid.getD "", 0, Jwt.verifySignature foreign parts⟩ :=
  rfl

theorem lookingUp_phase :
    lookingUp.1.phase () = .lookup .first keySet := by
  decide +kernel

def accepted : State Unit Unit :=
  lookingUp.1.move () (.done (.ok ()))

def acceptedHistory : List (Event Unit) :=
  lookingUp.2 ++ verification.invocations () keySet

theorem acceptedRun : verification.Runs (fetchSchedule ++ [.run ()])
    acceptedHistory accepted :=
  System.Runs.found lookingUpRun lookingUp_phase verification_asks
    (List.mem_singleton.mpr rfl) (.inl rfl) key_accepted

theorem accepted_answered : verification.Answered accepted
    ⟨parts.header.kid.getD "", 0, Jwt.verifySignature foreign parts⟩
    (.ok ()) :=
  ⟨(), verification_asks, rfl⟩

theorem returned_document {owner : Unit} {body : Except String String}
    (returned : .returned owner body ∈ acceptedHistory) :
    body = .ok document := by
  have scheduled := System.Runs.scheduled_of_returned acceptedRun returned
  simpa [fetchSchedule] using scheduled

end Sample

namespace System

theorem Runs.verify_with_complete_sample :
    ∃ claims principal,
      Sample.foreign.valueFromSlice Sample.parts.payload = .ok claims ∧
      Sample.verifier.validateClaims claims 1799999000 = .ok principal ∧
      AuthVerdict.identify Sample.principal = .identify principal := by
  have published : ∀ owner body, .returned owner body ∈
      Sample.acceptedHistory → Publishes Sample.foreign Sample.parts body := by
    intro owner body returned
    exact ⟨Sample.document, Sample.keySet, Sample.returned_document returned,
      Sample.document_parsed, Sample.key, List.mem_singleton.mpr rfl, .inl rfl,
      Sample.key_accepted⟩
  have yields : (OidcModule.verifyWith Sample.foreign Sample.verifier
      Sample.token 1799999000 0).Yields
        (Sample.verification.Answered Sample.accepted)
        (.identify Sample.principal) :=
    OidcModule.verifyWith_yields_identify_iff.mpr
      ⟨Sample.parts, Sample.claims, Sample.split_token,
        Sample.accepted_answered, Sample.claims_read, Sample.claims_validated⟩
  rcases Runs.verify_with_complete Sample.acceptedRun (by decide) (by decide)
    Sample.split_token published yields with identified | ⟨_, rejected⟩
  · exact identified
  · cases rejected

theorem Runs.verify_with_ends_sample :
    ∃! verdict, (OidcModule.verifyWith Sample.foreign Sample.verifier
      Sample.token 1799999000 0).Yields
        (Sample.verification.AnsweredTo Sample.accepted ()) verdict := by
  have stuck : Sample.verification.machine.Stuck Sample.accepted := by
    intro action
    cases action with
    | run _ => rfl
    | fetched _ body => rfl
  refine (Runs.verify_with_ends Sample.acceptedRun).2.2 stuck () _ _ _ _ ?_
  intro parts splits
  cases Sample.split_token.symm.trans splits
  exact Sample.verification_asks

end System

end AuthOidc
