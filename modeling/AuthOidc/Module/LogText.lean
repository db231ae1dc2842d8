import AuthOidc.Module.Soundness
import AuthOidc.Jwt.ErrorText
import AuthOidc.Cache.Lookup
import AuthOidc.Cache.Rejection

/-!
# What an unverified token writes to the log

A token that is rejected before a signature was accepted leaves one warning,
with the error of its `with_key` call.  That text quotes the token and the key
set, and it keeps their control characters out, but for those of a key type.
-/

namespace AuthOidc

open Rust Transition Interaction Charset Text

namespace JwksCache

variable {self : JwksCache} {foreign : Foreign}

theorem ceilingError_controlFree (escapes : foreign.Escapes)
    (urlFree : ControlFree self.url) :
    ControlFree (self.ceilingError foreign) := by
  have past := Avoids.append
    (show ControlFree "cached JWKS from " by decide +kernel) urlFree
  have limit := ((past.append (show ControlFree
    " is past the absolute staleness " by decide +kernel)).append
    (show ControlFree "ceiling (" by decide +kernel)).append
    (escapes.debugDuration self.maxStale)
  exact (((limit.append (by decide +kernel)).append
    (by decide +kernel)).append (by decide +kernel)).append
    (by decide +kernel)

theorem neverFetchedError_controlFree (urlFree : ControlFree self.url) :
    ControlFree self.neverFetchedError :=
  (((Avoids.append (by decide +kernel) urlFree).append
    (by decide +kernel)).append (by decide +kernel)).append
    (by decide +kernel)

theorem unknownKidError_controlFree (escapes : foreign.Escapes)
    (kid : String) : ControlFree (unknownKidError foreign kid) :=
  ((Avoids.append (by decide +kernel) (escapes.escapeDebug kid)).append
    (by decide +kernel)).append (by decide +kernel)

end JwksCache

namespace OidcModule

/-- Answered with an error, a verification rejects and warns about it. -/
theorem verifyWith_run_of_error {World : Type} {foreign : Foreign}
    {verifier : OidcVerifier} {token : String} {parts : Parts}
    {nowUnix : Int64} {nowMono : Instant} {e : String}
    (splits : Jwt.split foreign token = .ok parts)
    (handler : World → Call Unit → Except String Unit × World)
    (world : World)
    (answered : (handler world ⟨parts.header.kid.getD "", nowMono,
      Jwt.verifySignature foreign parts⟩).1 = .error e) :
    let outcome := (verifyWith foreign verifier token nowUnix nowMono).run
      handler world
    outcome.1 = .reject ∧
      outcome.2.1 =
        [⟨e, "OIDC token signature verification failed"⟩] := by
  simp only [verifyWith, splits, Program.run, answered, verifyAnswer,
    and_self]

end OidcModule

/-- The last key of the set that goes by the kid of the token is of a type that
the algorithm of the token does not take, and this type has a control
character. -/
def QuotesControl (parts : Parts) (set : JwkSet) : Prop :=
  ∃ key, (set.findAll (parts.header.kid.getD "")).getLast? = some key ∧
    Jwt.KtyMismatch parts key ∧ ¬ ControlFree key.kty

/-- The rejection of a lookup is the one of the last key found. -/
theorem getLast?_of_tryAll_error {T : Type} {set : JwkSet} {kid e : String}
    {f : Jwk → Except String T}
    (tried : JwksCache.tryAll set kid f = some (.error e)) :
    ∃ key, (set.findAll kid).getLast? = some key ∧ f key = .error e := by
  have first := FirstSuccess.iff_tryKeys.mpr tried
  cases first with
  | rejected found _ last =>
      refine ⟨_, ?_, last⟩
      rw [found, List.getLast?_append]
      rfl

theorem controlFree_iff_of_tryAll {foreign : Foreign}
    (escapes : foreign.Escapes) {parts : Parts} {set : JwkSet} {e : String}
    (tried : JwksCache.tryAll set (parts.header.kid.getD "")
      (Jwt.verifySignature foreign parts) = some (.error e)) :
    ControlFree e ↔ ¬ QuotesControl parts set := by
  obtain ⟨key, isLast, rejected⟩ := getLast?_of_tryAll_error tried
  rw [Jwt.verifySignature_controlFree_iff escapes rejected]
  constructor
  · intro free quotes
    obtain ⟨other, otherLast, mismatch, quoted⟩ := quotes
    rw [isLast, Option.some.injEq] at otherLast
    subst otherLast
    exact quoted (free mismatch)
  · intro quiet mismatch
    by_contra quoted
    exact quiet ⟨key, isLast, mismatch, quoted⟩

/-- Only a lookup that finds keys quotes one. -/
theorem QuotesControl.tryAll_ne_none {T : Type} {parts : Parts}
    {set : JwkSet} {f : Jwk → Except String T}
    (quotes : QuotesControl parts set) :
    JwksCache.tryAll set (parts.header.kid.getD "") f ≠ none := by
  intro unmatched
  obtain ⟨key, isLast, _⟩ := quotes
  rw [tryKeys_eq_none.mp unmatched] at isLast
  cases isLast

namespace System

variable {ι T : Type} {history : List (Event ι)} {e : String}

/-- The fetcher's own error texts are free of control characters. -/
def FetcherControlFree (history : List (Event ι)) : Prop :=
  ∀ owner error, .returned owner (.error error) ∈ history → ControlFree error

theorem RefreshError.controlFree {system : System ι T}
    (escapes : system.foreign.Escapes)
    (urlFree : ControlFree system.cache.url)
    (fetcherFree : FetcherControlFree history)
    (error : RefreshError system history e) : ControlFree e := by
  cases error with
  | ceiling => exact JwksCache.ceilingError_controlFree escapes urlFree
  | @fetch owner body _ returned outcome =>
      cases body with
      | error text =>
          cases outcome
          exact fetcherFree owner _ returned
      | ok body => exact escapes.parse_controlFree outcome

theorem Rejected.controlFree {system : System ι Unit} {state : State ι Unit}
    (escapes : system.foreign.Escapes)
    (urlFree : ControlFree system.cache.url)
    (fetcherFree : FetcherControlFree history) {parts : Parts} {c : ι}
    {nowMono : Instant}
    (asks : system.call c = ⟨parts.header.kid.getD "", nowMono,
      Jwt.verifySignature system.foreign parts⟩)
    (rejected : Rejected system history state c e)
    (quiet : ∀ round set, state.phase c = .lookup round set →
      ¬ QuotesControl parts set) : ControlFree e := by
  cases rejected with
  | refresh error => exact error.controlFree escapes urlFree fetcherFree
  | neverFetched => exact JwksCache.neverFetchedError_controlFree urlFree
  | unknownKid => exact JwksCache.unknownKidError_controlFree escapes _
  | lookup stands tried =>
      rw [asks] at tried
      exact (controlFree_iff_of_tryAll escapes tried).mpr (quiet _ _ stands)

end System

/-! ## A sample with formatters that escape

On ASCII text they write what those of the standard library do. -/

namespace Sample

def backslash : Char := Char.ofNat 0x5C

/-- The escape of a control character. -/
def escapeControl (code : Nat) : List Char :=
  match code with
  | 0x0 => [backslash, '0']
  | 0x9 => [backslash, 't']
  | 0xA => [backslash, 'n']
  | 0xD => [backslash, 'r']
  | code => backslash :: 'u' :: Char.ofNat 0x7B :: Nat.toDigits 16 code ++
      [Char.ofNat 0x7D]

def escapeChar (quotes : List Char) (character : Char) : List Char :=
  if isAsciiControl character then escapeControl character.toNat
  else if character ∈ backslash :: quotes then [backslash, character]
  else [character]

def singleQuote : Char := Char.ofNat 0x27

def doubleQuote : Char := Char.ofNat 0x22

theorem escapeChar_controlFree (quotes : List Char) (character : Char) :
    ∀ written ∈ escapeChar quotes character,
      isAsciiControl written = false := by
  have controls : ∀ code < 128,
      (escapeControl code).all (fun written => !isAsciiControl written) =
        true := by
    decide +kernel
  intro written member
  unfold escapeChar at member
  split at member
  · rename_i control
    have ascii : character.toNat < 128 := by
      simp only [isAsciiControl, Bool.or_eq_true, decide_eq_true_eq,
        beq_iff_eq] at control
      omega
    have escaped := List.all_eq_true.mp (controls _ ascii) written member
    simpa using escaped
  · rename_i plain
    have same : written = backslash ∨ written = character := by
      split at member <;> simp_all
    rcases same with rfl | rfl
    · decide
    · exact Bool.eq_false_iff.mpr plain

def forgedDocument : String :=
  "\x7b\"keys\":[\x7b\"kid\":\"k1\",\"kty\":\"oct\\nWARN\"\x7d]\x7d"

/-- The sample with formatters that escape, and a key set whose key type breaks
the line. -/
def escaping : Foreign :=
  { foreign with
    escapeDebug := fun text => String.ofList
      (text.toList.flatMap (escapeChar [singleQuote, doubleQuote]))
    debugStr := fun text => String.ofList (doubleQuote ::
      text.toList.flatMap (escapeChar [doubleQuote])) ++
        String.ofList [doubleQuote]
    jwksEntriesFromStr := fun body =>
      if body = forgedDocument then
        .ok [.object [("kid", .string "k1"), ("kty", .string "oct\nWARN")]]
      else foreign.jwksEntriesFromStr body }

theorem escaping_escapes : escaping.Escapes where
  escapeDebug text := avoids_flatMap (escapeChar_controlFree _) text.toList
  debugStr text := by
    have escaped := avoids_flatMap (escapeChar_controlFree [doubleQuote])
      text.toList
    have opened : ControlFree (String.ofList [doubleQuote]) := by decide
    refine Avoids.append ?_ opened
    rw [← List.singleton_append, String.ofList_append]
    exact opened.append escaped
  debugDuration duration := by
    refine Avoids.append (avoids_repr ?_ _) (by decide)
    intro character digit
    simp only [Char.isDigit, Bool.and_eq_true, decide_eq_true_eq, ge_iff_le,
      UInt32.le_iff_toNat_le] at digit
    simp only [isAsciiControl, Bool.or_eq_false_iff, decide_eq_false_iff_not,
      beq_eq_false_iff_ne]
    have low : 48 ≤ character.toNat := digit.1
    have high : character.toNat ≤ 57 := digit.2
    omega
  jwksError body error refused := by
    have known : error = "expected value at line 1 column 1" := by
      simp only [escaping, foreign] at refused
      split at refused
      · cases refused
      split at refused
      · cases refused
      split at refused
      · cases refused
      · cases refused
        rfl
    rw [known]
    exact .piece (.inl (by decide +kernel))

/-- One caller, which verifies the token of the sample. -/
def logging : System Unit Unit where
  foreign := escaping
  cache := cache
  call _ :=
    { kid := "k1", now := 0, f := Jwt.verifySignature escaping parts }

theorem escaping_split_token : Jwt.split escaping token = .ok parts :=
  Jwt.split_compact (by decide +kernel)

/-- The call, which is over after its lookup. -/
def callSchedule (document : String) : List (Action Unit) :=
  List.replicate 4 (.run ()) ++ .fetched () (.ok document) ::
    List.replicate 3 (.run ())

theorem forged_enabled :
    (logging.machine.exec .fresh (callSchedule forgedDocument)).isSome =
      true := by
  decide +kernel

def forged : State Unit Unit × List (Event Unit) :=
  (logging.machine.exec .fresh (callSchedule forgedDocument)).get
    forged_enabled

theorem forgedRun :
    logging.Runs (callSchedule forgedDocument) forged.2 forged.1 :=
  .of_isSome forged_enabled

theorem useless_enabled :
    (logging.machine.exec .fresh (callSchedule uselessDocument)).isSome =
      true := by
  decide +kernel

def useless : State Unit Unit × List (Event Unit) :=
  (logging.machine.exec .fresh (callSchedule uselessDocument)).get
    useless_enabled

theorem uselessRun :
    logging.Runs (callSchedule uselessDocument) useless.2 useless.1 :=
  .of_isSome useless_enabled

def mismatchError (kty : String) : String :=
  "token alg ES256 but JWKS key kty is " ++ kty ++
    " (alg/key-type mismatch)"

theorem fetcherControlFree_of_body {history : List (Event Unit)}
    (body : String)
    (onlyBody : history.filterMap (Event.returnedTo ()) = [.ok body]) :
    System.FetcherControlFree history := by
  intro owner error returned
  have found : .error error ∈ history.filterMap (Event.returnedTo ()) :=
    List.mem_filterMap.mpr ⟨_, returned, by simp [Event.returnedTo]⟩
  rw [onlyBody, List.mem_singleton] at found
  cases found

end Sample

namespace System

variable {ι : Type} [DecidableEq ι] {system : System ι Unit}
  {schedule : List (Action ι)} {history : List (Event ι)}
  {state : State ι Unit}

/-- What the cache logs when a refresh falls back to the previous keys has no
control characters. -/
theorem Runs.warned_controlFree (run : system.Runs schedule history state)
    (escapes : system.foreign.Escapes)
    (urlFree : ControlFree system.cache.url)
    (fetcherFree : FetcherControlFree history) {c : ι} {e : String}
    (warned : .warned c e ∈ history) : ControlFree e :=
  (run.warned_error warned).controlFree escapes urlFree fetcherFree

/-- A token that is rejected before a signature was accepted leaves a warning
without control characters, unless one of its lookups quotes one from a key
type. -/
theorem Runs.warned_text_controlFree_iff
    (run : system.Runs schedule history state)
    (escapes : system.foreign.Escapes)
    (urlFree : ControlFree system.cache.url)
    (fetcherFree : FetcherControlFree history) {token : String}
    {parts : Parts} (splits : Jwt.split system.foreign token = .ok parts)
    {c : ι} {nowMono : Instant}
    (asks : system.call c = ⟨parts.header.kid.getD "", nowMono,
      Jwt.verifySignature system.foreign parts⟩) {e : String}
    (ended : state.phase c = .done (.error e)) :
    (∀ (World : Type)
        (handler : World → Call Unit → Except String Unit × World)
        (world : World) (verifier : OidcVerifier) (nowUnix : Int64),
      (handler world (system.call c)).1 = .error e →
      let outcome := (OidcModule.verifyWith system.foreign verifier token
        nowUnix nowMono).run handler world
      outcome.1 = .reject ∧
        outcome.2.1 =
          [⟨e, "OIDC token signature verification failed"⟩]) ∧
    (ControlFree e ↔
      ∀ earlier before middle round set, earlier <+: schedule →
        system.Runs earlier before middle →
        middle.phase c = .lookup round set → ¬ QuotesControl parts set) := by
  constructor
  · intro World handler world verifier nowUnix answered
    rw [asks] at answered
    exact OidcModule.verifyWith_run_of_error splits handler world answered
  constructor
  · intro free earlier before middle round set isPrefix reached stands quotes
    obtain ⟨later, after, rest⟩ := run.resume isPrefix reached
    obtain ⟨result, tried⟩ := Option.ne_none_iff_exists'.mp
      (quotes.tryAll_ne_none (f := Jwt.verifySignature system.foreign parts))
    have decided := lookup_decides rest stands (by rw [asks]; exact tried)
    rw [ended] at decided
    rcases decided with looks | finished
    · cases looks
    · cases finished
      exact (controlFree_iff_of_tryAll escapes tried).mp free quotes
  · intro quiet
    obtain ⟨earlier, before, middle, isPrefix, recorded, reached, rejected⟩ :=
      run.rejected_of_done ended
    have fetcherBefore : FetcherControlFree before := fun owner error member =>
      fetcherFree owner error (recorded.subset member)
    refine rejected.controlFree escapes urlFree fetcherBefore asks ?_
    intro round set stands
    exact quiet earlier before middle round set isPrefix reached stands

theorem Runs.warned_text_controlFree_sample :
    ((OidcModule.verifyWith Sample.escaping Sample.verifier Sample.token 0
        0).run (fun _ _ => (.error (Sample.mismatchError "RSA"), ()))
        ()).1 = .reject ∧
      ∀ earlier before middle round set,
        earlier <+: Sample.callSchedule Sample.uselessDocument →
        Sample.logging.Runs earlier before middle →
        middle.phase () = .lookup round set →
        ¬ QuotesControl Sample.parts set := by
  have fetcherFree : FetcherControlFree Sample.useless.2 :=
    Sample.fetcherControlFree_of_body Sample.uselessDocument
      (by decide +kernel)
  have ended : Sample.useless.1.phase () =
      .done (.error (Sample.mismatchError "RSA")) := by
    decide +kernel
  have asks : Sample.logging.call () = ⟨Sample.parts.header.kid.getD "", 0,
      Jwt.verifySignature Sample.escaping Sample.parts⟩ := rfl
  obtain ⟨rejects, clean⟩ := Runs.warned_text_controlFree_iff
    Sample.uselessRun Sample.escaping_escapes (by decide +kernel) fetcherFree
    Sample.escaping_split_token asks ended
  exact ⟨(rejects Unit _ () Sample.verifier 0 rfl).1,
    clean.mp (by decide +kernel)⟩

end System

namespace Sample

/-- The lookup in the forged key set rejects the token with a line break in the
text of its error. -/
theorem control_character_is_logged :
    ¬ ∀ (system : System Unit Unit) schedule history state token parts nowMono
        e,
      system.Runs schedule history state → system.foreign.Escapes →
      ControlFree system.cache.url → System.FetcherControlFree history →
      Jwt.split system.foreign token = .ok parts →
      system.call () = ⟨parts.header.kid.getD "", nowMono,
        Jwt.verifySignature system.foreign parts⟩ →
      state.phase () = .done (.error e) →
      ∀ verifier nowUnix, ∀ warning ∈ ((OidcModule.verifyWith system.foreign
          verifier token nowUnix nowMono).run
            (fun _ _ => (.error e, ())) ()).2.1,
        ControlFree warning.error := by
  intro clean
  have fetcherFree : System.FetcherControlFree forged.2 :=
    fetcherControlFree_of_body forgedDocument (by decide +kernel)
  have ended : forged.1.phase () =
      .done (.error (mismatchError "oct\nWARN")) := by
    decide +kernel
  have splits : Jwt.split logging.foreign token = .ok parts :=
    escaping_split_token
  have logged := clean logging _ _ _ token parts 0 _ forgedRun
    escaping_escapes (by decide +kernel) fetcherFree splits rfl ended
    verifier 0
  rw [(OidcModule.verifyWith_run_of_error splits _ () rfl).2] at logged
  have quoted := logged _ List.mem_cons_self
  revert quoted
  decide +kernel

end Sample

end AuthOidc
