import AuthOidc.Module.Soundness

/-!
# The bearer path and the login path

The two paths differ in the audience of their claim verifier only.  Where the
client id is the audience they agree on every token; where it is not, no claims
object passes both, since each audience is an untrusted extra to the other
verifier and `azp` names only one of them.
-/

namespace AuthOidc

open Rust SerdeJson Interaction

namespace OidcVerifier

variable {left right : OidcVerifier} {claims : Value}

/-- Two audiences never pass on the same claims. -/
theorem audience_eq_of_audOk (leftOk : left.audOk claims = true)
    (rightOk : right.audOk claims = true) :
    left.audience = right.audience := by
  rcases audOk_iff.mp leftOk with leftString | ⟨items, array, present, extra⟩
  · rcases audOk_iff.mp rightOk with rightString | ⟨_, array, _⟩
    · simpa [leftString] using rightString
    · simp [leftString] at array
  · rcases audOk_iff.mp rightOk with rightString | ⟨_, same, _, others⟩
    · simp [array] at rightString
    · rw [array, Option.some.injEq, Value.array.injEq] at same
      subst same
      rename_i rightPresent
      rcases extra with onlyLeft | leftNamed
      · simpa using (onlyLeft _ rightPresent).symm
      · rcases others with onlyRight | rightNamed
        · simpa using onlyRight _ present
        · simpa [leftNamed] using rightNamed

theorem audOk_of_validateClaims {self : OidcVerifier} {nowUnix : Int64}
    {principal : Principal}
    (accepted : self.validateClaims claims nowUnix = .ok principal) :
    self.audOk claims = true :=
  checkAud_eq_ok_iff.mp (validateClaims_eq_ok_iff.mp accepted).2.1

end OidcVerifier

namespace OidcModule

variable {foreign : Foreign} {cfg : OidcConfig} {jwksUrl : String}

@[simp] theorem outcomeOfVerdict_eq_identify_iff {verdict : AuthVerdict}
    {principal : Principal} :
    outcomeOfVerdict verdict = .identify principal ↔
      verdict = .identify principal := by
  cases verdict <;> simp [outcomeOfVerdict]

theorem outcomeOfVerdict_eq_reject_iff {verdict : AuthVerdict} :
    outcomeOfVerdict verdict = .reject ↔
      ∀ principal, verdict ≠ .identify principal := by
  cases verdict <;> simp [outcomeOfVerdict]

theorem new_loginVerifier_eq_verifier
    (same : cfg.clientId = none ∨ cfg.clientId = some cfg.audience) :
    (new cfg jwksUrl).loginVerifier = (new cfg jwksUrl).verifier := by
  rcases same with unset | set <;> simp [new, resolvedClientId, *]

/-- With the client id at the audience, a login is the bearer verification of
its id token with the verdict read as an outcome. -/
theorem login_eq_map_verify {resp : LoginHttpResponse} {token : String}
    {nowUnix : Int64} {nowMono : Instant}
    (same : cfg.clientId = none ∨ cfg.clientId = some cfg.audience)
    (carries : Carries foreign resp token) :
    (new cfg jwksUrl).identityFromTokenResponse foreign resp nowUnix
        nowMono =
      ((new cfg jwksUrl).verify foreign token nowUnix nowMono).map
        outcomeOfVerdict := by
  rw [identityFromTokenResponse_of_carries carries,
    new_loginVerifier_eq_verifier same, verify]

/-- With the client id away from the audience, the two verifiers share no
claims. -/
theorem no_claims_pass_both {claims : Value} {clientId : String}
    {bearerNow loginNow : Int64} {bearer login : Principal}
    (set : cfg.clientId = some clientId)
    (different : clientId ≠ cfg.audience)
    (bearerOk : (new cfg jwksUrl).verifier.validateClaims claims bearerNow =
      .ok bearer)
    (loginOk : (new cfg jwksUrl).loginVerifier.validateClaims claims
      loginNow = .ok login) : False := by
  have same := OidcVerifier.audience_eq_of_audOk
    (OidcVerifier.audOk_of_validateClaims bearerOk)
    (OidcVerifier.audOk_of_validateClaims loginOk)
  simp only [new, resolvedClientId, set, Option.getD_some] at same
  exact different same.symm

/-- The same for tokens, whatever the cache answers to either of the two
verifications. -/
theorem no_token_passes_both {resp : LoginHttpResponse}
    {token clientId : String} {bearerNow loginNow : Int64}
    {bearerMono loginMono : Instant} {bearer login : Principal}
    {bearerAnswer loginAnswer : Call Unit → Except String Unit → Prop}
    (set : cfg.clientId = some clientId)
    (different : clientId ≠ cfg.audience)
    (carries : Carries foreign resp token)
    (bearerOk : ((new cfg jwksUrl).verify foreign token bearerNow
      bearerMono).Yields bearerAnswer (.identify bearer))
    (loginOk : ((new cfg jwksUrl).identityFromTokenResponse foreign resp
      loginNow loginMono).Yields loginAnswer (.identify login)) :
    False := by
  rw [identityFromTokenResponse_of_carries carries,
    Program.yields_map_iff] at loginOk
  obtain ⟨verdict, loginYields, isIdentify⟩ := loginOk
  rw [outcomeOfVerdict_eq_identify_iff] at isIdentify
  subst isIdentify
  obtain ⟨parts, claims, splits, _, read, bearerValid⟩ :=
    verifyWith_yields_identify_iff.mp bearerOk
  obtain ⟨loginParts, loginClaims, loginSplits, _, loginRead, loginValid⟩ :=
    verifyWith_yields_identify_iff.mp loginYields
  rw [splits, Except.ok.injEq] at loginSplits
  subst loginSplits
  rw [read, Except.ok.injEq] at loginRead
  subst loginRead
  exact no_claims_pass_both set different bearerValid loginValid

/-- Against a cache that answers one call at a time, the two paths end alike
and leave the same notes and the same state behind. -/
theorem login_agrees_alone {World : Type} (fetcher : Fetcher World)
    (state : Inner × World) {resp : LoginHttpResponse} {token : String}
    {nowUnix : Int64} {nowMono : Instant}
    (same : cfg.clientId = none ∨ cfg.clientId = some cfg.audience)
    (carries : Carries foreign resp token) :
    let self := new cfg jwksUrl
    let bearer := (self.verify foreign token nowUnix nowMono).run
      (self.handleCall foreign fetcher) state
    let login := (self.identityFromTokenResponse foreign resp nowUnix
      nowMono).run (self.handleCall foreign fetcher) state
    (∀ principal, login.1 = .identify principal ↔
        bearer.1 = .identify principal) ∧
      ((∀ principal, bearer.1 ≠ .identify principal) → login.1 = .reject) ∧
      login.2 = bearer.2 := by
  dsimp only
  rw [login_eq_map_verify same carries, Program.run_map]
  exact ⟨fun _ => outcomeOfVerdict_eq_identify_iff,
    outcomeOfVerdict_eq_reject_iff.mpr, rfl⟩

/-- Whatever the cache answers among its other calls, the two paths can end
alike. -/
theorem login_agrees_yields {resp : LoginHttpResponse} {token : String}
    {nowUnix : Int64} {nowMono : Instant}
    (answer : Call Unit → Except String Unit → Prop)
    (same : cfg.clientId = none ∨ cfg.clientId = some cfg.audience)
    (carries : Carries foreign resp token) :
    let self := new cfg jwksUrl
    let bearer := self.verify foreign token nowUnix nowMono
    let login := self.identityFromTokenResponse foreign resp nowUnix nowMono
    (∀ principal, login.Yields answer (.identify principal) ↔
        bearer.Yields answer (.identify principal)) ∧
      ∀ outcome, (∀ principal, outcome ≠ .identify principal) →
        (login.Yields answer outcome ↔
          outcome = .reject ∧ ∃ verdict, bearer.Yields answer verdict ∧
            ∀ principal, verdict ≠ .identify principal) := by
  dsimp only
  rw [login_eq_map_verify same carries]
  constructor
  · intro principal
    simp [Program.yields_map_iff]
  · intro outcome notIdentify
    rw [Program.yields_map_iff]
    constructor
    · intro given
      obtain ⟨verdict, yields, rfl⟩ := given
      have turnedAway : ∀ principal, verdict ≠ .identify principal := by
        rintro principal rfl
        exact notIdentify principal rfl
      exact ⟨outcomeOfVerdict_eq_reject_iff.mpr turnedAway, verdict, yields,
        turnedAway⟩
    · intro given
      obtain ⟨rfl, verdict, yields, turnedAway⟩ := given
      exact ⟨verdict, yields, outcomeOfVerdict_eq_reject_iff.mpr turnedAway⟩

/-- The bearer path and the login path agree on every token when the client id
is the audience, and share no token when it is not. -/
theorem agreement_or_separation (foreign : Foreign) (cfg : OidcConfig)
    (jwksUrl : String) :
    ((cfg.clientId = none ∨ cfg.clientId = some cfg.audience) →
      ∀ resp token nowUnix nowMono, Carries foreign resp token →
        (∀ (World : Type) (fetcher : Fetcher World) (state : Inner × World),
          let self := new cfg jwksUrl
          let bearer := (self.verify foreign token nowUnix nowMono).run
            (self.handleCall foreign fetcher) state
          let login := (self.identityFromTokenResponse foreign resp nowUnix
            nowMono).run (self.handleCall foreign fetcher) state
          (∀ principal, login.1 = .identify principal ↔
              bearer.1 = .identify principal) ∧
            ((∀ principal, bearer.1 ≠ .identify principal) →
              login.1 = .reject) ∧
            login.2 = bearer.2) ∧
        ∀ answer : Call Unit → Except String Unit → Prop,
          let self := new cfg jwksUrl
          let bearer := self.verify foreign token nowUnix nowMono
          let login := self.identityFromTokenResponse foreign resp nowUnix
            nowMono
          (∀ principal, login.Yields answer (.identify principal) ↔
              bearer.Yields answer (.identify principal)) ∧
            ∀ outcome, (∀ principal, outcome ≠ .identify principal) →
              (login.Yields answer outcome ↔
                outcome = .reject ∧ ∃ verdict, bearer.Yields answer verdict ∧
                  ∀ principal, verdict ≠ .identify principal)) ∧
    ∀ clientId, cfg.clientId = some clientId → clientId ≠ cfg.audience →
      (∀ claims bearerNow loginNow bearer login,
        ¬ ((new cfg jwksUrl).verifier.validateClaims claims bearerNow =
            .ok bearer ∧
          (new cfg jwksUrl).loginVerifier.validateClaims claims loginNow =
            .ok login)) ∧
      ∀ resp token bearerNow bearerMono loginNow loginMono bearer login
        bearerAnswer loginAnswer, Carries foreign resp token →
        ¬ (((new cfg jwksUrl).verify foreign token bearerNow
              bearerMono).Yields bearerAnswer (.identify bearer) ∧
            ((new cfg jwksUrl).identityFromTokenResponse foreign resp
              loginNow loginMono).Yields loginAnswer (.identify login)) := by
  constructor
  · intro same resp token nowUnix nowMono carries
    exact ⟨fun _ fetcher state => login_agrees_alone fetcher state same carries,
      fun answer => login_agrees_yields answer same carries⟩
  · intro clientId set different
    constructor
    · intro claims bearerNow loginNow bearer login given
      obtain ⟨bearerOk, loginOk⟩ := given
      exact no_claims_pass_both set different bearerOk loginOk
    · rintro resp token bearerNow bearerMono loginNow loginMono bearer login
        bearerAnswer loginAnswer carries ⟨bearerOk, loginOk⟩
      exact no_token_passes_both set different carries bearerOk loginOk

end OidcModule

end AuthOidc
