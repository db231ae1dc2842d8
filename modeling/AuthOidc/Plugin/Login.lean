import AuthOidc.Plugin
import AuthOidc.Module.AuthorizeUrl
import AuthOidc.Module.Separation

/-!
# The login of an opened plugin

Where a login sends the browser and the core, and on what it ends with an
identity.  The module keeps nothing between the two steps: whatever requests
come, in whatever order, each of them is answered on its own and on the cache.
-/

namespace AuthOidc

open Rust SerdeJson Interaction QueryString AuthorizeUrl

variable {Certificate Client Stream : Type}
  {parseUrl : String → Except String Url}
  {reqwest : Reqwest Certificate Client Stream} {format : ConfigFormat}
  {ι : Type} [DecidableEq ι] {system : System ι Unit}
  {schedule : List (Action ι)} {history : List (Event ι)}
  {state : State ι Unit} {answers : Nat → String → Except String String}
  {self : OidcModule} {discovery client : Client} {notices : List Notice}
  {total : Nat} {program : Discovery (Except String (OidcModule × Client))}

/-- A login sends the browser, and the core with its secret, only to endpoints
that the configuration names or a document of its issuer does, the core with
what the callback brought; and it identifies only by an id token that a key
of the provider vouches for, with claims for the client id. -/
theorem login_sound {text : String}
    (opens : openPlugin system.foreign parseUrl reqwest format text =
      .ok (discovery, program))
    (ran : program.run (serial answers) 0 =
      (.ok (self, client), notices, total))
    (secure : reqwest.RefusesPlaintext parseUrl)
    (sameCache : system.cache = self.jwks)
    (run : system.Runs schedule history state)
    (overHttp : system.OverHttp reqwest client history) :
    ∃ document cfg, format.documentFromStr text = .ok document ∧
      OidcConfig.fromValue document = .ok cfg ∧
      (∀ req outcome, self.beginLogin req = outcome →
        outcome = .reject ∨ ∃ endpoint url,
          Sourced system.foreign cfg answers total cfg.authorizationEndpoint
            "authorization_endpoint" endpoint ∧
          outcome = .authorize url ∧
          url.toList = endpoint.toList ++ separator endpoint ::
            write isUnreserved
              (requestParameters (resolvedClientId cfg)
                (requestScope cfg req) req)) ∧
      ∀ req sinceEpoch nowMono outcome,
        (self.completeLogin system.foreign req sinceEpoch nowMono).Yields
          (system.Answered state) outcome →
        outcome = .reject ∨
        (∃ code redirectUri codeVerifier endpoint,
          req = ⟨none, some code, some redirectUri, some codeVerifier⟩ ∧
          Sourced system.foreign cfg answers total cfg.tokenEndpoint
            "token_endpoint" endpoint ∧
          outcome = .exchange {
            method := "POST"
            url := endpoint
            form := [("grant_type", "authorization_code"), ("code", code),
              ("redirect_uri", redirectUri), ("code_verifier", codeVerifier),
              ("client_id", resolvedClientId cfg), ("client_secret", "")]
            secretFormField := some "client_secret"
            headers := [] }) ∨
        ∃ resp idToken principal, req.tokenResponse = some resp ∧
          OidcModule.Carries system.foreign resp idToken ∧
          Attests parseUrl system.foreign reqwest client self.jwks.url
            ⟨cfg.issuer, resolvedClientId cfg, cfg.roleClaim⟩ idToken
            (nowUnix sinceEpoch) principal ∧
          outcome = .identify principal := by
  obtain ⟨document, cfg, tree, read, rfl⟩ := openPlugin_eq_ok opens
  have opened := opened_of_run ran
  refine ⟨document, cfg, tree, read, ?_, ?_⟩
  · rintro req _ rfl
    cases found : self.cfg.authorizationEndpoint with
    | none => exact .inl (by simp [OidcModule.beginLogin, found])
    | some endpoint =>
        obtain ⟨url, authorized, shape⟩ :=
          beginLogin_of_configured self req found
        rw [opened.clientId, requestScope, opened.scopes] at shape
        exact .inr ⟨endpoint, url,
          opened.authorizationEndpoint endpoint found, authorized, shape⟩
  · intro req sinceEpoch nowMono outcome yields
    cases OidcModule.completeLogin_yields yields with
    | reject => exact .inl rfl
    | exchange given found =>
        refine .inr (.inl ⟨_, _, _, _, given,
          opened.tokenEndpoint _ found, ?_⟩)
        rw [buildTokenExchange, found, opened.clientId]
        rfl
    | identify given carries verified =>
        rw [opened.loginVerifier] at verified
        exact .inr (.inr ⟨_, _, _, given, carries,
          attests_of_identify opened secure sameCache run overHttp verified,
          rfl⟩)

namespace Sample

def callback : CompleteLogin :=
  ⟨none, some "code", some "https://busbar/cb", some "verifier"⟩

/-- What the token endpoint answers in the exchange. -/
def tokenAnswer : LoginHttpResponse := ⟨200, tokenResponse⟩

/-- The callback once the core has made the exchange. -/
def answeredCallback : CompleteLogin :=
  { callback with tokenResponse := some tokenAnswer }

theorem idToken_eq_token : idToken = token := by
  decide +kernel

theorem tokenResponse_read :
    foreign.valueFromStr tokenResponse =
      .ok (.object [("id_token", .string idToken)]) := by
  simp only [foreign, if_pos]

theorem carries_token : OidcModule.Carries foreign tokenAnswer token where
  success := by decide
  carried := by
    refine ⟨_, tokenResponse_read, ?_⟩
    rw [← idToken_eq_token]
    rfl

end Sample

/-- The whole login of the sample plugin: the browser goes to the configured
endpoint, the core is told to make the exchange, and its answer identifies. -/
theorem login_sound_sample :
    (∃ url, (OidcModule.new Sample.config "https://idp/jwks").beginLogin
        Sample.begin = .authorize url ∧
      url.toList = "https://idp/authorize".toList ++ '?' ::
        write isUnreserved
          [("response_type", "code"), ("client_id", "api"),
            ("redirect_uri", "https://busbar/cb"),
            ("scope", "openid email offline"), ("state", "a&b=c#d+e%"),
            ("code_challenge", "ch"), ("code_challenge_method", "S256")]) ∧
    (OidcModule.new Sample.config "https://idp/jwks").completeLogin
        Sample.foreign Sample.callback none 0 =
      .ret (.exchange {
        method := "POST"
        url := "https://idp/token"
        form := [("grant_type", "authorization_code"), ("code", "code"),
          ("redirect_uri", "https://busbar/cb"),
          ("code_verifier", "verifier"), ("client_id", "api"),
          ("client_secret", "")]
        secretFormField := some "client_secret"
        headers := [] }) ∧
    ∃ idToken, OidcModule.Carries Sample.foreign
        Sample.tokenAnswer idToken ∧
      Attests Discovery.Sample.parseUrl Sample.foreign Sample.secure ()
        "https://idp/jwks" ⟨"https://idp", "api", "groups"⟩ idToken
        (nowUnix (some 1799999000)) Sample.principal := by
  obtain ⟨_, cfg, tree, read, begins, callbacks⟩ :=
    login_sound Sample.opens (Sample.ran fun _ _ => .error "no route")
      Sample.secure_refusesPlaintext rfl Sample.acceptedRun
      Sample.acceptedOverHttp
  cases tree
  cases read.symm.trans Sample.read_config
  refine ⟨?_, ?_, ?_⟩
  · rcases begins Sample.begin _ rfl with
      rejected | ⟨endpoint, url, sourced, authorized, shape⟩
    · cases rejected
    · rcases sourced with configured | ⟨absent, _⟩
      · cases configured
        exact ⟨url, authorized, shape⟩
      · cases absent
  · rcases callbacks Sample.callback none 0 _ rfl with
      rejected | ⟨code, redirectUri, codeVerifier, endpoint, given, sourced,
        exchanged⟩ | ⟨_, _, _, answered, _⟩
    · cases rejected
    · cases given
      rcases sourced with configured | ⟨absent, _⟩
      · cases configured
        exact congrArg Program.ret exchanged
      · cases absent
    · cases answered
  · have ends := callbacks Sample.answeredCallback (some 1799999000) 0
      (.identify Sample.principal)
    rw [show Sample.verification.foreign = Sample.foreign from rfl,
      OidcModule.completeLogin_of_carries rfl Sample.carries_token,
      Program.yields_map_iff] at ends
    rcases ends ⟨_, Sample.identified, rfl⟩ with
      rejected | ⟨_, _, _, _, given, _⟩ |
        ⟨resp, idToken, principal, given, carries, attests, identified⟩
    · cases rejected
    · cases given
    · obtain rfl : Sample.tokenAnswer = resp := Option.some.inj given
      cases identified
      exact ⟨idToken, carries, attests⟩

end AuthOidc
