import AuthOidc.Config
import AuthOidc.Fetch
import AuthOidc.Discovery.Https
import AuthOidc.Module.Completeness
import AuthOidc.Module.Login

/-!
# From the text of the configuration to the verdict

`open` reads the configuration, builds the two fetchers and resolves the urls.
Here its stages are joined with those that follow: the fetches of the live
cache, and the verification of a token.
-/

namespace AuthOidc

open Rust SerdeJson Interaction

def jwksFetchTimeout : Duration :=
  Duration.fromSecs 10

/-- The JSON reader, as the configuration is read with it. -/
structure ConfigFormat where
  /-- The tree of a JSON text, with the members in the order of the text. -/
  documentFromStr : String → Except String Value
  displayError : ConfigError → String

section Open

variable {Certificate Client Stream : Type} (foreign : Foreign)
  (parseUrl : String → Except String Url)
  (reqwest : Reqwest Certificate Client Stream) (format : ConfigFormat)

/-- `serde_json::from_str::<OidcConfig>`. -/
def configFromStr (text : String) : Except String OidcConfig :=
  match format.documentFromStr text with
  | .error e => .error e
  | .ok document =>
      (OidcConfig.fromValue document).mapError format.displayError

/-- `open` up to the discovery: the client that the discovery GETs are made
with, and the program that makes them. -/
def openPlugin (text : String) :
    Except String (Client × Discovery (Except String (OidcModule × Client))) :=
  if Text.isBlank text then
    .error ("oidc plugin requires config (issuer, audience); none " ++
      "provided")
  else
    match configFromStr format text with
    | .error e => .error s!"invalid oidc plugin config: {e}"
    | .ok cfg =>
        (newFetcher reqwest jwksFetchTimeout cfg.caCertPem).map fun fetcher =>
          (fetcher, openWith foreign parseUrl
            (fun cfg => newFetcher reqwest jwksFetchTimeout cfg.caCertPem) cfg)

end Open

variable {Certificate Client Stream : Type} {foreign : Foreign}
  {parseUrl : String → Except String Url}
  {reqwest : Reqwest Certificate Client Stream} {format : ConfigFormat}

/-- An endpoint that the config names, or leaves open and a document of the
issuer names that was fetched. -/
def Sourced (foreign : Foreign) (cfg : OidcConfig)
    (answers : Nat → String → Except String String) (total : Nat)
    (configured : Option String) (name endpoint : String) : Prop :=
  configured = some endpoint ∨
    configured = none ∧
      Discovery.Found foreign cfg answers total name endpoint

/-- What a plugin is once it has opened with a configuration. -/
structure Opened (foreign : Foreign)
    (reqwest : Reqwest Certificate Client Stream) (cfg : OidcConfig)
    (answers : Nat → String → Except String String) (total : Nat)
    (oidc : OidcModule) (client : Client) : Prop where
  verifier : oidc.verifier = ⟨cfg.issuer, cfg.audience, cfg.roleClaim⟩
  loginVerifier :
    oidc.loginVerifier = ⟨cfg.issuer, resolvedClientId cfg, cfg.roleClaim⟩
  clientId : resolvedClientId oidc.cfg = resolvedClientId cfg
  scopes : oidc.cfg.scopes = cfg.scopes
  authorizationEndpoint : ∀ endpoint,
    oidc.cfg.authorizationEndpoint = some endpoint →
      Sourced foreign cfg answers total cfg.authorizationEndpoint
        "authorization_endpoint" endpoint
  tokenEndpoint : ∀ endpoint, oidc.cfg.tokenEndpoint = some endpoint →
    Sourced foreign cfg answers total cfg.tokenEndpoint "token_endpoint"
      endpoint
  built : ∃ roots, reqwest.build
    ⟨jwksFetchTimeout, jwksFetchTimeout, true, roots⟩ = .ok client

theorem mapError_eq_ok_iff {Error Other α : Type} {result : Except Error α}
    {f : Error → Other} {value : α} :
    result.mapError f = .ok value ↔ result = .ok value := by
  cases result with
  | error error => simp [Except.mapError]
  | ok other => simp [Except.mapError]

theorem configFromStr_eq_ok_iff {text : String} {cfg : OidcConfig} :
    configFromStr format text = .ok cfg ↔
      ∃ document, format.documentFromStr text = .ok document ∧
        OidcConfig.fromValue document = .ok cfg := by
  unfold configFromStr
  cases format.documentFromStr text with
  | error e => simp
  | ok document => simp [mapError_eq_ok_iff]

theorem newFetcher_eq_ok {timeout : Duration} {pem : Option String}
    {client : Client} (made : newFetcher reqwest timeout pem = .ok client) :
    ∃ roots, reqwest.build ⟨timeout, timeout, true, roots⟩ = .ok client := by
  unfold newFetcher at made
  dsimp only at made
  split at made
  · exact ⟨[], mapError_eq_ok_iff.mp made⟩
  · split at made
    · cases made
    · rename_i cert _
      exact ⟨[cert], mapError_eq_ok_iff.mp made⟩

theorem openPlugin_eq_ok {text : String} {discovery : Client}
    {program : Discovery (Except String (OidcModule × Client))}
    (opens : openPlugin foreign parseUrl reqwest format text =
      .ok (discovery, program)) :
    ∃ document cfg, format.documentFromStr text = .ok document ∧
      OidcConfig.fromValue document = .ok cfg ∧
      program = openWith foreign parseUrl
        (fun cfg => newFetcher reqwest jwksFetchTimeout cfg.caCertPem) cfg := by
  unfold openPlugin at opens
  split at opens
  · cases opens
  · split at opens
    · cases opens
    · rename_i cfg parsed
      obtain ⟨document, tree, read⟩ := configFromStr_eq_ok_iff.mp parsed
      refine ⟨document, cfg, tree, read, ?_⟩
      cases made : newFetcher reqwest jwksFetchTimeout cfg.caCertPem with
      | error e =>
          rw [made] at opens
          cases opens
      | ok fetcher =>
          rw [made] at opens
          cases opens
          rfl

theorem sourced_of_merge {cfg : OidcConfig}
    {answers : Nat → String → Except String String} {get total : Nat}
    {configured : Option String} {name endpoint : String}
    (made : configured = none → get < total)
    (merged : configured.or (Discovery.discovered foreign cfg
      (answers get (discoveryUrl cfg)) name) = some endpoint) :
    Sourced foreign cfg answers total configured name endpoint := by
  cases configured with
  | some explicit => exact .inl merged
  | none => exact .inr ⟨rfl, Discovery.found_of_discovered (made rfl) merged⟩

theorem opened_of_run {cfg : OidcConfig}
    {answers : Nat → String → Except String String} {self : OidcModule}
    {client : Client} {notices : List Notice} {total : Nat}
    (ran : (openWith foreign parseUrl
      (fun cfg => newFetcher reqwest jwksFetchTimeout cfg.caCertPem) cfg).run
        (serial answers) 0 = (.ok (self, client), notices, total)) :
    Opened foreign reqwest cfg answers total self client := by
  obtain ⟨url, resolution, rfl, rfl⟩ := Discovery.opened_of_run ran
  have result := congrArg Prod.fst ran
  rw [Discovery.openWith_result, resolution] at result
  have finished : finishOpen
      (fun cfg => newFetcher reqwest jwksFetchTimeout cfg.caCertPem)
      _ url = .ok (_, client) := result
  obtain ⟨made, _⟩ := Discovery.finishOpen_eq_ok_iff.mp finished
  exact {
    verifier := rfl
    loginVerifier := rfl
    clientId := rfl
    scopes := rfl
    authorizationEndpoint := fun _ =>
      sourced_of_merge fun absent => Discovery.loginGet_made (.inl absent)
    tokenEndpoint := fun _ =>
      sourced_of_merge fun absent => Discovery.loginGet_made (.inr absent)
    built := newFetcher_eq_ok made }

/-- A client that was restricted to https makes no other GET. -/
def Reqwest.RefusesPlaintext (reqwest : Reqwest Certificate Client Stream)
    (parseUrl : String → Except String Url) : Prop :=
  ∀ settings client url resp, reqwest.build settings = .ok client →
    settings.httpsOnly = true → reqwest.sends client url (.ok resp) →
      Discovery.IsHttps parseUrl url

/-- A principal stands on a token: a key vouches for the token that is in a
document delivered whole in answer to a GET of the url, which is https, and
the claims pass the policy. -/
def Attests (parseUrl : String → Except String Url) (foreign : Foreign)
    (reqwest : Reqwest Certificate Client Stream) (client : Client)
    (url : String) (verifier : OidcVerifier) (token : String)
    (nowUnix : Int64) (principal : Principal) : Prop :=
  Discovery.IsHttps parseUrl url ∧
    ∃ resp body set key h p s header payload claims,
      Delivers reqwest client url resp body ∧
      JwkSet.parse foreign body = .ok set ∧ key ∈ set.keys ∧
      Vouches foreign key token h p s header payload ∧
      foreign.valueFromSlice payload = .ok claims ∧
      verifier.validateClaims claims nowUnix = .ok principal

variable {ι : Type} [DecidableEq ι] {system : System ι Unit}
  {schedule : List (Action ι)} {history : List (Event ι)}
  {state : State ι Unit} {answers : Nat → String → Except String String}
  {self : OidcModule} {discovery client : Client} {notices : List Notice}
  {total : Nat} {program : Discovery (Except String (OidcModule × Client))}

theorem attests_of_identify {cfg : OidcConfig} {verifier : OidcVerifier}
    {token : String} {nowUnix : Int64} {nowMono : Instant}
    {principal : Principal}
    (opened : Opened system.foreign reqwest cfg answers total self client)
    (secure : reqwest.RefusesPlaintext parseUrl)
    (sameCache : system.cache = self.jwks)
    (run : system.Runs schedule history state)
    (overHttp : system.OverHttp reqwest client history)
    (identified : (OidcModule.verifyWith system.foreign verifier token nowUnix
      nowMono).Yields (system.Answered state) (.identify principal)) :
    Attests parseUrl system.foreign reqwest client self.jwks.url verifier
      token nowUnix principal := by
  obtain ⟨parts, claims, splits, ⟨c, asks, done⟩, claimsRead, validated⟩ :=
    OidcModule.verifyWith_yields_identify_iff.mp identified
  obtain ⟨owner, body, set, key, returned, parsed, found, accepted⟩ :=
    run.accepted_key done
  rw [asks] at found accepted
  obtain ⟨h, p, s, vouches⟩ := Vouches.of_accepted splits found accepted
  obtain ⟨resp, delivers⟩ := overHttp.delivers returned
  rw [sameCache] at delivers
  obtain ⟨roots, built⟩ := opened.built
  exact ⟨secure _ _ _ _ built rfl delivers.sent, resp, body, set, key, h, p,
    s, parts.header, parts.payload, claims, delivers, parsed,
    (JwkSet.mem_findAll_iff.mp found).1, vouches, claimsRead, validated⟩

/-- Whatever the host clock says, `authenticate` identifies by a credential and
at a reading not below the sanity floor. -/
theorem OidcModule.verify_of_authenticate {foreign : Foreign}
    {candidate : Option String} {sinceEpoch : Option UInt64}
    {nowMono : Instant} {answer : Call Unit → Except String Unit → Prop}
    {principal : Principal}
    (identified : (self.authenticate foreign candidate sinceEpoch
      nowMono).Yields answer (.identify principal)) :
    ∃ token, candidate = some token ∧
      clockSanityFloorUnix ≤ nowUnix sinceEpoch ∧
      (self.verify foreign token (nowUnix sinceEpoch) nowMono).Yields answer
        (.identify principal) := by
  cases candidate with
  | none => cases identified
  | some token =>
      exact ⟨token, rfl, Clock.floor_le_nowUnix sinceEpoch, identified⟩

/-- A plugin that was opened from a text, with its cache under any load, only
ever identifies by a key that came whole and over https from its JWKS url, and
with claims that pass the policy of the configuration in the text; as
`authenticate`, at a reading of the host clock not below the sanity floor. -/
theorem plugin_sound {text : String}
    (opens : openPlugin system.foreign parseUrl reqwest format text =
      .ok (discovery, program))
    (ran : program.run (serial answers) 0 =
      (.ok (self, client), notices, total))
    (secure : reqwest.RefusesPlaintext parseUrl)
    (sameCache : system.cache = self.jwks)
    (run : system.Runs schedule history state)
    (overHttp : system.OverHttp reqwest client history) :
    ∃ document cfg, format.documentFromStr text = .ok document ∧
      OidcConfig.fromValue document = .ok cfg ∧
      (∀ token reading nowMono principal,
        (self.verify system.foreign token reading nowMono).Yields
          (system.Answered state) (.identify principal) →
        Attests parseUrl system.foreign reqwest client self.jwks.url
          ⟨cfg.issuer, cfg.audience, cfg.roleClaim⟩ token reading
          principal) ∧
      ∀ candidate sinceEpoch nowMono principal,
        (self.authenticate system.foreign candidate sinceEpoch
          nowMono).Yields (system.Answered state) (.identify principal) →
        ∃ token, candidate = some token ∧
          clockSanityFloorUnix ≤ nowUnix sinceEpoch ∧
          Attests parseUrl system.foreign reqwest client self.jwks.url
            ⟨cfg.issuer, cfg.audience, cfg.roleClaim⟩ token
            (nowUnix sinceEpoch) principal := by
  obtain ⟨document, cfg, tree, read, rfl⟩ := openPlugin_eq_ok opens
  have opened := opened_of_run ran
  have verified : ∀ token reading nowMono principal,
      (self.verify system.foreign token reading nowMono).Yields
        (system.Answered state) (.identify principal) →
      Attests parseUrl system.foreign reqwest client self.jwks.url
        ⟨cfg.issuer, cfg.audience, cfg.roleClaim⟩ token reading
        principal := by
    intro token reading nowMono principal identified
    rw [OidcModule.verify, opened.verifier] at identified
    exact attests_of_identify opened secure sameCache run overHttp identified
  refine ⟨document, cfg, tree, read, verified, ?_⟩
  intro candidate sinceEpoch nowMono principal identified
  obtain ⟨token, given, sane, verifies⟩ :=
    OidcModule.verify_of_authenticate identified
  exact ⟨token, given, sane, verified _ _ _ _ verifies⟩

/-! ## A sample plugin -/

namespace Sample

def config : OidcConfig :=
  { Discovery.Sample.config with
    jwksUrl := some "https://idp/jwks"
    authorizationEndpoint := some "https://idp/authorize"
    tokenEndpoint := some "https://idp/token" }

/-- A reader that knows the text of one configuration. -/
def jsonFormat : ConfigFormat where
  documentFromStr _ := .ok (.object config.write)
  displayError _ := "invalid type"

/-- The client in memory, restricted to https. -/
def secure : Reqwest Unit Unit Bytes :=
  { memory with
    sends := fun client url answer =>
      Discovery.IsHttps Discovery.Sample.parseUrl url ∧
        memory.sends client url answer }

theorem secure_refusesPlaintext :
    secure.RefusesPlaintext Discovery.Sample.parseUrl :=
  fun _ _ _ _ _ _ sent => sent.1

theorem url_isHttps :
    Discovery.IsHttps Discovery.Sample.parseUrl cache.url :=
  ⟨⟨"https"⟩, rfl, rfl⟩

theorem read_config : OidcConfig.fromValue (.object config.write) =
    .ok config :=
  OidcConfig.read_write config fun _ => .missing

theorem opens : openPlugin Sample.foreign Discovery.Sample.parseUrl secure
    jsonFormat "config" = .ok ((), openWith Sample.foreign
      Discovery.Sample.parseUrl
      (fun cfg => newFetcher secure jwksFetchTimeout cfg.caCertPem)
      config) := by
  have read : configFromStr jsonFormat "config" = .ok config :=
    configFromStr_eq_ok_iff.mpr
      ⟨_, rfl, read_config⟩
  rw [openPlugin, if_neg (by decide +kernel), read]
  rfl

theorem ran (answers : Nat → String → Except String String) :
    (openWith Sample.foreign Discovery.Sample.parseUrl
      (fun cfg => newFetcher secure jwksFetchTimeout cfg.caCertPem)
      config).run (serial answers) 0 =
        (.ok (OidcModule.new config "https://idp/jwks", ()), [], 0) := by
  rfl

theorem acceptedOverHttp :
    verification.OverHttp secure () acceptedHistory := by
  intro c body returned
  obtain ⟨turns, ended⟩ := fetched
  rw [returned_document returned]
  exact ⟨_, turns, _, fun _ => by decide, ⟨url_isHttps, rfl⟩, ended⟩

theorem identified :
    (OidcModule.verify Sample.foreign (.new config "https://idp/jwks") token
      1799999000 0).Yields (verification.Answered accepted)
        (.identify principal) :=
  OidcModule.verifyWith_yields_identify_iff.mpr
    ⟨parts, claims, split_token, accepted_answered, claims_read,
      claims_validated⟩

end Sample

theorem plugin_sound_sample :
    Attests Discovery.Sample.parseUrl Sample.foreign Sample.secure ()
        "https://idp/jwks" ⟨"https://idp", "api", "groups"⟩ Sample.token
        1799999000 Sample.principal ∧
      clockSanityFloorUnix ≤ nowUnix (some 1799999000) ∧
      Attests Discovery.Sample.parseUrl Sample.foreign Sample.secure ()
        "https://idp/jwks" ⟨"https://idp", "api", "groups"⟩ Sample.token
        (nowUnix (some 1799999000)) Sample.principal := by
  obtain ⟨_, cfg, tree, read, verifies, authenticates⟩ :=
    plugin_sound Sample.opens (Sample.ran fun _ _ => .error "no route")
      Sample.secure_refusesPlaintext rfl Sample.acceptedRun
      Sample.acceptedOverHttp
  cases tree
  cases read.symm.trans Sample.read_config
  obtain ⟨_, given, sane, attests⟩ := authenticates (some Sample.token)
    (some 1799999000) _ _ Sample.identified
  cases given
  exact ⟨verifies _ _ _ _ Sample.identified, sane, attests⟩

end AuthOidc
