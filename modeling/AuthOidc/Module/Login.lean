import AuthOidc.Module
import AuthOidc.Claims.Clock
import AuthOidc.Library.QueryString

/-!
# Browser login

The two steps of the login module.  The first builds the authorize URL; the
second describes the token exchange for the core to run, or verifies the
response the core brings back from it.
-/

namespace AuthOidc

open Rust SerdeJson Interaction

structure BeginLogin where
  redirectUri : String
  state : String
  codeChallenge : String
  nonce : Option String
  scopes : List String

structure CompleteLogin where
  tokenResponse : Option LoginHttpResponse
  code : Option String
  redirectUri : Option String
  codeVerifier : Option String

/-- The `scope` value: `openid` first, then the configured scopes, deduped. -/
def scopeValue (cfg : OidcConfig) : String :=
  " ".intercalate <| cfg.scopes.foldl
    (fun scopes s =>
      if scopes.any (· == s) then scopes else scopes ++ [s])
    ["openid"]

/-- The unreserved set of RFC 3986. -/
def isUnreserved (b : UInt8) : Bool :=
  ('A'.toUInt8 ≤ b && b ≤ 'Z'.toUInt8) ||
    ('a'.toUInt8 ≤ b && b ≤ 'z'.toUInt8) ||
    ('0'.toUInt8 ≤ b && b ≤ '9'.toUInt8) ||
    b == '-'.toUInt8 || b == '.'.toUInt8 || b == '_'.toUInt8 ||
    b == '~'.toUInt8

/-- Percent-encode for use as a query component. -/
def pct (s : String) : String :=
  String.ofList (QueryString.encode isUnreserved (Text.asBytes s))

def buildAuthorizeUrl (cfg : OidcConfig)
    (redirectUri state codeChallenge : String) (nonce : Option String) :
    String :=
  let endpoint := cfg.authorizationEndpoint.getD ""
  let clientId := resolvedClientId cfg
  let scope := scopeValue cfg
  -- the endpoint may carry a query of its own, which is kept
  let sep := if endpoint.toList.contains '?' then "&" else "?"
  let url := endpoint ++ sep ++ "response_type=code" ++
    "&client_id=" ++ pct clientId ++
    "&redirect_uri=" ++ pct redirectUri ++
    "&scope=" ++ pct scope ++
    "&state=" ++ pct state ++
    "&code_challenge=" ++ pct codeChallenge ++
    "&code_challenge_method=S256"
  match nonce with
  | some nonce => url ++ "&nonce=" ++ pct nonce
  | none => url

def buildTokenExchange (cfg : OidcConfig)
    (code redirectUri codeVerifier : String) : LoginHop where
  method := "POST"
  url := cfg.tokenEndpoint.getD ""
  form := [("grant_type", "authorization_code"), ("code", code),
    ("redirect_uri", redirectUri), ("code_verifier", codeVerifier),
    ("client_id", resolvedClientId cfg),
    -- a placeholder: the core puts the secret in
    ("client_secret", "")]
  secretFormField := some "client_secret"
  headers := []

namespace OidcModule

variable (foreign : Foreign) (self : OidcModule)

/-- `authenticate`, with the readings of the two clocks. -/
def authenticate (candidate : Option String) (sinceEpoch : Option UInt64)
    (nowMono : Instant) : Verification AuthVerdict :=
  match candidate with
  | none => .ret .pass
  | some token => self.verify foreign token (nowUnix sinceEpoch) nowMono

def beginLogin (req : BeginLogin) : LoginOutcome :=
  if self.cfg.authorizationEndpoint.isNone then .reject
  else
    let cfg := { self.cfg with scopes := self.cfg.scopes ++ req.scopes }
    .authorize (buildAuthorizeUrl cfg req.redirectUri req.state
      req.codeChallenge req.nonce)

def completeLogin (req : CompleteLogin) (sinceEpoch : Option UInt64)
    (nowMono : Instant) : Verification LoginOutcome :=
  match req.tokenResponse with
  | some resp =>
      self.identityFromTokenResponse foreign resp (nowUnix sinceEpoch) nowMono
  | none =>
      match req.code, req.redirectUri, req.codeVerifier with
      | some code, some redirectUri, some codeVerifier =>
          if self.cfg.tokenEndpoint.isNone then .ret .reject
          else
            .ret (.exchange (buildTokenExchange self.cfg code redirectUri
              codeVerifier))
      | _, _, _ => .ret .reject

/-! ## How a callback ends -/

section Callback

variable {foreign self} {req : CompleteLogin} {sinceEpoch : Option UInt64}
  {nowMono : Instant} {answer : Call Unit → Except String Unit → Prop}

/-- What a callback can end with. -/
inductive CallbackEnds (foreign : Foreign) (self : OidcModule)
    (req : CompleteLogin) (sinceEpoch : Option UInt64) (nowMono : Instant)
    (answer : Call Unit → Except String Unit → Prop) : LoginOutcome → Prop where
  | reject : CallbackEnds foreign self req sinceEpoch nowMono answer .reject
  | exchange {code redirectUri codeVerifier endpoint : String} :
      req = ⟨none, some code, some redirectUri, some codeVerifier⟩ →
      self.cfg.tokenEndpoint = some endpoint →
      CallbackEnds foreign self req sinceEpoch nowMono answer
        (.exchange (buildTokenExchange self.cfg code redirectUri
          codeVerifier))
  | identify {resp : LoginHttpResponse} {idToken : String}
      {principal : Principal} :
      req.tokenResponse = some resp → Carries foreign resp idToken →
      (verifyWith foreign self.loginVerifier idToken (nowUnix sinceEpoch)
        nowMono).Yields answer (.identify principal) →
      CallbackEnds foreign self req sinceEpoch nowMono answer
        (.identify principal)

theorem completeLogin_of_carries {resp : LoginHttpResponse}
    {idToken : String} (given : req.tokenResponse = some resp)
    (carries : Carries foreign resp idToken) :
    self.completeLogin foreign req sinceEpoch nowMono =
      (verifyWith foreign self.loginVerifier idToken (nowUnix sinceEpoch)
        nowMono).map outcomeOfVerdict := by
  rw [completeLogin, given]
  exact identityFromTokenResponse_of_carries carries

theorem completeLogin_yields {outcome : LoginOutcome}
    (yields : (self.completeLogin foreign req sinceEpoch nowMono).Yields
      answer outcome) :
    CallbackEnds foreign self req sinceEpoch nowMono answer outcome := by
  obtain ⟨tokenResponse, code, redirectUri, codeVerifier⟩ := req
  cases tokenResponse with
  | some resp =>
      rcases identityFromTokenResponse_yields yields with
        rfl | ⟨idToken, principal, carries, verified, rfl⟩
      · exact .reject
      · exact .identify rfl carries verified
  | none =>
      unfold completeLogin at yields
      dsimp only at yields
      split at yields
      · split at yields
        · cases yields
          exact .reject
        · rename_i given
          obtain ⟨endpoint, found⟩ :=
            Option.ne_none_iff_exists'.mp (by simpa using given)
          cases yields
          exact .exchange rfl found
      · cases yields
        exact .reject

end Callback

end OidcModule

end AuthOidc
