import AuthOidc.Claims
import AuthOidc.Jwt
import AuthOidc.Cache.Sequential
import AuthOidc.Library.Interaction

/-!
# The OIDC module

`verify` and `identityFromTokenResponse` put the splitter, the key cache and
the claim policy together.  They are programs that ask the cache one question,
a `with_key` call, and leave warnings as notes; the cache they are run against
is the machine with its other callers, or the sequential function.
-/

namespace AuthOidc

open Rust SerdeJson Interaction

structure OidcConfig where
  issuer : String
  audience : String
  jwksUrl : Option String
  roleClaim : String
  jwksMinRefetchSecs : UInt64
  jwksTtlSecs : UInt64
  caCertPem : Option String
  clientId : Option String
  scopes : List String
  authorizationEndpoint : Option String
  tokenEndpoint : Option String

/-- The OAuth client id: the explicit one, else the audience. -/
def resolvedClientId (cfg : OidcConfig) : String :=
  cfg.clientId.getD cfg.audience

inductive AuthVerdict where
  | identify (principal : Principal)
  | reject
  | pass
  deriving DecidableEq

/-- The token exchange that the core runs for the module. -/
structure LoginHop where
  method : String
  url : String
  form : List (String × String)
  secretFormField : Option String
  headers : List (String × String)
  deriving DecidableEq

inductive LoginOutcome where
  | authorize (url : String)
  | exchange (hop : LoginHop)
  | identify (principal : Principal)
  | reject
  deriving DecidableEq

structure LoginHttpResponse where
  status : UInt16
  body : String

/-- A warning: the error and the message it is logged with. -/
structure Warning where
  error : String
  message : String

/-- What a verification asks the cache, and what it may be told. -/
abbrev Verification (Result : Type) :=
  Program (Call Unit) (Except String Unit) Warning Result

structure OidcModule where
  verifier : OidcVerifier
  loginVerifier : OidcVerifier
  jwks : JwksCache
  cfg : OidcConfig

namespace OidcModule

def new (cfg : OidcConfig) (jwksUrl : String) : OidcModule where
  verifier := ⟨cfg.issuer, cfg.audience, cfg.roleClaim⟩
  loginVerifier := ⟨cfg.issuer, resolvedClientId cfg, cfg.roleClaim⟩
  jwks := JwksCache.new jwksUrl (Duration.fromSecs cfg.jwksMinRefetchSecs)
    (Duration.fromSecs cfg.jwksTtlSecs)
  cfg := cfg

/-- `verify_with` after a signature was accepted. -/
def verifyClaims (foreign : Foreign) (verifier : OidcVerifier)
    (parts : Parts) (nowUnix : Int64) : Verification AuthVerdict :=
  match Jwt.claims foreign parts with
  | .error e => .note ⟨e, "OIDC token claims are malformed"⟩ (.ret .reject)
  | .ok claims =>
      match verifier.validateClaims claims nowUnix with
      | .ok principal => .ret (.identify principal)
      | .error e =>
          .note ⟨e, "OIDC token claim validation failed"⟩ (.ret .reject)

/-- `verify_with` from the answer of the cache on. -/
def verifyAnswer (foreign : Foreign) (verifier : OidcVerifier)
    (parts : Parts) (nowUnix : Int64) :
    Except String Unit → Verification AuthVerdict
  | .error e =>
      .note ⟨e, "OIDC token signature verification failed"⟩ (.ret .reject)
  | .ok () => verifyClaims foreign verifier parts nowUnix

/-- `verify_with`: the full verification against an explicit claim verifier.
The cache of the module answers the question. -/
def verifyWith (foreign : Foreign) (verifier : OidcVerifier) (token : String)
    (nowUnix : Int64) (nowMono : Instant) : Verification AuthVerdict :=
  match Jwt.split foreign token with
  | .error _ => .ret .pass
  | .ok parts =>
      .ask
        { kid := parts.header.kid.getD ""
          now := nowMono
          f := Jwt.verifySignature foreign parts }
        (verifyAnswer foreign verifier parts nowUnix)

variable (foreign : Foreign) (self : OidcModule)

def verify (token : String) (nowUnix : Int64) (nowMono : Instant) :
    Verification AuthVerdict :=
  verifyWith foreign self.verifier token nowUnix nowMono

/-- How a verdict on an id token ends the login. -/
def outcomeOfVerdict : AuthVerdict → LoginOutcome
  | .identify principal => .identify principal
  | .reject | .pass => .reject

def identityFromTokenResponse (resp : LoginHttpResponse) (nowUnix : Int64)
    (nowMono : Instant) : Verification LoginOutcome :=
  if !(200 ≤ resp.status ∧ resp.status < 300) then .ret .reject
  else
    match foreign.valueFromStr resp.body with
    | .error _ => .ret .reject
    | .ok body =>
        match body.getStr "id_token" with
        | none => .ret .reject
        | some idToken =>
            (verifyWith foreign self.loginVerifier idToken nowUnix
              nowMono).map outcomeOfVerdict

/-- The cache of the module, for calls that come one at a time. -/
def handleCall {World : Type} (fetcher : Fetcher World)
    (state : Inner × World) (call : Call Unit) :
    Except String Unit × Inner × World :=
  self.jwks.withKey foreign fetcher call state.1 state.2

/-! ## What an id token is answered -/

section Carries

variable {foreign self} {resp : LoginHttpResponse} {nowUnix : Int64}
  {nowMono : Instant}

/-- The token response carries the id token. -/
structure Carries (foreign : Foreign) (resp : LoginHttpResponse)
    (idToken : String) : Prop where
  success : 200 ≤ resp.status ∧ resp.status < 300
  carried : ∃ body, foreign.valueFromStr resp.body = .ok body ∧
    body.getStr "id_token" = some idToken

theorem identityFromTokenResponse_of_carries {idToken : String}
    (carries : Carries foreign resp idToken) :
    self.identityFromTokenResponse foreign resp nowUnix nowMono =
      (verifyWith foreign self.loginVerifier idToken nowUnix nowMono).map
        outcomeOfVerdict := by
  obtain ⟨body, read, found⟩ := carries.carried
  simp [identityFromTokenResponse, carries.success, read, found]

theorem identityFromTokenResponse_yields {outcome : LoginOutcome}
    {answer : Call Unit → Except String Unit → Prop}
    (yields : (self.identityFromTokenResponse foreign resp nowUnix
      nowMono).Yields answer outcome) :
    outcome = .reject ∨ ∃ idToken principal, Carries foreign resp idToken ∧
      (verifyWith foreign self.loginVerifier idToken nowUnix nowMono).Yields
        answer (.identify principal) ∧ outcome = .identify principal := by
  unfold identityFromTokenResponse at yields
  split at yields
  · exact .inl yields.symm
  · rename_i success
    split at yields
    · exact .inl yields.symm
    · rename_i body read
      split at yields
      · exact .inl yields.symm
      · rename_i idToken found
        rw [Program.yields_map_iff] at yields
        obtain ⟨verdict, verified, rfl⟩ := yields
        cases verdict with
        | identify principal =>
            refine .inr ⟨idToken, principal, ⟨?_, body, read, found⟩,
              verified, rfl⟩
            simpa using success
        | reject => exact .inl rfl
        | pass => exact .inl rfl

end Carries

end OidcModule

end AuthOidc
