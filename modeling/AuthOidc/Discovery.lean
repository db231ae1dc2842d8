import AuthOidc.Module
import AuthOidc.Foreign

/-!
# Opening the plugin

What happens before the first token: the JWKS url is resolved, then the login
endpoints, from the config or from the discovery document of the issuer.
These are programs whose questions are the discovery GETs; each GET may be
answered differently.
-/

namespace AuthOidc

open Rust SerdeJson Interaction

/-- The part of a parsed URL that the crate reads. -/
structure Url where
  scheme : String

/-- What the operator is told while the plugin opens. -/
inductive Notice where
  | stderr (text : String)
  | warn (warning : Warning)

/-- A program that asks for documents by their URL. -/
abbrev Discovery (Result : Type) :=
  Program String (Except String String) Notice Result

section Document

variable (foreign : Foreign) (cfg : OidcConfig)

def discoveryUrl : String :=
  Text.trimEndMatches '/' cfg.issuer ++ "/.well-known/openid-configuration"

/-- `fetch_discovery_doc` from the response on. -/
def readDiscoveryDoc (response : Except String String) :
    Except String Value :=
  let discoveryUrl := discoveryUrl cfg
  match response with
  | .error e =>
      .error (s!"OIDC discovery fetch failed ({discoveryUrl}): {e}; " ++
        "set jwks_url explicitly")
  | .ok body =>
      match foreign.valueFromStr body with
      | .error e => .error s!"OIDC discovery document is not JSON: {e}"
      | .ok doc =>
          match doc.getStr "issuer" with
          | some docIssuer =>
              if docIssuer = cfg.issuer then .ok doc
              else
                .error ("OIDC discovery document's issuer '" ++
                  foreign.escapeDebug docIssuer ++
                  "' does not match the configured issuer '" ++ cfg.issuer ++
                  s!"' ({discoveryUrl}); refusing to trust its jwks_uri")
          | none =>
              .error ("OIDC discovery document has no 'issuer' " ++
                s!"({discoveryUrl}); refusing to trust its jwks_uri")

def fetchDiscoveryDoc : Discovery (Except String Value) :=
  .ask (discoveryUrl cfg) fun response =>
    .ret (readDiscoveryDoc foreign cfg response)

end Document

section Resolve

variable (foreign : Foreign) (parseUrl : String → Except String Url)
  (cfg : OidcConfig)

/-- The check of an explicit `jwks_url`. -/
def checkJwksUrl (url : String) : Except String String :=
  match parseUrl url with
  | .error e =>
      .error s!"jwks_url is not a valid URL ({e}); it must be an https URL"
  | .ok parsed =>
      if parsed.scheme = "https" then .ok url
      else
        .error ("jwks_url must be an https URL (got scheme '" ++
          foreign.escapeDebug parsed.scheme ++
          "'); the JWKS is only ever fetched over https")

/-- The `jwks_uri` of a document. -/
def discoveredJwksUri (doc : Value) : Except String String :=
  match doc.getStr "jwks_uri" with
  | some uri => .ok uri
  | none =>
      .error ("OIDC discovery document has no 'jwks_uri'; " ++
        "set jwks_url explicitly")

def resolveJwksUrl : Discovery (Except String String) :=
  match cfg.jwksUrl with
  | some url => .ret (checkJwksUrl foreign parseUrl url)
  | none =>
      (fetchDiscoveryDoc foreign cfg).map fun doc =>
        doc.bind discoveredJwksUri

/-- The endpoints of a document, under the explicit ones. -/
def discoveredEndpoints (doc : Value) : Option String × Option String :=
  (cfg.authorizationEndpoint.or (doc.getStr "authorization_endpoint"),
    cfg.tokenEndpoint.or (doc.getStr "token_endpoint"))

def resolveLoginEndpoints :
    Discovery (Except String (Option String × Option String)) :=
  if cfg.authorizationEndpoint.isSome ∧ cfg.tokenEndpoint.isSome then
    .ret (.ok (cfg.authorizationEndpoint, cfg.tokenEndpoint))
  else
    (fetchDiscoveryDoc foreign cfg).map fun doc =>
      doc.map (discoveredEndpoints cfg)

end Resolve

section Open

def loginDiscoveryFailedMessage (e : String) : String :=
  "busbar auth-oidc: browser-login endpoint discovery failed (" ++ e ++
    "). The plugin is loaded and token VERIFICATION is unaffected, but " ++
    "begin_login/complete_login will refuse every attempt until " ++
    "`authorization_endpoint` and `token_endpoint` are " ++
    "configured explicitly, or busbar is restarted after the IdP's " ++
    "discovery endpoint recovers (discovery runs only at load)."

variable {CacheFetcher : Type} (foreign : Foreign)
  (parseUrl : String → Except String Url)
  (cacheFetcher : OidcConfig → Except String CacheFetcher)
  (cfg : OidcConfig)

/-- Resolved endpoints fill in what the config leaves open. -/
def mergeLogin (endpoints : Option String × Option String) : OidcConfig :=
  { cfg with
    authorizationEndpoint :=
      if cfg.authorizationEndpoint.isNone then endpoints.1
      else cfg.authorizationEndpoint
    tokenEndpoint :=
      if cfg.tokenEndpoint.isNone then endpoints.2 else cfg.tokenEndpoint }

/-- The end of `open_with`: the fetcher of the live cache, and the module. -/
def finishOpen (jwksUrl : String) :
    Except String (OidcModule × CacheFetcher) :=
  (cacheFetcher cfg).map fun fetcher => (OidcModule.new cfg jwksUrl, fetcher)

/-- `open_with` from the resolved JWKS url on.  A failed login discovery is
told, not fatal. -/
def openLogin (jwksUrl : String) :
    Discovery (Except String (OidcModule × CacheFetcher)) :=
  (resolveLoginEndpoints foreign cfg).bind fun
    | .ok endpoints =>
        .ret (finishOpen cacheFetcher (mergeLogin cfg endpoints) jwksUrl)
    | .error e =>
        let msg := loginDiscoveryFailedMessage e
        .note (.stderr msg) <| .note (.warn ⟨e, msg⟩) <|
          .ret (finishOpen cacheFetcher cfg jwksUrl)

def openWith : Discovery (Except String (OidcModule × CacheFetcher)) :=
  (resolveJwksUrl foreign parseUrl cfg).bind fun
    | .error e => .ret (.error e)
    | .ok jwksUrl => openLogin foreign cacheFetcher cfg jwksUrl

end Open

end AuthOidc
