import AuthOidc.Discovery.Trust

/-!
# The scheme of the JWKS url

The live fetcher refuses every url that is not https.  An explicit `jwks_url`
is checked for that when the plugin opens; a discovered `jwks_uri` is taken as
it is.
-/

namespace AuthOidc

open Rust SerdeJson Interaction

namespace Discovery

/-- The https-only fetcher can fetch the url. -/
def IsHttps (parseUrl : String → Except String Url) (url : String) : Prop :=
  ∃ parsed, parseUrl url = .ok parsed ∧ parsed.scheme = "https"

/-- A configured url that is resolved has been checked. -/
theorem isHttps_of_explicit {foreign : Foreign}
    {parseUrl : String → Except String Url} {cfg : OidcConfig}
    {response : Except String String} {url : String}
    (explicit : cfg.jwksUrl.isSome)
    (resolved : jwksResolution foreign parseUrl cfg response = .ok url) :
    IsHttps parseUrl url := by
  rcases jwksResolution_eq_ok_iff.mp resolved with ⟨_, https⟩ | ⟨absent, _⟩
  · exact https
  · rw [absent] at explicit
    cases explicit

/-- The resolved url is https exactly if the config names one, or no trusted
document names another. -/
theorem resolved_is_https_iff (foreign : Foreign)
    (parseUrl : String → Except String Url) (cfg : OidcConfig)
    (response : Except String String) :
    (∀ url, ((resolveJwksUrl foreign parseUrl cfg).run
        (serial fun _ _ => response) 0).1 = .ok url →
      IsHttps parseUrl url) ↔
      cfg.jwksUrl.isSome ∨
        ∀ doc uri, Trusted foreign cfg response doc →
          doc.get "jwks_uri" = some (.string uri) → IsHttps parseUrl uri := by
  simp only [resolveJwksUrl_run]
  constructor
  · intro https
    by_cases explicit : cfg.jwksUrl.isSome
    · exact .inl explicit
    · right
      intro doc uri trusted member
      have absent := Option.not_isSome_iff_eq_none.mp explicit
      have found := discovered_eq_some_iff.mpr ⟨doc, trusted, member⟩
      exact https uri (jwksResolution_eq_ok_iff.mpr (.inr ⟨absent, found⟩))
  · rintro (explicit | documents) url resolved
    · exact isHttps_of_explicit explicit resolved
    · rcases jwksResolution_eq_ok_iff.mp resolved with ⟨_, https⟩ | ⟨_, found⟩
      · exact https
      · obtain ⟨doc, trusted, member⟩ := discovered_eq_some_iff.mp found
        exact documents doc url trusted member

namespace Sample

def body : String :=
  "\x7b\"issuer\":\"https://idp\",\"jwks_uri\":\"http://idp/keys\"\x7d"

/-- The sample foreign code, reading one discovery document as well. -/
def foreign : Foreign :=
  { AuthOidc.Sample.foreign with
    valueFromStr := fun text =>
      if text = body then
        .ok (.object [("issuer", .string "https://idp"),
          ("jwks_uri", .string "http://idp/keys")])
      else .error "expected value at line 1 column 1" }

def parseUrl (text : String) : Except String Url :=
  if "https://".toList.isPrefixOf text.toList then .ok ⟨"https"⟩
  else if "http://".toList.isPrefixOf text.toList then .ok ⟨"http"⟩
  else .error "relative URL without a base"

def config : OidcConfig where
  issuer := "https://idp"
  audience := "api"
  jwksUrl := none
  roleClaim := "groups"
  jwksMinRefetchSecs := 60
  jwksTtlSecs := 3600
  caCertPem := none
  clientId := none
  scopes := []
  authorizationEndpoint := none
  tokenEndpoint := none

end Sample

/-- A plaintext `jwks_uri` in a document of the right issuer is accepted. -/
theorem plaintext_jwks_uri_is_resolved :
    ¬ ∀ (cfg : OidcConfig) (response : Except String String) (url : String),
      ((resolveJwksUrl Sample.foreign Sample.parseUrl cfg).run
        (serial fun _ _ => response) 0).1 = .ok url →
      IsHttps Sample.parseUrl url := by
  intro https
  obtain ⟨parsed, parsing, scheme⟩ :=
    https Sample.config (.ok Sample.body) "http://idp/keys" rfl
  have plaintext : Sample.parseUrl "http://idp/keys" = .ok ⟨"http"⟩ := rfl
  rw [plaintext] at parsing
  cases parsing
  exact absurd scheme (by decide)

end Discovery

end AuthOidc
