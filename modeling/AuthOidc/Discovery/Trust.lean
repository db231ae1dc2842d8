import AuthOidc.Discovery

/-!
# Trust in discovery

What a discovery response can and cannot do to the plugin.  A response counts
only through a document of the configured issuer, and only where the config
leaves a value open.
-/

namespace AuthOidc

open Rust SerdeJson Interaction

namespace Discovery

/-- The response carries a document of the configured issuer. -/
def Trusted (foreign : Foreign) (cfg : OidcConfig)
    (response : Except String String) (doc : Value) : Prop :=
  ∃ body, response = .ok body ∧ foreign.valueFromStr body = .ok doc ∧
    doc.get "issuer" = some (.string cfg.issuer)

/-- One of the documents fetched by the first `total` GETs has this string
member. -/
def Found (foreign : Foreign) (cfg : OidcConfig)
    (answers : Nat → String → Except String String) (total : Nat)
    (name value : String) : Prop :=
  ∃ get doc, get < total ∧
    Trusted foreign cfg (answers get (discoveryUrl cfg)) doc ∧
    doc.get name = some (.string value)

variable {CacheFetcher : Type} {foreign : Foreign}
  {parseUrl : String → Except String Url}
  {cacheFetcher : OidcConfig → Except String CacheFetcher} {cfg : OidcConfig}
  {answers : Nat → String → Except String String}

section Document

theorem readDiscoveryDoc_eq_ok_iff {response : Except String String}
    {doc : Value} :
    readDiscoveryDoc foreign cfg response = .ok doc ↔
      Trusted foreign cfg response doc := by
  unfold readDiscoveryDoc Trusted
  cases response with
  | error e => simp
  | ok body =>
      cases read : foreign.valueFromStr body with
      | error e => simp [read]
      | ok parsed =>
          cases issuer : parsed.getStr "issuer" with
          | none =>
              have noIssuer : parsed.get "issuer" ≠
                  some (.string cfg.issuer) := by
                intro found
                rw [← Value.getStr_eq_some_iff, issuer] at found
                cases found
              simp only [issuer, reduceCtorEq, Except.ok.injEq,
                exists_eq_left', read, false_iff, not_and]
              intro equal
              subst equal
              exact noIssuer
          | some docIssuer =>
              have found := Value.getStr_eq_some_iff.mp issuer
              by_cases same : docIssuer = cfg.issuer
              · simp only [issuer, if_pos same, Except.ok.injEq,
                  exists_eq_left', read]
                constructor
                · intro equal
                  subst equal
                  exact ⟨rfl, by rw [found, same]⟩
                · exact And.left
              · simp only [issuer, if_neg same, reduceCtorEq, Except.ok.injEq,
                  exists_eq_left', read, false_iff, not_and]
                intro equal
                subst equal
                rw [found]
                simpa using same

end Document

section Runs

/-- The JWKS url, as a function of the GET that may be made for it. -/
def jwksResolution (foreign : Foreign) (parseUrl : String → Except String Url)
    (cfg : OidcConfig) (response : Except String String) :
    Except String String :=
  match cfg.jwksUrl with
  | some url => checkJwksUrl foreign parseUrl url
  | none => (readDiscoveryDoc foreign cfg response).bind discoveredJwksUri

/-- The GETs made for the JWKS url. -/
def jwksGets (cfg : OidcConfig) : Nat :=
  if cfg.jwksUrl.isSome then 0 else 1

theorem resolveJwksUrl_run (count : Nat) :
    (resolveJwksUrl foreign parseUrl cfg).run (serial answers) count =
      (jwksResolution foreign parseUrl cfg
        (answers count (discoveryUrl cfg)), [], count + jwksGets cfg) := by
  unfold resolveJwksUrl jwksResolution jwksGets
  cases cfg.jwksUrl with
  | some url => rfl
  | none => rfl

/-- A string member of a trusted response. -/
def discovered (foreign : Foreign) (cfg : OidcConfig)
    (response : Except String String) (name : String) : Option String :=
  (readDiscoveryDoc foreign cfg response).toOption.bind fun doc =>
    doc.getStr name

theorem discovered_eq_some_iff {response : Except String String}
    {name value : String} :
    discovered foreign cfg response name = some value ↔
      ∃ doc, Trusted foreign cfg response doc ∧
        doc.get name = some (.string value) := by
  unfold discovered
  simp only [← readDiscoveryDoc_eq_ok_iff]
  cases readDiscoveryDoc foreign cfg response with
  | error e => simp [Except.toOption]
  | ok doc => simp [Except.toOption]

theorem discovered_of_untrusted {response : Except String String}
    (untrusted : ¬ ∃ doc, Trusted foreign cfg response doc) (name : String) :
    discovered foreign cfg response name = none := by
  rw [Option.eq_none_iff_forall_ne_some]
  intro value found
  obtain ⟨doc, trusted, _⟩ := discovered_eq_some_iff.mp found
  exact untrusted ⟨doc, trusted⟩

/-- The config after the login discovery, as a function of its GET. -/
def loginConfig (foreign : Foreign) (cfg : OidcConfig)
    (response : Except String String) : OidcConfig :=
  { cfg with
    authorizationEndpoint := cfg.authorizationEndpoint.or
      (discovered foreign cfg response "authorization_endpoint")
    tokenEndpoint := cfg.tokenEndpoint.or
      (discovered foreign cfg response "token_endpoint") }

/-- Both endpoints are configured, so that no login discovery takes place. -/
def LoginConfigured (cfg : OidcConfig) : Prop :=
  cfg.authorizationEndpoint.isSome ∧ cfg.tokenEndpoint.isSome

instance : Decidable (LoginConfigured cfg) :=
  inferInstanceAs (Decidable (_ ∧ _))

/-- The GETs made for the login endpoints. -/
def loginGets (cfg : OidcConfig) : Nat :=
  if LoginConfigured cfg then 0 else 1

/-- The login discovery decides the config, never whether the plugin opens. -/
theorem openLogin_run (jwksUrl : String) (count : Nat) :
    ∃ notices,
      (openLogin foreign cacheFetcher cfg jwksUrl).run (serial answers) count =
        (finishOpen cacheFetcher
          (loginConfig foreign cfg (answers count (discoveryUrl cfg)))
          jwksUrl, notices, count + loginGets cfg) := by
  obtain ⟨issuer, audience, configuredUrl, roleClaim, minRefetch, ttl, caCert,
    clientId, scopes, authorization, token⟩ := cfg
  unfold openLogin resolveLoginEndpoints loginConfig loginGets LoginConfigured
    discovered
  cases authorization with
  | none =>
      simp only [fetchDiscoveryDoc, Program.map, Program.bind, Program.run,
        serial, Option.isSome_none, Bool.false_eq_true, false_and, if_false]
      cases readDiscoveryDoc foreign _ _ with
      | error e => exact ⟨_, by cases token <;> rfl⟩
      | ok doc => exact ⟨_, by cases token <;> rfl⟩
  | some endpoint =>
      cases token with
      | none =>
          simp only [fetchDiscoveryDoc, Program.map, Program.bind, Program.run,
            serial, Option.isSome_none, Bool.false_eq_true, and_false,
            if_false]
          cases readDiscoveryDoc foreign _ _ with
          | error e => exact ⟨_, rfl⟩
          | ok doc => exact ⟨_, rfl⟩
      | some tokenEndpoint => exact ⟨[], rfl⟩

theorem openWith_unresolved {e : String}
    (failed : jwksResolution foreign parseUrl cfg
      (answers 0 (discoveryUrl cfg)) = .error e) :
    (openWith foreign parseUrl cacheFetcher cfg).run (serial answers) 0 =
      (.error e, [], jwksGets cfg) := by
  unfold openWith
  rw [Program.run_bind, resolveJwksUrl_run, Nat.zero_add, failed]
  rfl

theorem openWith_resolved
    (cacheFetcher : OidcConfig → Except String CacheFetcher) {url : String}
    (resolved : jwksResolution foreign parseUrl cfg
      (answers 0 (discoveryUrl cfg)) = .ok url) :
    ∃ notices,
      (openWith foreign parseUrl cacheFetcher cfg).run (serial answers) 0 =
        (finishOpen cacheFetcher
          (loginConfig foreign cfg
            (answers (jwksGets cfg) (discoveryUrl cfg))) url, notices,
          jwksGets cfg + loginGets cfg) := by
  unfold openWith
  rw [Program.run_bind, resolveJwksUrl_run, Nat.zero_add, resolved]
  exact openLogin_run url (jwksGets cfg)

/-- The result of `open_with` in one formula. -/
theorem openWith_result :
    ((openWith foreign parseUrl cacheFetcher cfg).run
      (serial answers) 0).1 =
      (jwksResolution foreign parseUrl cfg
        (answers 0 (discoveryUrl cfg))).bind
        (finishOpen cacheFetcher
          (loginConfig foreign cfg
            (answers (jwksGets cfg) (discoveryUrl cfg)))) := by
  cases resolution : jwksResolution foreign parseUrl cfg
      (answers 0 (discoveryUrl cfg)) with
  | error e =>
      rw [openWith_unresolved resolution]
      rfl
  | ok url =>
      obtain ⟨notices, ran⟩ := openWith_resolved cacheFetcher resolution
      rw [ran]
      rfl

end Runs

section Provenance

theorem found_of_discovered {get total : Nat} {name value : String}
    (made : get < total)
    (member : discovered foreign cfg (answers get (discoveryUrl cfg)) name =
      some value) : Found foreign cfg answers total name value := by
  obtain ⟨doc, trusted, found⟩ := discovered_eq_some_iff.mp member
  exact ⟨get, doc, made, trusted, found⟩

/-- Where the JWKS url of a successful resolution comes from. -/
theorem jwksResolution_eq_ok_iff {response : Except String String}
    {url : String} :
    jwksResolution foreign parseUrl cfg response = .ok url ↔
      (cfg.jwksUrl = some url ∧
        ∃ parsed, parseUrl url = .ok parsed ∧ parsed.scheme = "https") ∨
      (cfg.jwksUrl = none ∧
        discovered foreign cfg response "jwks_uri" = some url) := by
  unfold jwksResolution
  cases cfg.jwksUrl with
  | some explicit =>
      simp only [Option.some.injEq, reduceCtorEq, false_and, or_false]
      unfold checkJwksUrl
      cases parsing : parseUrl explicit with
      | error e =>
          simp only [reduceCtorEq, false_iff, not_and]
          intro equal
          subst equal
          simp [parsing]
      | ok parsed =>
          by_cases https : parsed.scheme = "https"
          · simp only [if_pos https, Except.ok.injEq]
            constructor
            · intro equal
              subst equal
              exact ⟨rfl, parsed, parsing, https⟩
            · exact And.left
          · simp only [if_neg https, reduceCtorEq, false_iff, not_and]
            intro equal
            subst equal
            simpa [parsing] using https
  | none =>
      simp only [reduceCtorEq, false_and, true_and, false_or]
      unfold discovered
      cases readDiscoveryDoc foreign cfg response with
      | error e => simp [Except.bind, Except.toOption]
      | ok doc =>
          simp only [Except.bind, discoveredJwksUri, Except.toOption,
            Option.bind_some]
          cases doc.getStr "jwks_uri" <;> simp

/-- An endpoint after the merge: the configured one, or one that was found. -/
theorem endpoint_of_merge {configured merged : Option String}
    {response : Except String String} {name : String}
    (merge : merged = configured.or (discovered foreign cfg response name)) :
    merged = configured ∨ configured = none ∧ ∃ value, merged = some value ∧
      discovered foreign cfg response name = some value := by
  cases configured with
  | some value => exact .inl merge
  | none =>
      rw [Option.none_or] at merge
      cases member : discovered foreign cfg response name with
      | none =>
          rw [member] at merge
          exact .inl merge
      | some value =>
          rw [member] at merge
          exact .inr ⟨rfl, value, merge, rfl⟩

end Provenance

section Poisoning

/-- Two behaviours of the discovery endpoint that differ only in responses
that neither run can trust. -/
def AgreeWhereTrusted (foreign : Foreign) (cfg : OidcConfig)
    (left right : Nat → String → Except String String) : Prop :=
  ∀ get, left get (discoveryUrl cfg) = right get (discoveryUrl cfg) ∨
    (¬ ∃ doc, Trusted foreign cfg (left get (discoveryUrl cfg)) doc) ∧
    ¬ ∃ doc, Trusted foreign cfg (right get (discoveryUrl cfg)) doc

variable {left right : Nat → String → Except String String}

theorem discovered_agree (agree : AgreeWhereTrusted foreign cfg left right)
    (get : Nat) (name : String) :
    discovered foreign cfg (left get (discoveryUrl cfg)) name =
      discovered foreign cfg (right get (discoveryUrl cfg)) name := by
  rcases agree get with same | ⟨leftUntrusted, rightUntrusted⟩
  · rw [same]
  · rw [discovered_of_untrusted leftUntrusted,
      discovered_of_untrusted rightUntrusted]

theorem loginConfig_agree (agree : AgreeWhereTrusted foreign cfg left right)
    (get : Nat) :
    loginConfig foreign cfg (left get (discoveryUrl cfg)) =
      loginConfig foreign cfg (right get (discoveryUrl cfg)) := by
  unfold loginConfig
  rw [discovered_agree agree, discovered_agree agree]

theorem jwksResolution_agree
    (agree : AgreeWhereTrusted foreign cfg left right) (get : Nat)
    (url : String) :
    jwksResolution foreign parseUrl cfg (left get (discoveryUrl cfg)) =
        .ok url ↔
      jwksResolution foreign parseUrl cfg (right get (discoveryUrl cfg)) =
        .ok url := by
  rw [jwksResolution_eq_ok_iff, jwksResolution_eq_ok_iff,
    discovered_agree agree]

theorem openWith_agree (parseUrl : String → Except String Url)
    (cacheFetcher : OidcConfig → Except String CacheFetcher)
    (agree : AgreeWhereTrusted foreign cfg left right)
    (opened : OidcModule × CacheFetcher) :
    ((openWith foreign parseUrl cacheFetcher cfg).run
        (serial left) 0).1 = .ok opened ↔
      ((openWith foreign parseUrl cacheFetcher cfg).run
        (serial right) 0).1 = .ok opened := by
  have byUrl : ∀ answers : Nat → String → Except String String,
      ((openWith foreign parseUrl cacheFetcher cfg).run
        (serial answers) 0).1 = .ok opened ↔
      ∃ url, jwksResolution foreign parseUrl cfg
        (answers 0 (discoveryUrl cfg)) = .ok url ∧
        finishOpen cacheFetcher
          (loginConfig foreign cfg
            (answers (jwksGets cfg) (discoveryUrl cfg))) url =
          .ok opened := by
    intro answers
    rw [openWith_result]
    exact Except.bind_eq_ok_iff
  rw [byUrl, byUrl, loginConfig_agree agree]
  simp only [jwksResolution_agree agree]

end Poisoning

section Opened

theorem finishOpen_eq_ok_iff {jwksUrl : String}
    {opened : OidcModule × CacheFetcher} :
    finishOpen cacheFetcher cfg jwksUrl = .ok opened ↔
      cacheFetcher cfg = .ok opened.2 ∧
        opened.1 = OidcModule.new cfg jwksUrl := by
  obtain ⟨self, fetcher⟩ := opened
  unfold finishOpen
  cases cacheFetcher cfg with
  | error e => simp [Except.map]
  | ok made =>
      simp only [Except.map, Except.ok.injEq, Prod.mk.injEq]
      constructor
      · intro given
        obtain ⟨rfl, rfl⟩ := given
        exact ⟨rfl, rfl⟩
      · intro given
        obtain ⟨rfl, rfl⟩ := given
        exact ⟨rfl, rfl⟩

theorem finishOpen_eq_error {jwksUrl e : String}
    (failed : finishOpen cacheFetcher cfg jwksUrl = .error e) :
    cacheFetcher cfg = .error e := by
  unfold finishOpen at failed
  cases made : cacheFetcher cfg with
  | error other =>
      rw [made] at failed
      cases failed
      rfl
  | ok fetcher =>
      rw [made] at failed
      cases failed

/-- A plugin that opened: its resolved url, its module, and the GETs made. -/
theorem opened_of_run {opened : OidcModule} {fetcher : CacheFetcher}
    {notices : List Notice} {total : Nat}
    (ran : (openWith foreign parseUrl cacheFetcher cfg).run
      (serial answers) 0 = (.ok (opened, fetcher), notices, total)) :
    ∃ url, jwksResolution foreign parseUrl cfg
        (answers 0 (discoveryUrl cfg)) = .ok url ∧
      opened = OidcModule.new
        (loginConfig foreign cfg
          (answers (jwksGets cfg) (discoveryUrl cfg))) url ∧
      total = jwksGets cfg + loginGets cfg := by
  cases resolution : jwksResolution foreign parseUrl cfg
      (answers 0 (discoveryUrl cfg)) with
  | error e =>
      rw [openWith_unresolved resolution] at ran
      cases ran
  | ok url =>
      obtain ⟨told, resolvedRun⟩ := openWith_resolved cacheFetcher resolution
      rw [resolvedRun, Prod.mk.injEq, Prod.mk.injEq] at ran
      obtain ⟨finished, _, totalEq⟩ := ran
      exact ⟨url, rfl, (finishOpen_eq_ok_iff.mp finished).2, totalEq.symm⟩

/-- An endpoint that the config leaves open is looked up. -/
theorem loginGet_made (absent : cfg.authorizationEndpoint = none ∨
    cfg.tokenEndpoint = none) :
    jwksGets cfg < jwksGets cfg + loginGets cfg := by
  unfold loginGets LoginConfigured
  rcases absent with absent | absent <;> simp [absent]

end Opened

/-- Discovery is trusted only when its issuer matches, explicit config always
wins, and responses that cannot be trusted cannot be told apart. -/
theorem discovery_trust (foreign : Foreign)
    (parseUrl : String → Except String Url)
    (cacheFetcher : OidcConfig → Except String CacheFetcher)
    (cfg : OidcConfig) :
    (∀ answers opened fetcher notices total,
      (openWith foreign parseUrl cacheFetcher cfg).run (serial answers) 0 =
        (.ok (opened, fetcher), notices, total) →
      (cfg.jwksUrl = some opened.jwks.url ∨
        cfg.jwksUrl = none ∧
          Found foreign cfg answers total "jwks_uri" opened.jwks.url) ∧
      (opened.cfg.authorizationEndpoint = cfg.authorizationEndpoint ∨
        cfg.authorizationEndpoint = none ∧
          ∃ endpoint, opened.cfg.authorizationEndpoint = some endpoint ∧
            Found foreign cfg answers total "authorization_endpoint"
              endpoint) ∧
      (opened.cfg.tokenEndpoint = cfg.tokenEndpoint ∨
        cfg.tokenEndpoint = none ∧
          ∃ endpoint, opened.cfg.tokenEndpoint = some endpoint ∧
            Found foreign cfg answers total "token_endpoint" endpoint) ∧
      opened = OidcModule.new
        { cfg with
          authorizationEndpoint := opened.cfg.authorizationEndpoint
          tokenEndpoint := opened.cfg.tokenEndpoint } opened.jwks.url) ∧
    (∀ answers e,
      ((openWith foreign parseUrl cacheFetcher cfg).run
        (serial answers) 0).1 = .error e →
      ((resolveJwksUrl foreign parseUrl cfg).run
        (serial answers) 0).1 = .error e ∨
      ∃ authorization token, cacheFetcher
        { cfg with
          authorizationEndpoint := authorization
          tokenEndpoint := token } = .error e) ∧
    ∀ left right, AgreeWhereTrusted foreign cfg left right →
      (∃ e, ((openWith foreign parseUrl cacheFetcher cfg).run
          (serial left) 0).1 = .error e) ∧
        (∃ e, ((openWith foreign parseUrl cacheFetcher cfg).run
          (serial right) 0).1 = .error e) ∨
      ∃ opened,
        ((openWith foreign parseUrl cacheFetcher cfg).run
          (serial left) 0).1 = .ok opened ∧
        ((openWith foreign parseUrl cacheFetcher cfg).run
          (serial right) 0).1 = .ok opened := by
  refine ⟨?_, ?_, ?_⟩
  · intro answers opened fetcher notices total ran
    obtain ⟨url, resolved, rfl, rfl⟩ := opened_of_run ran
    refine ⟨?_, ?_, ?_, rfl⟩
    · rcases jwksResolution_eq_ok_iff.mp resolved with
        ⟨explicit, _⟩ | ⟨absent, member⟩
      · exact .inl explicit
      · have made : 0 < jwksGets cfg + loginGets cfg := by
          simp [jwksGets, absent]
        exact .inr ⟨absent, found_of_discovered made member⟩
    · rcases endpoint_of_merge rfl with kept | ⟨absent, value, merged, member⟩
      · exact .inl kept
      · exact .inr ⟨absent, value, merged,
          found_of_discovered (loginGet_made (.inl absent)) member⟩
    · rcases endpoint_of_merge rfl with kept | ⟨absent, value, merged, member⟩
      · exact .inl kept
      · exact .inr ⟨absent, value, merged,
          found_of_discovered (loginGet_made (.inr absent)) member⟩
  · intro answers e failed
    rw [openWith_result] at failed
    rw [resolveJwksUrl_run]
    cases resolution : jwksResolution foreign parseUrl cfg
        (answers 0 (discoveryUrl cfg)) with
    | error other =>
        rw [resolution] at failed
        cases failed
        exact .inl rfl
    | ok url =>
        rw [resolution] at failed
        exact .inr ⟨_, _, finishOpen_eq_error failed⟩
  · intro left right agree
    have same := openWith_agree parseUrl cacheFetcher agree
    cases leftResult : ((openWith foreign parseUrl cacheFetcher cfg).run
        (serial left) 0).1 with
    | ok opened =>
        exact .inr ⟨opened, rfl, (same opened).mp leftResult⟩
    | error e =>
        cases rightResult : ((openWith foreign parseUrl cacheFetcher cfg).run
            (serial right) 0).1 with
        | error other => exact .inl ⟨⟨e, rfl⟩, other, rfl⟩
        | ok opened =>
            have opens := (same opened).mpr rightResult
            rw [leftResult] at opens
            cases opens

end Discovery

end AuthOidc
