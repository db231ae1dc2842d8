import AuthOidc.Module.Login

/-!
# The authorize URL

Reading the query of the URL gives back what the endpoint had of its own and
then the parameters of the request, whatever text they hold.
-/

namespace AuthOidc

open Rust QueryString Interaction

namespace AuthorizeUrl

/-- The pieces of the query of a URL. -/
def queryPieces (url : String) : List (List Char) :=
  pieces (afterFirst '?' url.toList)

/-- The scopes of a request: `openid`, the configured ones and the requested
ones, each at its first occurrence. -/
def requestScope (cfg : OidcConfig) (req : BeginLogin) : String :=
  " ".intercalate ("openid" :: (cfg.scopes ++ req.scopes)).eraseDups

/-- What the identity provider is to read. -/
def requestParameters (clientId scope : String) (req : BeginLogin) :
    List (String × String) :=
  [("response_type", "code"), ("client_id", clientId),
    ("redirect_uri", req.redirectUri), ("scope", scope),
    ("state", req.state), ("code_challenge", req.codeChallenge),
    ("code_challenge_method", "S256")] ++
  (req.nonce.map fun nonce => ("nonce", nonce)).toList

section Scope

theorem removeAll_push (items seen : List String) (s : String) :
    items.removeAll (seen ++ [s]) =
      (items.removeAll seen).filter fun item => !item == s := by
  simp only [List.removeAll, List.filter_filter]
  apply List.filter_congr
  intro item _
  by_cases same : item = s
  · simp [same]
  · simp [same]

/-- The loop that pushes what is not there yet appends the first occurrences
of the rest. -/
theorem foldl_push_eq (seen scopes : List String) :
    scopes.foldl
        (fun scopes s =>
          if scopes.any (· == s) then scopes else scopes ++ [s]) seen =
      seen ++ (scopes.removeAll seen).eraseDups := by
  induction scopes generalizing seen with
  | nil => simp
  | cons s scopes induction =>
      rw [List.foldl_cons]
      by_cases present : s ∈ seen
      · have found : (seen.any (· == s)) = true := by simpa using present
        have dropped : (s :: scopes).removeAll seen = scopes.removeAll seen :=
          List.filter_cons_of_neg (by simpa using present)
        rw [if_pos found, induction, dropped]
      · have notFound : ¬ (seen.any (· == s)) = true := by simpa using present
        have kept : (s :: scopes).removeAll seen =
            s :: scopes.removeAll seen :=
          List.filter_cons_of_pos (by simpa using present)
        rw [if_neg notFound, induction, removeAll_push, kept,
          List.eraseDups_cons, List.append_assoc, List.singleton_append]

theorem scopeValue_eq (cfg : OidcConfig) :
    scopeValue cfg = " ".intercalate ("openid" :: cfg.scopes).eraseDups := by
  have first : ("openid" :: cfg.scopes).eraseDups =
      ["openid"] ++ (cfg.scopes.removeAll ["openid"]).eraseDups :=
    @List.eraseDups_append _ _ _ ["openid"] _
  rw [scopeValue, foldl_push_eq, first]

end Scope

section Unreserved

theorem isUnreserved_plain : Plain isUnreserved := by
  intro byte kept
  unfold isUnreserved at kept
  simp only [Bool.or_eq_true, Bool.and_eq_true, decide_eq_true_eq,
    beq_iff_eq, UInt8.le_iff_toNat_le, ← UInt8.toNat_inj] at kept
  have codes : 'A'.toUInt8.toNat = 65 ∧ 'Z'.toUInt8.toNat = 90 ∧
      'a'.toUInt8.toNat = 97 ∧ 'z'.toUInt8.toNat = 122 ∧
      '0'.toUInt8.toNat = 48 ∧ '9'.toUInt8.toNat = 57 ∧
      '-'.toUInt8.toNat = 45 ∧ '.'.toUInt8.toNat = 46 ∧
      '_'.toUInt8.toNat = 95 ∧ '~'.toUInt8.toNat = 126 := by
    decide
  omega

theorem isUnreserved_separating : Separating isUnreserved where
  plain := isUnreserved_plain
  ampersand := escaped_of_not_kept isUnreserved_plain (by decide) (by decide)
  equals := escaped_of_not_kept isUnreserved_plain (by decide) (by decide)

end Unreserved

section Url

theorem toList_pct (s : String) :
    (pct s).toList = encode isUnreserved (utf8 s) :=
  String.toList_ofList

/-- The delimiter in front of the parameters. -/
def separator (endpoint : String) : Char :=
  if '?' ∈ endpoint.toList then '&' else '?'

theorem buildAuthorizeUrl_toList (cfg : OidcConfig) (endpoint : String)
    (req : BeginLogin)
    (configured : cfg.authorizationEndpoint = some endpoint) :
    (buildAuthorizeUrl cfg req.redirectUri req.state req.codeChallenge
      req.nonce).toList =
      endpoint.toList ++ separator endpoint ::
        write isUnreserved
          (requestParameters (resolvedClientId cfg) (scopeValue cfg) req) := by
  -- the names and the two fixed values need no escapes
  have coded : ∀ name ∈ ["response_type", "code", "client_id", "redirect_uri",
      "scope", "state", "code_challenge", "code_challenge_method", "S256",
      "nonce"], encode isUnreserved (utf8 name) = name.toList := by
    decide
  simp only [List.forall_mem_cons, List.not_mem_nil, false_implies,
    implies_true, and_true] at coded
  obtain ⟨responseType, code, clientId, redirectUri, scopeName, state,
    codeChallenge, method, s256, nonceName⟩ := coded
  have separates : (if endpoint.toList.contains '?' then "&" else "?").toList =
      [separator endpoint] := by
    unfold separator
    by_cases query : '?' ∈ endpoint.toList <;> simp [query]
  unfold buildAuthorizeUrl
  rw [configured, Option.getD_some]
  cases nonce : req.nonce with
  | none =>
      simp only [String.toList_append, toList_pct, separates, write,
        requestParameters, nonce, Option.map_none, Option.toList_none,
        List.append_nil, List.map_cons, List.map_nil, writePiece, responseType,
        code, clientId, redirectUri, scopeName, state, codeChallenge, method,
        s256, List.intercalate_cons_cons, List.intercalate_singleton]
      simp
  | some nonce =>
      simp only [String.toList_append, toList_pct, separates, write,
        requestParameters, nonce, Option.map_some, Option.toList_some,
        List.cons_append, List.nil_append, List.map_cons, List.map_nil,
        writePiece, responseType, code, clientId, redirectUri, scopeName,
        state, codeChallenge, method, s256, nonceName,
        List.intercalate_cons_cons, List.intercalate_singleton]
      simp

/-- Joining parameters to an endpoint appends their pieces to its own. -/
theorem queryPieces_append (endpoint url : String) (query : List Char)
    (shape : url.toList = endpoint.toList ++ separator endpoint :: query) :
    queryPieces url = queryPieces endpoint ++ pieces query := by
  unfold queryPieces
  rw [shape, separator]
  by_cases present : '?' ∈ endpoint.toList
  · rw [if_pos present, afterFirst_append present, pieces_append]
  · rw [if_neg present, afterFirst_before present,
      afterFirst_of_absent present]
    rfl

end Url

section Begin

/-- What the first step answers, parameter by parameter. -/
theorem beginLogin_of_configured (self : OidcModule) {endpoint : String}
    (req : BeginLogin)
    (configured : self.cfg.authorizationEndpoint = some endpoint) :
    ∃ url, self.beginLogin req = .authorize url ∧
      url.toList = endpoint.toList ++ separator endpoint ::
        write isUnreserved
          (requestParameters (resolvedClientId self.cfg)
            (requestScope self.cfg req) req) := by
  let all := { self.cfg with scopes := self.cfg.scopes ++ req.scopes }
  have shape := buildAuthorizeUrl_toList all endpoint req configured
  have scope : scopeValue all = requestScope self.cfg req := scopeValue_eq all
  have clientId : resolvedClientId all = resolvedClientId self.cfg := rfl
  rw [scope, clientId] at shape
  refine ⟨_, ?_, shape⟩
  simp [OidcModule.beginLogin, configured, all]

end Begin

section ClientId

variable {foreign : Foreign} {self : OidcModule}

/-- Only a callback without a token response is answered with an exchange. -/
theorem exchange_of_completeLogin {req : CompleteLogin}
    {sinceEpoch : Option UInt64} {nowMono : Instant}
    {answer : Call Unit → Except String Unit → Prop} {hop : LoginHop}
    (yields : (self.completeLogin foreign req sinceEpoch nowMono).Yields answer
      (.exchange hop)) :
    ∃ code redirectUri codeVerifier,
      hop = buildTokenExchange self.cfg code redirectUri codeVerifier := by
  cases OidcModule.completeLogin_yields yields with
  | exchange _ _ => exact ⟨_, _, _, rfl⟩

/-- A callback with all that an exchange needs is answered with one. -/
theorem completeLogin_of_code {code redirectUri codeVerifier tokenEndpoint :
      String} (configured : self.cfg.tokenEndpoint = some tokenEndpoint)
    (sinceEpoch : Option UInt64) (nowMono : Instant) :
    self.completeLogin foreign
        ⟨none, some code, some redirectUri, some codeVerifier⟩ sinceEpoch
        nowMono =
      .ret (.exchange (buildTokenExchange self.cfg code redirectUri
        codeVerifier)) := by
  simp [OidcModule.completeLogin, configured]

theorem client_id_mem_buildTokenExchange_iff {cfg : OidcConfig}
    {code redirectUri codeVerifier value : String} :
    ("client_id", value) ∈
        (buildTokenExchange cfg code redirectUri codeVerifier).form ↔
      value = resolvedClientId cfg := by
  simp [buildTokenExchange]

end ClientId

/-- The authorize URL keeps the endpoint and its query, and reads back as
exactly the parameters of the request.  Its client id is the one that every
exchange sends, and every callback that can be exchanged is; and it is the
audience the id token is verified against. -/
theorem authorize_url_round_trip (cfg : OidcConfig) (jwksUrl endpoint : String)
    (req : BeginLogin)
    (configured : cfg.authorizationEndpoint = some endpoint)
    (noFragment : '#' ∉ endpoint.toList) :
    (∃ url, (OidcModule.new cfg jwksUrl).beginLogin req = .authorize url ∧
      endpoint.toList <+: url.toList ∧ '#' ∉ url.toList ∧
      ∃ sent, queryPieces url = queryPieces endpoint ++ sent ∧
        sent.map readPiece =
          (requestParameters (resolvedClientId cfg) (requestScope cfg req)
            req).map some) ∧
    (∀ foreign complete sinceEpoch nowMono answer hop value,
      ((OidcModule.new cfg jwksUrl).completeLogin foreign complete sinceEpoch
        nowMono).Yields answer (.exchange hop) →
      (("client_id", value) ∈ hop.form ↔ value = resolvedClientId cfg)) ∧
    (∀ foreign code redirectUri codeVerifier tokenEndpoint sinceEpoch nowMono,
      cfg.tokenEndpoint = some tokenEndpoint →
      ∃ hop, (OidcModule.new cfg jwksUrl).completeLogin foreign
          ⟨none, some code, some redirectUri, some codeVerifier⟩ sinceEpoch
          nowMono = .ret (.exchange hop) ∧
        hop.url = tokenEndpoint ∧
        ∀ value, ("client_id", value) ∈ hop.form ↔
          value = resolvedClientId cfg) ∧
    (OidcModule.new cfg jwksUrl).loginVerifier.audience =
      resolvedClientId cfg ∧
    (cfg.clientId = none → resolvedClientId cfg = cfg.audience) ∧
    ∀ clientId, cfg.clientId = some clientId →
      resolvedClientId cfg = clientId := by
  refine ⟨?_, ?_, ?_, rfl, ?_, ?_⟩
  · obtain ⟨url, begins, shape⟩ := beginLogin_of_configured
      (OidcModule.new cfg jwksUrl) req configured
    refine ⟨url, begins, ?_, ?_, ?_⟩
    · rw [shape]
      exact List.prefix_append _ _
    · rw [shape]
      have inQuery := not_mem_write
        (escaped_of_not_kept isUnreserved_plain (by decide) (by decide) :
          Escaped isUnreserved '#') (by decide) (by decide)
        (requestParameters (resolvedClientId cfg) (requestScope cfg req) req)
      have notSeparator : '#' ≠ separator endpoint := by
        unfold separator
        split <;> decide
      exact fun member => (List.mem_append.mp member).elim noFragment
        fun later => (List.mem_cons.mp later).elim notSeparator inQuery
    · refine ⟨_, queryPieces_append endpoint _ _ shape, ?_⟩
      rw [pieces_write isUnreserved_separating (by simp [requestParameters]),
        List.map_map]
      apply List.map_congr_left
      intro parameter _
      rw [Function.comp_apply, readPiece_writePiece isUnreserved_separating]
  · intro foreign complete sinceEpoch nowMono answer hop value yields
    obtain ⟨code, redirectUri, codeVerifier, rfl⟩ :=
      exchange_of_completeLogin yields
    exact client_id_mem_buildTokenExchange_iff
  · intro foreign code redirectUri codeVerifier tokenEndpoint sinceEpoch
      nowMono given
    refine ⟨_, completeLogin_of_code given sinceEpoch nowMono, ?_, ?_⟩
    · simp [buildTokenExchange, OidcModule.new, given]
    · intro value
      exact client_id_mem_buildTokenExchange_iff
  · intro unset
    rw [resolvedClientId, unset]
    rfl
  · intro clientId given
    rw [resolvedClientId, given]
    rfl

namespace Sample

def loginConfig : OidcConfig where
  issuer := "https://idp"
  audience := "api"
  jwksUrl := none
  roleClaim := "groups"
  jwksMinRefetchSecs := 30
  jwksTtlSecs := 3600
  caCertPem := none
  clientId := some "c&d"
  scopes := ["email", "openid"]
  authorizationEndpoint := some "https://idp/authorize?p=b2c"
  tokenEndpoint := some "https://idp/token"

def begin : BeginLogin where
  redirectUri := "https://busbar/cb"
  state := "a&b=c#d+e%"
  codeChallenge := "ch"
  nonce := none
  scopes := ["email", "offline"]

end Sample

/-- The client id `c&d` goes into the URL, into the exchange and into the
audience. -/
theorem authorize_url_round_trip_b2c :
    (∃ url sent,
      (OidcModule.new Sample.loginConfig "https://idp/keys").beginLogin
        Sample.begin = .authorize url ∧
      queryPieces url = "p=b2c".toList :: sent ∧
      sent.map readPiece =
        [some ("response_type", "code"), some ("client_id", "c&d"),
          some ("redirect_uri", "https://busbar/cb"),
          some ("scope", "openid email offline"),
          some ("state", "a&b=c#d+e%"), some ("code_challenge", "ch"),
          some ("code_challenge_method", "S256")]) ∧
    (∃ hop,
      (OidcModule.new Sample.loginConfig "https://idp/keys").completeLogin
        AuthOidc.Sample.foreign
        ⟨none, some "code", some "https://busbar/cb", some "verifier"⟩ none
        0 = .ret (.exchange hop) ∧
      hop.url = "https://idp/token" ∧ ("client_id", "c&d") ∈ hop.form) ∧
    (OidcModule.new Sample.loginConfig
      "https://idp/keys").loginVerifier.audience = "c&d" := by
  obtain ⟨⟨url, begins, _, _, sent, queried, sentEq⟩, _, exchanges, audience,
      _, given⟩ :=
    authorize_url_round_trip Sample.loginConfig "https://idp/keys"
      "https://idp/authorize?p=b2c" Sample.begin rfl (by decide)
  have clientId : resolvedClientId Sample.loginConfig = "c&d" := given _ rfl
  have own : queryPieces "https://idp/authorize?p=b2c" =
      ["p=b2c".toList] := by
    decide
  refine ⟨⟨url, sent, begins, ?_, ?_⟩, ?_, audience.trans clientId⟩
  · rw [queried, own]
    rfl
  · rw [sentEq]
    decide
  · obtain ⟨hop, exchanged, url, sends⟩ := exchanges AuthOidc.Sample.foreign
      "code" "https://busbar/cb" "verifier" "https://idp/token" none 0 rfl
    exact ⟨hop, exchanged, url, (sends "c&d").mpr clientId.symm⟩

end AuthorizeUrl

end AuthOidc
