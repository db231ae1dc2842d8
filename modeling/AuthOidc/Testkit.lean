import AuthOidc.Claims.Identity
import AuthOidc.Plugin

/-!
# The local issuer

The test kit signs tokens of its own and publishes the key for them.  Here the
two ends of the development meet: what the issuer writes is what the plugin
reads, from the settings to the verdict on a minted token.
-/

namespace AuthOidc

open Rust SerdeJson Interaction OidcVerifier

/-- A running issuer: its identity, its key pair, and where its JWKS is
served. -/
structure Issuer where
  issuer : String
  kid : String
  /-- The public key, `0x04 || X || Y`. -/
  point : Bytes
  /-- `EcdsaKeyPair::sign`. -/
  signature : Bytes → Bytes
  jwksUrl : String
  certPem : String

namespace Issuer

variable (self : Issuer)

/-- The only entry of the JWKS. -/
def jwk : Value :=
  .object [("alg", .string "ES256"), ("crv", .string "P-256"),
    ("kid", .string self.kid), ("kty", .string "EC"), ("use", .string "sig"),
    ("x", .string (b64Encode ((self.point.take 33).drop 1))),
    ("y", .string (b64Encode ((self.point.take 65).drop 33)))]

def jwks : Value :=
  .object [("keys", .array [self.jwk])]

def head : Value :=
  .object [("alg", .string "ES256"), ("kid", .string self.kid),
    ("typ", .string "JWT")]

def settings (audience : String) : List (String × Value) :=
  [("audience", .string audience),
    ("authorization_endpoint", .string (self.issuer ++ "/authorize")),
    ("ca_cert_pem", .string self.certPem), ("issuer", .string self.issuer),
    ("jwks_url", .string self.jwksUrl), ("role_claim", .string "roles"),
    ("token_endpoint", .string (self.issuer ++ "/token"))]

section Sign

-- `serde_json::to_vec`, whose bytes are those of a text
variable (toString : Value → String)

def signingInput (claims : Value) : String :=
  b64Encode (Text.asBytes (toString self.head)) ++ "." ++
    b64Encode (Text.asBytes (toString claims))

def sign (claims : Value) : String :=
  let input := self.signingInput toString claims
  input ++ "." ++ b64Encode (self.signature (Text.asBytes input))

/-- The claims of a token, valid for an hour from `now`. -/
def mintClaims (sub : String) (roles : List String) (aud : String)
    (now : UInt64) : Value :=
  .object [("aud", .string aud), ("exp", .number (.posInt (now + 3600))),
    ("iss", .string self.issuer), ("nbf", .number (.posInt (now - 10))),
    ("roles", .array (roles.map .string)), ("sub", .string sub)]

def mint (sub : String) (roles : List String) (aud : String) (now : UInt64) :
    String :=
  self.sign toString (self.mintClaims sub roles aud now)

end Sign

/-- The config that the settings describe. -/
def config (audience : String) : OidcConfig where
  issuer := self.issuer
  audience := audience
  jwksUrl := some self.jwksUrl
  roleClaim := "roles"
  jwksMinRefetchSecs := defaultMinRefetchSecs
  jwksTtlSecs := defaultTtlSecs
  caCertPem := some self.certPem
  clientId := none
  scopes := []
  authorizationEndpoint := some (self.issuer ++ "/authorize")
  tokenEndpoint := some (self.issuer ++ "/token")

theorem settings_read (audience : String) :
    OidcConfig.fromValue (.object (self.settings audience)) =
      .ok (self.config audience) := by
  change OidcConfig.read (self.settings audience) (fun _ => .missing) = _
  refine OidcConfig.read_eq_ok_iff.mpr ⟨?_, ?_, ?_⟩
  · change ["audience", "authorization_endpoint", "ca_cert_pem", "issuer",
      "jwks_url", "role_claim", "token_endpoint"].Nodup
    decide
  · change ∀ name ∈ ["audience", "authorization_endpoint", "ca_cert_pem",
      "issuer", "jwks_url", "role_claim", "token_endpoint"],
        name ∈ OidcConfig.memberNames
    decide
  · exact {
      issuer := rfl
      audience := rfl
      jwksUrl := .inl rfl
      roleClaim := .inl rfl
      jwksMinRefetchSecs := .inr ⟨rfl, rfl⟩
      jwksTtlSecs := .inr ⟨rfl, rfl⟩
      caCertPem := .inl rfl
      clientId := .inr ⟨rfl, rfl⟩
      scopes := .inr ⟨rfl, rfl⟩
      authorizationEndpoint := .inl rfl
      tokenEndpoint := .inl rfl }

/-! ## What the readers make of what the issuer writes -/

/-- The key that is read from the JWKS. -/
def key : Jwk where
  kty := "EC"
  kid := some self.kid
  n := none
  e := none
  crv := some "P-256"
  x := some (b64Encode ((self.point.take 33).drop 1))
  y := some (b64Encode ((self.point.take 65).drop 33))
  keyUse := some "sig"

def parts (toString : Value → String) (claims : Value) : Parts where
  header := ⟨"ES256", some self.kid, none⟩
  payload := Text.asBytes (toString claims)
  signature := self.signature
    (Text.asBytes (self.signingInput toString claims))
  signingInput := self.signingInput toString claims

/-- The foreign code reads back what it wrote, and accepts the signature of the
token that carries the claims. -/
structure Works (issuer : Issuer) (foreign : Foreign)
    (toString : Value → String) (claims : Value) : Prop where
  readsHead : foreign.headerFromSlice (Text.asBytes (toString issuer.head)) =
    .ok ⟨"ES256", some issuer.kid, none⟩
  readsJwks :
    foreign.jwksEntriesFromStr (toString issuer.jwks) = .ok [issuer.jwk]
  readsClaims : foreign.valueFromSlice (Text.asBytes (toString claims)) =
    .ok claims
  uncompressed : ∃ x y, issuer.point = 0x04 :: (x ++ y) ∧ x.length = 32 ∧
    y.length = 32
  signs : foreign.ecdsaVerify issuer.point
    (Text.asBytes (issuer.signingInput toString claims))
    (issuer.signature
      (Text.asBytes (issuer.signingInput toString claims))) = true

variable {self} {foreign : Foreign} {toString : Value → String}
  {claims : Value}

theorem jwk_read (self : Issuer) : Jwk.fromValue self.jwk = some self.key :=
  rfl

theorem Works.parse (works : self.Works foreign toString claims) :
    JwkSet.parse foreign (toString self.jwks) = .ok ⟨[self.key]⟩ :=
  JwkSet.parse_eq_ok_iff.mpr
    ⟨_, works.readsJwks, by simp [JwkSet.skipUnusableKeys, jwk_read], by simp⟩

theorem Works.split (works : self.Works foreign toString claims) :
    Jwt.split foreign (self.sign toString claims) =
      .ok (self.parts toString claims) :=
  Jwt.split_compact works.readsHead

theorem Works.material (works : self.Works foreign toString claims) :
    self.key.material = .ec self.point := by
  obtain ⟨x, y, point, xLength, yLength⟩ := works.uncompressed
  refine material_eq_ec_iff.mpr ⟨rfl, x, y, ?_, ?_, point⟩
  · rw [key, point]
    simp [xLength]
  · have whole : (x ++ y).take 64 = x ++ y :=
      List.take_of_length_le (by simp [xLength, yLength])
    rw [key, point]
    simp [whole, ← xLength]

theorem Works.verifies (works : self.Works foreign toString claims) :
    Jwt.verifySignature foreign (self.parts toString claims) self.key =
      .ok () :=
  Jwt.verifySignature_eq_ok_iff.mpr
    ⟨rfl, by simp [key], .es256 rfl rfl rfl works.material works.signs⟩

theorem Works.publishes (works : self.Works foreign toString claims) :
    Publishes foreign (self.parts toString claims)
      (.ok (toString self.jwks)) :=
  ⟨_, _, rfl, works.parse, self.key, List.mem_singleton.mpr rfl, .inl rfl,
    works.verifies⟩

/-! ## The claims of a minted token -/

section Mint

variable {audience sub aud : String} {roles : List String} {now : UInt64}
  {nowUnix : Int64}

section Members

variable (issuer : Issuer) (sub aud : String) (roles : List String)
  (now : UInt64)

theorem mintClaims_iss :
    (issuer.mintClaims sub roles aud now).get "iss" =
      some (.string issuer.issuer) :=
  rfl

theorem mintClaims_aud :
    (issuer.mintClaims sub roles aud now).get "aud" = some (.string aud) :=
  rfl

theorem mintClaims_exp :
    (issuer.mintClaims sub roles aud now).get "exp" =
      some (.number (.posInt (now + 3600))) :=
  rfl

theorem mintClaims_nbf :
    (issuer.mintClaims sub roles aud now).get "nbf" =
      some (.number (.posInt (now - 10))) :=
  rfl

theorem mintClaims_oid :
    (issuer.mintClaims sub roles aud now).get "oid" = none :=
  rfl

theorem mintClaims_sub :
    (issuer.mintClaims sub roles aud now).get "sub" = some (.string sub) :=
  rfl

theorem mintClaims_roles :
    extractStringList ((issuer.mintClaims sub roles aud now).get "roles") =
      roles := by
  change (roles.map Value.string).filterMap Value.asStr = roles
  simp [List.filterMap_map, Function.comp_def, Value.asStr]

end Members

/-- What it takes for a minted token to be honoured at a reading: the hour of
its validity, with the skew on both sides. -/
structure Honoured (audience sub aud : String) (now : UInt64)
    (nowUnix : Int64) : Prop where
  audience : aud = audience
  subject : Text.isBlank sub = false
  started : now.toNat - 70 ≤ nowUnix.toInt
  notOver : nowUnix.toInt ≤ now.toNat + 3660

theorem mint_otherChecks (issuer : Issuer) :
    OtherChecks ⟨issuer.issuer, audience, "roles"⟩
        (issuer.mintClaims sub roles aud now) ↔
      aud = audience ∧ Text.isBlank sub = false := by
  constructor
  · rintro ⟨_, aud, _, name, named, text, found, notBlank⟩
    simp only [mintClaims_aud, Option.some.injEq, Value.string.injEq,
      reduceCtorEq, false_and, exists_false, or_false] at aud
    refine ⟨aud, ?_⟩
    -- an issuer writes no `oid`
    rcases List.mem_cons.mp named with rfl | named
    · rw [mintClaims_oid] at found
      cases found
    · cases List.mem_singleton.mp named
      rw [mintClaims_sub] at found
      cases found
      exact notBlank
  · rintro ⟨sameAudience, notBlank⟩
    exact {
      iss := mintClaims_iss ..
      aud := .inl (by rw [mintClaims_aud, sameAudience])
      overage := fun fromGroups => by simp at fromGroups
      subject := ⟨"sub", by decide, sub, mintClaims_sub .., notBlank⟩ }

/-- The exact dates of a minted token, where the sums stay in their type. -/
theorem mint_dates (afterEpoch : 10 ≤ now.toNat)
    (beforeTop : now.toNat + 3600 < 2 ^ 63) :
    (now + 3600).toNat = now.toNat + 3600 ∧
      (now - 10).toNat = now.toNat - 10 := by
  constructor
  · rw [UInt64.toNat_add]
    simp only [UInt64.toNat_ofNat]
    omega
  · rw [UInt64.toNat_sub_of_le]
    · rfl
    · exact afterEpoch

theorem mint_accepts_iff (issuer : Issuer) (sane : Replay.Sane nowUnix)
    (afterEpoch : 10 ≤ now.toNat) (beforeTop : now.toNat + 3600 < 2 ^ 63) :
    Accepts ⟨issuer.issuer, audience, "roles"⟩
        (issuer.mintClaims sub roles aud now) nowUnix ↔
      Honoured audience sub aud now nowUnix := by
  obtain ⟨expires, begins⟩ := mint_dates afterEpoch beforeTop
  have exp_iff : Window.ExpAllows (issuer.mintClaims sub roles aud now)
      nowUnix ↔ nowUnix.toInt ≤ now.toNat + 3660 := by
    simp only [Window.ExpAllows, mintClaims_exp, Option.some.injEq,
      Value.number.injEq, exists_eq_left', Number.exact, expires,
      Int.floor_natCast]
    omega
  have nbf_iff : Window.NbfAllows (issuer.mintClaims sub roles aud now)
      nowUnix ↔ now.toNat - 70 ≤ nowUnix.toInt := by
    simp only [Window.NbfAllows, mintClaims_nbf, Option.some.injEq,
      reduceCtorEq, Value.number.injEq, exists_eq_left', Number.exact, begins,
      Int.ceil_natCast, false_or]
    omega
  rw [Window.accepts_iff_of_sane sane, mint_otherChecks, exp_iff, nbf_iff]
  constructor
  · rintro ⟨⟨sameAudience, notBlank⟩, notOver, started⟩
    exact ⟨sameAudience, notBlank, started, notOver⟩
  · intro honoured
    exact ⟨⟨honoured.audience, honoured.subject⟩, honoured.notOver,
      honoured.started⟩

theorem mint_principal {issuer : Issuer} {principal : Principal}
    (afterEpoch : 10 ≤ now.toNat) (beforeTop : now.toNat + 3600 < 2 ^ 63)
    (validated : (OidcVerifier.mk issuer.issuer audience "roles").validateClaims
      (issuer.mintClaims sub roles aud now) nowUnix = .ok principal) :
    ∃ lifetime : UInt64,
      (lifetime.toNat : ℤ) =
        max 0 (min (now.toNat + 3600 - nowUnix.toInt) 300) ∧
      principal = ⟨"oidc:" ++ sub, none, roles, some lifetime⟩ := by
  obtain ⟨expires, _⟩ := mint_dates afterEpoch beforeTop
  obtain ⟨_, _, exp, expOk, _, _, subject, subjectOk, rfl⟩ :=
    validateClaims_eq_ok_iff.mp validated
  obtain ⟨number, found, dateEq⟩ :=
    asNumericDateFloor_eq_some (checkExp_eq_ok_iff.mp expOk).1
  rw [mintClaims_exp, Option.some.injEq, Value.number.injEq] at found
  subst found
  simp only [Number.exact, expires, Int.floor_natCast] at dateEq
  have anchored := Identity.readSubject_eq_ok_iff.mp subjectOk
  rw [Identity.anchor_of_no_oid (by rw [mintClaims_oid]; rfl)] at anchored
  have same := Identity.nonEmptyClaim_eq_some anchored
  rw [mintClaims_sub, Option.some.injEq, Value.string.injEq] at same
  subst same
  refine ⟨ttl exp nowUnix, ?_, ?_⟩
  · have expires : exp.toInt = now.toNat + 3600 := by omega
    rw [Replay.toNat_ttl, expires]
  · rw [mintClaims_roles]
    rfl

end Mint

/-! ## From the settings to the verdict -/

section Open

variable {Certificate Client Stream : Type}
  {parseUrl : String → Except String Url}
  {reqwest : Reqwest Certificate Client Stream} {format : ConfigFormat}

/-- A plugin that opens with the settings makes no GET for that, and is the
module of the described config. -/
theorem settings_open {issuer : Issuer} {text audience : String}
    {answers : Nat → String → Except String String} {self : OidcModule}
    {discovery client : Client} {notices : List Notice} {total : Nat}
    {program : Discovery (Except String (OidcModule × Client))}
    (written : format.documentFromStr text =
      .ok (.object (issuer.settings audience)))
    (opens : openPlugin foreign parseUrl reqwest format text =
      .ok (discovery, program))
    (ran : program.run (serial answers) 0 =
      (.ok (self, client), notices, total)) :
    total = 0 ∧ self = .new (issuer.config audience) issuer.jwksUrl := by
  obtain ⟨document, cfg, tree, read, rfl⟩ := openPlugin_eq_ok opens
  cases written.symm.trans tree
  cases (issuer.settings_read audience).symm.trans read
  obtain ⟨url, resolved, rfl, rfl⟩ := Discovery.opened_of_run ran
  rcases Discovery.jwksResolution_eq_ok_iff.mp resolved with
    ⟨explicit, _⟩ | ⟨absent, _⟩
  · cases explicit
    exact ⟨rfl, rfl⟩
  · cases absent

theorem verifier_of_config (issuer : Issuer) (audience url : String) :
    (OidcModule.new (issuer.config audience) url).verifier =
      ⟨issuer.issuer, audience, "roles"⟩ :=
  rfl

/-- The timings that the settings leave to their defaults. -/
theorem timings_of_config (issuer : Issuer) (audience url : String) :
    let cache := (OidcModule.new (issuer.config audience) url).jwks
    0 < cache.minRefetchInterval.nanos ∧
      cache.minRefetchInterval ≤ cache.maxStale := by
  change 0 < (Duration.fromSecs defaultMinRefetchSecs).nanos ∧
    Duration.fromSecs defaultMinRefetchSecs ≤
      Duration.max ((Duration.fromSecs defaultTtlSecs).saturatingMul 24)
        (Duration.fromSecs (24 * 3600))
  decide

/-- A plugin that was opened with the settings makes no GET for that.  While
the issuer serves its JWKS, and under any load, a minted token is honoured for
its hour with the skew on both sides, as the principal it was minted for, and
is rejected at any other reading. -/
theorem mint_verdict {ι : Type} [DecidableEq ι] {system : System ι Unit}
    {schedule : List (Action ι)} {history : List (Event ι)}
    {state : State ι Unit} {issuer : Issuer}
    {text audience sub aud : String} {roles : List String}
    {answers : Nat → String → Except String String} {self : OidcModule}
    {discovery client : Client} {notices : List Notice} {total : Nat}
    {program : Discovery (Except String (OidcModule × Client))}
    {now : UInt64} {nowUnix : Int64} {nowMono : Instant}
    {verdict : AuthVerdict}
    (written : format.documentFromStr text =
      .ok (.object (issuer.settings audience)))
    (opens : openPlugin system.foreign parseUrl reqwest format text =
      .ok (discovery, program))
    (ran : program.run (serial answers) 0 =
      (.ok (self, client), notices, total))
    (sameCache : system.cache = self.jwks)
    (run : system.Runs schedule history state)
    (served : ∀ owner body, .returned owner body ∈ history →
      body = .ok (toString issuer.jwks))
    (works : issuer.Works system.foreign toString
      (issuer.mintClaims sub roles aud now))
    (afterEpoch : 10 ≤ now.toNat) (beforeTop : now.toNat + 3600 < 2 ^ 63)
    (sane : Replay.Sane nowUnix)
    (yields : (self.verify system.foreign
      (issuer.mint toString sub roles aud now) nowUnix nowMono).Yields
        (system.Answered state) verdict) :
    total = 0 ∧
      (Honoured audience sub aud now nowUnix → ∃ lifetime : UInt64,
        (lifetime.toNat : ℤ) =
          max 0 (min (now.toNat + 3600 - nowUnix.toInt) 300) ∧
        verdict = .identify
          ⟨"oidc:" ++ sub, none, roles, some lifetime⟩) ∧
      (¬ Honoured audience sub aud now nowUnix → verdict = .reject) := by
  obtain ⟨noGets, rfl⟩ := settings_open written opens ran
  obtain ⟨positive, outlasted⟩ :=
    issuer.timings_of_config audience issuer.jwksUrl
  rw [← sameCache] at positive outlasted
  refine ⟨noGets, ?_⟩
  rw [OidcModule.verify, OidcModule.verifyWith, mint, works.split,
    verifier_of_config] at yields
  obtain ⟨response, ⟨c, asks, finished⟩, answered⟩ := yields
  have published : ∀ owner body, .returned owner body ∈ history →
      Publishes system.foreign (issuer.parts toString
        (issuer.mintClaims sub roles aud now)) body := by
    intro owner body returned
    rw [served owner body returned]
    exact works.publishes
  rw [run.done_ok_of_publishes positive outlasted asks published finished]
    at answered
  rcases OidcModule.verifyAnswer_yields_of_ok answered with
    ⟨claims, principal, read, validated, rfl⟩ | ⟨refused, rfl⟩
  · cases works.readsClaims.symm.trans read
    have honoured := (mint_accepts_iff issuer sane afterEpoch beforeTop).mp
      ⟨principal, validated⟩
    obtain ⟨lifetime, lifetimeEq, rfl⟩ :=
      mint_principal afterEpoch beforeTop validated
    exact ⟨fun _ => ⟨lifetime, lifetimeEq, rfl⟩, (absurd honoured ·)⟩
  · refine ⟨fun honoured => ?_, fun _ => rfl⟩
    obtain ⟨principal, validated⟩ :=
      (mint_accepts_iff issuer sane afterEpoch beforeTop).mpr honoured
    obtain ⟨e, failed⟩ := refused _ works.readsClaims
    rw [validated] at failed
    cases failed

end Open

end Issuer

/-! ## A minted token

One issuer with its key, and what the foreign code makes of the three texts
that it writes for one token. -/

namespace Sample

def headText : String :=
  "\x7b\"alg\":\"ES256\",\"kid\":\"k1\",\"typ\":\"JWT\"\x7d"

def jwksText : String :=
  "\x7b\"keys\":[\x7b\"alg\":\"ES256\",\"crv\":\"P-256\",\"kid\":\"k1\"," ++
  "\"kty\":\"EC\",\"use\":\"sig\",\"x\":\"s1S4ziU2l-veS9crDwEVxzhH7nD4" ++
  "pEKNIELjOyLhAW8\",\"y\":\"wNI6MdzCxC9P4ZvbR2TKauy7d4xmXKmpKcYYE6YuN" ++
  "G8\"\x7d]\x7d"

def claimsText : String :=
  "\x7b\"aud\":\"api\",\"exp\":1800003600,\"iss\":\"https://idp\",\"nb" ++
  "f\":1799999990,\"roles\":[\"admin\"],\"sub\":\"u1\"\x7d"

/-- `serde_json::to_string` on the three values of the sample. -/
def written (value : Value) : String :=
  if (value.get "alg").isSome then headText
  else if (value.get "keys").isSome then jwksText
  else claimsText

def point : Bytes :=
  [4, 179, 84, 184, 206, 37, 54, 151, 235, 222, 75, 215, 43, 15, 1, 21,
   199, 56, 71, 238, 112, 248, 164, 66, 141, 32, 66, 227, 59, 34, 225, 1,
   111, 192, 210, 58, 49, 220, 194, 196, 47, 79, 225, 155, 219, 71, 100,
   202, 106, 236, 187, 119, 140, 102, 92, 169, 169, 41, 198, 24, 19, 166,
   46, 52, 111]

def mintedSignature : Bytes :=
  [246, 87, 180, 109, 137, 208, 44, 165, 2, 155, 178, 133, 86, 109, 179,
   147, 63, 53, 123, 97, 54, 120, 255, 39, 52, 91, 104, 70, 123, 218, 80,
   91, 89, 123, 242, 143, 73, 23, 154, 37, 204, 153, 170, 205, 199, 122,
   170, 135, 248, 85, 80, 85, 180, 105, 138, 212, 229, 208, 156, 183, 165,
   243, 205, 198]

def issuer : Issuer where
  issuer := "https://idp"
  kid := "k1"
  point := point
  signature _ := mintedSignature
  jwksUrl := "https://idp/jwks"
  certPem := "certificate"

def mintedClaims : Value :=
  issuer.mintClaims "u1" ["admin"] "api" 1800000000

/-- What is read from the three texts, and the one signature that verifies. -/
def kit : Foreign :=
  { Sample.foreign with
    headerFromSlice := fun bytes =>
      if bytes = Text.asBytes headText then .ok ⟨"ES256", some "k1", none⟩
      else .error "expected value at line 1 column 1"
    valueFromSlice := fun bytes =>
      if bytes = Text.asBytes claimsText then .ok mintedClaims
      else .error "expected value at line 1 column 1"
    jwksEntriesFromStr := fun body =>
      if body = jwksText then .ok [issuer.jwk]
      else .error "expected value at line 1 column 1"
    ecdsaVerify := fun other message signed =>
      decide (other = point ∧ message = Text.asBytes
          (issuer.signingInput written mintedClaims) ∧
        signed = mintedSignature) }

theorem written_head : written issuer.head = headText :=
  if_pos rfl

theorem written_jwks : written issuer.jwks = jwksText :=
  (if_neg (by decide)).trans (if_pos rfl)

theorem written_claims : written mintedClaims = claimsText :=
  (if_neg (by decide)).trans (if_neg (by decide))

theorem works : issuer.Works kit written mintedClaims where
  readsHead := by
    rw [written_head]
    simp only [kit, if_pos, issuer]
  readsJwks := by
    rw [written_jwks]
    simp only [kit, if_pos]
  readsClaims := by
    rw [written_claims]
    simp only [kit, if_pos]
  uncompressed := ⟨(point.take 33).drop 1, point.drop 33, by decide⟩
  signs := by
    simp only [kit, issuer, decide_eq_true_eq, and_self]

def settingsFormat : ConfigFormat where
  documentFromStr _ := .ok (.object (issuer.settings "api"))
  displayError _ := "invalid type"

/-- The client in memory, which knows the certificate. -/
def trusting : Reqwest Unit Unit Bytes :=
  { memory with certificateFromPem := fun _ => .ok () }

theorem settings_opens :
    openPlugin kit Discovery.Sample.parseUrl trusting settingsFormat
      "settings" = .ok ((), openWith kit Discovery.Sample.parseUrl
        (fun cfg => newFetcher trusting jwksFetchTimeout cfg.caCertPem)
        (issuer.config "api")) := by
  have read : configFromStr settingsFormat "settings" =
      .ok (issuer.config "api") :=
    configFromStr_eq_ok_iff.mpr ⟨_, rfl, issuer.settings_read "api"⟩
  rw [openPlugin, if_neg (by decide +kernel), read]
  rfl

theorem settings_ran (answers : Nat → String → Except String String) :
    (openWith kit Discovery.Sample.parseUrl
      (fun cfg => newFetcher trusting jwksFetchTimeout cfg.caCertPem)
      (issuer.config "api")).run (serial answers) 0 =
        (.ok (OidcModule.new (issuer.config "api") "https://idp/jwks", ()),
          [], 0) :=
  rfl

/-- One caller, which verifies the minted token. -/
def presentation : System Unit Unit where
  foreign := kit
  cache := (OidcModule.new (issuer.config "api") "https://idp/jwks").jwks
  call _ :=
    { kid := "k1"
      now := 0
      f := Jwt.verifySignature kit (issuer.parts written mintedClaims) }

def servedSchedule : List (Action Unit) :=
  List.replicate 4 (.run ()) ++ .fetched () (.ok jwksText) ::
    List.replicate 2 (.run ())

theorem served_enabled :
    (presentation.machine.exec .fresh servedSchedule).isSome = true := by
  decide +kernel

def served : State Unit Unit × List (Event Unit) :=
  (presentation.machine.exec .fresh servedSchedule).get served_enabled

theorem servedRun :
    presentation.Runs servedSchedule served.2 served.1 :=
  .of_isSome served_enabled

theorem served_phase :
    served.1.phase () = .lookup .first ⟨[issuer.key]⟩ := by
  decide +kernel

theorem presentation_asks : presentation.call () =
    ⟨(issuer.parts written mintedClaims).header.kid.getD "", 0,
      Jwt.verifySignature kit (issuer.parts written mintedClaims)⟩ :=
  rfl

def presented : State Unit Unit :=
  served.1.move () (.done (.ok ()))

def presentedHistory : List (Event Unit) :=
  served.2 ++ presentation.invocations () ⟨[issuer.key]⟩

theorem presentedRun : presentation.Runs (servedSchedule ++ [.run ()])
    presentedHistory presented :=
  System.Runs.found servedRun served_phase presentation_asks
    (List.mem_singleton.mpr rfl) (.inl rfl) works.verifies

theorem returned_jwks {owner : Unit} {body : Except String String}
    (returned : .returned owner body ∈ presentedHistory) :
    body = .ok (written issuer.jwks) := by
  have scheduled := System.Runs.scheduled_of_returned presentedRun returned
  rw [written_jwks]
  simpa [servedSchedule] using scheduled

def mintedPrincipal : Principal :=
  ⟨"oidc:u1", none, ["admin"], some 300⟩

theorem minted_validated :
    (OidcVerifier.mk issuer.issuer "api" "roles").validateClaims mintedClaims
      1800000000 = .ok mintedPrincipal := by
  decide +kernel

theorem minted_identified :
    (OidcModule.verify kit (.new (issuer.config "api") "https://idp/jwks")
      (issuer.mint written "u1" ["admin"] "api" 1800000000) 1800000000
        0).Yields (presentation.Answered presented)
          (.identify mintedPrincipal) :=
  OidcModule.verifyWith_yields_identify_iff.mpr
    ⟨issuer.parts written mintedClaims, mintedClaims, works.split,
      ⟨(), presentation_asks, rfl⟩, works.readsClaims, minted_validated⟩

end Sample

theorem Issuer.mint_verdict_sample :
    ∃ lifetime : UInt64, (lifetime.toNat : ℤ) = 300 ∧
      AuthVerdict.identify Sample.mintedPrincipal =
        .identify ⟨"oidc:" ++ "u1", none, ["admin"], some lifetime⟩ :=
  (Issuer.mint_verdict rfl Sample.settings_opens
    (Sample.settings_ran fun _ _ => .error "no route") rfl Sample.presentedRun
    (fun _ _ => Sample.returned_jwks) Sample.works (by decide) (by decide)
    ⟨by decide, by decide⟩ Sample.minted_identified).2.1
      ⟨rfl, by decide +kernel, by decide, by decide⟩

end AuthOidc
