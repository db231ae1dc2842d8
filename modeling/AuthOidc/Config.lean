import AuthOidc.Module
import AuthOidc.Library.Record

/-!
# Reading the configuration

The derived `Deserialize` of `OidcConfig` with `deny_unknown_fields`, on the
tree of a JSON text: its members in the order of the text, repeated names
included.
-/

namespace AuthOidc

open Rust SerdeJson

/-- The type of a member: what is read from a value, and the one value that
each is read from. -/
structure MemberType (α : Type) where
  read : Value → Option α
  write : α → Value
  read_eq_some_iff : ∀ {value : Value} {content : α},
    read value = some content ↔ value = write content

namespace MemberType

variable {α : Type}

def accepts (type : MemberType α) (value : Value) : Bool :=
  (type.read value).isSome

/-- A member with a default, whose value was accepted. -/
def readOr (type : MemberType α) (default : α) (given : Option Value) : α :=
  (given.bind type.read).getD default

/-- `String`. -/
def text : MemberType String where
  read := Value.asStr
  write := .string
  read_eq_some_iff := Value.asStr_eq_some_iff

/-- `Option<String>`. -/
def optionalText : MemberType (Option String) where
  read
    | .null => some none
    | .string text => some (some text)
    | _ => none
  write
    | none => .null
    | some text => .string text
  read_eq_some_iff := by
    intro value content
    cases value <;> cases content <;> simp

/-- `u64`. -/
def unsigned : MemberType UInt64 where
  read
    | .number (.posInt value) => some value
    | _ => none
  write value := .number (.posInt value)
  read_eq_some_iff := by
    intro value content
    split
    · simp
    · rename_i other
      simp only [reduceCtorEq, false_iff]
      exact other content

theorem mapM_asStr_eq_some_iff {items : List Value} {texts : List String} :
    items.mapM Value.asStr = some texts ↔ items = texts.map .string := by
  induction items generalizing texts with
  | nil => cases texts <;> simp
  | cons item rest induction =>
      simp only [List.mapM_cons, Option.bind_eq_bind,
        Option.bind_eq_some_iff, Value.asStr_eq_some_iff, induction]
      cases texts <;> simp

/-- `Vec<String>`. -/
def texts : MemberType (List String) where
  read
    | .array items => items.mapM Value.asStr
    | _ => none
  write texts := .array (texts.map .string)
  read_eq_some_iff := by
    intro value content
    cases value <;> simp [mapM_asStr_eq_some_iff]

end MemberType

inductive ConfigError where
  | member (fault : Record.Fault String Value)
  | missing (name : String)
  | invalidLength (length : Nat)
  | trailing
  | notStruct (value : Value)

def defaultMinRefetchSecs : UInt64 := 60

def defaultTtlSecs : UInt64 := 3600

namespace OidcConfig

open MemberType

/-- The members and the test of their values, in declaration order. -/
def members : List (String × (Value → Bool)) :=
  [("issuer", text.accepts), ("audience", text.accepts),
    ("jwks_url", optionalText.accepts), ("role_claim", text.accepts),
    ("jwks_min_refetch_secs", unsigned.accepts),
    ("jwks_ttl_secs", unsigned.accepts),
    ("ca_cert_pem", optionalText.accepts),
    ("client_id", optionalText.accepts), ("scopes", texts.accepts),
    ("authorization_endpoint", optionalText.accepts),
    ("token_endpoint", optionalText.accepts)]

def memberNames : List String :=
  members.map Prod.fst

def schema : Record.Schema String Value Value where
  names := memberNames
  refusal name value :=
    match members.lookup name with
    | some accepts => if accepts value then none else some value
    | none => none

/-- The config from the values of the members, which were accepted as they were
read. -/
def fromMembers (member : String → Option Value)
    (missing : Nat → String → ConfigError) : Except ConfigError OidcConfig :=
  match member "issuer", member "audience" with
  | none, _ => .error (missing 0 "issuer")
  | some _, none => .error (missing 1 "audience")
  | some issuer, some audience =>
    .ok {
      issuer := text.readOr "" (some issuer)
      audience := text.readOr "" (some audience)
      jwksUrl := optionalText.readOr none (member "jwks_url")
      roleClaim := text.readOr defaultRoleClaim (member "role_claim")
      jwksMinRefetchSecs := unsigned.readOr defaultMinRefetchSecs
        (member "jwks_min_refetch_secs")
      jwksTtlSecs := unsigned.readOr defaultTtlSecs (member "jwks_ttl_secs")
      caCertPem := optionalText.readOr none (member "ca_cert_pem")
      clientId := optionalText.readOr none (member "client_id")
      scopes := texts.readOr [] (member "scopes")
      authorizationEndpoint :=
        optionalText.readOr none (member "authorization_endpoint")
      tokenEndpoint := optionalText.readOr none (member "token_endpoint") }

/-- The given members one by one, then the config from them. -/
def read (given : List (String × Value))
    (missing : Nat → String → ConfigError) : Except ConfigError OidcConfig :=
  match schema.visit [] given with
  | .error fault => .error (.member fault)
  | .ok () => fromMembers (fun name => given.lookup name) missing

/-- A derived struct also reads an array, as its members in declaration order
with none left over. -/
def fromValue : Value → Except ConfigError OidcConfig
  | .object given => read given fun _ => .missing
  | .array items =>
      match read (memberNames.zip items) fun length _ =>
          .invalidLength length with
      | .error error => .error error
      | .ok cfg =>
          if items.length ≤ memberNames.length then .ok cfg
          else .error .trailing
  | value => .error (.notStruct value)

end OidcConfig

/-! ## What a configuration gives -/

namespace MemberType

variable {α : Type}

/-- The member gives the content, or is absent and the content the default. -/
def Gives (type : MemberType α) (default : α) (given : Option Value)
    (content : α) : Prop :=
  given = some (type.write content) ∨ given = none ∧ content = default

theorem gives_iff {type : MemberType α} {default content : α}
    {given : Option Value}
    (accepted : ∀ value, given = some value → type.accepts value = true) :
    type.Gives default given content ↔
      type.readOr default given = content := by
  cases given with
  | none => simp [Gives, readOr, eq_comm]
  | some value =>
      obtain ⟨read, readEq⟩ :=
        Option.isSome_iff_exists.mp (accepted value rfl)
      have written := type.read_eq_some_iff.mp readEq
      have same : value = type.write content ↔ read = content := by
        rw [← type.read_eq_some_iff, readEq, Option.some.injEq]
      simp [Gives, readOr, readEq, same]

theorem Gives.accepts {type : MemberType α} {default content : α}
    {given : Option Value} {value : Value}
    (gives : type.Gives default given content) (present : given = some value) :
    type.accepts value = true := by
  rcases gives with written | ⟨absent, _⟩
  · rw [present, Option.some.injEq] at written
    rw [MemberType.accepts, type.read_eq_some_iff.mpr written]
    rfl
  · rw [absent] at present
    cases present

end MemberType

open MemberType in
/-- The members of each name give what the config holds. -/
structure Describes (member : String → Option Value) (cfg : OidcConfig) :
    Prop where
  issuer : member "issuer" = some (.string cfg.issuer)
  audience : member "audience" = some (.string cfg.audience)
  jwksUrl : optionalText.Gives none (member "jwks_url") cfg.jwksUrl
  roleClaim :
    text.Gives defaultRoleClaim (member "role_claim") cfg.roleClaim
  jwksMinRefetchSecs :
    unsigned.Gives defaultMinRefetchSecs (member "jwks_min_refetch_secs")
      cfg.jwksMinRefetchSecs
  jwksTtlSecs :
    unsigned.Gives defaultTtlSecs (member "jwks_ttl_secs") cfg.jwksTtlSecs
  caCertPem : optionalText.Gives none (member "ca_cert_pem") cfg.caCertPem
  clientId : optionalText.Gives none (member "client_id") cfg.clientId
  scopes : texts.Gives [] (member "scopes") cfg.scopes
  authorizationEndpoint :
    optionalText.Gives none (member "authorization_endpoint")
      cfg.authorizationEndpoint
  tokenEndpoint :
    optionalText.Gives none (member "token_endpoint") cfg.tokenEndpoint

namespace OidcConfig

open MemberType

variable {member : String → Option Value} {cfg : OidcConfig}
  {missing : Nat → String → ConfigError}

theorem accepts_of_describes (describes : Describes member cfg) {name : String}
    {accepts : Value → Bool} (known : (name, accepts) ∈ members)
    {value : Value} (present : member name = some value) :
    accepts value = true := by
  simp only [members, List.mem_cons, Prod.mk.injEq, List.not_mem_nil,
    or_false] at known
  rcases known with ⟨rfl, rfl⟩ | ⟨rfl, rfl⟩ | ⟨rfl, rfl⟩ | ⟨rfl, rfl⟩ |
    ⟨rfl, rfl⟩ | ⟨rfl, rfl⟩ | ⟨rfl, rfl⟩ | ⟨rfl, rfl⟩ | ⟨rfl, rfl⟩ |
    ⟨rfl, rfl⟩ | ⟨rfl, rfl⟩
  · rw [describes.issuer] at present
    cases present
    rfl
  · rw [describes.audience] at present
    cases present
    rfl
  · exact describes.jwksUrl.accepts present
  · exact describes.roleClaim.accepts present
  · exact describes.jwksMinRefetchSecs.accepts present
  · exact describes.jwksTtlSecs.accepts present
  · exact describes.caCertPem.accepts present
  · exact describes.clientId.accepts present
  · exact describes.scopes.accepts present
  · exact describes.authorizationEndpoint.accepts present
  · exact describes.tokenEndpoint.accepts present

/-- The values that are present are of the types of their members. -/
def Accepted (member : String → Option Value) : Prop :=
  ∀ name accepts, (name, accepts) ∈ members →
    ∀ value, member name = some value → accepts value = true

theorem fromMembers_eq_ok_iff (accepted : Accepted member) :
    fromMembers member missing = .ok cfg ↔ Describes member cfg := by
  have issuerText := accepted "issuer" text.accepts (by simp [members])
  have audienceText := accepted "audience" text.accepts (by simp [members])
  have required : ∀ {value : Value} {content : String},
      text.accepts value = true →
        (text.readOr "" (some value) = content ↔ value = .string content) := by
    intro value content typed
    rw [← gives_iff fun other same => Option.some.inj same ▸ typed]
    simp [Gives, text]
  have jwksUrl := accepted "jwks_url" optionalText.accepts
    (by simp [members])
  have roleClaim := accepted "role_claim" text.accepts (by simp [members])
  have minRefetch := accepted "jwks_min_refetch_secs" unsigned.accepts
    (by simp [members])
  have ttl := accepted "jwks_ttl_secs" unsigned.accepts (by simp [members])
  have caCertPem := accepted "ca_cert_pem" optionalText.accepts
    (by simp [members])
  have clientId := accepted "client_id" optionalText.accepts
    (by simp [members])
  have scopes := accepted "scopes" texts.accepts (by simp [members])
  have authorization := accepted "authorization_endpoint"
    optionalText.accepts (by simp [members])
  have token := accepted "token_endpoint" optionalText.accepts
    (by simp [members])
  constructor
  · intro built
    unfold fromMembers at built
    split at built
    · cases built
    · cases built
    · rename_i issuer audience issuerEq audienceEq
      cases built
      exact {
        issuer := by
          rw [issuerEq, ← (required (issuerText issuer issuerEq)).mp rfl]
        audience := by
          rw [audienceEq,
            ← (required (audienceText audience audienceEq)).mp rfl]
        jwksUrl := (gives_iff jwksUrl).mpr rfl
        roleClaim := (gives_iff roleClaim).mpr rfl
        jwksMinRefetchSecs := (gives_iff minRefetch).mpr rfl
        jwksTtlSecs := (gives_iff ttl).mpr rfl
        caCertPem := (gives_iff caCertPem).mpr rfl
        clientId := (gives_iff clientId).mpr rfl
        scopes := (gives_iff scopes).mpr rfl
        authorizationEndpoint := (gives_iff authorization).mpr rfl
        tokenEndpoint := (gives_iff token).mpr rfl }
  · intro describes
    unfold fromMembers
    rw [describes.issuer, describes.audience]
    dsimp only
    rw [(gives_iff jwksUrl).mp describes.jwksUrl,
      (gives_iff roleClaim).mp describes.roleClaim,
      (gives_iff minRefetch).mp describes.jwksMinRefetchSecs,
      (gives_iff ttl).mp describes.jwksTtlSecs,
      (gives_iff caCertPem).mp describes.caCertPem,
      (gives_iff clientId).mp describes.clientId,
      (gives_iff scopes).mp describes.scopes,
      (gives_iff authorization).mp describes.authorizationEndpoint,
      (gives_iff token).mp describes.tokenEndpoint]
    rfl

theorem refusal_eq_none_iff {name : String} {accepts : Value → Bool}
    (known : (name, accepts) ∈ members) {value : Value} :
    schema.refusal name value = none ↔ accepts value = true := by
  have distinct : (members.map Prod.fst).Nodup := by
    decide
  have found := (Record.lookup_eq_some_iff distinct).mpr known
  simp [schema, found]

theorem visit_eq_ok_iff {given : List (String × Value)} :
    schema.visit [] given = .ok () ↔
      (given.map Prod.fst).Nodup ∧
        (∀ name ∈ given.map Prod.fst, name ∈ memberNames) ∧
        Accepted fun name => given.lookup name := by
  rw [Record.Schema.visit_eq_ok_iff]
  refine and_congr_right fun distinct => ?_
  simp only [Record.Schema.fault_eq_none_iff]
  constructor
  · intro clean
    refine ⟨?_, ?_⟩
    · intro name named
      obtain ⟨⟨_, value⟩, member, rfl⟩ := List.mem_map.mp named
      exact (clean _ member).1
    · intro name accepts known value present
      have member := (Record.lookup_eq_some_iff distinct).mp present
      exact (refusal_eq_none_iff known).mp (clean _ member).2.2
  · rintro ⟨allKnown, accepted⟩ ⟨name, value⟩ member
    have named := allKnown name (List.mem_map.mpr ⟨_, member, rfl⟩)
    obtain ⟨⟨_, accepts⟩, known, rfl⟩ := List.mem_map.mp named
    refine ⟨named, List.not_mem_nil, (refusal_eq_none_iff known).mpr ?_⟩
    exact accepted _ accepts known value
      ((Record.lookup_eq_some_iff distinct).mpr member)

theorem read_of_fault {given : List (String × Value)}
    {fault : Record.Fault String Value}
    (visited : schema.visit [] given = .error fault) :
    read given missing = .error (.member fault) := by
  rw [read, visited]

theorem read_of_clean {given : List (String × Value)}
    (visited : schema.visit [] given = .ok ()) :
    read given missing =
      fromMembers (fun name => given.lookup name) missing := by
  rw [read, visited]

theorem fromMembers_eq_error_iff {error : ConfigError} :
    fromMembers member missing = .error error ↔
      (member "issuer" = none ∧ error = missing 0 "issuer") ∨
        member "issuer" ≠ none ∧ member "audience" = none ∧
          error = missing 1 "audience" := by
  unfold fromMembers
  split
  · rename_i absent
    simp [absent, eq_comm]
  · rename_i present absent
    simp [present, absent, eq_comm]
  · rename_i issuer audience
    simp [issuer, audience]

theorem read_eq_ok_iff {given : List (String × Value)} :
    read given missing = .ok cfg ↔
      (given.map Prod.fst).Nodup ∧
        (∀ name ∈ given.map Prod.fst, name ∈ memberNames) ∧
        Describes (fun name => given.lookup name) cfg := by
  cases visited : schema.visit [] given with
  | error fault =>
      rw [read_of_fault visited]
      simp only [reduceCtorEq, false_iff]
      rintro ⟨distinct, known, describes⟩
      have clean := visit_eq_ok_iff.mpr ⟨distinct, known,
        fun _ _ listed _ present => accepts_of_describes describes listed
          present⟩
      rw [visited] at clean
      cases clean
  | ok _ =>
      obtain ⟨distinct, known, accepted⟩ := visit_eq_ok_iff.mp visited
      rw [read_of_clean visited, fromMembers_eq_ok_iff accepted]
      simp only [distinct, true_and]
      exact (and_iff_right known).symm

/-- Every config can be written, with each member in its place. -/
def write (cfg : OidcConfig) : List (String × Value) :=
  [("issuer", text.write cfg.issuer), ("audience", text.write cfg.audience),
    ("jwks_url", optionalText.write cfg.jwksUrl),
    ("role_claim", text.write cfg.roleClaim),
    ("jwks_min_refetch_secs", unsigned.write cfg.jwksMinRefetchSecs),
    ("jwks_ttl_secs", unsigned.write cfg.jwksTtlSecs),
    ("ca_cert_pem", optionalText.write cfg.caCertPem),
    ("client_id", optionalText.write cfg.clientId),
    ("scopes", texts.write cfg.scopes),
    ("authorization_endpoint", optionalText.write cfg.authorizationEndpoint),
    ("token_endpoint", optionalText.write cfg.tokenEndpoint)]

/-- An object is read as a config exactly when its names are distinct and known
and its members give what the config holds; else the first member at fault is
reported, or that the issuer or the audience is missing. -/
theorem fromValue_object (given : List (String × Value)) :
    (∀ cfg, fromValue (.object given) = .ok cfg ↔
      (given.map Prod.fst).Nodup ∧
        (∀ name ∈ given.map Prod.fst, name ∈ memberNames) ∧
        Describes (fun name => given.lookup name) cfg) ∧
    (∀ error, fromValue (.object given) = .error error ↔
      (∃ fault before member after, error = .member fault ∧
        given = before ++ member :: after ∧
        schema.visit [] before = .ok () ∧
        schema.fault (before.map Prod.fst) member = some fault) ∨
      (schema.visit [] given = .ok () ∧
        ((given.lookup "issuer" = none ∧ error = .missing "issuer") ∨
          given.lookup "issuer" ≠ none ∧ given.lookup "audience" = none ∧
            error = .missing "audience"))) := by
  refine ⟨fun cfg => read_eq_ok_iff, fun error => ?_⟩
  rw [fromValue]
  cases visited : schema.visit [] given with
  | error fault =>
      rw [read_of_fault visited]
      constructor
      · intro same
        obtain ⟨before, member, after, split, clean, faulty⟩ :=
          Record.Schema.visit_eq_error_iff.mp visited
        exact .inl ⟨fault, before, member, after,
          (Except.error.inj same).symm, split, clean, faulty⟩
      · rintro (⟨other, before, member, after, rfl, split, clean, faulty⟩ |
          ⟨clean, _⟩)
        · have reported := Record.Schema.visit_eq_error_iff.mpr
            ⟨before, member, after, split, clean, faulty⟩
          rw [Except.error.inj (visited.symm.trans reported)]
        · cases clean
  | ok _ =>
      rw [read_of_clean visited, fromMembers_eq_error_iff]
      constructor
      · exact fun missing => .inr ⟨rfl, missing⟩
      · rintro (⟨fault, before, member, after, _, split, clean, faulty⟩ |
          ⟨_, missing⟩)
        · have reported := Record.Schema.visit_eq_error_iff.mpr
            ⟨before, member, after, split, clean, faulty⟩
          cases visited.symm.trans reported
        · exact missing

theorem describes_write (cfg : OidcConfig) :
    Describes (fun name => cfg.write.lookup name) cfg where
  issuer := rfl
  audience := rfl
  jwksUrl := .inl rfl
  roleClaim := .inl rfl
  jwksMinRefetchSecs := .inl rfl
  jwksTtlSecs := .inl rfl
  caCertPem := .inl rfl
  clientId := .inl rfl
  scopes := .inl rfl
  authorizationEndpoint := .inl rfl
  tokenEndpoint := .inl rfl

/-- The order of the members does not matter. -/
theorem fromValue_perm {given other : List (String × Value)}
    (permutation : given.Perm other)
    (read : fromValue (.object given) = .ok cfg) :
    fromValue (.object other) = .ok cfg := by
  obtain ⟨distinct, known, describes⟩ := read_eq_ok_iff.mp read
  have sameNames := permutation.map Prod.fst
  refine read_eq_ok_iff.mpr ⟨sameNames.nodup_iff.mp distinct, ?_, ?_⟩
  · intro name named
    exact known name (sameNames.mem_iff.mpr named)
  · have same : (fun name => given.lookup name) =
        fun name => other.lookup name :=
      funext (Record.lookup_perm permutation distinct)
    rwa [← same]

theorem read_write (cfg : OidcConfig)
    (missing : Nat → String → ConfigError) :
    read cfg.write missing = .ok cfg := by
  refine read_eq_ok_iff.mpr ⟨?_, ?_, describes_write cfg⟩
  · change memberNames.Nodup
    decide
  · exact fun _ named => named

/-- What a config was written to is read as that config: as an object with its
members in any order, and as an array. -/
theorem fromValue_write (cfg : OidcConfig) :
    (∀ given : List (String × Value), given.Perm cfg.write →
      fromValue (.object given) = .ok cfg) ∧
    fromValue (.array (cfg.write.map Prod.snd)) = .ok cfg := by
  constructor
  · intro given permutation
    exact fromValue_perm permutation.symm (read_write cfg _)
  · have zipped : memberNames.zip (cfg.write.map Prod.snd) = cfg.write := rfl
    rw [fromValue, zipped, read_write]
    rfl

end OidcConfig

end AuthOidc
