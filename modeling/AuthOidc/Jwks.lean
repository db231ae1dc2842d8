import AuthOidc.Foreign

/-!
# JSON Web Key Sets

The key-set model: which entries of a JWKS document become keys, how a key is
looked up by `kid`, and what key material is decoded from it.  Decoding is
lazy in the source and memoised on the key; the fields it reads never change,
so `Jwk.material` is a function of the key.
-/

namespace AuthOidc

open SerdeJson

structure Jwk where
  kty : String
  kid : Option String
  n : Option String
  e : Option String
  crv : Option String
  x : Option String
  y : Option String
  keyUse : Option String
  deriving DecidableEq

inductive KeyMaterial where
  | rsa (n e : Bytes)
  | ec (point : Bytes)
  | unusable (error : String)
  deriving DecidableEq

/-- base64url-decode a required field, with a naming error. -/
def b64 (field : Option String) (what : String) : Except String Bytes :=
  match field with
  | none => .error s!"JWKS key missing {what}"
  | some text =>
      match b64Decode text with
      | none => .error s!"JWKS key {what} is not base64url"
      | some bytes => .ok bytes

/-- `KeyMaterial::from_jwk`: a decode problem becomes `unusable`. -/
def KeyMaterial.fromJwk (jwk : Jwk) : KeyMaterial :=
  if jwk.kty = "RSA" then
    match b64 jwk.n "RSA modulus n" with
    | .error error => .unusable error
    | .ok n =>
        match b64 jwk.e "RSA exponent e" with
        | .error error => .unusable error
        | .ok e => .rsa n e
  else if jwk.kty = "EC" then
    match b64 jwk.x "EC coordinate x" with
    | .error error => .unusable error
    | .ok x =>
        match b64 jwk.y "EC coordinate y" with
        | .error error => .unusable error
        | .ok y => .ec (0x04 :: (x ++ y))
  else .unusable s!"JWKS key has unsupported kty {jwk.kty}"

def Jwk.material (jwk : Jwk) : KeyMaterial :=
  KeyMaterial.fromJwk jwk

theorem b64_eq_ok_iff (field : Option String) (what : String)
    (bytes : Bytes) :
    b64 field what = .ok bytes ↔ field.bind b64Decode = some bytes := by
  unfold b64
  cases field with
  | none => simp
  | some text =>
      rw [Option.bind_some]
      cases decoded : b64Decode text <;> simp [decoded]

theorem material_eq_rsa_iff {key : Jwk} {n e : Bytes} :
    key.material = .rsa n e ↔
      key.kty = "RSA" ∧ key.n.bind b64Decode = some n ∧
        key.e.bind b64Decode = some e := by
  rw [← b64_eq_ok_iff key.n "RSA modulus n",
    ← b64_eq_ok_iff key.e "RSA exponent e"]
  unfold Jwk.material KeyMaterial.fromJwk
  split
  · rename_i kty
    cases b64 key.n "RSA modulus n" with
    | error error => simp
    | ok modulus => cases b64 key.e "RSA exponent e" <;> simp [kty]
  · rename_i notRsa
    simp only [notRsa, false_and, iff_false]
    split
    · cases b64 key.x "EC coordinate x" with
      | error error => simp
      | ok x => cases b64 key.y "EC coordinate y" <;> simp
    · simp

theorem material_eq_ec_iff {key : Jwk} {point : Bytes} :
    key.material = .ec point ↔
      key.kty = "EC" ∧ ∃ x y, key.x.bind b64Decode = some x ∧
        key.y.bind b64Decode = some y ∧ point = 0x04 :: (x ++ y) := by
  simp only [← b64_eq_ok_iff key.x "EC coordinate x",
    ← b64_eq_ok_iff key.y "EC coordinate y"]
  unfold Jwk.material KeyMaterial.fromJwk
  split
  · rename_i kty
    simp only [kty]
    cases b64 key.n "RSA modulus n" with
    | error error => simp
    | ok modulus => cases b64 key.e "RSA exponent e" <;> simp
  · split
    · rename_i kty
      cases b64 key.x "EC coordinate x" with
      | error error => simp
      | ok x =>
          cases b64 key.y "EC coordinate y" <;> simp [kty, eq_comm]
    · rename_i notEc
      simp [notEc]

namespace Jwk

/-- A `String` member. -/
def requiredString : Option Value → Option String
  | some (.string text) => some text
  | _ => none

/-- An `Option<String>` member with a default: absent and `null` are `None`,
and any other non-string refuses the entry. -/
def optionalString : Option Value → Option (Option String)
  | none => some none
  | some .null => some none
  | some (.string text) => some (some text)
  | some _ => none

/-- The derived `Deserialize` of `Jwk`, given the member found for each field
name. -/
def fromFields (field : String → Option Value) : Option Jwk := do
  let kty ← requiredString (field "kty")
  let kid ← optionalString (field "kid")
  let n ← optionalString (field "n")
  let e ← optionalString (field "e")
  let crv ← optionalString (field "crv")
  let x ← optionalString (field "x")
  let y ← optionalString (field "y")
  let keyUse ← optionalString (field "use")
  return { kty, kid, n, e, crv, x, y, keyUse }

/-- The field names in declaration order. -/
def fieldNames : List String :=
  ["kty", "kid", "n", "e", "crv", "x", "y", "use"]

/-- `serde_json::from_value::<Jwk>(value).ok()`.  A derived struct also reads
an array, as its fields in declaration order with none left over. -/
def fromValue : Value → Option Jwk
  | .object members => fromFields fun name => members.lookup name
  | .array items =>
      if items.length ≤ fieldNames.length then
        fromFields fun name => (fieldNames.zip items).lookup name
      else none
  | _ => none

/-- The test of `find_all`. -/
def matchesKid (jwk : Jwk) (kid : String) : Bool :=
  jwk.kid == some kid || (kid == "" && jwk.kid.isNone)

/-- The key goes by the id: its own, or the empty one if it has none. -/
def GoesBy (jwk : Jwk) (kid : String) : Prop :=
  jwk.kid = some kid ∨ (kid = "" ∧ jwk.kid = none)

theorem matchesKid_iff {jwk : Jwk} {kid : String} :
    jwk.matchesKid kid = true ↔
      jwk.kid = some kid ∨ (kid = "" ∧ jwk.kid = none) := by
  simp [matchesKid]

theorem GoesBy.kid_eq {jwk : Jwk} {kid : String} (goesBy : jwk.GoesBy kid)
    (named : kid ≠ "") : jwk.kid = some kid := by
  rcases goesBy with same | ⟨empty, _⟩
  · exact same
  · exact absurd empty named

end Jwk

structure JwkSet where
  keys : List Jwk
  deriving DecidableEq

namespace JwkSet

/-- `skip_unusable_keys`: keep the entries that deserialize as a `Jwk`. -/
def skipUnusableKeys (entries : List Value) : List Jwk :=
  entries.filterMap Jwk.fromValue

/-- `JwkSet::parse`. -/
def parse (foreign : Foreign) (body : String) : Except String JwkSet :=
  match foreign.jwksEntriesFromStr body with
  | .error error => .error s!"invalid JWKS document: {error}"
  | .ok entries =>
      let keys := skipUnusableKeys entries
      if keys.isEmpty then
        .error ("JWKS document contains no keys; refusing to replace the " ++
          "cached key set with an empty one")
      else .ok { keys }

def findAll (set : JwkSet) (kid : String) : List Jwk :=
  set.keys.filter fun jwk => jwk.matchesKid kid

theorem parse_eq_ok_iff {foreign : Foreign} {body : String} {set : JwkSet} :
    parse foreign body = .ok set ↔
      ∃ entries, foreign.jwksEntriesFromStr body = .ok entries ∧
        set.keys = skipUnusableKeys entries ∧ set.keys ≠ [] := by
  unfold parse
  cases read : foreign.jwksEntriesFromStr body with
  | error error => simp
  | ok entries =>
      simp only [Except.ok.injEq, List.isEmpty_iff, exists_eq_left']
      split
      · rename_i empty
        simp only [reduceCtorEq, false_iff, not_and, not_not]
        intro keysEq
        rw [keysEq, empty]
      · rename_i nonempty
        constructor
        · intro equality
          cases equality
          exact ⟨rfl, nonempty⟩
        · rintro ⟨keysEq, _⟩
          cases set
          simp_all

theorem keys_ne_nil_of_parse {foreign : Foreign} {body : String}
    {set : JwkSet} (parsed : parse foreign body = .ok set) :
    set.keys ≠ [] := by
  obtain ⟨_, _, _, nonempty⟩ := parse_eq_ok_iff.mp parsed
  exact nonempty

theorem mem_findAll_iff {set : JwkSet} {kid : String} {jwk : Jwk} :
    jwk ∈ set.findAll kid ↔
      jwk ∈ set.keys ∧
        (jwk.kid = some kid ∨ (kid = "" ∧ jwk.kid = none)) := by
  simp [findAll, Jwk.matchesKid_iff]

theorem mem_findAll {set : JwkSet} {kid : String} {key : Jwk} :
    key ∈ set.findAll kid ↔ key ∈ set.keys ∧ key.GoesBy kid :=
  mem_findAll_iff

theorem findAll_eq_nil_iff {set : JwkSet} {kid : String} :
    set.findAll kid = [] ↔ ∀ key ∈ set.keys, ¬ key.GoesBy kid := by
  rw [List.eq_nil_iff_forall_not_mem]
  simp only [mem_findAll, not_and]

end JwkSet

end AuthOidc
