import AuthOidc.SerdeJson
import AuthOidc.Rust.Time
import AuthOidc.Rust.Text
import AuthOidc.Library.Base64

/-!
# What the crate takes from outside

The JSON text reader, the two signature verifiers and the escaping formatters
are foreign code: they are parameters of the whole development, collected in
`Foreign`.  The base64 engine is small enough to be given outright.
-/

namespace AuthOidc

open Rust SerdeJson

abbrev Bytes := List UInt8

/-- The decoded JWT header: the fields that select verification. -/
structure Header where
  alg : String
  kid : Option String
  crit : Option (List String)
  deriving DecidableEq

structure Foreign where
  /-- `str::escape_debug`. -/
  escapeDebug : String → String
  /-- The `Debug` form of a string, quotes included. -/
  debugStr : String → String
  /-- The `Debug` form of a duration. -/
  debugDuration : Duration → String
  /-- `serde_json::from_slice::<Header>`. -/
  headerFromSlice : Bytes → Except String Header
  /-- `serde_json::from_slice::<Value>`. -/
  valueFromSlice : Bytes → Except String Value
  /-- `serde_json::from_str::<Value>`. -/
  valueFromStr : String → Except String Value
  /-- `serde_json::from_str::<JwkSet>` up to the entries of the `keys` array,
  each still an untyped value. -/
  jwksEntriesFromStr : String → Except String (List Value)
  /-- `RSA_PKCS1_2048_8192_SHA256` on `n`, `e`, message and signature. -/
  rsaVerify : Bytes → Bytes → Bytes → Bytes → Bool
  /-- `ECDSA_P256_SHA256_FIXED` on point, message and signature. -/
  ecdsaVerify : Bytes → Bytes → Bytes → Bool

namespace Foreign

variable (foreign : Foreign)

/-- The `Debug` form of an optional string. -/
def debugOption : Option String → String
  | none => "None"
  | some text => "Some(" ++ foreign.debugStr text ++ ")"

/-- The `Debug` form of a list of strings. -/
def debugList (texts : List String) : String :=
  "[" ++ ", ".intercalate (texts.map foreign.debugStr) ++ "]"

end Foreign

/-- The symbols of `URL_SAFE_NO_PAD`. -/
def urlSafeSymbols : List Char :=
  ['A', 'B', 'C', 'D', 'E', 'F', 'G', 'H', 'I', 'J', 'K', 'L', 'M',
    'N', 'O', 'P', 'Q', 'R', 'S', 'T', 'U', 'V', 'W', 'X', 'Y', 'Z',
    'a', 'b', 'c', 'd', 'e', 'f', 'g', 'h', 'i', 'j', 'k', 'l', 'm',
    'n', 'o', 'p', 'q', 'r', 's', 't', 'u', 'v', 'w', 'x', 'y', 'z',
    '0', '1', '2', '3', '4', '5', '6', '7', '8', '9', '-', '_']

def urlSafeNoPad : Base64.Alphabet Char :=
  .ofList urlSafeSymbols (by decide) (by decide)

/-- `URL_SAFE_NO_PAD.encode`. -/
def b64Encode (bytes : Bytes) : String :=
  String.ofList (urlSafeNoPad.encode bytes)

/-- `URL_SAFE_NO_PAD.decode`. -/
def b64Decode (text : String) : Option Bytes :=
  urlSafeNoPad.decode text.toList

theorem b64Decode_eq_some_iff {text : String} {bytes : Bytes} :
    b64Decode text = some bytes ↔ b64Encode bytes = text := by
  rw [b64Decode, urlSafeNoPad.decode_eq_some_iff, b64Encode,
    ← String.toList_inj, String.toList_ofList]

-- the trailing bits of the last symbol have to be zero
example : b64Decode "QQ" = some [0x41] ∧ b64Decode "QR" = none := by
  decide

@[simp] theorem b64Decode_b64Encode (bytes : Bytes) :
    b64Decode (b64Encode bytes) = some bytes :=
  b64Decode_eq_some_iff.mpr rfl

theorem dot_not_mem_b64Encode (bytes : Bytes) :
    '.' ∉ (b64Encode bytes).toList := by
  rw [b64Encode, String.toList_ofList]
  apply urlSafeNoPad.not_mem_encode
  decide

/-! ## A sample

What the foreign code answers for one key set of one P-256 key, for a second
key set whose only entry has no material, and for one token signed with that
key and the token response that carries it. -/

namespace Sample

def document : String :=
  "\x7b\"keys\":[\x7b\"kty\":\"EC\",\"kid\":\"k1\",\"use\":\"sig\",\"cr" ++
  "v\":\"P-256\",\"x\":\"xQlNlb3oR4SOgfSiRmchbLHCfMFZ_YQQyTpSHcgL-ws\"," ++
  "\"y\":\"fH3wTp9LiNtV5ilJctLEc17Fmysv0Hrio9_CRkZrkKY\"\x7d]\x7d"

def uselessDocument : String :=
  "\x7b\"keys\":[\x7b\"kty\":\"RSA\",\"kid\":\"k1\"\x7d]\x7d"

def x : String := "xQlNlb3oR4SOgfSiRmchbLHCfMFZ_YQQyTpSHcgL-ws"

def y : String := "fH3wTp9LiNtV5ilJctLEc17Fmysv0Hrio9_CRkZrkKY"

def header : String :=
  "\x7b\"alg\":\"ES256\",\"kid\":\"k1\"\x7d"

def payload : String :=
  "\x7b\"iss\":\"https://idp\",\"aud\":\"api\",\"sub\":\"u1\",\"exp\":1" ++
  "800000000\x7d"

def signature : String :=
  "7UFqxqbJfR_3w7Ji7juOBZUtbXqbGZxiIF9oUzcF4IDnshAg2EN2HDxP64GlrdWNEALM" ++
  "Y0e_p6BWmQa5YCzssA"

def claims : Value :=
  .object [("aud", .string "api"), ("exp", .number (.posInt 1800000000)),
    ("iss", .string "https://idp"), ("sub", .string "u1")]

def idToken : String :=
  b64Encode (Text.asBytes header) ++ "." ++
    b64Encode (Text.asBytes payload) ++ "." ++ signature

def tokenResponse : String :=
  "\x7b\"id_token\":\"" ++ idToken ++ "\"\x7d"

def foreign : Foreign where
  escapeDebug text := text
  debugStr text := "\"" ++ text ++ "\""
  debugDuration duration := toString (duration.nanos / 1000000000) ++ "s"
  headerFromSlice bytes :=
    if bytes = Text.asBytes header then .ok ⟨"ES256", some "k1", none⟩
    else .error "expected value at line 1 column 1"
  valueFromSlice bytes :=
    if bytes = Text.asBytes payload then .ok claims
    else .error "expected value at line 1 column 1"
  valueFromStr text :=
    if text = tokenResponse then .ok (.object [("id_token", .string idToken)])
    else .error "expected value at line 1 column 1"
  jwksEntriesFromStr body :=
    if body = document then
      .ok [.object [("crv", .string "P-256"), ("kid", .string "k1"),
        ("kty", .string "EC"), ("use", .string "sig"), ("x", .string x),
        ("y", .string y)]]
    else if body = uselessDocument then
      .ok [.object [("kid", .string "k1"), ("kty", .string "RSA")]]
    else .error "expected value at line 1 column 1"
  rsaVerify _ _ _ _ := false
  ecdsaVerify point message signed :=
    decide (b64Decode x = some ((point.drop 1).take 32) ∧
      b64Decode y = some (point.drop 33) ∧
      message = Text.asBytes (b64Encode (Text.asBytes header) ++ "." ++
        b64Encode (Text.asBytes payload)) ∧
      b64Decode signature = some signed)

end Sample

end AuthOidc
