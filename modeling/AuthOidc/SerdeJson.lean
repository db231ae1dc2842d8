import AuthOidc.Rust.Number

/-!
# JSON values

The part of `serde_json::Value` that the crate reads.  A number is kept in the
representation the JSON reader chose for it: an integer that fits `u64`, a
negative integer that fits `i64`, or a finite binary64.  The members of an
object have distinct names; a lookup takes the first member of its name.
-/

namespace AuthOidc.SerdeJson

open Rust

inductive Number where
  | posInt (value : UInt64)
  | negInt (value : Int64)
  | float (value : ℚ)
  deriving DecidableEq

inductive Value where
  | null
  | bool (value : Bool)
  | number (value : Number)
  | string (value : String)
  | array (items : List Value)
  | object (members : List (String × Value))

namespace Number

/-- The exact numeric value. -/
def exact : Number → ℚ
  | posInt value => (value.toNat : ℚ)
  | negInt value => (value.toInt : ℚ)
  | float value => value

/-- `as_i64`: an integer in the `i64` range. -/
def asI64 : Number → Option Int64
  | posInt value =>
      if value.toNat < 2 ^ 63 then some value.toInt64 else none
  | negInt value => some value
  | float _ => none

/-- `as_f64`. -/
def asF64 : Number → ℚ
  | posInt value => F64.ofU64 value
  | negInt value => (value.toInt : ℚ)
  | float value => value

end Number

namespace Value

/-- `Value::get` with a member name. -/
def get (value : Value) (name : String) : Option Value :=
  match value with
  | object members => members.lookup name
  | _ => none

def asStr : Value → Option String
  | string value => some value
  | _ => none

def asObject : Value → Option (List (String × Value))
  | object members => some members
  | _ => none

def asI64 : Value → Option Int64
  | number value => value.asI64
  | _ => none

def asF64 : Value → Option ℚ
  | number value => some value.asF64
  | _ => none

/-- `claims.get(name).and_then(Value::as_str)`. -/
def getStr (value : Value) (name : String) : Option String :=
  (value.get name).bind asStr

@[simp] theorem asStr_eq_some_iff {value : Value} {text : String} :
    value.asStr = some text ↔ value = .string text := by
  cases value <;> simp [asStr]

@[simp] theorem getStr_eq_some_iff {value : Value} {name text : String} :
    value.getStr name = some text ↔
      value.get name = some (.string text) := by
  simp [getStr, Option.bind_eq_some_iff]

end Value

end AuthOidc.SerdeJson
