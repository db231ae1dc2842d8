import Mathlib.Data.Fin.Basic
import Mathlib.Data.List.Basic
import Mathlib.Data.List.Nodup
import Mathlib.Data.Option.Basic

/-!
# Strict unpadded base64

Three bytes are regrouped into four six-bit digits; a shorter last group
yields two or three digits whose unused low bits are zero.  The decoder is
strict: it refuses a dangling single digit and non-zero unused bits, so
encoding and decoding are mutually inverse at every length.  The digits are
written in an arbitrary 64-symbol alphabet.
-/

namespace Base64

abbrev Digit := Fin 64

private def digit (value : Nat) : Digit :=
  Fin.ofNat 64 value

private def byte (value : Nat) : UInt8 :=
  UInt8.ofNat value

def encodeDigits : List UInt8 → List Digit
  | [] => []
  | [first] =>
      [digit (first.toNat / 4), digit (first.toNat % 4 * 16)]
  | [first, second] =>
      [digit (first.toNat / 4),
        digit (first.toNat % 4 * 16 + second.toNat / 16),
        digit (second.toNat % 16 * 4)]
  | first :: second :: third :: rest =>
      digit (first.toNat / 4) ::
        digit (first.toNat % 4 * 16 + second.toNat / 16) ::
        digit (second.toNat % 16 * 4 + third.toNat / 64) ::
        digit (third.toNat % 64) :: encodeDigits rest

/-- Regroup digits into bytes.  A last group of one digit is refused, and so
is a shorter last group whose unused bits are not zero. -/
def decodeDigits : List Digit → Option (List UInt8)
  | [] => some []
  | [_] => none
  | [first, second] =>
      if second.val % 16 = 0 then
        some [byte (first.val * 4 + second.val / 16)]
      else none
  | [first, second, third] =>
      if third.val % 4 = 0 then
        some [byte (first.val * 4 + second.val / 16),
          byte (second.val % 16 * 16 + third.val / 4)]
      else none
  | first :: second :: third :: fourth :: rest =>
      (decodeDigits rest).map fun bytes =>
        byte (first.val * 4 + second.val / 16) ::
          byte (second.val % 16 * 16 + third.val / 4) ::
          byte (third.val % 4 * 64 + fourth.val) :: bytes

@[simp] private theorem digit_val (value : Nat) :
    (digit value).val = value % 64 := by
  simp [digit]

@[simp] private theorem byte_toNat (value : Nat) :
    (byte value).toNat = value % 256 := by
  simp [byte]

private theorem byte_eq {value : Nat} (expected : UInt8)
    (equality : value = expected.toNat) : byte value = expected := by
  subst equality
  simp [byte]

private theorem digit_eq {value : Nat} (expected : Digit)
    (equality : value = expected.val) : digit value = expected := by
  subst equality
  simp [digit]

theorem decodeDigits_encodeDigits (bytes : List UInt8) :
    decodeDigits (encodeDigits bytes) = some bytes := by
  fun_induction encodeDigits bytes with
  | case1 => rfl
  | case2 first =>
      have firstBound := first.toNat_lt
      simp only [decodeDigits, digit_val]
      rw [if_pos (by omega), byte_eq first (by omega)]
  | case3 first second =>
      have firstBound := first.toNat_lt
      have secondBound := second.toNat_lt
      simp only [decodeDigits, digit_val]
      rw [if_pos (by omega), byte_eq first (by omega),
        byte_eq second (by omega)]
  | case4 first second third rest induction =>
      have firstBound := first.toNat_lt
      have secondBound := second.toNat_lt
      have thirdBound := third.toNat_lt
      simp only [decodeDigits, digit_val, induction, Option.map_some]
      rw [byte_eq first (by omega),
        byte_eq second (by omega),
        byte_eq third (by omega)]

/-- Strictness: a digit string that decodes is the encoding of its result. -/
theorem encodeDigits_of_decodeDigits {digits : List Digit}
    {bytes : List UInt8} (decoded : decodeDigits digits = some bytes) :
    encodeDigits bytes = digits := by
  fun_induction decodeDigits digits generalizing bytes with
  | case1 =>
      cases decoded
      rfl
  | case2 => simp at decoded
  | case3 first second zeroBits =>
      cases decoded
      simp only [encodeDigits, byte_toNat]
      rw [digit_eq first (by omega),
        digit_eq second (by omega)]
  | case4 => simp at decoded
  | case5 first second third zeroBits =>
      cases decoded
      simp only [encodeDigits, byte_toNat]
      rw [digit_eq first (by omega),
        digit_eq second (by omega),
        digit_eq third (by omega)]
  | case6 => simp at decoded
  | case7 first second third fourth rest induction =>
      obtain ⟨tail, tailDecoded, rfl⟩ := Option.map_eq_some_iff.mp decoded
      simp only [encodeDigits, byte_toNat, induction tailDecoded]
      rw [digit_eq first (by omega),
        digit_eq second (by omega),
        digit_eq third (by omega),
        digit_eq fourth (by omega)]

/-- A 64-symbol alphabet: writing and reading a symbol are inverse to each
other. -/
structure Alphabet (Symbol : Type*) where
  write : Digit → Symbol
  read : Symbol → Option Digit
  read_write : ∀ value, read (write value) = some value
  write_read : ∀ symbol value, read symbol = some value →
    write value = symbol

namespace Alphabet

variable {Symbol : Type*}

def ofList [DecidableEq Symbol] (symbols : List Symbol)
    (length : symbols.length = 64) (distinct : symbols.Nodup) :
    Alphabet Symbol :=
  { write := fun value => symbols.get ⟨value.val, by omega⟩
    read := fun symbol =>
      if member : symbol ∈ symbols then
        some ⟨symbols.idxOf symbol,
          length ▸ List.idxOf_lt_length_iff.mpr member⟩
      else none
    read_write := by
      intro value
      have member : symbols.get ⟨value.val, by omega⟩ ∈ symbols :=
        List.get_mem _ _
      rw [dif_pos member]
      congr 1
      exact Fin.ext (distinct.idxOf_getElem value.val _)
    write_read := by
      intro symbol value found
      by_cases member : symbol ∈ symbols
      · rw [dif_pos member] at found
        cases found
        simp
      · simp [member] at found }

variable (alphabet : Alphabet Symbol)

def encode (bytes : List UInt8) : List Symbol :=
  (encodeDigits bytes).map alphabet.write

def decode (text : List Symbol) : Option (List UInt8) :=
  (text.mapM alphabet.read).bind decodeDigits

private theorem mapM_read_map_write (digits : List Digit) :
    (digits.map alphabet.write).mapM alphabet.read = some digits := by
  induction digits with
  | nil => rfl
  | cons head tail induction =>
      simp [List.mapM_cons, alphabet.read_write, induction]

private theorem map_write_of_mapM_read {text : List Symbol}
    {digits : List Digit} (read : text.mapM alphabet.read = some digits) :
    digits.map alphabet.write = text := by
  induction text generalizing digits with
  | nil =>
      simp at read
      simp [read]
  | cons head tail induction =>
      rw [List.mapM_cons] at read
      obtain ⟨value, headRead, read⟩ := Option.bind_eq_some_iff.mp read
      obtain ⟨values, tailRead, read⟩ := Option.bind_eq_some_iff.mp read
      cases read
      simp [alphabet.write_read _ _ headRead, induction tailRead]

@[simp] theorem decode_encode (bytes : List UInt8) :
    alphabet.decode (alphabet.encode bytes) = some bytes := by
  rw [decode, encode, mapM_read_map_write, Option.bind_some,
    decodeDigits_encodeDigits]

theorem encode_of_decode {text : List Symbol} {bytes : List UInt8}
    (decoded : alphabet.decode text = some bytes) :
    alphabet.encode bytes = text := by
  obtain ⟨digits, read, regrouped⟩ := Option.bind_eq_some_iff.mp decoded
  rw [encode, encodeDigits_of_decodeDigits regrouped]
  exact alphabet.map_write_of_mapM_read read

theorem decode_eq_some_iff {text : List Symbol} {bytes : List UInt8} :
    alphabet.decode text = some bytes ↔ alphabet.encode bytes = text :=
  ⟨alphabet.encode_of_decode, fun encoded => encoded ▸ by simp⟩

theorem not_mem_encode {symbol : Symbol} (bytes : List UInt8)
    (foreign : ∀ value, alphabet.write value ≠ symbol) :
    symbol ∉ alphabet.encode bytes := by
  intro member
  obtain ⟨value, _, written⟩ := List.mem_map.mp member
  exact foreign value written

end Alphabet

end Base64
