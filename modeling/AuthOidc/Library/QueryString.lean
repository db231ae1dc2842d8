import Mathlib.Algebra.Ring.Nat
import Mathlib.Data.List.Basic

/-!
# Query strings

A query is a list of pieces joined by `&`.  A piece is a name and a value
around the first `=`, each of them percent-coded UTF-8.  An encoder that
escapes every byte outside a kept set of characters emits no delimiter, and
reading a query undoes it.
-/

namespace QueryString

section Percent

def hexDigit (value : Nat) : Char :=
  Char.ofNat (if value < 10 then 48 + value else 55 + value)

/-- Both cases of the letters are read. -/
def hexValue (digit : Char) : Option Nat :=
  let code := digit.toNat
  if 48 ≤ code ∧ code ≤ 57 then some (code - 48)
  else if 65 ≤ code ∧ code ≤ 70 then some (code - 55)
  else if 97 ≤ code ∧ code ≤ 102 then some (code - 87)
  else none

variable (keep : UInt8 → Bool)

def encodeByte (byte : UInt8) : List Char :=
  if keep byte then [Char.ofNat byte.toNat]
  else ['%', hexDigit (byte.toNat / 16), hexDigit (byte.toNat % 16)]

def encode (bytes : List UInt8) : List Char :=
  bytes.flatMap (encodeByte keep)

def escaped (first second third : Char) : Option UInt8 :=
  if first = '%' then
    (hexValue second).bind fun high =>
      (hexValue third).map fun low => UInt8.ofNat (16 * high + low)
  else none

/-- A `%` without two hexadecimal digits after it stands for itself. -/
def decode : List Char → List UInt8
  | first :: second :: third :: rest =>
      match escaped first second third with
      | some byte => byte :: decode rest
      | none => String.utf8EncodeChar first ++ decode (second :: third :: rest)
  | short => short.flatMap String.utf8EncodeChar

variable {keep}

theorem hexValue_hexDigit {value : Nat} (small : value < 16) :
    hexValue (hexDigit value) = some value := by
  have table : ∀ digit : Fin 16,
      hexValue (hexDigit digit) = some digit.val := by
    decide
  exact table ⟨value, small⟩

theorem hexDigit_mem {value : Nat} (small : value < 16) :
    hexDigit value ∈ "0123456789ABCDEF".toList := by
  have table : ∀ digit : Fin 16,
      hexDigit digit ∈ "0123456789ABCDEF".toList := by
    decide
  exact table ⟨value, small⟩

theorem decode_cons_of_ne {first : Char} (plain : first ≠ '%')
    (rest : List Char) :
    decode (first :: rest) = String.utf8EncodeChar first ++ decode rest := by
  rcases rest with _ | ⟨second, _ | ⟨third, rest⟩⟩
  · simp [decode]
  · simp [decode]
  · simp [decode, escaped, plain]

theorem decode_escape (byte : UInt8) (rest : List Char) :
    decode ('%' :: hexDigit (byte.toNat / 16) :: hexDigit (byte.toNat % 16) ::
      rest) = byte :: decode rest := by
  have bound := byte.toNat_lt
  have total : 16 * (byte.toNat / 16) + byte.toNat % 16 = byte.toNat :=
    Nat.div_add_mod _ _
  simp only [decode, escaped, if_true, Option.bind_some, Option.map_some,
    hexValue_hexDigit (show byte.toNat / 16 < 16 by omega),
    hexValue_hexDigit (show byte.toNat % 16 < 16 by omega), total,
    UInt8.ofNat_toNat]

/-- The kept bytes are ASCII characters other than `%`. -/
def Plain (keep : UInt8 → Bool) : Prop :=
  ∀ byte, keep byte = true → byte.toNat < 128 ∧ byte.toNat ≠ 37

theorem utf8EncodeChar_ascii {byte : UInt8} (ascii : byte.toNat < 128) :
    String.utf8EncodeChar (Char.ofNat byte.toNat) = [byte] := by
  have table : ∀ code : Fin 128, String.utf8EncodeChar (Char.ofNat code) =
      [UInt8.ofNat code] := by
    decide
  rw [table ⟨byte.toNat, ascii⟩, UInt8.ofNat_toNat]

theorem ofNat_toNat_ascii {byte : UInt8} (ascii : byte.toNat < 128) :
    (Char.ofNat byte.toNat).toNat = byte.toNat := by
  have table : ∀ code : Fin 128, (Char.ofNat code).toNat = code := by
    decide
  exact table ⟨byte.toNat, ascii⟩

theorem decode_encodeByte (plain : Plain keep) (byte : UInt8)
    (rest : List Char) :
    decode (encodeByte keep byte ++ rest) = byte :: decode rest := by
  by_cases kept : keep byte = true
  · obtain ⟨ascii, notPercent⟩ := plain byte kept
    have different : Char.ofNat byte.toNat ≠ '%' := by
      intro equality
      apply notPercent
      rw [← ofNat_toNat_ascii ascii, equality]
      rfl
    rw [encodeByte, if_pos kept, List.singleton_append,
      decode_cons_of_ne different, utf8EncodeChar_ascii ascii,
      List.singleton_append]
  · rw [encodeByte, if_neg kept]
    exact decode_escape byte rest

/-- Decoding undoes the encoding of any bytes. -/
theorem decode_encode (plain : Plain keep) (bytes : List UInt8) :
    decode (encode keep bytes) = bytes := by
  induction bytes with
  | nil => rfl
  | cons byte bytes induction =>
      rw [encode, List.flatMap_cons, decode_encodeByte plain]
      exact congrArg (byte :: ·) induction

/-- The characters of an encoding: the kept ones, and those of the escapes. -/
theorem mem_encode {character : Char} {bytes : List UInt8}
    (member : character ∈ encode keep bytes) :
    (∃ byte, keep byte = true ∧ character = Char.ofNat byte.toNat) ∨
      character ∈ "%0123456789ABCDEF".toList := by
  obtain ⟨byte, _, inByte⟩ := List.mem_flatMap.mp member
  have bound := byte.toNat_lt
  unfold encodeByte at inByte
  split at inByte
  · exact .inl ⟨byte, ‹_›, List.mem_singleton.mp inByte⟩
  · right
    have digits : "%0123456789ABCDEF".toList =
        '%' :: "0123456789ABCDEF".toList := by decide
    rw [digits]
    simp only [List.mem_cons, List.not_mem_nil, or_false] at inByte
    rcases inByte with rfl | rfl | rfl
    · exact List.mem_cons_self
    · exact List.mem_cons_of_mem _ (hexDigit_mem (by omega))
    · exact List.mem_cons_of_mem _ (hexDigit_mem (by omega))

/-- A character that is neither kept nor part of an escape. -/
def Escaped (keep : UInt8 → Bool) (character : Char) : Prop :=
  (∀ byte, keep byte = true → character ≠ Char.ofNat byte.toNat) ∧
    character ∉ "%0123456789ABCDEF".toList

theorem escaped_of_not_kept (plain : Plain keep) {character : Char}
    (notKept : keep (UInt8.ofNat character.toNat) = false)
    (noEscape : character ∉ "%0123456789ABCDEF".toList) :
    Escaped keep character := by
  constructor
  · rintro byte kept rfl
    rw [ofNat_toNat_ascii (plain byte kept).1, UInt8.ofNat_toNat, kept]
      at notKept
    cases notKept
  · exact noEscape

theorem not_mem_encode {character : Char} (escaped : Escaped keep character)
    (bytes : List UInt8) : character ∉ encode keep bytes := by
  intro member
  rcases mem_encode member with ⟨byte, kept, equality⟩ | escape
  · exact escaped.1 byte kept equality
  · exact escaped.2 escape

end Percent

section Text

def utf8 (text : String) : List UInt8 :=
  text.toList.flatMap String.utf8EncodeChar

/-- Percent-coded UTF-8; `none` means that the bytes are not UTF-8. -/
def decodeText (coded : List Char) : Option String :=
  String.fromUTF8? (decode coded).toByteArray

variable {keep : UInt8 → Bool}

theorem fromUTF8_utf8 (text : String) :
    String.fromUTF8? (utf8 text).toByteArray = some text := by
  have bytes : (utf8 text).toByteArray = text.toByteArray := by
    conv_rhs => rw [← String.ofList_toList (s := text)]
    rw [String.toByteArray_ofList]
    rfl
  rw [bytes, String.fromUTF8?, dif_pos text.isValidUTF8]
  rfl

theorem decodeText_encode (plain : Plain keep) (text : String) :
    decodeText (encode keep (utf8 text)) = some text := by
  rw [decodeText, decode_encode plain, fromUTF8_utf8]

end Text

section Pieces

/-- What comes after the first mark; nothing when there is none. -/
def afterFirst (mark : Char) (text : List Char) : List Char :=
  (text.dropWhile (· ≠ mark)).tail

/-- The pieces of a query, without the empty ones. -/
def pieces (query : List Char) : List (List Char) :=
  (query.splitOn '&').filter (· ≠ [])

def readPiece (piece : List Char) : Option (String × String) :=
  (decodeText (piece.takeWhile (· ≠ '='))).bind fun name =>
    (decodeText (afterFirst '=' piece)).map fun value => (name, value)

variable (keep : UInt8 → Bool)

def writePiece (parameter : String × String) : List Char :=
  encode keep (utf8 parameter.1) ++ '=' :: encode keep (utf8 parameter.2)

def write (parameters : List (String × String)) : List Char :=
  ['&'].intercalate (parameters.map (writePiece keep))

variable {keep}

theorem takeWhile_before {mark : Char} {front : List Char}
    (absent : mark ∉ front) (back : List Char) :
    (front ++ mark :: back).takeWhile (· ≠ mark) = front := by
  rw [List.takeWhile_append_of_pos]
  · simp
  · intro character member
    simp only [ne_eq, decide_eq_true_eq]
    intro equal
    subst equal
    exact absent member

theorem afterFirst_before {mark : Char} {front : List Char}
    (absent : mark ∉ front) (back : List Char) :
    afterFirst mark (front ++ mark :: back) = back := by
  rw [afterFirst, List.dropWhile_append_of_pos]
  · simp
  · intro character member
    simp only [ne_eq, decide_eq_true_eq]
    intro equal
    subst equal
    exact absent member

theorem afterFirst_append {mark : Char} {front : List Char}
    (present : mark ∈ front) (back : List Char) :
    afterFirst mark (front ++ back) = afterFirst mark front ++ back := by
  induction front with
  | nil => simp at present
  | cons head tail induction =>
      by_cases isMark : head = mark
      · simp [afterFirst, isMark]
      · have inTail : mark ∈ tail := by
          rcases List.mem_cons.mp present with equality | member
          · exact absurd equality.symm isMark
          · exact member
        simpa [afterFirst, isMark] using induction inTail

theorem afterFirst_of_absent {mark : Char} {text : List Char}
    (absent : mark ∉ text) : afterFirst mark text = [] := by
  induction text with
  | nil => rfl
  | cons head tail induction =>
      have different : head ≠ mark := by
        intro equal
        subst equal
        simp at absent
      have tailAbsent : mark ∉ tail := fun member =>
        absent (List.mem_cons_of_mem _ member)
      simpa [afterFirst, different] using induction tailAbsent

theorem pieces_append (front back : List Char) :
    pieces (front ++ '&' :: back) = pieces front ++ pieces back := by
  rw [pieces, List.splitOn_append_cons_self, List.filter_append]
  rfl

/-- An encoder whose output is free of the delimiters of a query. -/
structure Separating (keep : UInt8 → Bool) : Prop where
  plain : Plain keep
  ampersand : Escaped keep '&'
  equals : Escaped keep '='

theorem readPiece_writePiece (separating : Separating keep)
    (parameter : String × String) :
    readPiece (writePiece keep parameter) = some parameter := by
  have absent := not_mem_encode separating.equals (utf8 parameter.1)
  rw [readPiece, writePiece, takeWhile_before absent,
    afterFirst_before absent, decodeText_encode separating.plain,
    decodeText_encode separating.plain]
  rfl

theorem not_mem_writePiece {character : Char}
    (escaped : Escaped keep character) (different : character ≠ '=')
    (parameter : String × String) :
    character ∉ writePiece keep parameter := by
  have name := not_mem_encode escaped (utf8 parameter.1)
  have value := not_mem_encode escaped (utf8 parameter.2)
  simp [writePiece, name, value, different]

theorem writePiece_ne_nil (parameter : String × String) :
    writePiece keep parameter ≠ [] := by
  simp [writePiece]

/-- The pieces of a written query, in order. -/
theorem pieces_write (separating : Separating keep)
    {parameters : List (String × String)} (nonempty : parameters ≠ []) :
    pieces (write keep parameters) = parameters.map (writePiece keep) := by
  have split : (write keep parameters).splitOn '&' =
      parameters.map (writePiece keep) := by
    apply List.splitOn_intercalate
    · intro piece member
      obtain ⟨parameter, _, rfl⟩ := List.mem_map.mp member
      exact not_mem_writePiece separating.ampersand (by decide) parameter
    · simpa using nonempty
  rw [pieces, split, List.filter_eq_self]
  intro piece member
  obtain ⟨parameter, _, rfl⟩ := List.mem_map.mp member
  simpa using writePiece_ne_nil parameter

theorem not_mem_intercalate {mark delimiter : Char} {items : List (List Char)}
    (different : mark ≠ delimiter) (free : ∀ item ∈ items, mark ∉ item) :
    mark ∉ [delimiter].intercalate items := by
  induction items with
  | nil => simp
  | cons head tail induction =>
      have inHead : mark ∉ head := free head List.mem_cons_self
      have inTail := induction fun item member =>
        free item (List.mem_cons_of_mem _ member)
      cases tail with
      | nil => simpa using inHead
      | cons next rest =>
          rw [List.intercalate_cons_cons]
          simp [inHead, different, inTail]

theorem not_mem_write {character : Char} (escaped : Escaped keep character)
    (notEquals : character ≠ '=') (notAmpersand : character ≠ '&')
    (parameters : List (String × String)) :
    character ∉ write keep parameters := by
  apply not_mem_intercalate notAmpersand
  intro piece member
  obtain ⟨parameter, _, rfl⟩ := List.mem_map.mp member
  exact not_mem_writePiece escaped notEquals parameter

end Pieces

end QueryString
