import Mathlib.Data.List.DropRight
import AuthOidc.Library.Charset
import AuthOidc.Library.Delimited

/-!
# Text of the standard library

A `str` is read as the list of its Unicode scalar values; byte offsets are
measured by the UTF-8 width of the values before them.
-/

namespace AuthOidc.Rust

namespace Text

def asBytes (text : String) : List UInt8 :=
  text.toList.flatMap String.utf8EncodeChar

/-- `String::from_utf8`. -/
def fromUtf8 (bytes : List UInt8) : Option String :=
  String.fromUTF8? bytes.toByteArray

def split (delimiter : Char) (text : String) : List String :=
  (text.toList.splitOn delimiter).map String.ofList

/-- `str::rfind` of a character: the byte offset of its last occurrence. -/
def rfind (delimiter : Char) (text : String) : Option Nat :=
  Delimited.lastOffset Char.utf8Size delimiter text.toList

/-- `&text[..offset]`.  `none` is the panic on an offset past the end or
inside a character. -/
def sliceTo (text : String) (offset : Nat) : Option String :=
  (Delimited.frontAt Char.utf8Size text.toList offset).map String.ofList

/-- `char::is_whitespace`, the Unicode property `White_Space`. -/
def isWhitespace (character : Char) : Bool :=
  let code := character.toNat
  (0x9 ≤ code && code ≤ 0xD) || code == 0x20 || code == 0x85 ||
    code == 0xA0 || code == 0x1680 || (0x2000 ≤ code && code ≤ 0x200A) ||
    code == 0x2028 || code == 0x2029 || code == 0x202F || code == 0x205F ||
    code == 0x3000

/-- `char::is_ascii_control`: C0 and DEL. -/
def isAsciiControl (character : Char) : Bool :=
  character.toNat ≤ 0x1F || character.toNat == 0x7F

/-- No character of the text is an ASCII control character. -/
abbrev ControlFree (text : String) : Prop :=
  Charset.Avoids isAsciiControl text

/-- `str::trim_end_matches` of a character. -/
def trimEndMatches (character : Char) (text : String) : String :=
  String.ofList (text.toList.rdropWhile (· == character))

/-- `text.trim().is_empty()`. -/
def isBlank (text : String) : Bool :=
  text.toList.all isWhitespace

theorem toByteArray_asBytes (text : String) :
    (asBytes text).toByteArray = text.toByteArray :=
  String.utf8Encode_toList

theorem fromUtf8_eq_some_iff {bytes : List UInt8} {text : String} :
    fromUtf8 bytes = some text ↔ asBytes text = bytes := by
  have sameBytes : asBytes text = bytes ↔
      text.toByteArray = bytes.toByteArray := by
    rw [← toByteArray_asBytes]
    constructor
    · exact congrArg _
    · intro same
      have data := congrArg (fun array => array.data.toList) same
      simpa using data
  rw [sameBytes]
  unfold fromUtf8 String.fromUTF8?
  split
  · rename_i valid
    rw [Option.some.injEq]
    constructor
    · rintro rfl
      rfl
    · intro same
      exact String.toByteArray_inj.mp same.symm
  · rename_i invalid
    simp only [reduceCtorEq, false_iff]
    intro same
    rw [← same] at invalid
    exact invalid text.isValidUTF8

theorem split_eq_three_iff {delimiter : Char}
    {text first second third : String} :
    split delimiter text = [first, second, third] ↔
      delimiter ∉ first.toList ∧ delimiter ∉ second.toList ∧
        delimiter ∉ third.toList ∧
        text.toList = (first.toList ++ delimiter :: second.toList) ++
          delimiter :: third.toList := by
  rw [← Delimited.splitOn_eq_three_iff]
  unfold split
  constructor
  · intro pieces
    have mapped := congrArg (List.map String.toList) pieces
    simpa [List.map_map, Function.comp_def] using mapped
  · intro pieces
    simp [pieces]

/-- Two delimiter-free texts around one delimiter are its two pieces. -/
theorem split_pair {delimiter : Char} {first second : String}
    (firstFree : delimiter ∉ first.toList)
    (secondFree : delimiter ∉ second.toList) :
    split delimiter (first ++ String.singleton delimiter ++ second) =
      [first, second] := by
  have pieces : List.splitOn delimiter
      (first.toList ++ delimiter :: second.toList) =
        [first.toList, second.toList] := by
    rw [List.splitOn_append_cons_self_of_not_mem firstFree,
      List.splitOn_eq_singleton secondFree]
  simp [split, pieces]

/-- In front of a delimiter-free end, the backward search and the slice agree
on where the text is cut, and neither panics. -/
theorem sliceTo_rfind {delimiter : Char} {text front back : String}
    (absent : delimiter ∉ back.toList)
    (shape : text.toList = front.toList ++ delimiter :: back.toList) :
    (rfind delimiter text).bind (sliceTo text) = some front := by
  have cut : (Delimited.lastOffset Char.utf8Size delimiter text.toList).bind
      (Delimited.frontAt Char.utf8Size text.toList) = some front.toList := by
    rw [shape]
    exact Delimited.frontAt_lastOffset Char.utf8Size Char.utf8Size_pos absent
  obtain ⟨offset, found, sliced⟩ := Option.bind_eq_some_iff.mp cut
  simp [rfind, sliceTo, found, sliced]

end Text

end AuthOidc.Rust
