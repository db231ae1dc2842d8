import Mathlib.Data.List.Basic

/-!
# Texts that avoid characters

Some characters are marked as bad, and a text avoids them when none occurs in
it.  A text put together from pieces is checked piece by piece.
-/

namespace Charset

variable {bad : Char → Bool}

def Avoids (bad : Char → Bool) (text : String) : Prop :=
  ∀ character ∈ text.toList, bad character = false

instance (bad : Char → Bool) (text : String) : Decidable (Avoids bad text) :=
  List.decidableBAll (fun character => bad character = false) text.toList

@[simp] theorem avoids_append {front back : String} :
    Avoids bad (front ++ back) ↔ Avoids bad front ∧ Avoids bad back := by
  simp only [Avoids, String.toList_append, List.mem_append, or_imp,
    forall_and]

theorem Avoids.append {front back : String} (frontAvoids : Avoids bad front)
    (backAvoids : Avoids bad back) : Avoids bad (front ++ back) :=
  avoids_append.mpr ⟨frontAvoids, backAvoids⟩

theorem avoids_intercalate {separator : String} {texts : List String}
    (separatorAvoids : Avoids bad separator)
    (textsAvoid : ∀ text ∈ texts, Avoids bad text) :
    Avoids bad (separator.intercalate texts) := by
  induction texts with
  | nil =>
      rw [String.intercalate_nil]
      intro character member
      simp at member
  | cons first rest induction =>
      have firstAvoids := textsAvoid first List.mem_cons_self
      cases rest with
      | nil => rwa [String.intercalate_singleton]
      | cons second later =>
          rw [String.intercalate_cons_cons]
          refine (firstAvoids.append separatorAvoids).append (induction ?_)
          intro text member
          exact textsAvoid text (List.mem_cons_of_mem _ member)

/-- An escape that writes no bad character for any one writes none for a
text. -/
theorem avoids_flatMap {escape : Char → List Char}
    (escapes : ∀ character, ∀ written ∈ escape character,
      bad written = false) (characters : List Char) :
    Avoids bad (String.ofList (characters.flatMap escape)) := by
  intro written member
  rw [String.toList_ofList, List.mem_flatMap] at member
  obtain ⟨character, _, member⟩ := member
  exact escapes character written member

theorem avoids_repr
    (digits : ∀ character : Char, character.isDigit = true →
      bad character = false) (number : Nat) :
    Avoids bad number.repr := by
  intro character member
  rw [Nat.toList_repr] at member
  exact digits character
    (Nat.isDigit_of_mem_toDigits (by decide) (by decide) member)

/-- The texts put together from pieces. -/
inductive Assembled (piece : String → Prop) : String → Prop where
  | piece {text : String} : piece text → Assembled piece text
  | append {front back : String} :
      Assembled piece front → Assembled piece back →
      Assembled piece (front ++ back)

theorem Assembled.avoids {piece : String → Prop} {text : String}
    (assembled : Assembled piece text)
    (pieces : ∀ text, piece text → Avoids bad text) : Avoids bad text := by
  induction assembled with
  | piece isPiece => exact pieces _ isPiece
  | append _ _ front back => exact front.append back

end Charset
