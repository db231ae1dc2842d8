import Mathlib.Algebra.Ring.Nat
import Mathlib.Data.List.Basic

/-!
# Delimited lists

A list cut at every occurrence of a delimiter is determined by its pieces, and
the pieces are exactly the delimiter-free lists that join back to it.  A
backward search for the last delimiter, measured in the widths of the symbols
before it, cuts the same list in front of its last piece.
-/

namespace Delimited

variable {α : Type*} [DecidableEq α] {delimiter : α}

theorem not_mem_of_mem_splitOn {items piece : List α}
    (member : piece ∈ items.splitOn delimiter) : delimiter ∉ piece := by
  induction items generalizing piece with
  | nil => simp_all
  | cons head tail induction =>
      rw [List.splitOn_cons_eq_if_modifyHead] at member
      split at member
      · rcases List.mem_cons.mp member with rfl | later
        · simp
        · exact induction later
      · rename_i different
        cases pieces : tail.splitOn delimiter with
        | nil => simp [pieces] at member
        | cons first rest =>
            rw [pieces, List.modifyHead_cons] at member
            rcases List.mem_cons.mp member with rfl | later
            · have headDifferent : delimiter ≠ head := by
                intro equal
                subst equal
                simp at different
              have firstFree : delimiter ∉ first := induction (by simp [pieces])
              simp [headDifferent, firstFree]
            · exact induction (by simp [pieces, later])

/-- Cutting at the delimiter is characterized by joining. -/
theorem splitOn_eq_iff {items : List α} {pieces : List (List α)}
    (nonempty : pieces ≠ []) :
    items.splitOn delimiter = pieces ↔
      (∀ piece ∈ pieces, delimiter ∉ piece) ∧
        [delimiter].intercalate pieces = items := by
  constructor
  · intro equal
    subst equal
    exact ⟨fun _ => not_mem_of_mem_splitOn, List.intercalate_splitOn _⟩
  · intro given
    obtain ⟨free, rfl⟩ := given
    exact List.splitOn_intercalate delimiter free nonempty

theorem splitOn_eq_three_iff {items first second third : List α} :
    items.splitOn delimiter = [first, second, third] ↔
      delimiter ∉ first ∧ delimiter ∉ second ∧ delimiter ∉ third ∧
        items = (first ++ delimiter :: second) ++ delimiter :: third := by
  rw [splitOn_eq_iff (by simp)]
  constructor
  · intro given
    obtain ⟨free, rfl⟩ := given
    exact ⟨free _ (by simp), free _ (by simp), free _ (by simp), by simp⟩
  · intro given
    obtain ⟨firstFree, secondFree, thirdFree, rfl⟩ := given
    refine ⟨?_, by simp⟩
    intro piece member
    simp only [List.mem_cons, List.not_mem_nil, or_false] at member
    rcases member with rfl | rfl | rfl
    · exact firstFree
    · exact secondFree
    · exact thirdFree

section Offsets

variable (width : α → Nat)

def extent (items : List α) : Nat :=
  (items.map width).sum

/-- Offset of the last delimiter, in widths of the symbols before it. -/
def lastOffset (delimiter : α) : List α → Option Nat
  | [] => none
  | head :: tail =>
      match lastOffset delimiter tail with
      | some offset => some (width head + offset)
      | none => if head = delimiter then some 0 else none

/-- The front of a list up to an offset.  `none` means that the offset falls
inside a symbol or past the end. -/
def frontAt : List α → Nat → Option (List α)
  | _, 0 => some []
  | [], _ + 1 => none
  | head :: tail, offset + 1 =>
      if width head ≤ offset + 1 then
        (frontAt tail (offset + 1 - width head)).map (head :: ·)
      else none

theorem lastOffset_eq_none {items : List α} (absent : delimiter ∉ items) :
    lastOffset width delimiter items = none := by
  induction items with
  | nil => rfl
  | cons head tail induction =>
      have headDifferent : head ≠ delimiter := by
        intro equal
        subst equal
        simp at absent
      have tailAbsent : delimiter ∉ tail := fun member =>
        absent (by simp [member])
      simp [lastOffset, induction tailAbsent, headDifferent]

theorem lastOffset_append_cons {front back : List α}
    (absent : delimiter ∉ back) :
    lastOffset width delimiter (front ++ delimiter :: back) =
      some (extent width front) := by
  induction front with
  | nil => simp [lastOffset, lastOffset_eq_none width absent, extent]
  | cons head tail induction =>
      simp [lastOffset, induction, extent]

omit [DecidableEq α] in
theorem frontAt_append_extent (positive : ∀ symbol, 0 < width symbol)
    (front back : List α) :
    frontAt width (front ++ back) (extent width front) = some front := by
  induction front with
  | nil => cases back <;> simp [frontAt, extent]
  | cons head tail induction =>
      have headPositive := positive head
      obtain ⟨offset, total⟩ :
          ∃ offset, extent width (head :: tail) = offset + 1 :=
        Nat.exists_eq_add_one.mpr (by simp [extent]; omega)
      have rest : offset + 1 - width head = extent width tail := by
        simp only [extent, List.map_cons, List.sum_cons] at total ⊢
        omega
      have fits : width head ≤ offset + 1 := by
        simp only [extent, List.map_cons, List.sum_cons] at total
        omega
      rw [total, List.cons_append, frontAt, if_pos fits, rest, induction]
      rfl

/-- The last delimiter of a list of three or more pieces stands in front of
its last piece. -/
theorem frontAt_lastOffset (positive : ∀ symbol, 0 < width symbol)
    {front back : List α} (absent : delimiter ∉ back) :
    (lastOffset width delimiter (front ++ delimiter :: back)).bind
        (frontAt width (front ++ delimiter :: back)) = some front := by
  rw [lastOffset_append_cons width absent]
  exact frontAt_append_extent width positive front _

end Offsets

end Delimited
