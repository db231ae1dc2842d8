import Mathlib.Data.List.Chain
import Mathlib.Order.Defs.LinearOrder
import Mathlib.Algebra.Order.Monoid.Unbundled.Basic

/-!
# Spaced sequences of instants

A list of natural-number instants is spaced by `gap` when each one lies at
least `gap` after the one before it.  Spacing survives deleting entries, and a
spaced list puts only a bounded number of entries into a window.
-/

namespace Spacing

/-- Consecutive entries are at least `gap` apart, in increasing order. -/
def Spaced (gap : Nat) (instants : List Nat) : Prop :=
  instants.Pairwise fun earlier later => earlier + gap ≤ later

@[simp] theorem spaced_nil (gap : Nat) : Spaced gap [] :=
  List.Pairwise.nil

theorem spaced_append_singleton {gap instant : Nat} {instants : List Nat} :
    Spaced gap (instants ++ [instant]) ↔
      Spaced gap instants ∧
        ∀ earlier ∈ instants, earlier + gap ≤ instant := by
  simp [Spaced, List.pairwise_append]

/-- Appending needs to be compared with the last entry only. -/
theorem Spaced.append {gap instant : Nat} {instants : List Nat}
    (spaced : Spaced gap instants)
    (afterLast : ∀ last, instants.getLast? = some last →
      last + gap ≤ instant) :
    Spaced gap (instants ++ [instant]) := by
  refine spaced_append_singleton.mpr ⟨spaced, ?_⟩
  intro earlier member
  rcases List.eq_nil_or_concat instants with rfl | ⟨front, last, rfl⟩
  · simp at member
  · have lastBound := afterLast last (by simp)
    have split : earlier ∈ front ∨ earlier = last := by simpa using member
    rcases split with inFront | rfl
    · have gapBefore :=
        (spaced_append_singleton.mp (by simpa using spaced)).2 earlier inFront
      omega
    · exact lastBound

theorem Spaced.sublist {gap : Nat} {instants kept : List Nat}
    (spaced : Spaced gap instants) (sub : kept.Sublist instants) :
    Spaced gap kept :=
  List.Pairwise.sublist sub spaced

/-- A spaced list starting at or after `low` and ending at or before `high`
stretches over one gap fewer than it has entries. -/
theorem Spaced.stretch {gap low high : Nat} {instants : List Nat}
    (spaced : Spaced gap instants)
    (above : ∀ instant ∈ instants, low ≤ instant)
    (below : ∀ instant ∈ instants, instant ≤ high)
    (nonempty : instants ≠ []) :
    low + gap * (instants.length - 1) ≤ high := by
  induction instants generalizing low with
  | nil => exact absurd rfl nonempty
  | cons first rest induction =>
      have firstAbove : low ≤ first := above first (by simp)
      have firstBelow : first ≤ high := below first (by simp)
      have afterFirst : ∀ instant ∈ rest, first + gap ≤ instant :=
        fun _ member => List.rel_of_pairwise_cons spaced member
      cases rest with
      | nil => simpa using le_trans firstAbove firstBelow
      | cons second rest =>
          have tail : first + gap + gap * (rest.length + 1 - 1) ≤ high :=
            induction (List.Pairwise.of_cons spaced) afterFirst
              (fun instant member => below instant (by simp [member]))
              (by simp)
          simp only [List.length_cons, Nat.add_sub_cancel] at tail ⊢
          rw [Nat.mul_succ]
          omega

/-- At most `width / gap + 1` entries of a spaced list lie in a closed window
of the given width. -/
theorem Spaced.count_window {gap : Nat} (positive : 0 < gap)
    {instants : List Nat} (spaced : Spaced gap instants) (low width : Nat) :
    (instants.filter fun instant =>
        decide (low ≤ instant ∧ instant ≤ low + width)).length ≤
      width / gap + 1 := by
  generalize selected : instants.filter _ = kept
  have keptSpaced : Spaced gap kept :=
    spaced.sublist (selected ▸ List.filter_sublist)
  have inWindow : ∀ instant ∈ kept,
      low ≤ instant ∧ instant ≤ low + width := by
    intro instant member
    rw [← selected] at member
    simpa using (List.mem_filter.mp member).2
  by_cases empty : kept = []
  · simp [empty]
  · have stretch := keptSpaced.stretch
      (fun instant member => (inWindow instant member).1)
      (fun instant member => (inWindow instant member).2) empty
    have fits : gap * (kept.length - 1) ≤ width := by omega
    have count : kept.length - 1 ≤ width / gap :=
      (Nat.le_div_iff_mul_le positive).mpr (by rwa [Nat.mul_comm])
    omega

end Spacing
