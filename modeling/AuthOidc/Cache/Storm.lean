import AuthOidc.Cache.History
import AuthOidc.Library.Spacing

/-!
# The fetch-storm bound

With a positive refetch interval the anchors of the log are spaced by it, since
a window is claimed under the gate after a rate check against the anchor of the
last fetch.  The bounds on windows and on single callers follow from spacing.
-/

namespace AuthOidc

open Rust Transition AttemptLog Spacing

/-- A permitted attempt lies a full interval after the anchor. -/
theorem JwksCache.add_le_of_permitsAttempt {self : JwksCache} {inner : Inner}
    {now last : Instant} (positive : 0 < self.minRefetchInterval.nanos)
    (permitted : self.permitsAttempt inner now = true)
    (isLast : inner.lastAttempt = some last) :
    last + self.minRefetchInterval.nanos ≤ now := by
  have elapsed := permitsAttempt_iff.mp permitted last isLast
  have after : last < now :=
    Nat.sub_pos_iff_lt.mp (lt_of_lt_of_le positive elapsed)
  exact Nat.add_le_of_le_sub' after.le elapsed

variable {ι T : Type} [DecidableEq ι]

namespace System

variable {system : System ι T} {schedule : List (Action ι)}
  {history : List (Event ι)} {state : State ι T}

theorem Recorded.inFlight_unique {c other : ι}
    (recorded : Recorded system history state)
    (flight : (state.phase c).inFlight = true)
    (otherFlight : (state.phase other).inFlight = true) : other = c :=
  recorded.holder_unique (Phase.holdsGate_of_inFlight flight)
    (Phase.holdsGate_of_inFlight otherFlight)

theorem Recorded.interval_after_last
    (recorded : Recorded system history state) {c : ι}
    (positive : 0 < system.cache.minRefetchInterval.nanos)
    (permitted : system.cache.permitsAttempt state.inner
      (system.call c).now = true)
    {last : Instant}
    (isLast : (fetchLog history).anchors.getLast? = some last) :
    last + system.cache.minRefetchInterval.nanos ≤ (system.call c).now := by
  rw [← recorded.lastAttempt] at isLast
  exact JwksCache.add_le_of_permitsAttempt positive permitted isLast

theorem Recorded.spaced_step {next : State ι T} {emitted : List (Event ι)}
    {c : ι} (recorded : Recorded system history state)
    (positive : 0 < system.cache.minRefetchInterval.nanos)
    (spaced : Spaced system.cache.minRefetchInterval.nanos
      (fetchLog history).anchors)
    (step : system.Step state c next emitted) :
    Spaced system.cache.minRefetchInterval.nanos
      (fetchLog (history ++ emitted)).anchors := by
  cases step.effect with
  | quiet _ unlogged _ =>
      rwa [fetchLog_append, foldl_record_of_unlogged unlogged]
  | claimed _ _ _ permitted _ emittedEq =>
      have logEq : fetchLog (history ++ emitted) =
          (fetchLog history).start c (system.call c).now := by
        rw [fetchLog_append, emittedEq]
        rfl
      rw [logEq, Log.anchors_start]
      apply spaced.append
      intro last isLast
      exact recorded.interval_after_last positive permitted isLast
  | written _ _ _ emittedEq =>
      rwa [emittedEq, fetchLog_completed, Log.anchors_finish]

theorem Runs.spaced (run : system.Runs schedule history state)
    (positive : 0 < system.cache.minRefetchInterval.nanos) :
    Spaced system.cache.minRefetchInterval.nanos
      (fetchLog history).anchors :=
  Machine.Runs.invariant (spaced_nil _)
    (fun before spaced ran =>
      (Runs.recorded before).spaced_step positive spaced
        (step_of_machine ran)) run

/-- Two fetches of one caller would have the same anchor. -/
theorem Runs.fetches_of_caller_le_one
    (run : system.Runs schedule history state)
    (positive : 0 < system.cache.minRefetchInterval.nanos) (c : ι) :
    ((fetchLog history).filter fun attempt =>
      decide (attempt.owner = c)).length ≤ 1 := by
  have spaced := run.spaced positive
  rw [Spaced, Log.anchors, List.pairwise_map] at spaced
  generalize selected : (fetchLog history).filter _ = own
  have ownSpaced := spaced.sublist (selected ▸ List.filter_sublist)
  have ownAnchor : ∀ attempt ∈ own,
      attempt.anchor = (system.call c).now := by
    intro attempt member
    rw [← selected, List.mem_filter, decide_eq_true_eq] at member
    rw [run.recorded.anchored attempt member.1, member.2]
  cases own with
  | nil => exact Nat.zero_le 1
  | cons first later =>
      cases later with
      | nil => exact le_refl 1
      | cons second rest =>
          have apart := List.rel_of_pairwise_cons ownSpaced
            (List.mem_cons_self (a := second))
          rw [ownAnchor first (by simp), ownAnchor second (by simp)] at apart
          omega

/-- The fetch-storm bound: one fetch in flight at most, anchors spaced by the
interval, at most `width / interval + 1` anchors in a window of that width, and
at most one fetch by each call. -/
theorem Runs.fetch_storm_bound (run : system.Runs schedule history state)
    (positive : 0 < system.cache.minRefetchInterval.nanos) :
    (∀ c other, (state.phase c).inFlight = true →
      (state.phase other).inFlight = true → other = c) ∧
    Spaced system.cache.minRefetchInterval.nanos
      (fetchLog history).anchors ∧
    (∀ low width,
      ((fetchLog history).anchors.filter fun anchor =>
        decide (low ≤ anchor ∧ anchor ≤ low + width)).length ≤
          width / system.cache.minRefetchInterval.nanos + 1) ∧
    ∀ c, ((fetchLog history).filter fun attempt =>
      decide (attempt.owner = c)).length ≤ 1 := by
  refine ⟨?_, run.spaced positive, ?_, run.fetches_of_caller_le_one positive⟩
  · intro c other flight otherFlight
    exact run.recorded.inFlight_unique flight otherFlight
  · intro low width
    exact (run.spaced positive).count_window positive low width

theorem Runs.fetch_storm_bound_sample :
    Spaced (60 * 1000000000) (fetchLog Sample.outcome.2).anchors ∧
      ((fetchLog Sample.outcome.2).filter fun attempt =>
        decide (attempt.owner = false)).length ≤ 1 := by
  have bound := Runs.fetch_storm_bound Sample.run (by decide)
  exact ⟨bound.2.1, bound.2.2.2 false⟩

end System

end AuthOidc
