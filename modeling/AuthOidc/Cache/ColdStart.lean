import AuthOidc.Cache.Outage

/-!
# Agreement on a cold start

When all calls carry times of one window, shorter than the refetch interval
and the ceiling, the first claim settles the whole run: no second fetch is
permitted, and every caller answers from the set of the one fetch or fails
with it.
-/

namespace AuthOidc

open Rust Transition AttemptLog

variable {ι T : Type}

/-- The phases of a call that found the cache empty, up to the claim. -/
inductive Phase.Waiting : Phase T → Prop where
  | snapshot : Waiting .snapshot
  | rateCheck : Waiting (.rateCheck .first true)
  | tryGate : Waiting (.tryGate .first true)
  | waitGate : Waiting (.waitGate .first)
  | postGate : Waiting (.postGate .first true)

/-- The phases of a call that found the cache empty and ends in an error. -/
inductive Phase.Failing : Phase T → Prop where
  | waiting {phase : Phase T} : phase.Waiting → Failing phase
  | release {refreshed : Refreshed} :
      (∀ set, refreshed ≠ .ok (some set)) →
      Failing (.releaseGate .first refreshed)
  | done (error : String) : Failing (.done (.error error))

theorem Phase.Waiting.not_inFlight {phase : Phase T}
    (waiting : phase.Waiting) : phase.inFlight = false := by
  cases waiting <;> rfl

/-- The keys and the fetch time are absent. -/
def Inner.Empty (inner : Inner) : Prop :=
  inner.keys = none ∧ inner.fetchedAt = none

namespace Inner.Empty

variable {inner : Inner} {cache : JwksCache} {now : Instant}

theorem afterSnapshot (empty : inner.Empty) :
    (System.afterSnapshot (cache.snapshot inner now) : Phase T) =
      .rateCheck .first true :=
  System.afterSnapshot_of_cold cache now empty.1

theorem serveWithinCeiling {foreign : Foreign} (empty : inner.Empty) :
    cache.serveWithinCeiling foreign inner now = .ok none := by
  simp [JwksCache.serveWithinCeiling, JwksCache.pastCeiling, empty.1,
    empty.2]

end Inner.Empty

namespace System

variable {system : System ι T}

theorem afterRefresh_failing {c : ι} {refreshed : Refreshed}
    (noSet : ∀ set, refreshed ≠ .ok (some set)) :
    (system.afterRefresh c .first refreshed).Failing := by
  unfold afterRefresh
  split
  · exact .done _
  · exact .done _
  · rename_i impossible
    cases impossible
  · exact absurd rfl (noSet _)

theorem answers_of_waiting {set : JwkSet} {phase : Phase T}
    (waiting : phase.Waiting) : system.Answers c set phase := by
  cases waiting <;> trivial

theorem writeBack_error_of_empty {cache : JwksCache} {inner : Inner}
    {now : Instant} {error : String} (empty : inner.Empty) :
    (cache.writeBack inner now (.error error)).refreshed =
      .error error := by
  simp [JwksCache.writeBack, empty.1]

/-- The times of all calls lie in one window that is shorter than the refetch
interval and than the ceiling. -/
def InWindow (system : System ι T) (low high : Instant) : Prop :=
  (∀ c, low ≤ (system.call c).now ∧ (system.call c).now ≤ high) ∧
    high - low < system.cache.minRefetchInterval.nanos ∧
    high - low < system.cache.maxStale.nanos

theorem InWindow.near {low high : Instant} (window : system.InWindow low high)
    (c winner : ι) :
    (system.call c).now - (system.call winner).now <
        system.cache.minRefetchInterval.nanos ∧
      (system.call c).now - (system.call winner).now <
        system.cache.maxStale.nanos := by
  have apart : (system.call c).now - (system.call winner).now ≤ high - low :=
    le_trans (Nat.sub_le_sub_right (window.1 c).2 _)
      (Nat.sub_le_sub_left (window.1 winner).1 _)
  exact ⟨lt_of_le_of_lt apart window.2.1, lt_of_le_of_lt apart window.2.2⟩

variable [DecidableEq ι]

/-- On an empty cache a waiting caller goes on waiting, or it claims the
window, or it finds the window closed under the gate. -/
theorem Step.waiting {state next : State ι T} {c : ι}
    {emitted : List (Event ι)} (step : system.Step state c next emitted)
    (empty : state.inner.Empty) (waiting : (state.phase c).Waiting) :
    (next.phase c).Waiting ∨
      next.phase c = .fetching .first ∨
      (next.phase c = .releaseGate .first (.ok none) ∧
        system.cache.permitsAttempt state.inner
          (system.call c).now = false) := by
  cases step with
  | snapshot stands =>
      rw [State.move_phase_self, empty.afterSnapshot]
      exact .inl .rateCheck
  | rateLimited stands left =>
      rw [stands] at waiting
      cases waiting
      have present := ((JwksCache.checkRate_leave left).2.2 rfl).1
      rw [empty.1] at present
      cases present
  | admitted stands proceeds =>
      rw [stands] at waiting
      cases waiting
      have desperateEq := (JwksCache.checkRate_proceed proceeds).1
      rw [empty.1] at desperateEq
      rw [State.move_phase_self, desperateEq]
      exact .inl .tryGate
  | takeGate stands _ =>
      rw [stands] at waiting
      cases waiting
      simp only [State.move_phase_self]
      exact .inl .postGate
  | queue stands _ =>
      rw [stands] at waiting
      cases waiting
      simp only [State.move_phase_self]
      exact .inl .waitGate
  | wake stands _ =>
      rw [stands] at waiting
      cases waiting
      simp only [State.move_phase_self]
      exact .inl .postGate
  | satisfied stands left =>
      rw [stands] at waiting
      cases waiting
      obtain ⟨refreshedEq, present | limited⟩ :=
        JwksCache.claimWindow_leave left
      · rw [empty.1] at present
        cases present
      · rw [empty.serveWithinCeiling] at refreshedEq
        rw [State.move_phase_self, refreshedEq]
        exact .inr (.inr ⟨rfl, limited⟩)
  | claim stands _ =>
      rw [stands] at waiting
      cases waiting
      exact .inr (.inl (State.move_phase_self ..))
  | loseRace stands _ | serveLoser stands | fetchReturns _ stands
  | writeBack stands _ | release stands | lookup stands =>
      rw [stands] at waiting
      cases waiting

/-- With the window closed a failing caller goes on failing. -/
theorem Step.failing {state next : State ι T} {c : ι}
    {emitted : List (Event ι)} (step : system.Step state c next emitted)
    (empty : state.inner.Empty)
    (closed : system.cache.permitsAttempt state.inner
      (system.call c).now = false)
    (failing : (state.phase c).Failing) : (next.phase c).Failing := by
  generalize stands : state.phase c = phase at failing
  cases failing with
  | waiting waiting =>
      rw [← stands] at waiting
      rcases step.waiting empty waiting with stillWaiting | claimed | turned
      · exact .waiting stillWaiting
      · cases step.effect with
        | quiet _ _ flightEq =>
            rw [claimed, waiting.not_inFlight] at flightEq
            cases flightEq
        | claimed _ _ _ permitted _ _ =>
            rw [closed] at permitted
            cases permitted
        | written writes _ _ _ =>
            rw [writes] at waiting
            cases waiting
      · rw [turned.1]
        exact .release (by simp)
  | release noSet =>
      rw [step.of_releaseGate stands]
      exact afterRefresh_failing noSet
  | done error => exact absurd stands step.not_done

/-! ## The stages of the run -/

/-- Before the claim; while its fetch is out; after it failed; after it gave a
set. -/
inductive Stage (system : System ι T) (history : List (Event ι))
    (state : State ι T) : Prop where
  | cold :
      fetchLog history = [] →
      (∀ c, (state.phase c).Waiting) →
      Stage system history state
  | fetching (winner : ι) :
      fetchLog history = [⟨winner, (system.call winner).now, none⟩] →
      (state.phase winner = .fetching .first ∨
        ∃ fetched, state.phase winner = .writeBack .first fetched) →
      (∀ c, c ≠ winner → (state.phase c).Waiting) →
      Stage system history state
  | failed (winner : ι) (error : String) :
      fetchLog history =
        [⟨winner, (system.call winner).now, some (.error error)⟩] →
      (∀ c, (state.phase c).Failing) →
      Stage system history state
  | loaded (winner : ι) (set : JwkSet) :
      fetchLog history =
        [⟨winner, (system.call winner).now, some (.ok set)⟩] →
      (∀ c, system.Answers c set (state.phase c) ∧
        (state.phase c).inFlight = false) →
      Stage system history state

theorem Recorded.empty {history : List (Event ι)} {state : State ι T}
    (recorded : Recorded system history state)
    (noSuccess : (fetchLog history).lastSuccess = none) :
    state.inner.Empty := by
  rw [Inner.Empty, recorded.keys, recorded.fetchedAt, noSuccess]
  exact ⟨rfl, rfl⟩

/-- After the first claim no other is permitted within the interval. -/
theorem Recorded.closed {history : List (Event ι)} {state : State ι T}
    {winner c : ι} {outcome : Option (Except String JwkSet)}
    (recorded : Recorded system history state)
    (logEq : fetchLog history =
      [⟨winner, (system.call winner).now, outcome⟩])
    (near : (system.call c).now - (system.call winner).now <
      system.cache.minRefetchInterval.nanos) :
    system.cache.permitsAttempt state.inner (system.call c).now = false := by
  rw [Bool.eq_false_iff]
  intro permitted
  have lastAttempt := recorded.lastAttempt
  rw [logEq] at lastAttempt
  have elapsed := JwksCache.permitsAttempt_iff.mp permitted _ lastAttempt
  exact absurd near (Nat.not_lt.mpr elapsed)

theorem Recorded.not_holdsGate_of_ne {history emitted : List (Event ι)}
    {state next : State ι T} {c holder : ι}
    (recorded : Recorded system history state)
    (step : system.Step state c next emitted)
    (holds : (state.phase holder).holdsGate = true) (different : c ≠ holder) :
    (next.phase c).holdsGate = false := by
  rw [Bool.eq_false_iff]
  intro otherHolds
  rw [← step.others (Ne.symm different)] at holds
  exact different ((recorded.step step).holder_unique holds otherHolds)

variable {history emitted : List (Event ι)} {state next : State ι T} {c : ι}

theorem Stage.step_cold (recorded : Recorded system history state)
    (logEq : fetchLog history = [])
    (waiting : ∀ c, (state.phase c).Waiting)
    (step : system.Step state c next emitted) :
    Stage system (history ++ emitted) next := by
  have empty : state.inner.Empty := by
    apply recorded.empty
    rw [logEq]
    rfl
  have others : ∀ other, other ≠ c → (next.phase other).Waiting := by
    intro other different
    rw [step.others different]
    exact waiting other
  cases step.effect with
  | quiet _ unlogged flightEq =>
      refine .cold ?_ ?_
      · rw [fetchLog_append, foldl_record_of_unlogged unlogged, logEq]
      · intro other
        by_cases same : other = c
        · subst same
          rcases step.waiting empty (waiting other) with stillWaiting |
            claimed | ⟨_, limited⟩
          · exact stillWaiting
          · rw [claimed, (waiting other).not_inFlight] at flightEq
            cases flightEq
          · -- nothing limits the first attempt
            have lastAttempt := recorded.lastAttempt
            rw [logEq] at lastAttempt
            have permitted : system.cache.permitsAttempt state.inner
                (system.call other).now = true := by
              apply JwksCache.permitsAttempt_iff.mpr
              intro last isLast
              rw [lastAttempt] at isLast
              cases isLast
            rw [permitted] at limited
            cases limited
        · exact others other same
  | claimed holds noFlight flight _ _ emittedEq =>
      refine .fetching c ?_ ?_ others
      · rw [fetchLog_append, emittedEq, logEq]
        rfl
      · rcases step.waiting empty (waiting c) with stillWaiting | claimed |
          ⟨turned, _⟩
        · rw [stillWaiting.not_inFlight] at flight
          cases flight
        · exact .inl claimed
        · rw [turned] at flight
          cases flight
  | written writes _ _ _ =>
      have contradiction := waiting c
      rw [writes] at contradiction
      cases contradiction

/-- The fetch of the winner comes back, or is written back. -/
theorem Stage.step_winner (recorded : Recorded system history state)
    (logEq : fetchLog history = [⟨c, (system.call c).now, none⟩])
    (flying : state.phase c = .fetching .first ∨
      ∃ fetched, state.phase c = .writeBack .first fetched)
    (waiting : ∀ other, other ≠ c → (state.phase other).Waiting)
    (step : system.Step state c next emitted) :
    Stage system (history ++ emitted) next := by
  have flight : (state.phase c).inFlight = true := by
    rcases flying with stands | ⟨fetched, stands⟩
    · rw [stands]
      rfl
    · rw [stands]
      rfl
  have empty : state.inner.Empty := by
    apply recorded.empty
    rw [logEq]
    rfl
  have others : ∀ other, other ≠ c → (next.phase other).Waiting := by
    intro other different
    rw [step.others different]
    exact waiting other different
  cases step.effect with
  | quiet _ unlogged flightEq =>
      refine .fetching c ?_ ?_ others
      · rw [fetchLog_append, foldl_record_of_unlogged unlogged, logEq]
      · rcases flying with stands | ⟨fetched, stands⟩
        · obtain ⟨body, nextStands⟩ := step.of_fetching stands
          exact .inr ⟨_, nextStands⟩
        · rw [step.of_writeBack stands, flight] at flightEq
          cases flightEq
  | claimed _ noFlight _ _ _ _ =>
      rw [flight] at noFlight
      cases noFlight
  | @written round fetched writes _ _ emittedEq =>
      have first : round = .first := by
        rcases flying with stands | ⟨other, stands⟩
        · rw [stands] at writes
          cases writes
        · rw [stands] at writes
          cases writes
          rfl
      subst first
      have nextStands := step.of_writeBack writes
      have finished : fetchLog (history ++ emitted) =
          [⟨c, (system.call c).now, some fetched⟩] := by
        rw [emittedEq, fetchLog_completed, logEq]
        exact Log.finish_append_unfinished Log.settled_nil ..
      cases fetched with
      | ok set =>
          refine .loaded c set finished fun other => ?_
          by_cases same : other = c
          · rw [same, nextStands]
            exact ⟨⟨rfl, trivial⟩, rfl⟩
          · exact ⟨answers_of_waiting (others other same),
              (others other same).not_inFlight⟩
      | error error =>
          refine .failed c error finished fun other => ?_
          by_cases same : other = c
          · rw [same, nextStands, writeBack_error_of_empty empty]
            exact .release (by simp)
          · exact .waiting (others other same)

/-- While the winner holds the gate the others only queue up. -/
theorem Stage.step_fetching {winner : ι}
    (recorded : Recorded system history state)
    (logEq : fetchLog history = [⟨winner, (system.call winner).now, none⟩])
    (flying : state.phase winner = .fetching .first ∨
      ∃ fetched, state.phase winner = .writeBack .first fetched)
    (waiting : ∀ other, other ≠ winner → (state.phase other).Waiting)
    (different : c ≠ winner) (step : system.Step state c next emitted) :
    Stage system (history ++ emitted) next := by
  have holds : (state.phase winner).holdsGate = true := by
    rcases flying with stands | ⟨fetched, stands⟩
    · rw [stands]
      rfl
    · rw [stands]
      rfl
  have empty : state.inner.Empty := by
    apply recorded.empty
    rw [logEq]
    rfl
  have noGate := recorded.not_holdsGate_of_ne step holds different
  cases step.effect with
  | quiet _ unlogged _ =>
      refine .fetching winner ?_ ?_ ?_
      · rw [fetchLog_append, foldl_record_of_unlogged unlogged, logEq]
      · rwa [step.others (Ne.symm different)]
      · intro other otherDifferent
        by_cases same : other = c
        · subst same
          rcases step.waiting empty (waiting other different) with
            stillWaiting | claimed | ⟨turned, _⟩
          · exact stillWaiting
          · rw [claimed] at noGate
            cases noGate
          · rw [turned] at noGate
            cases noGate
        · rw [step.others same]
          exact waiting other otherDifferent
  | claimed holdsOther _ _ _ _ _ =>
      exact absurd (recorded.holder_unique holds holdsOther) different
  | written writes _ _ _ =>
      have contradiction := waiting c different
      rw [writes] at contradiction
      cases contradiction

theorem Stage.step_failed {winner : ι} {error : String}
    (recorded : Recorded system history state)
    (logEq : fetchLog history =
      [⟨winner, (system.call winner).now, some (.error error)⟩])
    (failing : ∀ other, (state.phase other).Failing)
    (near : (system.call c).now - (system.call winner).now <
      system.cache.minRefetchInterval.nanos)
    (step : system.Step state c next emitted) :
    Stage system (history ++ emitted) next := by
  have empty : state.inner.Empty := by
    apply recorded.empty
    rw [logEq]
    rfl
  have closed := recorded.closed logEq near
  cases step.effect with
  | quiet _ unlogged _ =>
      refine .failed winner error ?_ fun other => ?_
      · rw [fetchLog_append, foldl_record_of_unlogged unlogged, logEq]
      · by_cases same : other = c
        · rw [same]
          exact step.failing empty closed (failing c)
        · rw [step.others same]
          exact failing other
  | claimed _ _ _ permitted _ _ =>
      rw [closed] at permitted
      cases permitted
  | written writes _ _ _ =>
      have contradiction := failing c
      rw [writes] at contradiction
      cases contradiction with
      | waiting waiting => cases waiting

theorem Stage.step_loaded {winner : ι} {set : JwkSet}
    (recorded : Recorded system history state)
    (logEq : fetchLog history =
      [⟨winner, (system.call winner).now, some (.ok set)⟩])
    (answers : ∀ other, system.Answers other set (state.phase other) ∧
      (state.phase other).inFlight = false)
    (near : (system.call c).now - (system.call winner).now <
      system.cache.minRefetchInterval.nanos)
    (fresh : (system.call c).now - (system.call winner).now <
      system.cache.maxStale.nanos)
    (step : system.Step state c next emitted) :
    Stage system (history ++ emitted) next := by
  have serves : system.cache.Serves state.inner (system.call c).now set := by
    refine ⟨?_, (system.call winner).now, ?_,
      Instant.saturatingDurationSince_lt.mpr fresh⟩
    · rw [recorded.keys, logEq]
      rfl
    · rw [recorded.fetchedAt, logEq]
      rfl
  cases step.effect with
  | quiet innerEq unlogged flightEq =>
      refine .loaded winner set ?_ fun other => ?_
      · rw [fetchLog_append, foldl_record_of_unlogged unlogged, logEq]
      · by_cases same : other = c
        · subst same
          refine ⟨?_, flightEq.trans (answers other).2⟩
          exact step.answers recorded.paired serves (by rwa [innerEq])
            (answers other).1
        · rw [step.others same]
          exact answers other
  | claimed _ _ _ permitted _ _ =>
      rw [recorded.closed logEq near] at permitted
      cases permitted
  | written writes _ _ _ =>
      have noFlight := (answers c).2
      rw [writes] at noFlight
      cases noFlight

theorem Stage.step {low high : Instant} (window : system.InWindow low high)
    (recorded : Recorded system history state)
    (stage : Stage system history state)
    (step : system.Step state c next emitted) :
    Stage system (history ++ emitted) next := by
  cases stage with
  | cold logEq waiting => exact Stage.step_cold recorded logEq waiting step
  | fetching winner logEq flying waiting =>
      by_cases same : c = winner
      · subst same
        exact Stage.step_winner recorded logEq flying waiting step
      · exact Stage.step_fetching recorded logEq flying waiting same step
  | failed winner error logEq failing =>
      exact Stage.step_failed recorded logEq failing
        (window.near c winner).1 step
  | loaded winner set logEq answers =>
      exact Stage.step_loaded recorded logEq answers
        (window.near c winner).1 (window.near c winner).2 step

variable {schedule : List (Action ι)}

theorem Runs.stage {low high : Instant} (window : system.InWindow low high)
    (run : system.Runs schedule history state) :
    Stage system history state :=
  Machine.Runs.invariant (.cold rfl fun _ => .snapshot)
    (fun before stage ran =>
      stage.step window (Runs.recorded before) (step_of_machine ran)) run

/-- What a call returns, given the outcome of the one fetch. -/
def Agrees (system : System ι T) (c : ι) (result : Except String T) :
    Except String JwkSet → Prop
  | .ok set => ResultFrom system.foreign (system.call c) set.keys result
  | .error _ => ∃ error, result = .error error

theorem Stage.agrees {result : Except String T}
    (stage : Stage system history state)
    (finished : state.phase c = .done result) :
    ∃ winner outcome, fetchLog history =
        [⟨winner, (system.call winner).now, some outcome⟩] ∧
      ∀ other otherResult, state.phase other = .done otherResult →
        system.Agrees other otherResult outcome := by
  cases stage with
  | cold _ waiting =>
      have contradiction := waiting c
      rw [finished] at contradiction
      cases contradiction
  | fetching winner _ flying waiting =>
      by_cases same : c = winner
      · subst same
        simp [finished] at flying
      · have contradiction := waiting c same
        rw [finished] at contradiction
        cases contradiction
  | failed winner error logEq failing =>
      refine ⟨winner, .error error, logEq, ?_⟩
      intro other otherResult otherFinished
      have failed := failing other
      rw [otherFinished] at failed
      cases failed with
      | waiting waiting => cases waiting
      | done failure => exact ⟨failure, rfl⟩
  | loaded winner set logEq answers =>
      refine ⟨winner, .ok set, logEq, ?_⟩
      intro other otherResult otherFinished
      have answer := (answers other).1
      rw [otherFinished] at answer
      exact JwksCache.resultFrom_iff.mpr answer

theorem Stage.length_le_one (stage : Stage system history state) :
    (fetchLog history).length ≤ 1 := by
  cases stage with
  | cold logEq _ | fetching _ logEq _ _ | failed _ _ logEq _
  | loaded _ _ logEq _ => simp [logEq]

/-- Cold-start agreement.  From the fresh cache every schedule is finite; no
run ever starts a second fetch; and a run that can go no further has returned
from every call and made exactly one fetch, with whose outcome all calls
agree. -/
theorem cold_start_agreement [Fintype ι] [Nonempty ι]
    (system : System ι T) (low high : Instant)
    (window : system.InWindow low high) :
    (∀ schedule history state, system.Runs schedule history state →
      schedule.length ≤ 17 * Fintype.card ι ∧
        (fetchLog history).length ≤ 1) ∧
    ∀ schedule history state, system.Runs schedule history state →
      system.machine.Stuck state →
      ∃ winner outcome,
        fetchLog history =
          [⟨winner, (system.call winner).now, some outcome⟩] ∧
        ∀ c, ∃ result, state.phase c = .done result ∧
          system.Agrees c result outcome := by
  constructor
  · intro schedule history state run
    exact ⟨schedule_length_le run, (Runs.stage window run).length_le_one⟩
  · intro schedule history state run stuck
    obtain ⟨someone⟩ := ‹Nonempty ι›
    obtain ⟨result, finished⟩ := Runs.done_of_stuck run stuck someone
    obtain ⟨winner, outcome, logEq, agrees⟩ :=
      (Runs.stage window run).agrees finished
    refine ⟨winner, outcome, logEq, fun c => ?_⟩
    obtain ⟨result, finished⟩ := Runs.done_of_stuck run stuck c
    exact ⟨result, finished, agrees c result finished⟩

end System

namespace Sample

theorem outcome_fetched :
    (fetchLog outcome.2).map (·.outcome) = [some (.ok keySet)] := by
  decide +kernel

theorem outcome_phase_false :
    outcome.1.phase false = .done (.ok ()) := by
  decide +kernel

theorem outcome_phase_true : outcome.1.phase true =
    .done (.error (JwksCache.unknownKidError foreign "k2")) := by
  decide +kernel

end Sample

namespace System

theorem cold_start_agreement_sample :
    (∃ result, Sample.outcome.1.phase false = .done result ∧
      ResultFrom Sample.foreign (Sample.system.call false)
        Sample.keySet.keys result) ∧
    ∃ result, Sample.outcome.1.phase true = .done result ∧
      ResultFrom Sample.foreign (Sample.system.call true)
        Sample.keySet.keys result := by
  have finished : ∀ c, ∃ result, Sample.outcome.1.phase c = .done result := by
    intro c
    cases c with
    | false => exact ⟨_, Sample.outcome_phase_false⟩
    | true => exact ⟨_, Sample.outcome_phase_true⟩
  obtain ⟨winner, fetched, logEq, agrees⟩ :=
    (cold_start_agreement Sample.system 0 1
      ⟨by decide, by decide, by decide⟩).2 _ _ _ Sample.run
        (stuck_of_done finished)
  have brought := Sample.outcome_fetched
  rw [logEq] at brought
  cases brought
  exact ⟨agrees false, agrees true⟩

end System

end AuthOidc
