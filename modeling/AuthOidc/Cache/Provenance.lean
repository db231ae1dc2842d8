import AuthOidc.Cache.History

/-!
# Where the cached keys come from

Every key set in the log was parsed from a body that the fetcher returned to
the owner of the fetch.  With the fold of the log this settles how the cached
data evolves: what a failing fetch leaves alone, and that keys stay once they
are there.
-/

namespace AuthOidc

open Rust Transition AttemptLog

/-- A fetch that yields no key set: an error, a body that is not a JWKS
document, or a document none of whose entries deserializes. -/
def FetchFails (foreign : Foreign) : Except String String → Prop
  | .error _ => True
  | .ok body =>
      (∃ error, foreign.jwksEntriesFromStr body = .error error) ∨
        ∃ entries, foreign.jwksEntriesFromStr body = .ok entries ∧
          ∀ entry ∈ entries, Jwk.fromValue entry = none

theorem skipUnusableKeys_eq_nil_iff {entries : List SerdeJson.Value} :
    JwkSet.skipUnusableKeys entries = [] ↔
      ∀ entry ∈ entries, Jwk.fromValue entry = none := by
  simp [JwkSet.skipUnusableKeys]

theorem fetchFails_iff {foreign : Foreign} {body : Except String String} :
    FetchFails foreign body ↔
      ∃ error, body.bind (JwkSet.parse foreign) = .error error := by
  cases body with
  | error error => simp [FetchFails, Except.bind]
  | ok text =>
      simp only [FetchFails, Except.bind, JwkSet.parse]
      cases read : foreign.jwksEntriesFromStr text with
      | error error => simp
      | ok entries =>
          simp only [reduceCtorEq, exists_false, false_or, Except.ok.injEq,
            exists_eq_left', ← skipUnusableKeys_eq_nil_iff,
            List.isEmpty_iff]
          split <;> simp_all

variable {ι T : Type} [DecidableEq ι]

def Event.returnedTo (c : ι) : Event ι → Option (Except String String)
  | .returned owner body => if owner = c then some body else none
  | _ => none

/-- What the last fetch of the caller returned. -/
def lastReturned (c : ι) (history : List (Event ι)) :
    Option (Except String String) :=
  (history.filterMap (Event.returnedTo c)).getLast?

theorem mem_of_lastReturned {c : ι} {history : List (Event ι)}
    {body : Except String String} (last : lastReturned c history = some body) :
    .returned c body ∈ history := by
  obtain ⟨event, member, returned⟩ :=
    List.mem_filterMap.mp (List.mem_of_getLast? last)
  cases event with
  | returned owner other =>
      simp only [Event.returnedTo, Option.ite_none_right_eq_some,
        Option.some.injEq] at returned
      rw [← returned.1, ← returned.2]
      exact member
  | _ => cases returned

theorem lastReturned_append_of_silent {c : ι}
    {history emitted : List (Event ι)}
    (silent : ∀ event ∈ emitted, event.returnedTo c = none) :
    lastReturned c (history ++ emitted) = lastReturned c history := by
  have noneReturned : emitted.filterMap (Event.returnedTo c) = [] :=
    List.filterMap_eq_nil_iff.mpr silent
  rw [lastReturned, List.filterMap_append, noneReturned, List.append_nil,
    lastReturned]

namespace System

variable {system : System ι T}

/-- The bytes a fetch returned, parsed. -/
def outcomeOf (system : System ι T) (body : Except String String) :
    Except String JwkSet :=
  body.bind (JwkSet.parse system.foreign)

theorem not_writeBack_of_noGate {phase : Phase T} {round : Round}
    {fetched : Except String JwkSet} (noGate : phase.holdsGate = false) :
    phase ≠ .writeBack round fetched := by
  rintro rfl
  cases noGate

/-- A step returns a body to its caller, who goes on to write it back, or it
returns none and does not lead to a write back. -/
theorem Step.returns {state next : State ι T} {c : ι}
    {emitted : List (Event ι)} (step : system.Step state c next emitted) :
    (∃ body round, emitted = [.returned c body] ∧
        next.phase c = .writeBack round (system.outcomeOf body)) ∨
      ((∀ event ∈ emitted, ∀ owner, event.returnedTo owner = none) ∧
        ∀ round fetched, next.phase c ≠ .writeBack round fetched) := by
  cases step with
  | @fetchReturns round body stands =>
      exact .inl ⟨body, round, rfl, State.move_phase_self ..⟩
  | snapshot stands =>
      refine .inr ⟨by simp, fun round fetched => ?_⟩
      rw [State.move_phase_self]
      exact not_writeBack_of_noGate (holdsGate_afterSnapshot _)
  | rateLimited stands left =>
      refine .inr ⟨by simp [Event.returnedTo], fun round fetched => ?_⟩
      rw [State.move_phase_self]
      exact not_writeBack_of_noGate (holdsGate_afterRefresh ..)
  | serveLoser stands =>
      refine .inr ⟨by simp [Event.returnedTo], fun round fetched => ?_⟩
      rw [State.move_phase_self]
      exact not_writeBack_of_noGate (holdsGate_afterRefresh ..)
  | release stands =>
      refine .inr ⟨by simp [Event.returnedTo], fun round fetched => ?_⟩
      dsimp only
      rw [State.move_phase_self]
      exact not_writeBack_of_noGate (holdsGate_afterRefresh ..)
  | lookup stands =>
      refine .inr ⟨by simp [invocations, Event.returnedTo],
        fun round fetched => ?_⟩
      rw [State.move_phase_self]
      exact not_writeBack_of_noGate (holdsGate_afterLookup ..)
  | writeBack stands written =>
      subst written
      refine .inr ⟨?_, by simp⟩
      intro event member owner
      rcases List.mem_cons.mp member with rfl | warned
      · rfl
      · obtain ⟨error, _, rfl⟩ :=
          Option.map_eq_some_iff.mp (Option.mem_toList.mp warned)
        rfl
  | admitted stands _ | takeGate stands _ | queue stands _
  | loseRace stands _ | wake stands _ | satisfied stands _
  | claim stands _ =>
      exact .inr ⟨by simp [Event.returnedTo], by simp⟩

/-- Outcomes that wait to be written back, and outcomes in the log, come from
bodies the fetcher returned. -/
structure Sourced (system : System ι T) (history : List (Event ι))
    (state : State ι T) : Prop where
  writeBack : ∀ c round fetched,
    state.phase c = .writeBack round fetched →
    ∃ body, lastReturned c history = some body ∧
      fetched = system.outcomeOf body
  outcomes : ∀ attempt ∈ fetchLog history, ∀ outcome,
    attempt.outcome = some outcome →
    ∃ body, .returned attempt.owner body ∈ history ∧
      outcome = system.outcomeOf body

theorem Sourced.step {history emitted : List (Event ι)}
    {state next : State ι T} {c : ι}
    (sourced : Sourced system history state)
    (step : system.Step state c next emitted) :
    Sourced system (history ++ emitted) next := by
  constructor
  · intro other round fetched stands
    by_cases same : other = c
    · subst same
      rcases step.returns with ⟨body, _, rfl, nextStands⟩ | ⟨_, never⟩
      · rw [nextStands, Phase.writeBack.injEq] at stands
        refine ⟨body, ?_, stands.2.symm⟩
        simp [lastReturned, List.filterMap_append, Event.returnedTo]
      · exact absurd stands (never round fetched)
    · rw [step.others same] at stands
      obtain ⟨body, last, fetchedEq⟩ :=
        sourced.writeBack other round fetched stands
      refine ⟨body, ?_, fetchedEq⟩
      rw [lastReturned_append_of_silent, last]
      intro event member
      rcases step.returns with ⟨_, _, rfl, _⟩ | ⟨silent, _⟩
      · rw [List.mem_singleton.mp member]
        simp [Event.returnedTo, Ne.symm same]
      · exact silent event member other
  · intro attempt member outcome outcomeEq
    have earlier : ∀ before ∈ fetchLog history, before.outcome = some outcome →
        ∃ body, .returned before.owner body ∈ history ++ emitted ∧
          outcome = system.outcomeOf body := by
      intro before beforeMember beforeOutcome
      obtain ⟨body, returned, bodyEq⟩ :=
        sourced.outcomes before beforeMember outcome beforeOutcome
      exact ⟨body, List.mem_append_left _ returned, bodyEq⟩
    cases step.effect with
    | quiet _ unlogged _ =>
        rw [fetchLog_append, foldl_record_of_unlogged unlogged] at member
        exact earlier attempt member outcomeEq
    | claimed _ _ _ _ _ emittedEq =>
        rw [fetchLog_append, emittedEq] at member
        rcases List.mem_append.mp member with before | latest
        · exact earlier attempt before outcomeEq
        · rw [List.mem_singleton.mp latest] at outcomeEq
          cases outcomeEq
    | @written round fetched stands _ _ emittedEq =>
        rw [emittedEq, fetchLog_completed] at member
        obtain ⟨before, beforeMember, attemptEq⟩ := List.mem_map.mp member
        split at attemptEq
        · rename_i finished
          rw [← attemptEq] at outcomeEq ⊢
          obtain ⟨body, last, fetchedEq⟩ :=
            sourced.writeBack c round fetched stands
          refine ⟨body, ?_, ?_⟩
          · apply List.mem_append_left
            change .returned before.owner body ∈ history
            rw [finished.1]
            exact mem_of_lastReturned last
          · rw [← fetchedEq]
            exact (Option.some.inj outcomeEq).symm
        · rw [← attemptEq] at outcomeEq ⊢
          exact earlier before beforeMember outcomeEq

theorem Runs.sourced {schedule : List (Action ι)}
    {history : List (Event ι)} {state : State ι T}
    (run : system.Runs schedule history state) :
    Sourced system history state :=
  Machine.Runs.invariant
    ⟨by simp [State.fresh], by simp⟩
    (fun _ sourced ran => sourced.step (step_of_machine ran)) run

/-- The cached set was parsed from a body that was returned by a fetch. -/
theorem Runs.keys_source {schedule : List (Action ι)}
    {history : List (Event ι)} {state : State ι T} {set : JwkSet}
    (run : system.Runs schedule history state)
    (cached : state.inner.keys = some set) :
    ∃ c body, .returned c (.ok body) ∈ history ∧
      JwkSet.parse system.foreign body = .ok set := by
  rw [run.recorded.keys] at cached
  obtain ⟨⟨anchor, last⟩, success, rfl⟩ := Option.map_eq_some_iff.mp cached
  obtain ⟨owner, member⟩ := Log.mem_of_lastSuccess success
  obtain ⟨body, returned, parsed⟩ :=
    run.sourced.outcomes _ member (.ok last) rfl
  cases body with
  | error error => cases parsed
  | ok text => exact ⟨owner, text, returned, parsed.symm⟩

theorem Step.keys_isSome {state next : State ι T} {c : ι}
    {emitted : List (Event ι)} (step : system.Step state c next emitted)
    (present : state.inner.keys.isSome = true) :
    next.inner.keys.isSome = true := by
  cases step.effect with
  | quiet innerEq _ _ => rwa [innerEq]
  | claimed _ _ _ _ innerEq _ => rwa [innerEq]
  | @written round fetched _ _ innerEq _ =>
      rw [innerEq]
      cases fetched with
      | ok set => rfl
      | error error => rwa [JwksCache.writeBack_error_inner]

theorem keys_stay {state final : State ι T} {schedule : List (Action ι)}
    {history : List (Event ι)}
    (run : system.machine.Runs state schedule history final)
    (present : state.inner.keys.isSome = true) :
    final.inner.keys.isSome = true := by
  induction run with
  | refl => exact present
  | tail _ ran stillPresent =>
      exact (step_of_machine ran).keys_isSome stillPresent

/-- A completed fetch is one that was returned a body; when that body fails to
yield a key set the step leaves keys and fetch time as they were. -/
theorem Runs.completed {schedule : List (Action ι)}
    {history emitted : List (Event ι)} {state next : State ι T}
    {action : Action ι} {c : ι} {outcome : Except String JwkSet}
    (run : system.Runs schedule history state)
    (ran : system.machine.step state action = some (next, emitted))
    (completed : .completed c outcome ∈ emitted) :
    ∃ body, lastReturned c history = some body ∧
      outcome = system.outcomeOf body ∧
      (FetchFails system.foreign body →
        next.inner.keys = state.inner.keys ∧
          next.inner.fetchedAt = state.inner.fetchedAt) := by
  cases (step_of_machine ran).effect with
  | quiet _ unlogged _ =>
      have contradiction := unlogged _ completed
      cases contradiction
  | claimed _ _ _ _ _ emittedEq =>
      rw [emittedEq] at completed
      cases List.mem_singleton.mp completed
  | @written round fetched stands _ innerEq emittedEq =>
      rw [emittedEq] at completed
      obtain ⟨rfl, rfl⟩ := completed_mem_iff.mp completed
      obtain ⟨body, last, outcomeEq⟩ :=
        run.sourced.writeBack action.caller round outcome stands
      refine ⟨body, last, outcomeEq, ?_⟩
      intro fails
      obtain ⟨error, bodyError⟩ := fetchFails_iff.mp fails
      have failed : outcome = .error error := outcomeEq.trans bodyError
      rw [innerEq, failed, JwksCache.writeBack_error_inner]
      exact ⟨rfl, rfl⟩

/-- The cached data is a fold of the log of fetches in starting order: keys and
fetch time are those of the last completed success and the rate limit is
anchored at the last start.  Only the last fetch of the log can be unfinished,
a failing fetch changes neither keys nor fetch time, and keys never become
absent or empty again. -/
theorem Runs.cache_is_fold {schedule : List (Action ι)}
    {history : List (Event ι)} {state : State ι T}
    (run : system.Runs schedule history state) :
    (state.inner.keys = (fetchLog history).lastSuccess.map Prod.snd ∧
      state.inner.fetchedAt =
        (fetchLog history).lastSuccess.map Prod.fst ∧
      state.inner.lastAttempt = (fetchLog history).anchors.getLast?) ∧
    (∀ attempt ∈ (fetchLog history).dropLast, attempt.outcome ≠ none) ∧
    (state.inner.keys.isSome = state.inner.fetchedAt.isSome) ∧
    (∀ action next emitted c outcome,
      system.machine.step state action = some (next, emitted) →
      .completed c outcome ∈ emitted →
      ∃ body, lastReturned c history = some body ∧
        outcome = system.outcomeOf body ∧
        (FetchFails system.foreign body →
          next.inner.keys = state.inner.keys ∧
            next.inner.fetchedAt = state.inner.fetchedAt)) ∧
    ∀ later laterHistory final,
      system.machine.Runs state later laterHistory final →
      state.inner.keys.isSome = true →
      ∃ set, final.inner.keys = some set ∧ set.keys ≠ [] := by
  refine ⟨⟨run.recorded.keys, run.recorded.fetchedAt,
    run.recorded.lastAttempt⟩, ?_, run.recorded.paired, ?_, ?_⟩
  · exact run.recorded.settled_dropLast
  · intro action next emitted c outcome ran completed
    exact run.completed ran completed
  · intro later laterHistory final laterRun present
    obtain ⟨set, cached⟩ :=
      Option.isSome_iff_exists.mp (keys_stay laterRun present)
    obtain ⟨_, _, _, parsed⟩ :=
      Runs.keys_source (run.trans laterRun) cached
    exact ⟨set, cached, JwkSet.keys_ne_nil_of_parse parsed⟩

theorem Runs.cache_is_fold_sample :
    Sample.outcome.1.inner.keys =
        (fetchLog Sample.outcome.2).lastSuccess.map Prod.snd ∧
      Sample.outcome.1.inner.fetchedAt = some 0 := by
  have fold := Runs.cache_is_fold Sample.run
  refine ⟨fold.1.1, ?_⟩
  rw [fold.1.2.1]
  decide +kernel

end System

end AuthOidc
