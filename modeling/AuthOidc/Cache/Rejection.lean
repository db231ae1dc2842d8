import AuthOidc.Cache.Ceiling
import AuthOidc.Cache.Provenance

/-!
# Where the error of a call comes from

A call of `with_key` ends in an error of its refresh, for want of keys, or in
its last lookup.  The errors of a refresh are the one about the ceiling and
those of fetches, of its own caller or of the one it queued behind.
-/

namespace AuthOidc

open Rust Transition AttemptLog

variable {ι T : Type}

namespace JwksCache

variable {foreign : Foreign} {self : JwksCache} {inner : Inner}
  {now : Instant} {e : String}

theorem serveWithinCeiling_error
    (refused : self.serveWithinCeiling foreign inner now = .error e) :
    e = self.ceilingError foreign := by
  unfold serveWithinCeiling at refused
  split at refused
  · exact (Except.error.inj refused).symm
  · cases refused

/-- A write back fails, or warns, with the error of its fetch. -/
theorem writeBack_error {fetched : Except String JwkSet}
    (failed : (self.writeBack inner now fetched).refreshed = .error e ∨
      (self.writeBack inner now fetched).warned = some e) :
    fetched = .error e := by
  cases fetched with
  | ok set => simp [writeBack] at failed
  | error error =>
      unfold writeBack at failed
      cases keys : inner.keys with
      | none => simpa [keys] using failed
      | some set =>
          simp only [keys] at failed
          split at failed <;> simpa using failed

end JwksCache

namespace System

variable (system : System ι T)

/-- The errors that a refresh can end in. -/
inductive RefreshError (history : List (Event ι)) : String → Prop where
  | ceiling : RefreshError history (system.cache.ceilingError system.foreign)
  | fetch {owner : ι} {body : Except String String} {e : String} :
      .returned owner body ∈ history →
      system.outcomeOf body = .error e → RefreshError history e

/-- How a call that stands in a state can end in an error. -/
inductive Rejected (history : List (Event ι)) (state : State ι T) (c : ι) :
    String → Prop where
  | refresh {e : String} :
      RefreshError system history e → Rejected history state c e
  | neverFetched : Rejected history state c system.cache.neverFetchedError
  | unknownKid :
      Rejected history state c
        (JwksCache.unknownKidError system.foreign (system.call c).kid)
  | lookup {round : Round} {set : JwkSet} {e : String} :
      state.phase c = .lookup round set →
      JwksCache.tryAll set (system.call c).kid (system.call c).f =
        some (.error e) →
      Rejected history state c e

variable {system} {history emitted : List (Event ι)} {state next : State ι T}
  {c : ι} {e : String}

theorem RefreshError.append (error : RefreshError system history e) :
    RefreshError system (history ++ emitted) e := by
  cases error with
  | ceiling => exact .ceiling
  | fetch returned outcome =>
      exact .fetch (List.mem_append_left _ returned) outcome

/-- After a refresh a call ends in the error of the refresh, or for want of
keys. -/
theorem Rejected.of_afterRefresh {round : Round} {refreshed : Refreshed}
    (error : refreshed = .error e → RefreshError system history e)
    (ended : system.afterRefresh c round refreshed = .done (.error e)) :
    Rejected system history state c e := by
  unfold afterRefresh at ended
  split at ended
  · cases ended
    exact .refresh (error rfl)
  · cases ended
    exact .neverFetched
  · cases ended
    exact .unknownKid
  · cases ended

theorem Rejected.of_afterLookup {round : Round} {set : JwkSet}
    (stands : state.phase c = .lookup round set)
    (ended : system.afterLookup c round set = .done (.error e)) :
    Rejected system history state c e := by
  unfold afterLookup at ended
  split at ended
  · rename_i tried
    cases ended
    exact .lookup stands tried
  · cases ended
  · cases ended
    exact .unknownKid

/-- An error that is carried out of the gate is one of a refresh. -/
def Released (system : System ι T) (history : List (Event ι))
    (state : State ι T) : Prop :=
  ∀ c round e, state.phase c = .releaseGate round (.error e) →
    RefreshError system history e

variable [DecidableEq ι]

theorem Released.step (released : Released system history state)
    (sourced : Sourced system history state)
    (step : system.Step state c next emitted) :
    Released system (history ++ emitted) next := by
  intro other round e stands
  by_cases same : other = c
  · subst same
    have holds : (next.phase other).holdsGate = true := by rw [stands]; rfl
    cases step with
    | satisfied _ left =>
        obtain ⟨refreshedEq, _⟩ := JwksCache.claimWindow_leave left
        simp only [State.move_phase_self, Phase.releaseGate.injEq] at stands
        rw [stands.2] at refreshedEq
        rw [JwksCache.serveWithinCeiling_error refreshedEq.symm]
        exact .ceiling
    | @writeBack _ fetched _ writes written =>
        subst written
        simp only [State.move_phase_self, Phase.releaseGate.injEq] at stands
        have failed := JwksCache.writeBack_error (.inl stands.2)
        obtain ⟨body, last, fetchedEq⟩ :=
          sourced.writeBack other _ fetched writes
        exact .fetch (List.mem_append_left _ (mem_of_lastReturned last))
          (fetchedEq.symm.trans failed)
    | snapshot _ => simp [holdsGate_afterSnapshot] at holds
    | rateLimited _ _ | serveLoser _ | release _ =>
        simp [holdsGate_afterRefresh] at holds
    | lookup _ => simp [holdsGate_afterLookup] at holds
    | _ => simp at stands
  · rw [step.others same] at stands
    exact (released other round e stands).append

theorem Runs.released {schedule : List (Action ι)}
    (run : system.Runs schedule history state) :
    Released system history state :=
  Machine.Runs.invariant (fun _ _ _ stands => by cases stands)
    (fun before released ran =>
      released.step (Runs.sourced before) (step_of_machine ran)) run

/-- Every call that a step ends in an error is rejected in one of these
ways. -/
theorem Runs.rejected {schedule : List (Action ι)}
    (run : system.Runs schedule history state)
    (step : system.Step state c next emitted)
    (ended : next.phase c = .done (.error e)) :
    Rejected system history state c e := by
  -- what the two sections that end a refresh without a fetch serve
  have served : ∀ {e}, system.cache.serveWithinCeiling system.foreign
      state.inner (system.call c).now = .error e →
      RefreshError system history e := by
    intro e refused
    rw [JwksCache.serveWithinCeiling_error refused]
    exact .ceiling
  cases step with
  | snapshot _ =>
      rw [State.move_phase_self] at ended
      exact absurd ended (afterSnapshot_ne_done _ _)
  | rateLimited _ left =>
      obtain ⟨rfl, _⟩ := JwksCache.checkRate_leave left
      rw [State.move_phase_self] at ended
      exact .of_afterRefresh served ended
  | serveLoser _ =>
      rw [State.move_phase_self] at ended
      exact .of_afterRefresh served ended
  | @release _ refreshed stands =>
      dsimp only at ended
      rw [State.move_phase_self] at ended
      refine .of_afterRefresh ?_ ended
      intro refused
      rw [refused] at stands
      exact run.released c _ e stands
  | lookup stands =>
      rw [State.move_phase_self] at ended
      exact .of_afterLookup stands ended
  | _ => simp at ended

/-- A run in which a call has ended in an error passed through the state in
which it was rejected. -/
theorem Runs.rejected_of_done {schedule : List (Action ι)}
    (run : system.Runs schedule history state)
    (ended : state.phase c = .done (.error e)) :
    ∃ earlier before middle, earlier <+: schedule ∧ before <+: history ∧
      system.Runs earlier before middle ∧
      Rejected system before middle c e := by
  induction run with
  | refl => cases ended
  | @tail earlier before _ middle _ action run ran induction =>
      have step := step_of_machine ran
      by_cases same : c = action.caller
      · rw [← same] at step
        exact ⟨earlier, before, middle, List.prefix_append _ _,
          List.prefix_append _ _, run, Runs.rejected run step ended⟩
      · rw [step.others same] at ended
        obtain ⟨first, firstHistory, visited, isPrefix, recorded, rest⟩ :=
          induction ended
        exact ⟨first, firstHistory, visited,
          isPrefix.trans (List.prefix_append _ _),
          recorded.trans (List.prefix_append _ _), rest⟩

/-- A lookup that finds keys ends its call, with what it comes to. -/
theorem lookup_decides {schedule : List (Action ι)} {round : Round}
    {set : JwkSet} {result : Except String T}
    (rest : system.machine.Runs state schedule history next)
    (stands : state.phase c = .lookup round set)
    (tried : JwksCache.tryAll set (system.call c).kid (system.call c).f =
      some result) :
    next.phase c = .lookup round set ∨ next.phase c = .done result := by
  induction rest with
  | refl => exact .inl stands
  | @tail _ _ _ _ _ action _ ran induction =>
      have step := step_of_machine ran
      by_cases same : c = action.caller
      · rw [← same] at step
        rcases induction with looks | finished
        · have next := step.of_lookup looks
          rw [next, afterLookup_of_some _ tried]
          exact .inr rfl
        · exact absurd finished step.not_done
      · rw [step.others same]
        exact induction

/-- A warning is written by a write back, with the error of its fetch. -/
theorem Step.warned (step : system.Step state c next emitted)
    {owner : ι} (warned : .warned owner e ∈ emitted) :
    ∃ round, state.phase c = .writeBack round (.error e) := by
  cases step with
  | @writeBack round fetched _ stands written =>
      subst written
      rcases List.mem_cons.mp warned with contradiction | member
      · cases contradiction
      · obtain ⟨error, warnedEq, eventEq⟩ :=
          Option.map_eq_some_iff.mp (Option.mem_toList.mp member)
        cases eventEq
        rw [JwksCache.writeBack_error (.inr warnedEq)] at stands
        exact ⟨round, stands⟩
  | lookup _ => simp [invocations] at warned
  | _ => simp at warned

/-- What the cache itself warns about is an error of a refresh. -/
theorem Runs.warned_error {schedule : List (Action ι)}
    (run : system.Runs schedule history state)
    (warned : .warned c e ∈ history) :
    RefreshError system history e := by
  induction run with
  | refl => cases warned
  | tail before ran induction =>
      rcases List.mem_append.mp warned with earlier | latest
      · exact (induction earlier).append
      · obtain ⟨round, stands⟩ := (step_of_machine ran).warned latest
        obtain ⟨body, last, fetchedEq⟩ :=
          (Runs.sourced before).writeBack _ round _ stands
        exact .fetch (List.mem_append_left _ (mem_of_lastReturned last))
          fetchedEq.symm

end System

end AuthOidc
