import AuthOidc.Cache.Storm

/-!
# No failed fetch is silent

A caller whose fetch fails goes on with the previous key set while that is
within the ceiling, and ends with the error of the fetch otherwise.  The first
hides the failure from all callers, so it is logged, and nothing else is.
-/

namespace AuthOidc

open Rust Transition AttemptLog Spacing

abbrev FetchFailure (ι : Type) := Failure ι Instant String JwkSet

/-- The set that a failed fetch falls back to: that of the last success before
it, within the ceiling at its anchor. -/
def JwksCache.fallback {ι : Type} (self : JwksCache)
    (failure : FetchFailure ι) : Option JwkSet :=
  match failure.lastSuccess with
  | some (fetchedAt, set) =>
      if self.maxStale ≤ failure.anchor.saturatingDurationSince fetchedAt then
        none
      else some set
  | none => none

section Warnings

variable {ι : Type}

def Event.warning : Event ι → Option (ι × String)
  | .warned c error => some (c, error)
  | _ => none

/-- What a run has logged, with the caller that did. -/
def warnings (history : List (Event ι)) : List (ι × String) :=
  history.filterMap Event.warning

theorem warnings_append (history emitted : List (Event ι)) :
    warnings (history ++ emitted) = warnings history ++ warnings emitted :=
  List.filterMap_append

theorem warnings_completed (c : ι) (fetched : Except String JwkSet)
    (warned : Option String) :
    warnings (.completed c fetched :: (warned.map (.warned c)).toList) =
      (warned.map (Prod.mk c)).toList := by
  cases warned <;> rfl

end Warnings

variable {ι T : Type} [DecidableEq ι]

/-- The failures of a run that are hidden from every caller. -/
def JwksCache.hidden (self : JwksCache) (log : FetchLog ι) :
    List (FetchFailure ι) :=
  log.failures.filter fun failure => (self.fallback failure).isSome

namespace System

variable {system : System ι T}

/-- Every failed fetch has an answer.  With a set to fall back to it is logged,
once and in the order of the fetches, and its caller goes on with that set;
without one its caller ends with the error. -/
structure Accounted (system : System ι T) (history : List (Event ι))
    (state : State ι T) : Prop where
  warned : warnings history =
    (system.cache.hidden (fetchLog history)).map fun failure =>
      (failure.owner, failure.error)
  served : ∀ failure ∈ (fetchLog history).failures, ∀ set,
    system.cache.fallback failure = some set →
    (∃ round, state.phase failure.owner =
      .releaseGate round (.ok (some set))) ∨
      .refreshed failure.owner (.ok (some set)) ∈ history
  surfaced : ∀ failure ∈ (fetchLog history).failures,
    system.cache.fallback failure = none →
    (∃ round, state.phase failure.owner =
      .releaseGate round (.error failure.error)) ∨
      state.phase failure.owner = .done (.error failure.error)

theorem accounted_fresh : Accounted system [] .fresh where
  warned := rfl
  served := by
    intro failure member
    cases member
  surfaced := by
    intro failure member
    cases member

variable {history emitted : List (Event ι)} {state next : State ι T} {c : ι}

/-- The write back of a failed fetch, as the log tells it. -/
theorem Recorded.writeBack_error (recorded : Recorded system history state)
    (c : ι) (error : String) :
    let failure : FetchFailure ι :=
      ⟨c, (system.call c).now, error, (fetchLog history).lastSuccess⟩
    let written := system.cache.writeBack state.inner (system.call c).now
      (.error error)
    written.refreshed =
        ((system.cache.fallback failure).elim (.error error)
          fun set => .ok (some set)) ∧
      written.warned = (system.cache.fallback failure).map fun _ => error := by
  have keys := recorded.keys
  have fetchedAt := recorded.fetchedAt
  cases last : (fetchLog history).lastSuccess with
  | none =>
      rw [last] at keys
      simp [JwksCache.writeBack, JwksCache.fallback, keys]
  | some success =>
      rw [last] at keys fetchedAt
      by_cases expired : system.cache.maxStale ≤
          (system.call c).now.saturatingDurationSince success.1
      · simp [JwksCache.writeBack, JwksCache.fallback, JwksCache.pastCeiling,
          keys, fetchedAt, expired]
      · simp [JwksCache.writeBack, JwksCache.fallback, JwksCache.pastCeiling,
          keys, fetchedAt, expired]

omit [DecidableEq ι] in
theorem warnings_invocations (c : ι) (set : JwkSet) :
    warnings (system.invocations c set) = [] := by
  simp [warnings, invocations, List.filterMap_map, Event.warning]

/-- Only a write back logs. -/
theorem Step.warnings_eq_nil (step : system.Step state c next emitted)
    (noWrite : ∀ round fetched, state.phase c ≠ .writeBack round fetched) :
    warnings emitted = [] := by
  cases step with
  | writeBack stands _ => exact absurd stands (noWrite _ _)
  | lookup _ => exact warnings_invocations ..
  | _ => rfl

/-- A step adds a failure to the log of fetches and writes it back, or does
neither. -/
theorem Recorded.failures_step (recorded : Recorded system history state)
    (step : system.Step state c next emitted) :
    (∃ round error, state.phase c = .writeBack round (.error error) ∧
      (fetchLog (history ++ emitted)).failures =
        (fetchLog history).failures ++ [⟨c, (system.call c).now, error,
          (fetchLog history).lastSuccess⟩] ∧
      warnings emitted = ((system.cache.writeBack state.inner
        (system.call c).now (.error error)).warned.map (Prod.mk c)).toList) ∨
      ((fetchLog (history ++ emitted)).failures =
          (fetchLog history).failures ∧
        warnings emitted = []) := by
  cases step.effect with
  | quiet _ unlogged flightEq =>
      refine .inr ⟨?_, step.warnings_eq_nil ?_⟩
      · rw [fetchLog_append, foldl_record_of_unlogged unlogged]
      · intro round fetched stands
        rw [step.of_writeBack stands, stands] at flightEq
        cases flightEq
  | claimed _ noFlight _ _ _ emittedEq =>
      rw [emittedEq, fetchLog_append]
      exact .inr ⟨Log.failures_start .., rfl⟩
  | @written round fetched stands _ _ emittedEq =>
      have inFlight := recorded.inFlight c (by rw [stands]; rfl)
      rw [emittedEq, fetchLog_completed, warnings_completed]
      cases fetched with
      | ok set => exact .inr ⟨inFlight.failures_finish_ok set, rfl⟩
      | error error =>
          exact .inl ⟨round, error, stands,
            inFlight.failures_finish_error error, rfl⟩

/-- Who releases the gate returns from its refresh. -/
theorem Step.emitted_of_releaseGate {round : Round} {refreshed : Refreshed}
    (step : system.Step state c next emitted)
    (stands : state.phase c = .releaseGate round refreshed) :
    emitted = [.refreshed c refreshed] := by
  cases step with
  | release releases =>
      rw [stands] at releases
      cases releases
      rfl
  | _ => simp_all

/-- The answer to a failure stays. -/
theorem Step.served {owner : ι} {set : JwkSet}
    (step : system.Step state c next emitted)
    (served : (∃ round, state.phase owner =
      .releaseGate round (.ok (some set))) ∨
      .refreshed owner (.ok (some set)) ∈ history) :
    (∃ round, next.phase owner = .releaseGate round (.ok (some set))) ∨
      .refreshed owner (.ok (some set)) ∈ history ++ emitted := by
  rcases served with ⟨round, stands⟩ | earlier
  · by_cases same : owner = c
    · subst same
      right
      simp [step.emitted_of_releaseGate stands]
    · exact .inl ⟨round, (step.others same).trans stands⟩
  · exact .inr (List.mem_append_left _ earlier)

theorem Step.surfaced {owner : ι} {error : String}
    (step : system.Step state c next emitted)
    (surfaced : (∃ round, state.phase owner =
      .releaseGate round (.error error)) ∨
      state.phase owner = .done (.error error)) :
    (∃ round, next.phase owner = .releaseGate round (.error error)) ∨
      next.phase owner = .done (.error error) := by
  by_cases same : owner = c
  · subst same
    rcases surfaced with ⟨round, stands⟩ | ended
    · exact .inr (step.of_releaseGate stands)
    · exact absurd ended step.not_done
  · rwa [step.others same]

theorem Accounted.step (accounted : Accounted system history state)
    (recorded : Recorded system history state)
    (step : system.Step state c next emitted) :
    Accounted system (history ++ emitted) next := by
  rcases recorded.failures_step step with
    ⟨round, error, stands, failuresEq, warningsEq⟩ |
    ⟨failuresEq, warningsEq⟩
  · obtain ⟨refreshedEq, warnedEq⟩ := recorded.writeBack_error c error
    have nextStands := step.of_writeBack stands
    rw [refreshedEq] at nextStands
    rw [warnedEq] at warningsEq
    constructor
    · rw [warnings_append, accounted.warned, warningsEq, JwksCache.hidden,
        JwksCache.hidden, failuresEq, List.filter_append, List.map_append]
      cases found : system.cache.fallback _ <;> simp [found]
    · intro failure member set found
      rw [failuresEq] at member
      rcases List.mem_append.mp member with earlier | latest
      · exact step.served (accounted.served failure earlier set found)
      · cases List.mem_singleton.mp latest
        rw [found] at nextStands
        exact .inl ⟨round, nextStands⟩
    · intro failure member found
      rw [failuresEq] at member
      rcases List.mem_append.mp member with earlier | latest
      · exact step.surfaced (accounted.surfaced failure earlier found)
      · cases List.mem_singleton.mp latest
        rw [found] at nextStands
        exact .inl ⟨round, nextStands⟩
  · constructor
    · rw [warnings_append, warningsEq, List.append_nil, accounted.warned,
        JwksCache.hidden, JwksCache.hidden, failuresEq]
    · rw [failuresEq]
      intro failure member set found
      exact step.served (accounted.served failure member set found)
    · rw [failuresEq]
      intro failure member found
      exact step.surfaced (accounted.surfaced failure member found)

theorem Runs.accounted {schedule : List (Action ι)}
    (run : system.Runs schedule history state) :
    Accounted system history state :=
  Machine.Runs.invariant accounted_fresh
    (fun before accounted ran =>
      accounted.step (Runs.recorded before) (step_of_machine ran)) run

/-- The warnings lie as far apart as the fetches. -/
theorem Runs.warnings_spaced {schedule : List (Action ι)}
    (run : system.Runs schedule history state)
    (positive : 0 < system.cache.minRefetchInterval.nanos) :
    Spaced system.cache.minRefetchInterval.nanos
      ((warnings history).map fun warning => (system.call warning.1).now) := by
  have anchors : (fetchLog history).anchors =
      ((fetchLog history).map Attempt.owner).map fun c =>
        (system.call c).now := by
    rw [List.map_map]
    exact List.map_congr_left run.recorded.anchored
  have failing : ((fetchLog history).failures.map fun failure =>
      (system.call failure.owner).now).Sublist (fetchLog history).anchors := by
    have owners : ((fetchLog history).failures.map Failure.owner).Sublist
        ((fetchLog history).map Attempt.owner) :=
      Log.owners_failuresAfter_sublist none _
    rw [anchors]
    simpa [Function.comp_def] using owners.map fun c => (system.call c).now
  rw [run.accounted.warned, List.map_map]
  exact (run.spaced positive).sublist
    ((List.filter_sublist.map _).trans failing)

/-- Every failure of a fetch is accounted for, and the warnings about those
that are hidden cannot flood the log. -/
theorem Runs.failures_accounted {schedule : List (Action ι)}
    (run : system.Runs schedule history state) :
    Accounted system history state ∧
      (0 < system.cache.minRefetchInterval.nanos →
        Spaced system.cache.minRefetchInterval.nanos
          ((warnings history).map fun warning =>
            (system.call warning.1).now)) :=
  ⟨run.accounted, run.warnings_spaced⟩

end System

/-! ## A sample run

The first caller fills the cache, and the second one comes when the set is past
the TTL and the provider fails. -/

namespace Sample

def failingSystem : System Bool Unit where
  foreign := foreign
  cache := cache
  call second :=
    { kid := "k1"
      now := if second then 3600 * 1000000000 else 0
      f := fun key =>
        if key.kty = "EC" then .ok () else .error "unexpected kty" }

def failingSchedule : List (Action Bool) :=
  firstFetch ++ List.replicate 4 (.run true) ++
    .fetched true (.error "503") :: List.replicate 3 (.run true)

theorem failing_enabled :
    (failingSystem.machine.exec .fresh failingSchedule).isSome = true := by
  decide +kernel

def failed : State Bool Unit × List (Event Bool) :=
  (failingSystem.machine.exec .fresh failingSchedule).get failing_enabled

theorem failedRun : failingSystem.Runs failingSchedule failed.2 failed.1 :=
  .of_isSome failing_enabled

end Sample

namespace System

theorem Runs.failures_accounted_sample :
    warnings Sample.failed.2 = [(true, "503")] ∧
      .refreshed true (.ok (some Sample.keySet)) ∈ Sample.failed.2 := by
  obtain ⟨accounted, _⟩ := Runs.failures_accounted Sample.failedRun
  have ended : Sample.failed.1.phase true = .done (.ok ()) := by
    decide +kernel
  refine ⟨accounted.warned.trans (by decide +kernel), ?_⟩
  have served := accounted.served
    ⟨true, 3600 * 1000000000, "503", some (0, Sample.keySet)⟩
    (by decide +kernel) Sample.keySet (by decide +kernel)
  dsimp only at served
  rw [ended] at served
  simpa using served

end System

end AuthOidc
