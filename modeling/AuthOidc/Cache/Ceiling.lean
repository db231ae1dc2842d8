import AuthOidc.Cache.Progress

/-!
# The absolute staleness ceiling

A set that `refresh` or the snapshot hands to a caller was within the ceiling,
at the caller's own `now`, in the data of that very moment.  So every key a
closure is invoked on comes from a set installed by a fetch that is recent
enough, and a caller for which the cache never holds such a set fails.
-/

namespace AuthOidc

open Rust Transition AttemptLog

/-- The set a phase is about to return or to look a key up in. -/
def Phase.carries {T : Type} : Phase T → Option JwkSet
  | .releaseGate _ (.ok keys) => keys
  | .lookup _ set => some set
  | _ => none

theorem Phase.carries_releaseGate {T : Type} {round : Round}
    {refreshed : Refreshed} {set : JwkSet} :
    (Phase.releaseGate round refreshed : Phase T).carries = some set ↔
      refreshed = .ok (some set) := by
  cases refreshed <;> simp [Phase.carries]

variable {ι T : Type}

namespace System

variable {system : System ι T}

theorem carries_afterSnapshot {cache : JwksCache} {inner : Inner}
    {now : Instant} {set : JwkSet} (paired : inner.Paired)
    (carried : (afterSnapshot (cache.snapshot inner now) :
      Phase T).carries = some set) :
    cache.Serves inner now set := by
  rcases afterSnapshot_cases (T := T) cache now paired with
    ⟨served, serves, check | lookup⟩ | ⟨_, check⟩
  · rw [check] at carried
    cases carried
  · rw [lookup] at carried
    cases carried
    exact serves
  · rw [check] at carried
    cases carried

theorem carries_afterRefresh {c : ι} {round : Round} {refreshed : Refreshed}
    {set : JwkSet}
    (carried : (system.afterRefresh c round refreshed).carries = some set) :
    refreshed = .ok (some set) := by
  unfold afterRefresh at carried
  split at carried
  · cases carried
  · cases carried
  · cases carried
  · cases carried
    rfl

theorem carries_afterLookup (c : ι) (round : Round) (set : JwkSet) :
    (system.afterLookup c round set).carries = none := by
  unfold afterLookup
  split <;> rfl

theorem afterSnapshot_ne_done (snapshot : Option JwkSet × Bool × Bool)
    (result : Except String T) : afterSnapshot snapshot ≠ .done result := by
  unfold afterSnapshot
  dsimp only
  split
  · simp
  · split <;> simp

theorem afterRefresh_ne_done_ok (c : ι) (round : Round)
    (refreshed : Refreshed) (value : T) :
    system.afterRefresh c round refreshed ≠ .done (.ok value) := by
  unfold afterRefresh
  split <;> simp

theorem tryAll_of_afterLookup {c : ι} {round : Round} {set : JwkSet}
    {value : T}
    (succeeded : system.afterLookup c round set = .done (.ok value)) :
    JwksCache.tryAll set (system.call c).kid (system.call c).f =
      some (.ok value) := by
  unfold afterLookup at succeeded
  split at succeeded
  · rename_i tried
    rw [tried, Phase.done.inj succeeded]
  · cases succeeded
  · cases succeeded

variable [DecidableEq ι]

/-- A set that a caller carries after its step it carried before, or the data
serves it to the caller. -/
theorem Step.carries {state next : State ι T} {c : ι}
    {emitted : List (Event ι)} {set : JwkSet}
    (step : system.Step state c next emitted) (paired : state.inner.Paired)
    (carried : (next.phase c).carries = some set) :
    (state.phase c).carries = some set ∨
      system.cache.Serves next.inner (system.call c).now set := by
  cases step with
  | snapshot stands =>
      rw [State.move_phase_self] at carried
      exact .inr (carries_afterSnapshot paired carried)
  | rateLimited stands left =>
      rw [State.move_phase_self] at carried
      have returned := carries_afterRefresh carried
      rw [(JwksCache.checkRate_leave left).1] at returned
      exact .inr (JwksCache.serves_of_serveWithinCeiling paired returned)
  | serveLoser stands =>
      rw [State.move_phase_self] at carried
      exact .inr (JwksCache.serves_of_serveWithinCeiling paired
        (carries_afterRefresh carried))
  | satisfied stands left =>
      rw [State.move_phase_self, Phase.carries_releaseGate,
        (JwksCache.claimWindow_leave left).1] at carried
      exact .inr (JwksCache.serves_of_serveWithinCeiling paired carried)
  | writeBack stands written =>
      subst written
      dsimp only at carried
      rw [State.move_phase_self, Phase.carries_releaseGate] at carried
      exact .inr (JwksCache.serves_of_writeBack paired carried)
  | release stands =>
      dsimp only at carried
      rw [State.move_phase_self] at carried
      left
      rw [stands, Phase.carries_releaseGate]
      exact carries_afterRefresh carried
  | lookup stands =>
      rw [State.move_phase_self, carries_afterLookup] at carried
      cases carried
  | admitted stands _ | takeGate stands _ | queue stands _
  | loseRace stands _ | wake stands _ | claim stands _
  | fetchReturns _ stands =>
      simp only [State.move_phase_self] at carried
      cases carried

/-- Closures are invoked by lookups only, on keys of the set looked up in. -/
theorem Step.invoked {state next : State ι T} {c other : ι}
    {emitted : List (Event ι)} {set : JwkSet} {key : Jwk}
    (step : system.Step state c next emitted)
    (invoked : .invoked other set key ∈ emitted) :
    other = c ∧ (state.phase c).carries = some set ∧
      key ∈ set.findAll (system.call c).kid := by
  cases step with
  | lookup stands =>
      obtain ⟨tried, triedMember, same⟩ := List.mem_map.mp invoked
      cases same
      refine ⟨rfl, ?_, mem_of_mem_triedKeys triedMember⟩
      rw [stands]
      rfl
  | writeBack stands written =>
      rcases List.mem_cons.mp invoked with contradiction | warned
      · cases contradiction
      · obtain ⟨_, _, contradiction⟩ :=
          Option.map_eq_some_iff.mp (Option.mem_toList.mp warned)
        cases contradiction
  | rateLimited _ _ | serveLoser _ | claim _ _ | fetchReturns _ _
  | release _ => cases List.mem_singleton.mp invoked
  | snapshot _ | admitted _ _ | takeGate _ _ | queue _ _ | loseRace _ _
  | wake _ _ | satisfied _ _ => cases invoked

/-- Success comes out of a lookup only, with a key that the closure was
invoked on and accepted. -/
theorem Step.done_ok {state next : State ι T} {c : ι}
    {emitted : List (Event ι)} {value : T}
    (step : system.Step state c next emitted)
    (succeeded : next.phase c = .done (.ok value)) :
    ∃ set key, .invoked c set key ∈ emitted ∧
      (system.call c).f key = .ok value := by
  cases step with
  | @lookup round set stands =>
      rw [State.move_phase_self] at succeeded
      obtain ⟨key, tried, accepted⟩ :=
        tryKeys_eq_ok (tryAll_of_afterLookup succeeded)
      exact ⟨set, key, List.mem_map.mpr ⟨key, tried, rfl⟩, accepted⟩
  | snapshot stands =>
      rw [State.move_phase_self] at succeeded
      exact absurd succeeded (afterSnapshot_ne_done _ _)
  | rateLimited stands _ | serveLoser stands =>
      rw [State.move_phase_self] at succeeded
      exact absurd succeeded (afterRefresh_ne_done_ok _ _ _ _)
  | release stands =>
      dsimp only at succeeded
      rw [State.move_phase_self] at succeeded
      exact absurd succeeded (afterRefresh_ne_done_ok _ _ _ _)
  | admitted _ _ | takeGate _ _ | queue _ _ | loseRace _ _ | wake _ _
  | satisfied _ _ | claim _ _ | fetchReturns _ _ | writeBack _ _ =>
      simp at succeeded

/-! ## What is carried was installed recently -/

/-- The set was installed by a successful fetch whose anchor is within the
ceiling at the caller's own `now`. -/
def InstalledWithin (system : System ι T) (history : List (Event ι)) (c : ι)
    (set : JwkSet) : Prop :=
  ∃ attempt ∈ fetchLog history, attempt.outcome = some (.ok set) ∧
    (system.call c).now.saturatingDurationSince attempt.anchor <
      system.cache.maxStale

theorem InstalledWithin.append {history : List (Event ι)} {c : ι}
    {set : JwkSet} (installed : system.InstalledWithin history c set)
    (emitted : List (Event ι)) :
    system.InstalledWithin (history ++ emitted) c set := by
  obtain ⟨attempt, member, outcome, within⟩ := installed
  refine ⟨attempt, mem_fetchLog_append member ?_, outcome, within⟩
  rw [outcome]
  simp

theorem Recorded.installedWithin {history : List (Event ι)}
    {state : State ι T} {c : ι} {set : JwkSet}
    (recorded : Recorded system history state)
    (serves : system.cache.Serves state.inner (system.call c).now set) :
    system.InstalledWithin history c set := by
  obtain ⟨keys, fetchedAt, fetchedAtEq, within⟩ := serves
  rw [recorded.keys] at keys
  obtain ⟨⟨anchor, last⟩, success, rfl⟩ := Option.map_eq_some_iff.mp keys
  rw [recorded.fetchedAt, success, Option.map_some,
    Option.some.injEq] at fetchedAtEq
  subst fetchedAtEq
  obtain ⟨owner, member⟩ := Log.mem_of_lastSuccess success
  exact ⟨_, member, rfl, within⟩

/-- Whatever is carried, and whatever a closure was invoked on, was installed
within the ceiling. -/
structure Fresh (system : System ι T) (history : List (Event ι))
    (state : State ι T) : Prop where
  carried : ∀ c set, (state.phase c).carries = some set →
    system.InstalledWithin history c set
  invoked : ∀ c set key, .invoked c set key ∈ history →
    key ∈ set.findAll (system.call c).kid ∧
      system.InstalledWithin history c set
  succeeded : ∀ c value, state.phase c = .done (.ok value) →
    ∃ set key, .invoked c set key ∈ history ∧
      (system.call c).f key = .ok value

theorem Fresh.step {history emitted : List (Event ι)}
    {state next : State ι T} {c : ι} (fresh : Fresh system history state)
    (recorded : Recorded system history state)
    (step : system.Step state c next emitted) :
    Fresh system (history ++ emitted) next := by
  constructor
  · intro other set carried
    by_cases same : other = c
    · subst same
      rcases step.carries recorded.paired carried with before | serves
      · exact (fresh.carried other set before).append emitted
      · exact (recorded.step step).installedWithin serves
    · rw [step.others same] at carried
      exact (fresh.carried other set carried).append emitted
  · intro other set key invoked
    rcases List.mem_append.mp invoked with earlier | now
    · obtain ⟨matching, installed⟩ := fresh.invoked other set key earlier
      exact ⟨matching, installed.append emitted⟩
    · obtain ⟨rfl, carried, matching⟩ := step.invoked now
      exact ⟨matching, (fresh.carried other set carried).append emitted⟩
  · intro other value succeeded
    by_cases same : other = c
    · subst same
      obtain ⟨set, key, invoked, accepted⟩ := step.done_ok succeeded
      exact ⟨set, key, List.mem_append_right _ invoked, accepted⟩
    · rw [step.others same] at succeeded
      obtain ⟨set, key, invoked, accepted⟩ :=
        fresh.succeeded other value succeeded
      exact ⟨set, key, List.mem_append_left _ invoked, accepted⟩

variable {schedule : List (Action ι)} {history : List (Event ι)}
  {state : State ι T}

theorem Runs.fresh (run : system.Runs schedule history state) :
    Fresh system history state :=
  Machine.Runs.invariant
    ⟨by simp [State.fresh, Phase.carries], by simp, by simp [State.fresh]⟩
    (fun before fresh ran =>
      fresh.step (Runs.recorded before) (step_of_machine ran)) run

/-! ## A caller that is never served -/

/-- The caller has no set and has not succeeded. -/
def Unserved (phase : Phase T) : Prop :=
  phase.carries = none ∧ ∀ value, phase ≠ .done (.ok value)

theorem Step.unserved {next : State ι T} {emitted : List (Event ι)}
    {c other : ι} (step : system.Step state c next emitted)
    (paired : state.inner.Paired)
    (unserved : Unserved (state.phase other))
    (noSet : ∀ set,
      ¬ system.cache.Serves next.inner (system.call other).now set) :
    Unserved (next.phase other) ∧
      ∀ set key, .invoked other set key ∉ emitted := by
  by_cases same : other = c
  · subst same
    refine ⟨⟨?_, ?_⟩, ?_⟩
    · rw [Option.eq_none_iff_forall_ne_some]
      intro set carried
      rcases step.carries paired carried with before | serves
      · rw [unserved.1] at before
        cases before
      · exact noSet set serves
    · intro value succeeded
      obtain ⟨set, key, invoked, _⟩ := step.done_ok succeeded
      obtain ⟨_, before, _⟩ := step.invoked invoked
      rw [unserved.1] at before
      cases before
    · intro set key invoked
      obtain ⟨_, before, _⟩ := step.invoked invoked
      rw [unserved.1] at before
      cases before
  · rw [step.others same]
    exact ⟨unserved, fun set key invoked => same (step.invoked invoked).1⟩

theorem Runs.unserved (run : system.Runs schedule history state) {c : ι}
    {later : List (Action ι)} {laterHistory : List (Event ι)}
    {final : State ι T} (unserved : Unserved (state.phase c))
    (laterRun : system.machine.Runs state later laterHistory final)
    (noSet : ∀ earlier earlierHistory middle, earlier <+: later →
      system.machine.Runs state earlier earlierHistory middle →
      ∀ set, ¬ system.cache.Serves middle.inner (system.call c).now set) :
    Unserved (final.phase c) ∧
      ∀ set key, .invoked c set key ∉ laterHistory := by
  refine Machine.Runs.invariant_along
    (fun visited => ∀ set,
      ¬ system.cache.Serves visited.inner (system.call c).now set)
    (fun events visited => Unserved (visited.phase c) ∧
      ∀ set key, .invoked c set key ∉ events)
    ⟨unserved, by simp⟩ ?_ laterRun noSet
  intro _ _ middle action next emitted reached unservedYet noSetNow ran
  have recorded := Runs.recorded (Machine.Runs.trans run reached)
  obtain ⟨unservedNext, notInvoked⟩ :=
    (step_of_machine ran).unserved recorded.paired unservedYet.1 noSetNow
  refine ⟨unservedNext, fun set key invoked => ?_⟩
  rcases List.mem_append.mp invoked with earlier | now
  · exact unservedYet.2 set key earlier
  · exact notInvoked set key now

theorem Unserved.failed {phase : Phase T} (unserved : Unserved phase)
    {result : Except String T} (finished : phase = .done result) :
    ∃ error, result = .error error := by
  cases result with
  | ok value => exact absurd finished (unserved.2 value)
  | error error => exact ⟨error, rfl⟩

/-- The staleness ceiling.  A closure is invoked only on keys of a set that a
successful fetch within the ceiling installed.  A call for which no such set
was installed fails without invoking its closure; so does a call that begins
in this state if from then on the cache never holds a set within the ceiling
at its `now`.  Every call can be driven to its end. -/
theorem Runs.staleness_ceiling (run : system.Runs schedule history state) :
    (∀ c set key, .invoked c set key ∈ history →
      key ∈ set.findAll (system.call c).kid ∧
        ∃ attempt ∈ fetchLog history, attempt.outcome = some (.ok set) ∧
          (system.call c).now.saturatingDurationSince attempt.anchor <
            system.cache.maxStale) ∧
    (∀ c, (∀ attempt ∈ fetchLog history, ∀ set,
        attempt.outcome = some (.ok set) →
        ¬ (system.call c).now.saturatingDurationSince attempt.anchor <
          system.cache.maxStale) →
      (∀ set key, .invoked c set key ∉ history) ∧
        ∀ result, state.phase c = .done result →
          ∃ error, result = .error error) ∧
    (∀ c later laterHistory final, state.phase c = .snapshot →
      system.machine.Runs state later laterHistory final →
      (∀ earlier earlierHistory middle, earlier <+: later →
        system.machine.Runs state earlier earlierHistory middle →
        ∀ set, ¬ system.cache.Serves middle.inner
          (system.call c).now set) →
      (∀ set key, .invoked c set key ∉ laterHistory) ∧
        ∀ result, final.phase c = .done result →
          ∃ error, result = .error error) ∧
    ∀ c, ∃ later laterHistory final result,
      system.machine.Runs state later laterHistory final ∧
        final.phase c = .done result := by
  refine ⟨run.fresh.invoked, ?_, ?_, run.call_can_return⟩
  · intro c noneInstalled
    have notInstalled : ∀ set, ¬ system.InstalledWithin history c set := by
      rintro set ⟨attempt, member, outcome, within⟩
      exact noneInstalled attempt member set outcome within
    constructor
    · intro set key invoked
      exact notInstalled set (run.fresh.invoked c set key invoked).2
    · intro result finished
      cases result with
      | ok value =>
          obtain ⟨set, key, invoked, _⟩ :=
            run.fresh.succeeded c value finished
          exact absurd (run.fresh.invoked c set key invoked).2
            (notInstalled set)
      | error error => exact ⟨error, rfl⟩
  · intro c later laterHistory final begins laterRun noSet
    have unserved : Unserved (state.phase c) := by
      rw [begins]
      exact ⟨rfl, by simp⟩
    obtain ⟨stillUnserved, notInvoked⟩ := run.unserved unserved laterRun noSet
    exact ⟨notInvoked, fun result finished => stillUnserved.failed finished⟩

theorem Runs.staleness_ceiling_sample :
    (∀ set key, .invoked false set key ∈ Sample.outcome.2 →
      key ∈ set.findAll "k1") ∧
    ∃ later laterHistory final result,
      Sample.system.machine.Runs Sample.outcome.1 later laterHistory final ∧
        final.phase true = .done result := by
  have ceiling := Runs.staleness_ceiling Sample.run
  exact ⟨fun set key invoked => (ceiling.1 false set key invoked).1,
    ceiling.2.2.2 true⟩

end System

end AuthOidc
