import AuthOidc.Cache.Ceiling
import AuthOidc.Cache.Storm
import AuthOidc.Cache.Trying

/-!
# An outage never hurts a caller with usable keys

With a positive refetch interval the fetch time never moves backwards, so a
caller that was once served a set is served one ever after.  Such a caller
never becomes desperate, and as long as no fetch succeeds it answers from the
set of its snapshot.
-/

namespace AuthOidc

open Rust Transition AttemptLog Spacing

variable {ι T : Type}

namespace System

variable {system : System ι T}

/-- The first lookup of the call missed, if this is its second round. -/
def Missed (system : System ι T) (c : ι) (set : JwkSet) : Round → Prop
  | .first => True
  | .second => JwksCache.tryAll set (system.call c).kid
      (system.call c).f = none

/-- The phases of a call all of whose sets are `set`. -/
def Answers (system : System ι T) (c : ι) (set : JwkSet) :
    Phase T → Prop
  | .snapshot => True
  | .rateCheck round _ | .tryGate round _ | .lostRace round
  | .waitGate round | .postGate round _ | .fetching round
  | .writeBack round _ => system.Missed c set round
  | .releaseGate round refreshed =>
      refreshed = .ok (some set) ∧ system.Missed c set round
  | .lookup round carried => carried = set ∧ system.Missed c set round
  | .done result =>
      result = JwksCache.resultOn system.foreign (system.call c) set

theorem answers_afterRefresh {c : ι} {set : JwkSet} {round : Round}
    (missed : system.Missed c set round) :
    system.Answers c set (system.afterRefresh c round (.ok (some set))) :=
  ⟨rfl, missed⟩

theorem answers_afterLookup {c : ι} {set : JwkSet} {round : Round}
    (missed : system.Missed c set round) :
    system.Answers c set (system.afterLookup c round set) := by
  cases round with
  | second =>
      rw [afterLookup_second]
      exact rfl
  | first =>
      cases tried : JwksCache.tryAll set (system.call c).kid
          (system.call c).f with
      | some result =>
          rw [system.afterLookup_of_some tried]
          simp [Answers, JwksCache.resultOn, tried]
      | none =>
          rw [system.afterLookup_first_of_none tried]
          exact tried

theorem writeBack_of_serves {cache : JwksCache} {inner : Inner}
    {now : Instant} {set : JwkSet} {fetched : Except String JwkSet}
    (serves : cache.Serves inner now set)
    (servesAfter : cache.Serves (cache.writeBack inner now fetched).inner
      now set) :
    (cache.writeBack inner now fetched).refreshed = .ok (some set) := by
  cases fetched with
  | ok fresh =>
      have same : fresh = set := Option.some.inj servesAfter.1
      rw [← same]
      rfl
  | error error =>
      simp [JwksCache.writeBack, serves.1, serves.pastCeiling]

/-- The phases of a call that has something to serve: it does not wait for the
gate and its refreshes return a set. -/
def Provided : Phase T → Prop
  | .snapshot | .waitGate _ => False
  | .rateCheck _ wait => wait = false
  | .tryGate _ desperate => desperate = false
  | .releaseGate _ refreshed => ∃ set, refreshed = .ok (some set)
  | _ => True

theorem provided_afterLookup (c : ι) (round : Round) (set : JwkSet) :
    Provided (system.afterLookup c round set) := by
  unfold afterLookup
  split
  · trivial
  · rfl
  · trivial

theorem exists_writeBack_of_serves {cache : JwksCache} {inner : Inner}
    {now : Instant} {set : JwkSet} (fetched : Except String JwkSet)
    (serves : cache.Serves inner now set) :
    ∃ served, (cache.writeBack inner now fetched).refreshed =
      .ok (some served) := by
  cases fetched with
  | ok fresh => exact ⟨fresh, rfl⟩
  | error error =>
      exact ⟨set, by simp [JwksCache.writeBack, serves.1,
        serves.pastCeiling]⟩

variable [DecidableEq ι]

/-- While the data serves one set, the call goes on answering from it. -/
theorem Step.answers {state next : State ι T} {c : ι}
    {emitted : List (Event ι)} {set : JwkSet}
    (step : system.Step state c next emitted) (paired : state.inner.Paired)
    (serves : system.cache.Serves state.inner (system.call c).now set)
    (servesNext : system.cache.Serves next.inner (system.call c).now set)
    (answers : system.Answers c set (state.phase c)) :
    system.Answers c set (next.phase c) := by
  cases step with
  | snapshot stands =>
      rw [State.move_phase_self]
      rcases afterSnapshot_cases (T := T) system.cache (system.call c).now
        paired with ⟨other, servesOther, check | lookup⟩ | ⟨never, _⟩
      · rw [check]
        trivial
      · rw [lookup, servesOther.unique serves]
        exact ⟨rfl, trivial⟩
      · exact absurd serves (never set)
  | rateLimited stands left =>
      rw [stands] at answers
      rw [State.move_phase_self, (JwksCache.checkRate_leave left).1,
        serves.serveWithinCeiling]
      exact answers_afterRefresh answers
  | serveLoser stands =>
      rw [stands] at answers
      rw [State.move_phase_self, serves.serveWithinCeiling]
      exact answers_afterRefresh answers
  | satisfied stands left =>
      rw [stands] at answers
      rw [State.move_phase_self, (JwksCache.claimWindow_leave left).1,
        serves.serveWithinCeiling]
      exact ⟨rfl, answers⟩
  | writeBack stands written =>
      subst written
      rw [stands] at answers
      dsimp only
      rw [State.move_phase_self, writeBack_of_serves serves servesNext]
      exact ⟨rfl, answers⟩
  | release stands =>
      rw [stands] at answers
      dsimp only
      rw [State.move_phase_self, answers.1]
      exact answers_afterRefresh answers.2
  | lookup stands =>
      rw [stands] at answers
      rw [State.move_phase_self, answers.1]
      exact answers_afterLookup answers.2
  | admitted stands _ | takeGate stands _ | queue stands _
  | loseRace stands _ | wake stands _ | claim stands _
  | fetchReturns _ stands =>
      rw [stands] at answers
      simp only [State.move_phase_self]
      exact answers

theorem Step.provided {state next : State ι T} {c : ι}
    {emitted : List (Event ι)} {set : JwkSet}
    (step : system.Step state c next emitted)
    (serves : system.cache.Serves state.inner (system.call c).now set)
    (provided : Provided (state.phase c)) :
    Provided (next.phase c) ∧ ∀ refreshed,
      .refreshed c refreshed ∈ emitted →
      ∃ served, refreshed = .ok (some served) := by
  cases step with
  | snapshot stands =>
      rw [stands] at provided
      exact provided.elim
  | rateLimited stands left =>
      rw [State.move_phase_self, (JwksCache.checkRate_leave left).1,
        serves.serveWithinCeiling]
      exact ⟨trivial, by simp⟩
  | serveLoser stands =>
      rw [State.move_phase_self, serves.serveWithinCeiling]
      exact ⟨trivial, by simp⟩
  | admitted stands proceeds =>
      rw [stands] at provided
      rw [State.move_phase_self, (JwksCache.checkRate_proceed proceeds).1,
        show _ = false from provided]
      exact ⟨rfl, by simp⟩
  | queue stands _ =>
      rw [stands] at provided
      cases provided
  | wake stands _ =>
      rw [stands] at provided
      exact provided.elim
  | satisfied stands left =>
      rw [State.move_phase_self, (JwksCache.claimWindow_leave left).1,
        serves.serveWithinCeiling]
      exact ⟨⟨set, rfl⟩, by simp⟩
  | @writeBack round fetched _ stands written =>
      subst written
      refine ⟨?_, by simp⟩
      dsimp only
      rw [State.move_phase_self]
      exact exists_writeBack_of_serves fetched serves
  | release stands =>
      rw [stands] at provided
      obtain ⟨served, rfl⟩ := provided
      refine ⟨?_, by simp⟩
      dsimp only
      rw [State.move_phase_self]
      trivial
  | lookup stands =>
      rw [State.move_phase_self]
      exact ⟨provided_afterLookup .., by simp [invocations]⟩
  | takeGate stands _ | loseRace stands _ | claim stands _
  | fetchReturns _ stands =>
      simp [Provided]

/-- The fetch time lies before the anchor of the fetch in flight. -/
theorem Recorded.fetchedAt_le {history : List (Event ι)}
    {state : State ι T} {c : ι} {fetchedAt : Instant} {gap : Nat}
    (recorded : Recorded system history state)
    (spaced : Spaced gap (fetchLog history).anchors)
    (flight : (state.phase c).inFlight = true)
    (fetchedAtEq : state.inner.fetchedAt = some fetchedAt) :
    fetchedAt ≤ (system.call c).now := by
  obtain ⟨front, settled, logEq⟩ := recorded.inFlight c flight
  rw [recorded.fetchedAt, logEq, Log.lastSuccess_append_of_none rfl,
    Option.map_eq_some_iff] at fetchedAtEq
  obtain ⟨⟨anchor, set⟩, success, rfl⟩ := fetchedAtEq
  obtain ⟨owner, member⟩ := Log.mem_of_lastSuccess success
  have frontAnchor : anchor ∈ Log.anchors front :=
    List.mem_map.mpr ⟨_, member, rfl⟩
  have anchorsEq : (fetchLog history).anchors =
      Log.anchors front ++ [(system.call c).now] := by
    rw [logEq, Log.anchors, List.map_append]
    rfl
  rw [anchorsEq, spaced_append_singleton] at spaced
  exact le_trans (Nat.le_add_right _ _) (spaced.2 anchor frontAnchor)

/-- Whoever is served a set goes on being served one. -/
theorem Recorded.serves_step {history emitted : List (Event ι)}
    {state next : State ι T} {c : ι} {now : Instant} {set : JwkSet}
    {gap : Nat} (recorded : Recorded system history state)
    (spaced : Spaced gap (fetchLog history).anchors)
    (step : system.Step state c next emitted)
    (serves : system.cache.Serves state.inner now set) :
    ∃ served, system.cache.Serves next.inner now served := by
  obtain ⟨keys, fetchedAt, fetchedAtEq, within⟩ := serves
  cases step.effect with
  | quiet innerEq _ _ =>
      rw [innerEq]
      exact ⟨set, keys, fetchedAt, fetchedAtEq, within⟩
  | claimed _ _ _ _ innerEq _ =>
      rw [innerEq]
      exact ⟨set, keys, fetchedAt, fetchedAtEq, within⟩
  | @written round fetched stands _ innerEq _ =>
      rw [innerEq]
      cases fetched with
      | error error =>
          rw [JwksCache.writeBack_error_inner]
          exact ⟨set, keys, fetchedAt, fetchedAtEq, within⟩
      | ok fresh =>
          have flight : (state.phase c).inFlight = true := by
            rw [stands]
            rfl
          have later := recorded.fetchedAt_le spaced flight fetchedAtEq
          refine ⟨fresh, rfl, (system.call c).now, rfl, ?_⟩
          rw [Instant.saturatingDurationSince_lt] at within ⊢
          exact lt_of_le_of_lt (Nat.sub_le_sub_left later now) within

/-- Without a success the data serves the same set. -/
theorem Step.serves_same {state next : State ι T} {c : ι}
    {emitted : List (Event ι)} {now : Instant} {set : JwkSet}
    (step : system.Step state c next emitted)
    (noSuccess : ∀ other fresh, .completed other (.ok fresh) ∉ emitted)
    (serves : system.cache.Serves state.inner now set) :
    system.cache.Serves next.inner now set := by
  cases step.effect with
  | quiet innerEq _ _ => rwa [innerEq]
  | claimed _ _ _ _ innerEq _ =>
      rw [innerEq]
      exact serves
  | @written round fetched _ _ innerEq emittedEq =>
      cases fetched with
      | error error => rwa [innerEq, JwksCache.writeBack_error_inner]
      | ok fresh =>
          rw [emittedEq] at noSuccess
          exact absurd List.mem_cons_self (noSuccess c fresh)

theorem Step.refreshed_owner {state next : State ι T} {c other : ι}
    {emitted : List (Event ι)} {refreshed : Refreshed}
    (step : system.Step state c next emitted)
    (member : .refreshed other refreshed ∈ emitted) : other = c := by
  cases step with
  | rateLimited _ _ | serveLoser _ | release _ =>
      cases List.mem_singleton.mp member
      rfl
  | claim _ _ | fetchReturns _ _ => cases List.mem_singleton.mp member
  | lookup stands =>
      obtain ⟨_, _, contradiction⟩ := List.mem_map.mp member
      cases contradiction
  | writeBack stands written =>
      rcases List.mem_cons.mp member with contradiction | warned
      · cases contradiction
      · obtain ⟨_, _, contradiction⟩ :=
          Option.map_eq_some_iff.mp (Option.mem_toList.mp warned)
        cases contradiction
  | snapshot _ | admitted _ _ | takeGate _ _ | queue _ _ | loseRace _ _
  | wake _ _ | satisfied _ _ => cases member

/-- What the outage leaves to a call since its snapshot: it is served some set,
and without a success that of the snapshot. -/
structure Untroubled (system : System ι T) (c : ι) (set : JwkSet)
    (history : List (Event ι)) (state : State ι T) : Prop where
  served : ∃ served,
    system.cache.Serves state.inner (system.call c).now served
  provided : Provided (state.phase c)
  refreshed : ∀ refreshed, .refreshed c refreshed ∈ history →
    ∃ served, refreshed = .ok (some served)
  answers : (∀ other fresh, .completed other (.ok fresh) ∉ history) →
    system.cache.Serves state.inner (system.call c).now set ∧
      system.Answers c set (state.phase c)

theorem Untroubled.step {before history emitted : List (Event ι)}
    {state next : State ι T} {c other : ι} {set : JwkSet} {gap : Nat}
    (untroubled : Untroubled system c set history state)
    (recorded : Recorded system before state)
    (spaced : Spaced gap (fetchLog before).anchors)
    (step : system.Step state other next emitted) :
    Untroubled system c set (history ++ emitted) next := by
  obtain ⟨served, serves⟩ := untroubled.served
  constructor
  · exact recorded.serves_step spaced step serves
  · by_cases same : c = other
    · subst same
      exact (step.provided serves untroubled.provided).1
    · rw [step.others same]
      exact untroubled.provided
  · intro refreshed member
    rcases List.mem_append.mp member with earlier | now
    · exact untroubled.refreshed refreshed earlier
    · cases step.refreshed_owner now
      exact (step.provided serves untroubled.provided).2 refreshed now
  · intro noSuccess
    obtain ⟨servesSet, answers⟩ := untroubled.answers
      fun owner fresh member =>
        noSuccess owner fresh (List.mem_append_left _ member)
    have servesNext := step.serves_same
      (fun owner fresh member =>
        noSuccess owner fresh (List.mem_append_right _ member)) servesSet
    refine ⟨servesNext, ?_⟩
    by_cases same : c = other
    · subst same
      exact step.answers recorded.paired servesSet servesNext answers
    · rw [step.others same]
      exact answers

variable {schedule : List (Action ι)} {history : List (Event ι)}
  {state next : State ι T} {emitted : List (Event ι)}

theorem Runs.untroubled (run : system.Runs schedule history state)
    (positive : 0 < system.cache.minRefetchInterval.nanos) {c : ι}
    {set : JwkSet} (begins : state.phase c = .snapshot)
    (usable : system.cache.Serves state.inner (system.call c).now set)
    (ran : system.machine.step state (.run c) = some (next, emitted))
    {later : List (Action ι)} {laterHistory : List (Event ι)}
    {final : State ι T}
    (laterRun : system.machine.Runs next later laterHistory final) :
    Untroubled system c set laterHistory final := by
  refine Machine.Runs.invariant ?_ ?_ laterRun
  · have moved : next = state.move c (afterSnapshot
        (system.cache.snapshot state.inner (system.call c).now)) := by
      simp only [machine, runStep, begins, Option.some.injEq,
        Prod.mk.injEq] at ran
      exact ran.1.symm
    subst moved
    refine ⟨⟨set, usable⟩, ?_, by simp, fun _ => ⟨usable, ?_⟩⟩
    · rw [State.move_phase_self]
      rcases afterSnapshot_cases (T := T) system.cache (system.call c).now
        run.recorded.paired with ⟨_, _, check | lookup⟩ | ⟨never, _⟩
      · rw [check]
        rfl
      · rw [lookup]
        trivial
      · exact absurd usable (never set)
    · exact (step_of_machine ran).answers run.recorded.paired usable usable
        (by simp only [Action.caller, begins]; trivial)
  · intro _ _ _ _ _ _ reached untroubled step
    have before := Machine.Runs.trans (Machine.Runs.tail run ran) reached
    exact untroubled.step (Runs.recorded before)
      (Runs.spaced before positive) (step_of_machine step)

/-- An outage is harmless to a call whose snapshot found a set within the
ceiling: it never waits for the gate, its refreshes all return a set, and as
long as no fetch succeeds it answers from the set of its snapshot. -/
theorem Runs.outage_harmless (run : system.Runs schedule history state)
    (positive : 0 < system.cache.minRefetchInterval.nanos) {c : ι}
    {set : JwkSet} (begins : state.phase c = .snapshot)
    (usable : system.cache.Serves state.inner (system.call c).now set)
    (ran : system.machine.step state (.run c) = some (next, emitted)) :
    (∀ later laterHistory final,
      system.machine.Runs next later laterHistory final →
      (∀ round, final.phase c ≠ .waitGate round) ∧
        (∀ refreshed, .refreshed c refreshed ∈ laterHistory →
          ∃ served, refreshed = .ok (some served)) ∧
        ((∀ other fresh, .completed other (.ok fresh) ∉ laterHistory) →
          ∀ result, final.phase c = .done result →
            ResultFrom system.foreign (system.call c) set.keys result)) ∧
    ∃ later laterHistory final result,
      system.machine.Runs next later laterHistory final ∧
        final.phase c = .done result := by
  constructor
  · intro later laterHistory final laterRun
    have untroubled :=
      run.untroubled positive begins usable ran laterRun
    refine ⟨?_, untroubled.refreshed, ?_⟩
    · intro round waiting
      have provided := untroubled.provided
      rw [waiting] at provided
      exact provided
    · intro noSuccess result finished
      have answers := (untroubled.answers noSuccess).2
      rw [finished] at answers
      exact JwksCache.resultFrom_iff.mpr answers
  · exact Runs.call_can_return (Machine.Runs.tail run ran) c

end System

/-! ## The second caller of the sample -/

namespace Sample

theorem snapshot_enabled :
    (system.machine.step cached.1 (.run true)).isSome = true := by
  decide +kernel

/-- The second caller has taken its snapshot. -/
def snapshotTaken : State Bool Unit × List (Event Bool) :=
  (system.machine.step cached.1 (.run true)).get snapshot_enabled

theorem snapshot_ran :
    system.machine.step cached.1 (.run true) = some snapshotTaken :=
  (Option.some_get _).symm

/-- It looks its kid up, may not fetch again, and looks it up once more. -/
def missSchedule : List (Action Bool) :=
  List.replicate 3 (.run true)

theorem miss_enabled :
    (system.machine.exec snapshotTaken.1 missSchedule).isSome = true := by
  decide +kernel

def missed : State Bool Unit × List (Event Bool) :=
  (system.machine.exec snapshotTaken.1 missSchedule).get miss_enabled

theorem missedRun :
    system.machine.Runs snapshotTaken.1 missSchedule missed.2 missed.1 :=
  .of_isSome miss_enabled

theorem missed_history :
    missed.2 = [.refreshed true (.ok (some keySet))] := by
  decide +kernel

theorem missed_phase : missed.1.phase true =
    .done (.error (JwksCache.unknownKidError foreign "k2")) := by
  decide +kernel

end Sample

theorem System.Runs.outage_harmless_sample :
    ResultFrom Sample.foreign (Sample.system.call true) Sample.keySet.keys
      (.error (JwksCache.unknownKidError Sample.foreign "k2")) := by
  have begins : Sample.cached.1.phase true = .snapshot := rfl
  have usable : Sample.system.cache.Serves Sample.cached.1.inner
      (Sample.system.call true).now Sample.keySet :=
    ⟨by decide +kernel, 0, by decide +kernel, by decide⟩
  obtain ⟨_, _, answers⟩ := (System.Runs.outage_harmless Sample.cachedRun
    (by decide) begins usable Sample.snapshot_ran).1 _ _ _ Sample.missedRun
  refine answers ?_ _ Sample.missed_phase
  intro other fresh member
  rw [Sample.missed_history] at member
  cases List.mem_singleton.mp member

end AuthOidc
