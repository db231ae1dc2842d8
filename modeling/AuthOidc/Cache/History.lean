import AuthOidc.Cache.Machine
import AuthOidc.Library.AttemptLog

/-!
# The cached state is a fold of the fetch log

The events of a run are folded into the log of its fetches, in the order in
which their windows were claimed.  The gate keeps all but the last of them
finished, and the cached data is determined by the log alone.
-/

namespace AuthOidc

open Rust Transition AttemptLog

abbrev FetchLog (ι : Type) := Log ι Instant String JwkSet

variable {ι T : Type} [DecidableEq ι]

def record (log : FetchLog ι) : Event ι → FetchLog ι
  | .started c anchor => log.start c anchor
  | .completed c outcome => log.finish c outcome
  | _ => log

/-- The fetches of a run in starting order, with their anchors and results. -/
def fetchLog (history : List (Event ι)) : FetchLog ι :=
  history.foldl record []

def Event.logged : Event ι → Bool
  | .started _ _ | .completed _ _ => true
  | _ => false

@[simp] theorem fetchLog_nil : fetchLog ([] : List (Event ι)) = [] := rfl

theorem fetchLog_append (history emitted : List (Event ι)) :
    fetchLog (history ++ emitted) = emitted.foldl record (fetchLog history) :=
  List.foldl_append

theorem foldl_record_of_unlogged {emitted : List (Event ι)}
    (unlogged : ∀ event ∈ emitted, event.logged = false)
    (log : FetchLog ι) : emitted.foldl record log = log := by
  induction emitted generalizing log with
  | nil => rfl
  | cons event emitted induction =>
      have same : record log event = log := by
        have eventUnlogged := unlogged event List.mem_cons_self
        cases event <;> simp_all [record, Event.logged]
      rw [List.foldl_cons, same]
      exact induction (fun later member =>
        unlogged later (List.mem_cons_of_mem _ member)) log

/-- A finished fetch stays in the log as it is. -/
theorem mem_fetchLog_append {history emitted : List (Event ι)}
    {attempt : Attempt ι Instant String JwkSet}
    (member : attempt ∈ fetchLog history)
    (finished : attempt.outcome ≠ none) :
    attempt ∈ fetchLog (history ++ emitted) := by
  induction emitted generalizing history with
  | nil => rwa [List.append_nil]
  | cons event emitted induction =>
      rw [List.append_cons]
      apply induction
      rw [fetchLog_append]
      cases event with
      | started c anchor => exact List.mem_append_left _ member
      | completed c outcome =>
          exact Log.mem_finish_of_finished member finished c outcome
      | _ => exact member

/-- The warning that may follow a write back is not logged. -/
theorem fetchLog_completed (history : List (Event ι)) (c : ι)
    (outcome : Except String JwkSet) (warned : Option String) :
    fetchLog (history ++
        .completed c outcome :: (warned.map (.warned c)).toList) =
      (fetchLog history).finish c outcome := by
  rw [fetchLog_append, List.foldl_cons]
  apply foldl_record_of_unlogged
  intro event member
  obtain ⟨error, _, rfl⟩ :=
    Option.map_eq_some_iff.mp (Option.mem_toList.mp member)
  rfl

omit [DecidableEq ι] in
/-- The events of a write back complete one fetch. -/
theorem completed_mem_iff {c owner : ι}
    {outcome fetched : Except String JwkSet} {warned : Option String} :
    .completed c outcome ∈
        Event.completed owner fetched ::
          (warned.map (.warned owner)).toList ↔
      c = owner ∧ outcome = fetched := by
  cases warned <;> simp

namespace System

variable {system : System ι T}

/-! ## What one step can do -/

/-- A step leaves the data and the log alone, claims a window, or writes the
outcome of a fetch back. -/
inductive Effect (system : System ι T) (state next : State ι T) (c : ι)
    (emitted : List (Event ι)) : Prop where
  | quiet :
      next.inner = state.inner →
      (∀ event ∈ emitted, event.logged = false) →
      (next.phase c).inFlight = (state.phase c).inFlight →
      Effect system state next c emitted
  | claimed :
      (state.phase c).holdsGate = true →
      (state.phase c).inFlight = false →
      (next.phase c).inFlight = true →
      system.cache.permitsAttempt state.inner (system.call c).now = true →
      next.inner =
        { state.inner with lastAttempt := some (system.call c).now } →
      emitted = [.started c (system.call c).now] →
      Effect system state next c emitted
  | written {round : Round} {fetched : Except String JwkSet} :
      state.phase c = .writeBack round fetched →
      (next.phase c).inFlight = false →
      next.inner = (system.cache.writeBack state.inner
        (system.call c).now fetched).inner →
      emitted = .completed c fetched ::
        ((system.cache.writeBack state.inner (system.call c).now
          fetched).warned.map (.warned c)).toList →
      Effect system state next c emitted

theorem Step.effect {state next : State ι T} {c : ι}
    {emitted : List (Event ι)} (step : system.Step state c next emitted) :
    Effect system state next c emitted := by
  cases step with
  | snapshot stands =>
      refine .quiet rfl (by simp) ?_
      rw [State.move_phase_self, stands,
        Phase.inFlight_eq_false (holdsGate_afterSnapshot _)]
      rfl
  | rateLimited stands left =>
      refine .quiet rfl (by simp [Event.logged]) ?_
      rw [State.move_phase_self, stands,
        Phase.inFlight_eq_false (holdsGate_afterRefresh ..)]
      rfl
  | serveLoser stands =>
      refine .quiet rfl (by simp [Event.logged]) ?_
      rw [State.move_phase_self, stands,
        Phase.inFlight_eq_false (holdsGate_afterRefresh ..)]
      rfl
  | release stands =>
      refine .quiet rfl (by simp [Event.logged]) ?_
      dsimp only
      rw [State.move_phase_self, stands,
        Phase.inFlight_eq_false (holdsGate_afterRefresh ..)]
      rfl
  | lookup stands =>
      refine .quiet rfl (by simp [invocations, Event.logged]) ?_
      rw [State.move_phase_self, stands,
        Phase.inFlight_eq_false (holdsGate_afterLookup ..)]
      rfl
  | fetchReturns body stands =>
      refine .quiet rfl (by simp [Event.logged]) ?_
      simp [stands, Phase.inFlight]
  | claim stands proceeds =>
      obtain ⟨claimedEq, permitted⟩ := JwksCache.claimWindow_proceed proceeds
      exact .claimed (by rw [stands]; rfl) (by rw [stands]; rfl)
        (by simp [Phase.inFlight]) permitted claimedEq rfl
  | writeBack stands written =>
      subst written
      exact .written stands (by simp [Phase.inFlight]) rfl rfl
  | admitted stands _ | takeGate stands _ | queue stands _
  | loseRace stands _ | wake stands _ | satisfied stands _ =>
      refine .quiet rfl (by simp) ?_
      simp [stands, Phase.inFlight]

/-- What a step does to the gate: nothing, take it while it is free, or
release it. -/
theorem Step.gate {state next : State ι T} {c : ι}
    {emitted : List (Event ι)} (step : system.Step state c next emitted) :
    (next.fetchGate = state.fetchGate ∧
        (next.phase c).holdsGate = (state.phase c).holdsGate) ∨
      (state.fetchGate = none ∧ next.fetchGate = some c ∧
        (next.phase c).holdsGate = true) ∨
      ((state.phase c).holdsGate = true ∧ next.fetchGate = none ∧
        (next.phase c).holdsGate = false) := by
  cases step with
  | takeGate stands free | wake stands free =>
      exact .inr (.inl ⟨free, rfl, by simp [Phase.holdsGate]⟩)
  | release stands =>
      refine .inr (.inr ⟨by rw [stands]; rfl, rfl, ?_⟩)
      simp [holdsGate_afterRefresh]
  | snapshot stands =>
      refine .inl ⟨rfl, ?_⟩
      simp only [State.move_phase_self, stands, holdsGate_afterSnapshot]
      rfl
  | rateLimited stands _ | serveLoser stands =>
      refine .inl ⟨rfl, ?_⟩
      simp only [State.move_phase_self, stands, holdsGate_afterRefresh]
      rfl
  | lookup stands =>
      refine .inl ⟨rfl, ?_⟩
      simp only [State.move_phase_self, stands, holdsGate_afterLookup]
      rfl
  | writeBack stands _ | fetchReturns _ stands =>
      simp [stands, Phase.holdsGate]
  | admitted stands _ | queue stands _
  | loseRace stands _ | satisfied stands _ | claim stands _ =>
      simp [stands, Phase.holdsGate]

/-! ## The invariant -/

/-- The gate is held by the caller whose phase says so, the last fetch of the
log is unfinished exactly while its caller is between claim and write back,
and the data is what the log says. -/
structure Recorded (system : System ι T) (history : List (Event ι))
    (state : State ι T) : Prop where
  gate : ∀ c, state.fetchGate = some c ↔ (state.phase c).holdsGate = true
  inFlight : ∀ c, (state.phase c).inFlight = true →
    (fetchLog history).InFlight c (system.call c).now
  settled : (∀ c, (state.phase c).inFlight = false) →
    (fetchLog history).Settled
  anchored : ∀ attempt ∈ fetchLog history,
    attempt.anchor = (system.call attempt.owner).now
  keys : state.inner.keys = (fetchLog history).lastSuccess.map Prod.snd
  fetchedAt : state.inner.fetchedAt =
    (fetchLog history).lastSuccess.map Prod.fst
  lastAttempt : state.inner.lastAttempt = (fetchLog history).anchors.getLast?

theorem recorded_fresh : Recorded system [] .fresh where
  gate := by simp [State.fresh, Phase.holdsGate]
  inFlight := by simp [State.fresh, Phase.inFlight]
  settled := fun _ => Log.settled_nil
  anchored := by simp
  keys := rfl
  fetchedAt := rfl
  lastAttempt := rfl

namespace Recorded

variable {history emitted : List (Event ι)} {state next : State ι T}
  {c other : ι}

theorem holder_unique (recorded : Recorded system history state)
    (holds : (state.phase c).holdsGate = true)
    (otherHolds : (state.phase other).holdsGate = true) : other = c := by
  have gateOfC := (recorded.gate c).mpr holds
  have gateOfOther := (recorded.gate other).mpr otherHolds
  rw [gateOfC] at gateOfOther
  exact (Option.some.inj gateOfOther).symm

/-- While one caller holds the gate no other caller has a fetch in flight. -/
theorem not_inFlight_of_ne (recorded : Recorded system history state)
    (holds : (state.phase c).holdsGate = true) (different : other ≠ c) :
    (state.phase other).inFlight = false := by
  apply Phase.inFlight_eq_false
  rw [Bool.eq_false_iff]
  intro otherHolds
  exact different (recorded.holder_unique holds otherHolds)

theorem paired (recorded : Recorded system history state) :
    state.inner.Paired := by
  rw [Inner.Paired, recorded.keys, recorded.fetchedAt, Option.isSome_map,
    Option.isSome_map]

/-- All fetches but the last are finished. -/
theorem settled_dropLast (recorded : Recorded system history state) :
    Log.Settled (fetchLog history).dropLast := by
  by_cases quiet : ∀ c, (state.phase c).inFlight = false
  · intro attempt member
    exact recorded.settled quiet attempt (List.dropLast_subset _ member)
  · obtain ⟨c, flight⟩ := not_forall.mp quiet
    obtain ⟨front, settled, logEq⟩ :=
      recorded.inFlight c (by simpa using flight)
    rw [logEq, List.dropLast_concat]
    exact settled

theorem gate_step (recorded : Recorded system history state)
    (step : system.Step state c next emitted) (other : ι) :
    next.fetchGate = some other ↔ (next.phase other).holdsGate = true := by
  by_cases same : other = c
  · subst same
    rcases step.gate with ⟨gateEq, holdsEq⟩ | ⟨_, gateEq, holds⟩ |
      ⟨_, gateEq, free⟩
    · rw [gateEq, holdsEq]
      exact recorded.gate other
    · simp [gateEq, holds]
    · simp [gateEq, free]
  · rw [step.others same]
    rcases step.gate with ⟨gateEq, _⟩ | ⟨free, gateEq, _⟩ |
      ⟨holds, gateEq, _⟩
    · rw [gateEq]
      exact recorded.gate other
    · have noHolder := recorded.gate other
      rw [free] at noHolder
      rw [gateEq, ← noHolder]
      simp [Ne.symm same]
    · have released : (state.phase other).holdsGate ≠ true :=
        fun otherHolds => same (recorded.holder_unique holds otherHolds)
      simp [gateEq, released]

/-- A step that leaves the data, the log and the flights alone. -/
theorem step_quiet (recorded : Recorded system history state)
    (step : system.Step state c next emitted)
    (innerEq : next.inner = state.inner)
    (unlogged : ∀ event ∈ emitted, event.logged = false)
    (flightEq : (next.phase c).inFlight = (state.phase c).inFlight) :
    Recorded system (history ++ emitted) next := by
  have logEq : fetchLog (history ++ emitted) = fetchLog history := by
    rw [fetchLog_append, foldl_record_of_unlogged unlogged]
  have sameFlight : ∀ other,
      (next.phase other).inFlight = (state.phase other).inFlight := by
    intro other
    by_cases same : other = c
    · rw [same, flightEq]
    · rw [step.others same]
  constructor
  · exact recorded.gate_step step
  · intro other flight
    rw [sameFlight] at flight
    rw [logEq]
    exact recorded.inFlight other flight
  · intro quiet
    rw [logEq]
    apply recorded.settled
    intro other
    rw [← sameFlight]
    exact quiet other
  · rw [logEq]
    exact recorded.anchored
  · rw [innerEq, logEq]
    exact recorded.keys
  · rw [innerEq, logEq]
    exact recorded.fetchedAt
  · rw [innerEq, logEq]
    exact recorded.lastAttempt

/-- A claim starts a fetch on a log that is settled. -/
theorem step_claimed (recorded : Recorded system history state)
    (step : system.Step state c next emitted)
    (holds : (state.phase c).holdsGate = true)
    (noFlight : (state.phase c).inFlight = false)
    (flight : (next.phase c).inFlight = true)
    (innerEq : next.inner =
      { state.inner with lastAttempt := some (system.call c).now })
    (emittedEq : emitted = [.started c (system.call c).now]) :
    Recorded system (history ++ emitted) next := by
  have settled : (fetchLog history).Settled := by
    apply recorded.settled
    intro other
    by_cases same : other = c
    · rw [same, noFlight]
    · exact recorded.not_inFlight_of_ne holds same
  have logEq : fetchLog (history ++ emitted) =
      (fetchLog history).start c (system.call c).now := by
    rw [fetchLog_append, emittedEq]
    rfl
  constructor
  · exact recorded.gate_step step
  · intro other otherFlight
    by_cases same : other = c
    · rw [same, logEq]
      exact settled.start ..
    · rw [step.others same,
        recorded.not_inFlight_of_ne holds same] at otherFlight
      cases otherFlight
  · intro quiet
    rw [quiet c] at flight
    cases flight
  · rw [logEq]
    intro attempt member
    rcases List.mem_append.mp member with earlier | latest
    · exact recorded.anchored attempt earlier
    · rw [List.mem_singleton.mp latest]
  · rw [innerEq, logEq, Log.lastSuccess_start]
    exact recorded.keys
  · rw [innerEq, logEq, Log.lastSuccess_start]
    exact recorded.fetchedAt
  · rw [innerEq, logEq, Log.anchors_start, List.getLast?_concat]

/-- A write back finishes the fetch in flight. -/
theorem step_written {round : Round} {fetched : Except String JwkSet}
    (recorded : Recorded system history state)
    (step : system.Step state c next emitted)
    (stands : state.phase c = .writeBack round fetched)
    (noFlight : (next.phase c).inFlight = false)
    (innerEq : next.inner = (system.cache.writeBack state.inner
      (system.call c).now fetched).inner)
    (logEq : fetchLog (history ++ emitted) =
      (fetchLog history).finish c fetched) :
    Recorded system (history ++ emitted) next := by
  have flight : (state.phase c).inFlight = true := by
    rw [stands]
    rfl
  have inFlight := recorded.inFlight c flight
  have stored :
      next.inner.keys =
          (fetchLog (history ++ emitted)).lastSuccess.map Prod.snd ∧
        next.inner.fetchedAt =
          (fetchLog (history ++ emitted)).lastSuccess.map Prod.fst := by
    rw [innerEq, logEq]
    cases fetched with
    | ok set =>
        rw [inFlight.lastSuccess_finish_ok]
        exact ⟨rfl, rfl⟩
    | error error =>
        rw [inFlight.lastSuccess_finish_error,
          JwksCache.writeBack_error_inner]
        exact ⟨recorded.keys, recorded.fetchedAt⟩
  constructor
  · exact recorded.gate_step step
  · intro other otherFlight
    by_cases same : other = c
    · rw [same, noFlight] at otherFlight
      cases otherFlight
    · rw [step.others same, recorded.not_inFlight_of_ne
        (Phase.holdsGate_of_inFlight flight) same] at otherFlight
      cases otherFlight
  · intro _
    rw [logEq]
    exact inFlight.settled_finish fetched
  · rw [logEq]
    intro attempt member
    obtain ⟨before, beforeMember, ownerEq, anchorEq⟩ :=
      Log.exists_of_mem_finish member
    rw [← anchorEq, ← ownerEq]
    exact recorded.anchored before beforeMember
  · exact stored.1
  · exact stored.2
  · rw [innerEq, logEq, Log.anchors_finish,
      JwksCache.writeBack_lastAttempt]
    exact recorded.lastAttempt

theorem step (recorded : Recorded system history state)
    (step : system.Step state c next emitted) :
    Recorded system (history ++ emitted) next := by
  cases step.effect with
  | quiet innerEq unlogged flightEq =>
      exact recorded.step_quiet step innerEq unlogged flightEq
  | claimed holds noFlight flight _ innerEq emittedEq =>
      exact recorded.step_claimed step holds noFlight flight innerEq emittedEq
  | written stands noFlight innerEq emittedEq =>
      apply recorded.step_written step stands noFlight innerEq
      rw [emittedEq, fetchLog_completed]

end Recorded

/-- The runs of the machine from the fresh cache. -/
abbrev Runs (system : System ι T) (schedule : List (Action ι))
    (history : List (Event ι)) (state : State ι T) : Prop :=
  system.machine.Runs .fresh schedule history state

theorem Runs.recorded {schedule : List (Action ι)}
    {history : List (Event ι)} {state : State ι T}
    (run : system.Runs schedule history state) :
    Recorded system history state :=
  Machine.Runs.invariant recorded_fresh
    (fun _ recorded ran => recorded.step (step_of_machine ran)) run

end System

/-! ## A sample run

Two callers on a fresh cache: the first one claims the window and fetches, the
second one waits for it, finds the window closed and misses its `kid`. -/

namespace Sample

def cache : JwksCache :=
  .new "https://idp/jwks" (Duration.fromSecs 60) (Duration.fromSecs 3600)

def system : System Bool Unit where
  foreign := foreign
  cache := cache
  call second :=
    { kid := if second then "k2" else "k1"
      now := if second then 1 else 0
      f := fun key =>
        if key.kty = "EC" then .ok () else .error "unexpected kty" }

def schedule : List (Action Bool) :=
  List.replicate 3 (.run false) ++ List.replicate 3 (.run true) ++
    [.run false, .fetched false (.ok document)] ++
      List.replicate 3 (.run false) ++ List.replicate 6 (.run true)

/-- The first caller alone, up to its release of the gate. -/
def firstFetch : List (Action Bool) :=
  List.replicate 4 (.run false) ++ .fetched false (.ok document) ::
    List.replicate 2 (.run false)

theorem schedule_enabled :
    (system.machine.exec .fresh schedule).isSome = true := by
  decide +kernel

def outcome : State Bool Unit × List (Event Bool) :=
  (system.machine.exec .fresh schedule).get schedule_enabled

theorem run : system.Runs schedule outcome.2 outcome.1 :=
  .of_isSome schedule_enabled

theorem firstFetch_enabled :
    (system.machine.exec .fresh firstFetch).isSome = true := by
  decide +kernel

def cached : State Bool Unit × List (Event Bool) :=
  (system.machine.exec .fresh firstFetch).get firstFetch_enabled

theorem cachedRun : system.Runs firstFetch cached.2 cached.1 :=
  .of_isSome firstFetch_enabled

/-- The key set that the document holds. -/
def keySet : JwkSet where
  keys := [{
    kty := "EC", kid := some "k1", n := none, e := none
    crv := some "P-256", x := some x, y := some y
    keyUse := some "sig" }]

end Sample

end AuthOidc
