import AuthOidc.Cache.Storm
import AuthOidc.Library.Clocked

/-!
# When fetches really start

A window is claimed with the reading its caller took when it began, and the
fetch starts some time after that: the caller may have waited on the gate, and
nothing holds the clock still between the claim and the fetch.  Here the cache
runs beside a shared clock, with the start of a fetch as a step of its own.
-/

namespace AuthOidc

open Rust Transition Spacing

inductive LaunchAction (ι : Type) where
  /-- The caller calls the fetcher. -/
  | launch (caller : ι)
  | cache (action : Action ι)
  deriving DecidableEq

namespace LaunchAction

def caller {ι : Type} : LaunchAction ι → ι
  | launch c => c
  | cache action => action.caller

end LaunchAction

inductive LaunchEvent (ι : Type) where
  | launched (caller : ι)
  | cache (event : Event ι)
  deriving DecidableEq

/-- The cache, and the callers whose fetch is under way. -/
structure LaunchState (ι T : Type) where
  cache : State ι T
  launched : ι → Bool

namespace System

variable {ι T : Type} [DecidableEq ι] (system : System ι T)

/-- The machine of the cache with the fetch taken apart: a claimed window is
followed by the start of the fetch, and this by its return. -/
def launching :
    Machine (LaunchState ι T) (LaunchAction ι) (LaunchEvent ι) where
  step state
    | .launch c =>
        match state.cache.phase c with
        | .fetching _ =>
            if state.launched c then none
            else some ({ state with
              launched := Function.update state.launched c true },
              [.launched c])
        | _ => none
    | .cache (.run c) =>
        (system.machine.step state.cache (.run c)).map
          fun (next, emitted) =>
            ({ state with cache := next }, emitted.map .cache)
    | .cache (.fetched c body) =>
        if state.launched c then
          (system.machine.step state.cache (.fetched c body)).map
            fun (next, emitted) =>
              ({ cache := next
                 launched := Function.update state.launched c false },
                emitted.map .cache)
        else none

/-- The cache beside the clock.  Each call carries the reading taken when it
began. -/
def timed :
    Machine (Clocked ι (LaunchState ι T))
      (ClockedAction ι (LaunchAction ι)) (Instant × LaunchEvent ι) :=
  system.launching.clocked LaunchAction.caller fun c => (system.call c).now

/-- The runs beside the clock that start with a fresh cache. -/
abbrev TimedRuns (clock : Instant) :=
  system.timed.Runs (.start clock ⟨.fresh, fun _ => false⟩)

end System

def startMoment {ι : Type} : Instant × LaunchEvent ι → Option Instant
  | (moment, .launched _) => some moment
  | (_, .cache _) => none

/-- The readings of the clock at which fetches were started. -/
def startMoments {ι : Type} (history : List (Instant × LaunchEvent ι)) :
    List Instant :=
  history.filterMap startMoment

@[simp] theorem startMoments_append {ι : Type}
    (first second : List (Instant × LaunchEvent ι)) :
    startMoments (first ++ second) =
      startMoments first ++ startMoments second :=
  List.filterMap_append

/-- The cache itself starts no fetch. -/
@[simp] theorem startMoments_cache {ι : Type} (clock : Instant)
    (emitted : List (Event ι)) :
    startMoments ((emitted.map .cache).map fun event => (clock, event)) =
      [] := by
  simp [startMoments, startMoment]

/-- The rate check with the moment at which the last fetch was started in place
of the anchor. -/
def JwksCache.permitsSinceStart (self : JwksCache) (inner : Inner)
    (moments : List Instant) (now : Instant) : Bool :=
  self.permitsAttempt { inner with lastAttempt := moments.getLast? } now

variable {ι T : Type} [DecidableEq ι] {system : System ι T}

namespace System

/-- A window is claimed under the gate, after the rate check. -/
theorem claims_of_fetching {state next : State ι T} {action : Action ι}
    {emitted : List (Event ι)} {round : Round}
    (ran : system.machine.step state action = some (next, emitted))
    (fetching : next.phase action.caller = .fetching round) :
    action = .run action.caller ∧
      ∃ desperate claimed,
        state.phase action.caller = .postGate round desperate ∧
        system.cache.claimWindow system.foreign state.inner
          (system.call action.caller).now desperate =
            .proceed claimed := by
  cases action with
  | fetched c body =>
      cases step_of_machine ran with
      | fetchReturns _ _ => simp [Action.caller] at fetching
      | _ => simp_all [machine, fetchedStep, Action.caller]
  | run c =>
      dsimp only [Action.caller] at fetching ⊢
      have holds : (next.phase c).holdsGate = true := by rw [fetching]; rfl
      cases step_of_machine ran with
      | claim stands proceeds =>
          simp only [Action.caller, State.move_phase_self,
            Phase.fetching.injEq] at fetching stands
          exact ⟨rfl, _, _, fetching ▸ stands, proceeds⟩
      | snapshot _ =>
          simp [Action.caller, holdsGate_afterSnapshot] at holds
      | rateLimited _ _ | serveLoser _ | release _ =>
          simp [Action.caller, holdsGate_afterRefresh] at holds
      | lookup _ => simp [Action.caller, holdsGate_afterLookup] at holds
      | _ => simp [Action.caller] at fetching

/-- The starts so far are spaced, and a fetch about to start is due at the
reading of its caller already. -/
structure StartsSpaced (system : System ι T) (moments : List Instant)
    (state : LaunchState ι T) : Prop where
  spaced : Spaced system.cache.minRefetchInterval.nanos moments
  due : ∀ c round last, state.cache.phase c = .fetching round →
    state.launched c = false → moments.getLast? = some last →
    last + system.cache.minRefetchInterval.nanos ≤ (system.call c).now

/-- The steps of the cache and the starts of its fetches one by one. -/
inductive LaunchStep (system : System ι T) (state : LaunchState ι T) :
    LaunchAction ι → LaunchState ι T → List (LaunchEvent ι) → Prop where
  | launch {c : ι} {round : Round} :
      state.cache.phase c = .fetching round →
      state.launched c = false →
      LaunchStep system state (.launch c)
        { state with launched := Function.update state.launched c true }
        [.launched c]
  | cache {action : Action ι} {next : State ι T} {launched : ι → Bool}
      {emitted : List (Event ι)} :
      system.machine.step state.cache action = some (next, emitted) →
      (∀ c, c ≠ action.caller → launched c = state.launched c) →
      (launched action.caller = true →
        action = .run action.caller ∧
          state.launched action.caller = true) →
      LaunchStep system state (.cache action) ⟨next, launched⟩
        (emitted.map .cache)

theorem launchStep_of_step {state next : LaunchState ι T}
    {action : LaunchAction ι} {emitted : List (LaunchEvent ι)}
    (ran : system.launching.step state action = some (next, emitted)) :
    LaunchStep system state action next emitted := by
  cases action with
  | launch c =>
      simp only [launching] at ran
      split at ran
      · rename_i fetching
        split at ran
        · cases ran
        · rename_i waiting
          cases ran
          exact .launch fetching (Bool.eq_false_iff.mpr waiting)
      · cases ran
  | cache action =>
      cases action with
      | run c =>
          simp only [launching, Option.map_eq_some_iff] at ran
          obtain ⟨⟨cache, events⟩, stepped, equality⟩ := ran
          cases equality
          exact .cache stepped (fun _ _ => rfl) fun launched =>
            ⟨rfl, launched⟩
      | fetched c body =>
          simp only [launching, Option.ite_none_right_eq_some,
            Option.map_eq_some_iff] at ran
          obtain ⟨_, ⟨cache, events⟩, stepped, equality⟩ := ran
          cases equality
          refine .cache stepped
            (fun _ different => Function.update_of_ne different ..) ?_
          intro launched
          simp [Action.caller] at launched

/-- With the starts of the fetches left out a run is one of the cache. -/
theorem forget_launches {start state : LaunchState ι T}
    {schedule : List (LaunchAction ι)} {history : List (LaunchEvent ι)}
    (run : system.launching.Runs start schedule history state) :
    ∃ actions events,
      system.machine.Runs start.cache actions events state.cache := by
  induction run with
  | refl => exact ⟨[], [], .refl⟩
  | tail _ ran induction =>
      obtain ⟨actions, events, before⟩ := induction
      cases launchStep_of_step ran with
      | launch _ _ => exact ⟨actions, events, before⟩
      | cache stepped _ _ => exact ⟨_, _, before.tail stepped⟩

section Timed

variable {clock : Instant}
  {schedule : List (ClockedAction ι (LaunchAction ι))}
  {history : List (Instant × LaunchEvent ι)}
  {state : Clocked ι (LaunchState ι T)}

/-- One caller at most is between claim and return of its fetch. -/
theorem TimedRuns.fetching_unique
    (run : system.TimedRuns clock schedule history state) {c other : ι}
    {round otherRound : Round}
    (fetching : state.base.cache.phase c = .fetching round)
    (otherFetching : state.base.cache.phase other = .fetching otherRound) :
    other = c := by
  obtain ⟨_, launches⟩ := run.forget_clock
  obtain ⟨_, _, cacheRun⟩ := forget_launches launches
  apply (Runs.recorded cacheRun).inFlight_unique
  · rw [fetching]
    rfl
  · rw [otherFetching]
    rfl

/-- The caller of a fetch that was launched is between claim and return. -/
theorem TimedRuns.fetching_of_launched
    (run : system.TimedRuns clock schedule history state) {c : ι}
    (launched : state.base.launched c = true) :
    ∃ round, state.base.cache.phase c = .fetching round := by
  induction run with
  | refl => cases launched
  | tail _ ran induction =>
      cases Machine.clockedStep_of_step ran with
      | tick _ | begins _ => exact induction launched
      | act _ launches =>
          cases launchStep_of_step launches with
          | @launch other round fetching _ =>
              by_cases same : c = other
              · subst same
                exact ⟨round, fetching⟩
              · dsimp only at launched
                rw [Function.update_of_ne same] at launched
                exact induction launched
          | @cache action _ _ _ stepped others own =>
              dsimp only at launched ⊢
              by_cases same : c = action.caller
              · subst same
                -- while its fetch is out the caller has no step of its own
                obtain ⟨runs, before⟩ := own launched
                obtain ⟨round, fetching⟩ := induction before
                rw [runs] at stepped
                simp [machine, runStep, fetching] at stepped
              · rw [others c same] at launched
                rw [(step_of_machine stepped).others same]
                exact induction launched

/-- A start keeps the starts spaced, since its caller began before it. -/
theorem StartsSpaced.launch
    (run : system.TimedRuns clock schedule history state) {c : ι}
    {round : Round}
    (starts : StartsSpaced system (startMoments history) state.base)
    (fetching : state.base.cache.phase c = .fetching round)
    (waiting : state.base.launched c = false)
    (begun : state.begun c = true) :
    StartsSpaced system (startMoments history ++ [state.clock])
      { state.base with
        launched := Function.update state.base.launched c true } where
  spaced := by
    apply starts.spaced.append
    intro last isLast
    exact (starts.due c round last fetching waiting isLast).trans
      (run.reading_le_clock begun)
  due := by
    intro other otherRound last otherFetching otherWaiting _
    have same : other = c := run.fetching_unique fetching otherFetching
    simp [same] at otherWaiting

/-- A step of the cache starts no fetch, and a window is claimed for a fetch
that is due. -/
theorem StartsSpaced.cache {moments : List Instant}
    {middle : LaunchState ι T} {action : Action ι} {next : State ι T}
    {launched : ι → Bool} {emitted : List (Event ι)}
    (starts : StartsSpaced system moments middle)
    (positive : 0 < system.cache.minRefetchInterval.nanos)
    (stepped : system.machine.step middle.cache action =
      some (next, emitted))
    (others : ∀ c, c ≠ action.caller → launched c = middle.launched c)
    (faithful : ∀ c round desperate claimed, action = .run c →
      middle.cache.phase c = .postGate round desperate →
      system.cache.claimWindow system.foreign middle.cache.inner
        (system.call c).now desperate = .proceed claimed →
      system.cache.permitsSinceStart middle.cache.inner moments
        (system.call c).now = true) :
    StartsSpaced system moments ⟨next, launched⟩ where
  spaced := starts.spaced
  due := by
    intro c round last fetching waiting isLast
    by_cases same : c = action.caller
    · subst same
      obtain ⟨runs, desperate, claimed, stands, proceeds⟩ :=
        claims_of_fetching stepped fetching
      exact JwksCache.add_le_of_permitsAttempt positive
        (faithful _ round desperate claimed runs stands proceeds) isLast
    · dsimp only at fetching waiting
      rw [(step_of_machine stepped).others same] at fetching
      rw [others c same] at waiting
      exact starts.due c round last fetching waiting isLast

/-- If the action claims a window, its caller would also be permitted by the
moment at which the last fetch was started. -/
def AnchorFaithful (system : System ι T)
    (history : List (Instant × LaunchEvent ι))
    (state : Clocked ι (LaunchState ι T))
    (action : ClockedAction ι (LaunchAction ι)) : Prop :=
  ∀ c round desperate claimed, action = .act (.cache (.run c)) →
    state.base.cache.phase c = .postGate round desperate →
    system.cache.claimWindow system.foreign state.base.cache.inner
      (system.call c).now desperate = .proceed claimed →
    system.cache.permitsSinceStart state.base.cache.inner
      (startMoments history) (system.call c).now = true

theorem StartsSpaced.step {next : Clocked ι (LaunchState ι T)}
    {action : ClockedAction ι (LaunchAction ι)}
    {stamped : List (Instant × LaunchEvent ι)}
    (run : system.TimedRuns clock schedule history state)
    (starts : StartsSpaced system (startMoments history) state.base)
    (positive : 0 < system.cache.minRefetchInterval.nanos)
    (faithful : system.AnchorFaithful history state action)
    (ran : system.timed.step state action = some (next, stamped)) :
    StartsSpaced system (startMoments (history ++ stamped)) next.base := by
  cases Machine.clockedStep_of_step ran with
  | tick _ | begins _ => simpa using starts
  | act begun launches =>
      cases launchStep_of_step launches with
      | launch fetching waiting =>
          simpa [startMoments, startMoment] using
            starts.launch run fetching waiting begun
      | cache stepped others _ =>
          rw [startMoments_append, startMoments_cache, List.append_nil]
          refine starts.cache positive stepped others ?_
          intro c round desperate claimed runs stands proceeds
          exact faithful c round desperate claimed (by rw [runs]) stands
            proceeds

end Timed

end System

/-! ## Three callers on a cold cache

The second caller waits for the fetch of the first and claims its window with
a reading from before that wait; the third waits for the second in turn. -/

namespace Sample

def queue : System (Fin 3) Unit where
  foreign := foreign
  cache :=
    .new "https://idp/jwks" (Duration.fromSecs 5) (Duration.fromSecs 3600)
  call c :=
    { kid := "k1"
      now := [0, 6, 12][c] * 1000000000
      f := fun _ => .ok () }

def steps (c : Fin 3) (count : Nat) :
    List (ClockedAction (Fin 3) (LaunchAction (Fin 3))) :=
  List.replicate count (.act (.cache (.run c)))

def fails (c : Fin 3) : ClockedAction (Fin 3) (LaunchAction (Fin 3)) :=
  .act (.cache (.fetched c (.error "timeout")))

def seconds (reading : Nat) :
    ClockedAction (Fin 3) (LaunchAction (Fin 3)) :=
  .tick (reading * 1000000000)

def queueSchedule : List (ClockedAction (Fin 3) (LaunchAction (Fin 3))) :=
  .begins 0 :: steps 0 4 ++ [.act (.launch 0)] ++
    -- the second call begins while the first fetch is under way
    seconds 6 :: .begins 1 :: steps 1 3 ++
    seconds 10 :: fails 0 :: steps 0 2 ++ steps 1 2 ++ [.act (.launch 1)] ++
    -- the third one finds the anchor at the reading of the second
    seconds 12 :: .begins 2 :: steps 2 3 ++
    seconds 13 :: fails 1 :: steps 1 2 ++ steps 2 2 ++ [.act (.launch 2)]

theorem queue_enabled :
    (queue.timed.exec (.start 0 ⟨.fresh, fun _ => false⟩)
      queueSchedule).isSome = true := by
  decide +kernel

def queueOutcome : Clocked (Fin 3) (LaunchState (Fin 3) Unit) ×
    List (Instant × LaunchEvent (Fin 3)) :=
  (queue.timed.exec (.start 0 ⟨.fresh, fun _ => false⟩) queueSchedule).get
    queue_enabled

theorem queueRun :
    queue.TimedRuns 0 queueSchedule queueOutcome.2 queueOutcome.1 :=
  .of_isSome queue_enabled

theorem queueMoments :
    startMoments queueOutcome.2 = [0, 10000000000, 13000000000] := by
  decide +kernel

/-- That schedule before the third caller claims its window. -/
def queuedSchedule : List (ClockedAction (Fin 3) (LaunchAction (Fin 3))) :=
  queueSchedule.take (queueSchedule.length - 2)

theorem queued_enabled :
    (queue.timed.exec (.start 0 ⟨.fresh, fun _ => false⟩)
      queuedSchedule).isSome = true := by
  decide +kernel

def queuedOutcome : Clocked (Fin 3) (LaunchState (Fin 3) Unit) ×
    List (Instant × LaunchEvent (Fin 3)) :=
  (queue.timed.exec (.start 0 ⟨.fresh, fun _ => false⟩) queuedSchedule).get
    queued_enabled

theorem queuedRun :
    queue.TimedRuns 0 queuedSchedule queuedOutcome.2 queuedOutcome.1 :=
  .of_isSome queued_enabled

/-- The anchor permits the third caller, the last start does not. -/
theorem queued_unfaithful :
    ¬ queue.AnchorFaithful queuedOutcome.2 queuedOutcome.1
      (.act (.cache (.run 2))) := by
  intro faithful
  have stands : queuedOutcome.1.base.cache.phase 2 =
      .postGate .first true := by
    decide +kernel
  have proceeds : queue.cache.claimWindow queue.foreign
      queuedOutcome.1.base.cache.inner (queue.call 2).now true =
        .proceed { queuedOutcome.1.base.cache.inner with
          lastAttempt := some (queue.call 2).now } := by
    have permitted : queue.cache.permitsAttempt
        queuedOutcome.1.base.cache.inner (queue.call 2).now = true := by
      decide +kernel
    have cold : queuedOutcome.1.base.cache.inner.keys.isSome = false := by
      decide +kernel
    simp [JwksCache.claimWindow, permitted, cold]
  have early : queue.cache.permitsSinceStart
      queuedOutcome.1.base.cache.inner (startMoments queuedOutcome.2)
        (queue.call 2).now = false := by
    decide +kernel
  have permitted := faithful 2 _ _ _ rfl stands proceeds
  rw [early] at permitted
  cases permitted

/-- The first two callers, each with a fetch that starts at once. -/
def promptSchedule :
    List (ClockedAction (Fin 3) (LaunchAction (Fin 3))) :=
  .begins 0 :: steps 0 4 ++ .act (.launch 0) :: fails 0 :: steps 0 2 ++
    seconds 6 :: .begins 1 :: steps 1 4 ++ [.act (.launch 1)]

theorem prompt_enabled :
    (queue.timed.exec (.start 0 ⟨.fresh, fun _ => false⟩)
      promptSchedule).isSome = true := by
  decide +kernel

def promptOutcome : Clocked (Fin 3) (LaunchState (Fin 3) Unit) ×
    List (Instant × LaunchEvent (Fin 3)) :=
  (queue.timed.exec (.start 0 ⟨.fresh, fun _ => false⟩) promptSchedule).get
    prompt_enabled

theorem promptRun :
    queue.TimedRuns 0 promptSchedule promptOutcome.2 promptOutcome.1 :=
  .of_isSome prompt_enabled

/-- In that run the last start permits every caller that the anchor permits. -/
theorem prompt_faithful : ∀ count < promptSchedule.length, ∀ c : Fin 3,
    ∀ outcome ∈ queue.timed.exec (.start 0 ⟨.fresh, fun _ => false⟩)
        (promptSchedule.take count),
      queue.cache.permitsAttempt outcome.1.base.cache.inner
        (queue.call c).now = true →
      queue.cache.permitsSinceStart outcome.1.base.cache.inner
        (startMoments outcome.2) (queue.call c).now = true := by
  decide +kernel

end Sample

namespace System

variable {clock : Instant}
  {schedule : List (ClockedAction ι (LaunchAction ι))}
  {history : List (Instant × LaunchEvent ι)}
  {state : Clocked ι (LaunchState ι T)}

/-- A caller under the gate claims its window and launches its fetch at
once. -/
theorem TimedRuns.claim_and_launch
    (run : system.TimedRuns clock schedule history state) {c : ι}
    {round : Round} {desperate : Bool} {claimed : Inner}
    (begun : state.begun c = true)
    (stands : state.base.cache.phase c = .postGate round desperate)
    (proceeds : system.cache.claimWindow system.foreign
      state.base.cache.inner (system.call c).now desperate =
        .proceed claimed) :
    ∃ laterHistory later, system.TimedRuns clock
        (schedule ++ [.act (.cache (.run c)), .act (.launch c)])
        laterHistory later ∧
      startMoments laterHistory = startMoments history ++ [state.clock] := by
  have waiting : state.base.launched c = false := by
    rw [Bool.eq_false_iff]
    intro launched
    obtain ⟨_, fetching⟩ := run.fetching_of_launched launched
    rw [stands] at fetching
    cases fetching
  let fetching : State ι T :=
    { state.base.cache.move c (.fetching round) with inner := claimed }
  have claims : system.timed.step state (.act (.cache (.run c))) = some
      ({ state with base := ⟨fetching, state.base.launched⟩ },
        [(state.clock, .cache (.started c (system.call c).now))]) := by
    simp [timed, Machine.clocked, launching, machine, runStep,
      LaunchAction.caller, Action.caller, begun, stands, proceeds, fetching]
  have launches : system.timed.step
      { state with base := ⟨fetching, state.base.launched⟩ }
      (.act (.launch c)) = some
      ({ state with base :=
          ⟨fetching, Function.update state.base.launched c true⟩ },
        [(state.clock, .launched c)]) := by
    simp [timed, Machine.clocked, launching, LaunchAction.caller, begun,
      waiting, fetching]
  have extended := (Machine.Runs.tail run claims).tail launches
  rw [List.append_assoc, List.append_assoc] at extended
  refine ⟨_, _, extended, ?_⟩
  rw [startMoments_append]
  rfl

/-- While every window is claimed against a faithful anchor, the moments at
which fetches are started lie at least an interval apart.  A claim against an
anchor that is not, made within an interval of the last start, can be followed
by a start that comes too early. -/
theorem TimedRuns.starts_spaced
    (run : system.TimedRuns clock schedule history state)
    (positive : 0 < system.cache.minRefetchInterval.nanos) :
    ((∀ earlier earlierHistory middle action,
        earlier ++ [action] <+: schedule →
        system.TimedRuns clock earlier earlierHistory middle →
        system.AnchorFaithful earlierHistory middle action) →
      Spaced system.cache.minRefetchInterval.nanos
        (startMoments history)) ∧
    ∀ c last, state.begun c = true →
      ¬ system.AnchorFaithful history state (.act (.cache (.run c))) →
      (startMoments history).getLast? = some last →
      state.clock < last + system.cache.minRefetchInterval.nanos →
      ∃ laterHistory later, system.TimedRuns clock
          (schedule ++ [.act (.cache (.run c)), .act (.launch c)])
          laterHistory later ∧
        ¬ Spaced system.cache.minRefetchInterval.nanos
          (startMoments laterHistory) := by
  constructor
  · intro faithful
    have starts : StartsSpaced system (startMoments history) state.base :=
      Machine.Runs.invariant_steps system.AnchorFaithful
        (fun history middle =>
          StartsSpaced system (startMoments history) middle.base)
        ⟨spaced_nil _, fun _ _ _ fetching => by cases fetching⟩
        (fun before starts faithful ran =>
          starts.step before positive faithful ran) run faithful
    exact starts.spaced
  · intro c last begun unfaithful isLast soon
    simp only [AnchorFaithful, not_forall] at unfaithful
    obtain ⟨_, round, desperate, claimed, same, stands, proceeds, _⟩ :=
      unfaithful
    cases same
    obtain ⟨laterHistory, later, extended, moments⟩ :=
      run.claim_and_launch begun stands proceeds
    refine ⟨laterHistory, later, extended, fun spaced => ?_⟩
    rw [moments, spaced_append_singleton] at spaced
    exact absurd (spaced.2 last (List.mem_of_getLast? isLast))
      (Nat.not_le.mpr soon)

theorem TimedRuns.starts_spaced_sample :
    Spaced (5 * 1000000000) (startMoments Sample.promptOutcome.2) ∧
      ∃ laterHistory later,
        Sample.queue.TimedRuns 0 (Sample.queuedSchedule ++
          [.act (.cache (.run 2)), .act (.launch 2)]) laterHistory later ∧
        ¬ Spaced (5 * 1000000000) (startMoments laterHistory) := by
  constructor
  · refine (TimedRuns.starts_spaced Sample.promptRun (by decide)).1 ?_
    intro earlier earlierHistory middle action isPrefix reached c _ _ _ _ _
      proceeds
    have front : earlier <+: Sample.promptSchedule :=
      (List.prefix_append _ _).trans isPrefix
    have shorter : earlier.length < Sample.promptSchedule.length := by
      have bound := isPrefix.length_le
      rw [List.length_append, List.length_singleton] at bound
      exact bound
    have replayed := reached.exec_eq
    rw [List.prefix_iff_eq_take.mp front] at replayed
    obtain ⟨_, permitted⟩ := JwksCache.claimWindow_proceed proceeds
    exact Sample.prompt_faithful earlier.length shorter c _ replayed permitted
  · exact (TimedRuns.starts_spaced Sample.queuedRun (by decide)).2 2
      10000000000 (by decide +kernel) Sample.queued_unfaithful
      (by decide +kernel) (by decide +kernel)

end System

namespace Sample

/-- The second and the third fetch start three seconds apart, under an interval
of five. -/
theorem starts_within_interval :
    ¬ ∀ (system : System (Fin 3) Unit) clock schedule history state,
      0 < system.cache.minRefetchInterval.nanos →
      system.TimedRuns clock schedule history state →
      Spaced system.cache.minRefetchInterval.nanos
        (startMoments history) := by
  intro bounded
  have spaced := bounded queue 0 _ _ _ (by decide) queueRun
  rw [queueMoments] at spaced
  have apart := List.rel_of_pairwise_cons (List.Pairwise.of_cons spaced)
    (List.mem_cons_self (a := 13000000000))
  revert apart
  decide

end Sample

end AuthOidc
