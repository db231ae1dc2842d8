import Mathlib.Logic.Function.Basic
import AuthOidc.Cache
import AuthOidc.Library.Transition

/-!
# The cache under concurrent callers

Every call of `with_key` is a caller with its own program counter.  A step
runs one section of one caller: a section under the data lock, an operation on
the fetch gate, the return of a fetch, or a lookup, which holds no lock.  What
the callers do in between is left to the schedule.

The recovery from a poisoned lock takes the lock all the same, so it needs no
step of its own.
-/

namespace AuthOidc

open Rust Transition

/-- The two places where `with_key` calls `refresh`. -/
inductive Round where
  | first
  | second
  deriving DecidableEq

/-- Where a caller stands in `with_key`. -/
inductive Phase (T : Type) where
  | snapshot
  /-- About to check the rate limit of `refresh`. -/
  | rateCheck (round : Round) (wait : Bool)
  | tryGate (round : Round) (desperate : Bool)
  /-- The gate was taken and the caller does not wait. -/
  | lostRace (round : Round)
  | waitGate (round : Round)
  /-- Holding the gate, before the section under it. -/
  | postGate (round : Round) (desperate : Bool)
  | fetching (round : Round)
  | writeBack (round : Round) (fetched : Except String JwkSet)
  | releaseGate (round : Round) (refreshed : Refreshed)
  | lookup (round : Round) (set : JwkSet)
  | done (result : Except String T)
  deriving DecidableEq

namespace Phase

variable {T : Type}

def holdsGate : Phase T → Bool
  | postGate _ _ | fetching _ | writeBack _ _ | releaseGate _ _ => true
  | _ => false

/-- The window is claimed and the outcome not yet written back. -/
def inFlight : Phase T → Bool
  | fetching _ | writeBack _ _ => true
  | _ => false

theorem holdsGate_of_inFlight {phase : Phase T}
    (inFlight : phase.inFlight = true) : phase.holdsGate = true := by
  cases phase <;> simp_all [Phase.inFlight, holdsGate]

theorem inFlight_eq_false {phase : Phase T}
    (noGate : phase.holdsGate = false) : phase.inFlight = false := by
  cases phase <;> simp_all [Phase.inFlight, holdsGate]

end Phase

structure State (ι T : Type) where
  inner : Inner
  fetchGate : Option ι
  phase : ι → Phase T

namespace State

variable {ι T : Type}

/-- A fresh cache on which no call has begun. -/
def fresh : State ι T where
  inner := .new
  fetchGate := none
  phase := fun _ => .snapshot

variable [DecidableEq ι]

/-- One caller moves on; all the rest of the state stays. -/
def move (state : State ι T) (caller : ι) (phase : Phase T) : State ι T :=
  { state with phase := Function.update state.phase caller phase }

variable (state : State ι T) (caller : ι) (phase : Phase T)

@[simp] theorem move_inner : (state.move caller phase).inner = state.inner :=
  rfl

@[simp] theorem move_fetchGate :
    (state.move caller phase).fetchGate = state.fetchGate := rfl

@[simp] theorem move_phase_self :
    (state.move caller phase).phase caller = phase :=
  Function.update_self ..

theorem move_phase_of_ne {other : ι} (different : other ≠ caller) :
    (state.move caller phase).phase other = state.phase other :=
  Function.update_of_ne different ..

end State

inductive Action (ι : Type) where
  | run (caller : ι)
  /-- The fetch of the caller returns a body or an error. -/
  | fetched (caller : ι) (body : Except String String)
  deriving DecidableEq

inductive Event (ι : Type) where
  | started (caller : ι) (anchor : Instant)
  | returned (caller : ι) (body : Except String String)
  | completed (caller : ι) (outcome : Except String JwkSet)
  | warned (caller : ι) (error : String)
  | refreshed (caller : ι) (refreshed : Refreshed)
  | invoked (caller : ι) (set : JwkSet) (key : Jwk)
  deriving DecidableEq

/-- A cache and the calls made on it. -/
structure System (ι T : Type) where
  foreign : Foreign
  cache : JwksCache
  call : ι → Call T

namespace System

variable {ι T : Type} (system : System ι T)

/-- `with_key` after its snapshot.  Keys past the ceiling are treated exactly
like a cold cache. -/
def afterSnapshot (snapshot : Option JwkSet × Bool × Bool) : Phase T :=
  let (keys, stale, expired) := snapshot
  match if expired then none else keys with
  | none => .rateCheck .first true
  | some set =>
      if stale then .rateCheck .first false else .lookup .first set

/-- `with_key` after a `refresh`. -/
def afterRefresh (caller : ι) (round : Round) (refreshed : Refreshed) :
    Phase T :=
  match refreshed, round with
  | .error e, _ => .done (.error e)
  | .ok none, .first => .done (.error system.cache.neverFetchedError)
  | .ok none, .second =>
      .done (.error (JwksCache.unknownKidError system.foreign
        (system.call caller).kid))
  | .ok (some set), round => .lookup round set

/-- `with_key` after a lookup. -/
def afterLookup (caller : ι) (round : Round) (set : JwkSet) : Phase T :=
  match JwksCache.tryAll set (system.call caller).kid
      (system.call caller).f, round with
  | some result, _ => .done result
  | none, .first => .rateCheck .second false
  | none, .second =>
      .done (.error (JwksCache.unknownKidError system.foreign
        (system.call caller).kid))

/-- The keys of `set` on which a lookup of the caller invokes its closure. -/
def invocations (caller : ι) (set : JwkSet) : List (Event ι) :=
  (triedKeys (system.call caller).f
    (set.findAll (system.call caller).kid)).map (.invoked caller set)

section Snapshot

variable (cache : JwksCache) {inner : Inner} (now : Instant)

theorem afterSnapshot_of_cold (cold : inner.keys = none) :
    (afterSnapshot (cache.snapshot inner now) : Phase T) =
      .rateCheck .first true := by
  simp [afterSnapshot, JwksCache.snapshot, cold]

theorem afterSnapshot_of_fetched {set : JwkSet} {fetchedAt : Instant}
    (keys : inner.keys = some set)
    (fetched : inner.fetchedAt = some fetchedAt) :
    (afterSnapshot (cache.snapshot inner now) : Phase T) =
      if cache.maxStale ≤ now.saturatingDurationSince fetchedAt then
        .rateCheck .first true
      else if cache.ttl ≤ now.saturatingDurationSince fetchedAt then
        .rateCheck .first false
      else .lookup .first set := by
  by_cases expired : cache.maxStale ≤ now.saturatingDurationSince fetchedAt
  · simp [afterSnapshot, JwksCache.snapshot, keys, fetched, expired]
  · simp [afterSnapshot, JwksCache.snapshot, keys, fetched, expired]

/-- With a set within the ceiling the caller has something to serve; without
one it is treated like a caller on a cold cache. -/
theorem afterSnapshot_cases (paired : inner.Paired) :
    (∃ set, cache.Serves inner now set ∧
      ((afterSnapshot (cache.snapshot inner now) : Phase T) =
          .rateCheck .first false ∨
        (afterSnapshot (cache.snapshot inner now) : Phase T) =
          .lookup .first set)) ∨
      ((∀ set, ¬ cache.Serves inner now set) ∧
        (afterSnapshot (cache.snapshot inner now) : Phase T) =
          .rateCheck .first true) := by
  cases keys : inner.keys with
  | none =>
      refine .inr ⟨?_, afterSnapshot_of_cold cache now keys⟩
      intro set serves
      rw [serves.1] at keys
      cases keys
  | some set =>
      obtain ⟨fetchedAt, fetched⟩ := paired.exists_fetchedAt keys
      rw [afterSnapshot_of_fetched cache now keys fetched]
      by_cases expired :
          cache.maxStale ≤ now.saturatingDurationSince fetchedAt
      · refine .inr ⟨?_, if_pos expired⟩
        intro other serves
        obtain ⟨_, otherAt, otherFetched, within⟩ := serves
        rw [fetched, Option.some.injEq] at otherFetched
        rw [← otherFetched] at within
        exact Duration.not_le.mpr within expired
      · refine .inl ⟨set, ⟨keys, fetchedAt, fetched,
          Duration.not_le.mp expired⟩, ?_⟩
        rw [if_neg expired]
        by_cases stale : cache.ttl ≤ now.saturatingDurationSince fetchedAt
        · exact .inl (if_pos stale)
        · exact .inr (if_neg stale)

end Snapshot

theorem holdsGate_afterSnapshot (snapshot : Option JwkSet × Bool × Bool) :
    (afterSnapshot snapshot : Phase T).holdsGate = false := by
  unfold afterSnapshot
  dsimp only
  split
  · rfl
  · split <;> rfl

theorem holdsGate_afterRefresh (c : ι) (round : Round)
    (refreshed : Refreshed) :
    (system.afterRefresh c round refreshed).holdsGate = false := by
  unfold afterRefresh
  split <;> rfl

theorem holdsGate_afterLookup (c : ι) (round : Round) (set : JwkSet) :
    (system.afterLookup c round set).holdsGate = false := by
  unfold afterLookup
  split <;> rfl

theorem afterLookup_of_some {c : ι} {round : Round} {set : JwkSet}
    {result : Except String T}
    (tried : JwksCache.tryAll set (system.call c).kid
      (system.call c).f = some result) :
    system.afterLookup c round set = .done result := by
  unfold afterLookup
  rw [tried]

theorem afterLookup_first_of_none {c : ι} {set : JwkSet}
    (tried : JwksCache.tryAll set (system.call c).kid
      (system.call c).f = none) :
    system.afterLookup c .first set = .rateCheck .second false := by
  unfold afterLookup
  rw [tried]

/-- The second lookup is the last word. -/
theorem afterLookup_second (c : ι) (set : JwkSet) :
    system.afterLookup c .second set =
      .done (JwksCache.resultOn system.foreign (system.call c) set) := by
  unfold afterLookup JwksCache.resultOn
  cases JwksCache.tryAll set (system.call c).kid (system.call c).f <;> rfl

variable [DecidableEq ι]

def runStep (state : State ι T) (c : ι) :
    Option (State ι T × List (Event ι)) :=
  let now := (system.call c).now
  match state.phase c with
  | .snapshot =>
      some (state.move c
        (afterSnapshot (system.cache.snapshot state.inner now)), [])
  | .rateCheck round wait =>
      match system.cache.checkRate system.foreign state.inner now wait with
      | .leave refreshed =>
          some (state.move c (system.afterRefresh c round refreshed),
            [.refreshed c refreshed])
      | .proceed desperate =>
          some (state.move c (.tryGate round desperate), [])
  | .tryGate round desperate =>
      match state.fetchGate with
      | none =>
          some ({ state.move c (.postGate round desperate) with
            fetchGate := some c }, [])
      | some _ =>
          if desperate then some (state.move c (.waitGate round), [])
          else some (state.move c (.lostRace round), [])
  | .lostRace round =>
      let refreshed :=
        system.cache.serveWithinCeiling system.foreign state.inner now
      some (state.move c (system.afterRefresh c round refreshed),
        [.refreshed c refreshed])
  | .waitGate round =>
      match state.fetchGate with
      | none =>
          some ({ state.move c (.postGate round true) with
            fetchGate := some c }, [])
      | some _ => none
  | .postGate round desperate =>
      match system.cache.claimWindow system.foreign state.inner now
          desperate with
      | .leave refreshed =>
          some (state.move c (.releaseGate round refreshed), [])
      | .proceed claimed =>
          some ({ state.move c (.fetching round) with inner := claimed },
            [.started c now])
  | .fetching _ => none
  | .writeBack round fetched =>
      let written := system.cache.writeBack state.inner now fetched
      some ({ state.move c (.releaseGate round written.refreshed) with
          inner := written.inner },
        .completed c fetched :: (written.warned.map (.warned c)).toList)
  | .releaseGate round refreshed =>
      some ({ state.move c (system.afterRefresh c round refreshed) with
          fetchGate := none },
        [.refreshed c refreshed])
  | .lookup round set =>
      some (state.move c (system.afterLookup c round set),
        system.invocations c set)
  | .done _ => none

def fetchedStep (state : State ι T) (c : ι) (body : Except String String) :
    Option (State ι T × List (Event ι)) :=
  match state.phase c with
  | .fetching round =>
      some (state.move c
          (.writeBack round (body.bind (JwkSet.parse system.foreign))),
        [.returned c body])
  | _ => none

def machine : Machine (State ι T) (Action ι) (Event ι) where
  step state action :=
    match action with
    | .run c => system.runStep state c
    | .fetched c body => system.fetchedStep state c body

/-- The steps of `machine` one by one, with what each of them requires. -/
inductive Step (state : State ι T) :
    ι → State ι T → List (Event ι) → Prop where
  | snapshot {c : ι} :
      state.phase c = .snapshot →
      Step state c (state.move c (afterSnapshot
        (system.cache.snapshot state.inner (system.call c).now))) []
  | rateLimited {c : ι} {round : Round} {wait : Bool}
      {refreshed : Refreshed} :
      state.phase c = .rateCheck round wait →
      system.cache.checkRate system.foreign state.inner
        (system.call c).now wait = .leave refreshed →
      Step state c (state.move c (system.afterRefresh c round refreshed))
        [.refreshed c refreshed]
  | admitted {c : ι} {round : Round} {wait desperate : Bool} :
      state.phase c = .rateCheck round wait →
      system.cache.checkRate system.foreign state.inner
        (system.call c).now wait = .proceed desperate →
      Step state c (state.move c (.tryGate round desperate)) []
  | takeGate {c : ι} {round : Round} {desperate : Bool} :
      state.phase c = .tryGate round desperate →
      state.fetchGate = none →
      Step state c { state.move c (.postGate round desperate) with
        fetchGate := some c } []
  | queue {c holder : ι} {round : Round} :
      state.phase c = .tryGate round true →
      state.fetchGate = some holder →
      Step state c (state.move c (.waitGate round)) []
  | loseRace {c holder : ι} {round : Round} :
      state.phase c = .tryGate round false →
      state.fetchGate = some holder →
      Step state c (state.move c (.lostRace round)) []
  | serveLoser {c : ι} {round : Round} :
      state.phase c = .lostRace round →
      Step state c (state.move c (system.afterRefresh c round
          (system.cache.serveWithinCeiling system.foreign state.inner
            (system.call c).now)))
        [.refreshed c (system.cache.serveWithinCeiling system.foreign
          state.inner (system.call c).now)]
  | wake {c : ι} {round : Round} :
      state.phase c = .waitGate round →
      state.fetchGate = none →
      Step state c { state.move c (.postGate round true) with
        fetchGate := some c } []
  | satisfied {c : ι} {round : Round} {desperate : Bool}
      {refreshed : Refreshed} :
      state.phase c = .postGate round desperate →
      system.cache.claimWindow system.foreign state.inner
        (system.call c).now desperate = .leave refreshed →
      Step state c (state.move c (.releaseGate round refreshed)) []
  | claim {c : ι} {round : Round} {desperate : Bool} {claimed : Inner} :
      state.phase c = .postGate round desperate →
      system.cache.claimWindow system.foreign state.inner
        (system.call c).now desperate = .proceed claimed →
      Step state c { state.move c (.fetching round) with inner := claimed }
        [.started c (system.call c).now]
  | fetchReturns {c : ι} {round : Round} (body : Except String String) :
      state.phase c = .fetching round →
      Step state c (state.move c (.writeBack round
        (body.bind (JwkSet.parse system.foreign)))) [.returned c body]
  | writeBack {c : ι} {round : Round} {fetched : Except String JwkSet}
      {written : WrittenBack} :
      state.phase c = .writeBack round fetched →
      system.cache.writeBack state.inner (system.call c).now fetched =
        written →
      Step state c
        { state.move c (.releaseGate round written.refreshed) with
          inner := written.inner }
        (.completed c fetched :: (written.warned.map (.warned c)).toList)
  | release {c : ι} {round : Round} {refreshed : Refreshed} :
      state.phase c = .releaseGate round refreshed →
      Step state c { state.move c (system.afterRefresh c round refreshed) with
        fetchGate := none } [.refreshed c refreshed]
  | lookup {c : ι} {round : Round} {set : JwkSet} :
      state.phase c = .lookup round set →
      Step state c (state.move c (system.afterLookup c round set))
        (system.invocations c set)

end System

namespace Action

/-- The caller that an action belongs to. -/
def caller {ι : Type} : Action ι → ι
  | run c => c
  | fetched c _ => c

end Action

namespace System

variable {ι T : Type} {system : System ι T} [DecidableEq ι]

theorem step_of_runStep {state next : State ι T} {c : ι}
    {emitted : List (Event ι)}
    (ran : system.runStep state c = some (next, emitted)) :
    system.Step state c next emitted := by
  unfold runStep at ran
  cases stands : state.phase c with
  | snapshot =>
      simp only [stands, Option.some.injEq, Prod.mk.injEq] at ran
      obtain ⟨rfl, rfl⟩ := ran
      exact .snapshot stands
  | rateCheck round wait =>
      simp only [stands] at ran
      split at ran
      · rename_i left
        cases ran
        exact .rateLimited stands left
      · rename_i proceeds
        cases ran
        exact .admitted stands proceeds
  | tryGate round desperate =>
      simp only [stands] at ran
      split at ran
      · rename_i free
        cases ran
        exact .takeGate stands free
      · rename_i taken
        cases desperate with
        | true =>
            cases ran
            exact .queue stands taken
        | false =>
            cases ran
            exact .loseRace stands taken
  | lostRace round =>
      simp only [stands, Option.some.injEq, Prod.mk.injEq] at ran
      obtain ⟨rfl, rfl⟩ := ran
      exact .serveLoser stands
  | waitGate round =>
      simp only [stands] at ran
      split at ran
      · rename_i free
        cases ran
        exact .wake stands free
      · cases ran
  | postGate round desperate =>
      simp only [stands] at ran
      split at ran
      · rename_i left
        cases ran
        exact .satisfied stands left
      · rename_i proceeds
        cases ran
        exact .claim stands proceeds
  | fetching round => simp [stands] at ran
  | writeBack round fetched =>
      simp only [stands, Option.some.injEq, Prod.mk.injEq] at ran
      obtain ⟨rfl, rfl⟩ := ran
      exact .writeBack stands rfl
  | releaseGate round refreshed =>
      simp only [stands, Option.some.injEq, Prod.mk.injEq] at ran
      obtain ⟨rfl, rfl⟩ := ran
      exact .release stands
  | lookup round set =>
      simp only [stands, Option.some.injEq, Prod.mk.injEq] at ran
      obtain ⟨rfl, rfl⟩ := ran
      exact .lookup stands
  | done result => simp [stands] at ran

/-- Every step of the machine is one of the named steps. -/
theorem step_of_machine {state next : State ι T} {action : Action ι}
    {emitted : List (Event ι)}
    (ran : system.machine.step state action = some (next, emitted)) :
    system.Step state action.caller next emitted := by
  cases action with
  | run c => exact step_of_runStep ran
  | fetched c body =>
      change system.fetchedStep state c body = some (next, emitted) at ran
      unfold fetchedStep at ran
      split at ran
      · rename_i fetching
        cases ran
        exact .fetchReturns body fetching
      · cases ran

/-- Every named step is a step of the machine. -/
theorem machine_of_step {state next : State ι T} {c : ι}
    {emitted : List (Event ι)} (step : system.Step state c next emitted) :
    ∃ action : Action ι, action.caller = c ∧
      system.machine.step state action = some (next, emitted) := by
  cases step with
  | fetchReturns body stands =>
      exact ⟨.fetched c body, rfl, by simp [machine, fetchedStep, stands]⟩
  | writeBack stands written =>
      subst written
      exact ⟨.run c, rfl, by simp [machine, runStep, stands]⟩
  | _ =>
      refine ⟨.run c, rfl, ?_⟩
      simp_all [machine, runStep]

theorem Step.others {state next : State ι T} {c other : ι}
    {emitted : List (Event ι)} (step : system.Step state c next emitted)
    (different : other ≠ c) : next.phase other = state.phase other := by
  cases step <;> exact State.move_phase_of_ne _ _ _ different

/-! Phases with a single way on. -/

theorem Step.of_fetching {state next : State ι T} {c : ι}
    {emitted : List (Event ι)} {round : Round}
    (step : system.Step state c next emitted)
    (stands : state.phase c = .fetching round) :
    ∃ body : Except String String, next.phase c =
      .writeBack round (body.bind (JwkSet.parse system.foreign)) := by
  cases step with
  | fetchReturns body fetching =>
      rw [stands] at fetching
      cases fetching
      exact ⟨body, State.move_phase_self ..⟩
  | _ => simp_all

theorem Step.of_writeBack {state next : State ι T} {c : ι}
    {emitted : List (Event ι)} {round : Round}
    {fetched : Except String JwkSet}
    (step : system.Step state c next emitted)
    (stands : state.phase c = .writeBack round fetched) :
    next.phase c = .releaseGate round (system.cache.writeBack state.inner
      (system.call c).now fetched).refreshed := by
  cases step with
  | writeBack writes written =>
      subst written
      rw [stands] at writes
      cases writes
      exact State.move_phase_self ..
  | _ => simp_all

theorem Step.of_releaseGate {state next : State ι T} {c : ι}
    {emitted : List (Event ι)} {round : Round} {refreshed : Refreshed}
    (step : system.Step state c next emitted)
    (stands : state.phase c = .releaseGate round refreshed) :
    next.phase c = system.afterRefresh c round refreshed := by
  cases step with
  | release releases =>
      rw [stands] at releases
      cases releases
      exact State.move_phase_self ..
  | _ => simp_all

theorem Step.of_lookup {state next : State ι T} {c : ι}
    {emitted : List (Event ι)} {round : Round} {set : JwkSet}
    (step : system.Step state c next emitted)
    (stands : state.phase c = .lookup round set) :
    next.phase c = system.afterLookup c round set := by
  cases step with
  | lookup looks =>
      rw [stands] at looks
      cases looks
      exact State.move_phase_self ..
  | _ => simp_all

theorem Step.not_done {state next : State ι T} {c : ι}
    {emitted : List (Event ι)} {result : Except String T}
    (step : system.Step state c next emitted) :
    state.phase c ≠ .done result := by
  intro finished
  cases step <;> simp_all

end System

end AuthOidc
