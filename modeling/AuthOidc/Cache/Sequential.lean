import AuthOidc.Cache.Machine

/-!
# One call at a time

`with_key` and `refresh` as functions on the data, for a call that no other
call runs next to: the gate is free then.  The fetcher is stateful, so what a
fetch returns may depend on everything that happened before.  The machine
takes the same steps when the caller is scheduled alone.
-/

namespace AuthOidc

open Rust Transition

structure Fetcher (World : Type) where
  fetch : World → String → Except String String × World

namespace JwksCache

variable {World T : Type} (foreign : Foreign) (self : JwksCache)
  (fetcher : Fetcher World)

/-- `refresh` from the acquired gate on. -/
def underGate (now : Instant) (desperate : Bool) (inner : Inner)
    (world : World) : Refreshed × Inner × World :=
  match self.claimWindow foreign inner now desperate with
  | .leave refreshed => (refreshed, inner, world)
  | .proceed claimed =>
      let (body, after) := fetcher.fetch world self.url
      let written := self.writeBack claimed now
        (body.bind (JwkSet.parse foreign))
      (written.refreshed, written.inner, after)

def refresh (now : Instant) (wait : Bool) (inner : Inner) (world : World) :
    Refreshed × Inner × World :=
  match self.checkRate foreign inner now wait with
  | .leave refreshed => (refreshed, inner, world)
  | .proceed desperate =>
      self.underGate foreign fetcher now desperate inner world

/-- The lookup after the rotation refetch. -/
def retry (call : Call T) (inner : Inner) (world : World) :
    Except String T × Inner × World :=
  match self.refresh foreign fetcher call.now false inner world with
  | (.error e, after) => (.error e, after)
  | (.ok none, after) => (.error (unknownKidError foreign call.kid), after)
  | (.ok (some set), after) => (resultOn foreign call set, after)

/-- `with_key` once it has ensured a key set, or failed to. -/
def withEnsured (call : Call T) (ensured : Refreshed) (inner : Inner)
    (world : World) : Except String T × Inner × World :=
  match ensured with
  | .error e => (.error e, inner, world)
  | .ok none => (.error self.neverFetchedError, inner, world)
  | .ok (some set) =>
      match tryAll set call.kid call.f with
      | some result => (result, inner, world)
      | none => self.retry foreign fetcher call inner world

def withKey (call : Call T) (inner : Inner) (world : World) :
    Except String T × Inner × World :=
  let (cached, stale, expired) := self.snapshot inner call.now
  let keys := if expired then none else cached
  if keys.isNone || stale then
    let (ensured, inner, world) :=
      self.refresh foreign fetcher call.now keys.isNone inner world
    self.withEnsured foreign fetcher call ensured inner world
  else self.withEnsured foreign fetcher call (.ok keys) inner world

end JwksCache

variable {ι T World : Type} [DecidableEq ι]

namespace System

variable {system : System ι T}

/-- The machine goes from `state` to `final` by steps of one caller. -/
def Alone (system : System ι T) (c : ι) (state final : State ι T) : Prop :=
  ∃ schedule history, system.machine.Runs state schedule history final ∧
    (∀ action ∈ schedule, action.caller = c) ∧
    ∀ other, other ≠ c → final.phase other = state.phase other

theorem Alone.refl {c : ι} {state : State ι T} :
    system.Alone c state state :=
  ⟨[], [], .refl, by simp, fun _ _ => rfl⟩

theorem Alone.trans {c : ι} {state middle final : State ι T}
    (first : system.Alone c state middle)
    (second : system.Alone c middle final) : system.Alone c state final := by
  obtain ⟨schedule, history, run, own, others⟩ := first
  obtain ⟨later, laterHistory, laterRun, laterOwn, laterOthers⟩ := second
  refine ⟨_, _, run.trans laterRun, ?_, ?_⟩
  · intro action member
    rcases List.mem_append.mp member with earlier | afterwards
    · exact own action earlier
    · exact laterOwn action afterwards
  · intro other different
    rw [laterOthers other different, others other different]

theorem Step.alone {c : ι} {state next : State ι T}
    {emitted : List (Event ι)} (step : system.Step state c next emitted) :
    system.Alone c state next := by
  obtain ⟨action, callerEq, ran⟩ := machine_of_step step
  refine ⟨[action], emitted, .single ran, ?_, ?_⟩
  · intro other member
    rw [List.mem_singleton.mp member, callerEq]
  · exact fun other different => step.others different

theorem writeBack_alone (system : System ι T) {c : ι} {state : State ι T}
    {round : Round} {fetched : Except String JwkSet}
    (stands : state.phase c = .writeBack round fetched) :
    ∃ final, system.Alone c state final ∧ final.fetchGate = none ∧
      final.inner = (system.cache.writeBack state.inner
        (system.call c).now fetched).inner ∧
      final.phase c = system.afterRefresh c round (system.cache.writeBack
        state.inner (system.call c).now fetched).refreshed := by
  have written : system.Step state c _ _ := .writeBack stands rfl
  have released : system.Step _ c _ _ :=
    .release (written.of_writeBack stands)
  exact ⟨_, written.alone.trans released.alone, rfl, rfl,
    released.of_releaseGate (written.of_writeBack stands)⟩

/-- A caller that acquired the gate goes on as the function does. -/
theorem underGate_alone (system : System ι T) (fetcher : Fetcher World)
    (world : World) {c : ι} {state : State ι T} {round : Round}
    {desperate : Bool}
    (stands : state.phase c = .postGate round desperate) :
    ∃ final, system.Alone c state final ∧ final.fetchGate = none ∧
      final.inner = (system.cache.underGate system.foreign fetcher
        (system.call c).now desperate state.inner world).2.1 ∧
      final.phase c = system.afterRefresh c round
        (system.cache.underGate system.foreign fetcher (system.call c).now
          desperate state.inner world).1 := by
  unfold JwksCache.underGate
  cases checked : system.cache.claimWindow system.foreign state.inner
      (system.call c).now desperate with
  | leave refreshed =>
      have satisfied : system.Step state c _ _ := .satisfied stands checked
      have released : system.Step _ c _ _ :=
        .release (State.move_phase_self state c (.releaseGate round refreshed))
      exact ⟨_, satisfied.alone.trans released.alone, rfl, rfl,
        State.move_phase_self ..⟩
  | proceed claimed =>
      obtain ⟨next, emitted, claim, fetching, innerEq⟩ :
          ∃ next emitted, system.Step state c next emitted ∧
            next.phase c = .fetching round ∧ next.inner = claimed :=
        ⟨_, _, .claim stands checked, State.move_phase_self .., rfl⟩
      have returned : system.Step next c _ _ :=
        .fetchReturns (fetcher.fetch world system.cache.url).1 fetching
      obtain ⟨final, alone, free, finalInner, finalPhase⟩ :=
        writeBack_alone system
          (State.move_phase_self next c (.writeBack round
            ((fetcher.fetch world system.cache.url).1.bind
              (JwkSet.parse system.foreign))))
      rw [State.move_inner, innerEq] at finalInner finalPhase
      exact ⟨final, (claim.alone.trans returned.alone).trans alone, free,
        finalInner, finalPhase⟩

/-- A caller alone with a free gate goes through `refresh` as the function
does. -/
theorem refresh_alone (system : System ι T) (fetcher : Fetcher World)
    (world : World) {c : ι} {state : State ι T} {round : Round} {wait : Bool}
    (stands : state.phase c = .rateCheck round wait)
    (free : state.fetchGate = none) :
    ∃ final, system.Alone c state final ∧ final.fetchGate = none ∧
      final.inner = (system.cache.refresh system.foreign fetcher
        (system.call c).now wait state.inner world).2.1 ∧
      final.phase c = system.afterRefresh c round
        (system.cache.refresh system.foreign fetcher (system.call c).now
          wait state.inner world).1 := by
  unfold JwksCache.refresh
  cases checked : system.cache.checkRate system.foreign state.inner
      (system.call c).now wait with
  | leave refreshed =>
      have step : system.Step state c _ _ := .rateLimited stands checked
      exact ⟨_, step.alone, free, rfl, State.move_phase_self ..⟩
  | proceed desperate =>
      have admitted : system.Step state c _ _ := .admitted stands checked
      obtain ⟨next, emitted, taken, holding, innerEq⟩ :
          ∃ next emitted,
            system.Step (state.move c (.tryGate round desperate)) c next
              emitted ∧
            next.phase c = .postGate round desperate ∧
            next.inner = state.inner :=
        ⟨_, _, .takeGate (State.move_phase_self ..) free,
          State.move_phase_self .., rfl⟩
      obtain ⟨final, alone, released, finalInner, finalPhase⟩ :=
        underGate_alone system fetcher world holding
      rw [innerEq] at finalInner finalPhase
      exact ⟨final, (admitted.alone.trans taken.alone).trans alone, released,
        finalInner, finalPhase⟩

/-- The caller, running alone, ends its call with the outcome of a function on
the data. -/
def EndsAlone (system : System ι T) (c : ι) (state : State ι T)
    (outcome : Except String T × Inner × World) : Prop :=
  ∃ final, system.Alone c state final ∧ final.fetchGate = none ∧
    final.inner = outcome.2.1 ∧ final.phase c = .done outcome.1

theorem Alone.endsAlone {c : ι} {state middle : State ι T}
    {outcome : Except String T × Inner × World}
    (alone : system.Alone c state middle)
    (ends : system.EndsAlone c middle outcome) :
    system.EndsAlone c state outcome := by
  obtain ⟨final, later, free, innerEq, phaseEq⟩ := ends
  exact ⟨final, alone.trans later, free, innerEq, phaseEq⟩

theorem retry_alone (system : System ι T) (fetcher : Fetcher World)
    (world : World) {c : ι} {state : State ι T}
    (stands : state.phase c = .rateCheck .second false)
    (free : state.fetchGate = none) :
    system.EndsAlone c state (system.cache.retry system.foreign fetcher
      (system.call c) state.inner world) := by
  obtain ⟨middle, alone, released, innerEq, phaseEq⟩ :=
    refresh_alone system fetcher world stands free
  apply alone.endsAlone
  unfold JwksCache.retry
  rcases refreshed : system.cache.refresh system.foreign fetcher
      (system.call c).now false state.inner world with ⟨answer, after⟩
  rw [refreshed] at innerEq phaseEq
  cases answer with
  | error e => exact ⟨middle, .refl, released, innerEq, phaseEq⟩
  | ok keys =>
      cases keys with
      | none => exact ⟨middle, .refl, released, innerEq, phaseEq⟩
      | some set =>
          have lookup : system.Step middle c _ _ := .lookup phaseEq
          refine ⟨_, lookup.alone, released, innerEq, ?_⟩
          rw [State.move_phase_self, afterLookup_second]

theorem withEnsured_alone (system : System ι T) (fetcher : Fetcher World)
    (world : World) {c : ι} {state : State ι T} {ensured : Refreshed}
    (stands : state.phase c = system.afterRefresh c .first ensured)
    (free : state.fetchGate = none) :
    system.EndsAlone c state (system.cache.withEnsured system.foreign
      fetcher (system.call c) ensured state.inner world) := by
  cases ensured with
  | error e => exact ⟨state, .refl, free, rfl, stands⟩
  | ok keys =>
      cases keys with
      | none => exact ⟨state, .refl, free, rfl, stands⟩
      | some set =>
          have lookup : system.Step state c _ _ := .lookup stands
          have afterwards :=
            State.move_phase_self state c (system.afterLookup c .first set)
          apply lookup.alone.endsAlone
          simp only [JwksCache.withEnsured]
          cases tried : JwksCache.tryAll set (system.call c).kid
              (system.call c).f with
          | some result =>
              rw [system.afterLookup_of_some tried] at afterwards ⊢
              exact ⟨_, .refl, free, rfl, afterwards⟩
          | none =>
              rw [system.afterLookup_first_of_none tried] at afterwards ⊢
              exact retry_alone system fetcher world afterwards free

theorem refreshEnsured_alone (system : System ι T) (fetcher : Fetcher World)
    (world : World) {c : ι} {state : State ι T} {wait : Bool}
    (stands : state.phase c = .rateCheck .first wait)
    (free : state.fetchGate = none) :
    system.EndsAlone c state
      (let (ensured, inner, world) := system.cache.refresh system.foreign
        fetcher (system.call c).now wait state.inner world
      system.cache.withEnsured system.foreign fetcher (system.call c)
        ensured inner world) := by
  obtain ⟨middle, alone, released, innerEq, phaseEq⟩ :=
    refresh_alone system fetcher world stands free
  dsimp only
  rw [← innerEq]
  exact alone.endsAlone
    (withEnsured_alone system fetcher _ phaseEq released)

/-- A call that runs alone on a free gate returns what the function returns
and leaves the same data. -/
theorem withKey_alone (system : System ι T) (fetcher : Fetcher World)
    (world : World) {c : ι} {state : State ι T}
    (stands : state.phase c = .snapshot) (free : state.fetchGate = none) :
    system.EndsAlone c state (system.cache.withKey system.foreign fetcher
      (system.call c) state.inner world) := by
  have snapshot : system.Step state c _ _ := .snapshot stands
  have afterwards := State.move_phase_self state c
    (afterSnapshot (system.cache.snapshot state.inner (system.call c).now))
  apply snapshot.alone.endsAlone
  unfold JwksCache.withKey
  rcases seen : system.cache.snapshot state.inner (system.call c).now with
    ⟨cached, stale, expired⟩
  rw [seen] at afterwards
  dsimp only [afterSnapshot] at afterwards ⊢
  cases keys : (if expired then none else cached : Option JwkSet) with
  | none =>
      rw [keys] at afterwards
      exact refreshEnsured_alone system fetcher world afterwards free
  | some set =>
      rw [keys] at afterwards
      cases stale with
      | true => exact refreshEnsured_alone system fetcher world afterwards free
      | false =>
          have ensured : State.phase _ c =
              system.afterRefresh c .first (.ok (some set)) := afterwards
          exact withEnsured_alone system fetcher world ensured free

end System

end AuthOidc
