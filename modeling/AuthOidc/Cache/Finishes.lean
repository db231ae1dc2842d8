import AuthOidc.Cache.Progress

/-!
# A call with the cache to itself

While the other callers stand still, the next step of a caller is forced, up
to what a fetch returns, and the caller can go on to the end of its call.
-/

namespace AuthOidc

open Rust Transition

variable {ι T : Type} [DecidableEq ι]

namespace System

variable {system : System ι T} {c : ι} {state final : State ι T}
  {history : List (Event ι)} {result : Except String T}

/-- The steps of one caller alone, from `state` to the end of its call. -/
structure Finishes (system : System ι T) (c : ι) (state : State ι T)
    (history : List (Event ι)) (final : State ι T)
    (result : Except String T) : Prop where
  run : ∃ schedule, system.machine.Runs state schedule history final ∧
    ∀ action ∈ schedule, action.caller = c
  finished : final.phase c = .done result

namespace Finishes

theorem step (finishes : Finishes system c state history final result)
    (unfinished : ∀ other, state.phase c ≠ .done other) :
    ∃ action next emitted rest, action.caller = c ∧
      system.machine.step state action = some (next, emitted) ∧
      history = emitted ++ rest ∧
      Finishes system c next rest final result := by
  obtain ⟨⟨schedule, run, own⟩, finished⟩ := finishes
  rcases run.cases_head with ⟨_, _, rfl⟩ |
    ⟨action, rest, emitted, later, next, rfl, rfl, first, laterRun⟩
  · exact absurd finished (unfinished result)
  · refine ⟨action, next, emitted, later, own action List.mem_cons_self,
      first, rfl, ⟨rest, laterRun, ?_⟩, finished⟩
    intro other member
    exact own other (List.mem_cons_of_mem _ member)

/-- Outside a fetch the next step is forced. -/
theorem forced (finishes : Finishes system c state history final result)
    {next : State ι T} {emitted : List (Event ι)}
    (step : system.Step state c next emitted)
    (notFetching : ∀ round, state.phase c ≠ .fetching round) :
    ∃ rest, history = emitted ++ rest ∧
      Finishes system c next rest final result := by
  have runs : ∀ {action : Action ι} {other otherEmitted},
      action.caller = c →
      system.machine.step state action = some (other, otherEmitted) →
      system.runStep state c = some (other, otherEmitted) := by
    intro action other otherEmitted callerEq ran
    cases action with
    | run caller =>
        change caller = c at callerEq
        rwa [callerEq] at ran
    | fetched caller body =>
        change caller = c at callerEq
        rw [callerEq] at ran
        change system.fetchedStep state c body = _ at ran
        unfold fetchedStep at ran
        split at ran
        · exact absurd ‹_› (notFetching _)
        · cases ran
  obtain ⟨action, callerEq, ran⟩ := machine_of_step step
  obtain ⟨taken, other, otherEmitted, rest, takenCaller, takenRan, rfl,
    later⟩ := finishes.step fun done => step.not_done
  have same := runs takenCaller takenRan
  rw [runs callerEq ran] at same
  cases same
  exact ⟨rest, rfl, later⟩

/-- A fetch returns something. -/
theorem fetch (finishes : Finishes system c state history final result)
    {round : Round} (stands : state.phase c = .fetching round) :
    ∃ body rest, history = .returned c body :: rest ∧
      Finishes system c (state.move c (.writeBack round
        (body.bind (JwkSet.parse system.foreign)))) rest final result := by
  obtain ⟨action, next, emitted, rest, callerEq, ran, rfl, later⟩ :=
    finishes.step (by simp [stands])
  cases action with
  | run caller =>
      change caller = c at callerEq
      rw [callerEq] at ran
      change system.runStep state c = _ at ran
      simp [runStep, stands] at ran
  | fetched caller body =>
      change caller = c at callerEq
      rw [callerEq] at ran
      change system.fetchedStep state c body = _ at ran
      simp only [fetchedStep, stands, Option.some.injEq,
        Prod.mk.injEq] at ran
      obtain ⟨rfl, rfl⟩ := ran
      exact ⟨body, rest, rfl, later⟩

/-- A call that has ended takes no step. -/
theorem ended (finishes : Finishes system c state history final result)
    {other : Except String T} (stands : state.phase c = .done other) :
    history = [] ∧ final = state ∧ result = other := by
  obtain ⟨⟨schedule, run, own⟩, finished⟩ := finishes
  rcases run.cases_head with ⟨_, rfl, rfl⟩ |
    ⟨action, _, _, _, next, rfl, _, first, _⟩
  · rw [stands] at finished
    cases finished
    exact ⟨rfl, rfl, rfl⟩
  · have step := step_of_machine first
    rw [own action List.mem_cons_self] at step
    exact absurd stands step.not_done

end Finishes

/-! ## The call ends -/

theorem Finishes.of_step {next : State ι T} {emitted rest : List (Event ι)}
    {action : Action ι} (own : action.caller = c)
    (ran : system.machine.step state action = some (next, emitted))
    (later : Finishes system c next rest final result) :
    Finishes system c state (emitted ++ rest) final result := by
  obtain ⟨⟨schedule, run, ownLater⟩, finished⟩ := later
  refine ⟨⟨action :: schedule, (Machine.Runs.single ran).trans run, ?_⟩,
    finished⟩
  intro other member
  rcases List.mem_cons.mp member with rfl | afterwards
  · exact own
  · exact ownLater other afterwards

/-- A caller that does not wait for others can take a step in which a fetch,
if it is one, returns `body`. -/
theorem exists_step_returning (system : System ι T) {state : State ι T}
    {c : ι} (body : Except String String)
    (unfinished : ∀ result, state.phase c ≠ .done result)
    (unblocked : ∀ round, state.phase c = .waitGate round →
      state.fetchGate = none) :
    ∃ action next emitted, action.caller = c ∧
      system.machine.step state action = some (next, emitted) ∧
      ∀ other, .returned c other ∈ emitted → other = body := by
  by_cases fetching : ∃ round, state.phase c = .fetching round
  · obtain ⟨round, stands⟩ := fetching
    have ran : system.machine.step state (.fetched c body) =
        some (state.move c (.writeBack round
          (body.bind (JwkSet.parse system.foreign))), [.returned c body]) := by
      simp [machine, fetchedStep, stands]
    exact ⟨.fetched c body, _, _, rfl, ran, by simp⟩
  · obtain ⟨next, emitted, step⟩ := exists_step unfinished unblocked
    obtain ⟨action, callerEq, ran⟩ := machine_of_step step
    refine ⟨action, next, emitted, callerEq, ran, ?_⟩
    intro other returned
    cases step with
    | fetchReturns _ stands => exact absurd ⟨_, stands⟩ fetching
    | lookup _ => simp [invocations] at returned
    | _ => simp_all

variable {schedule : List (Action ι)}

/-- A call that no other call blocks can end alone, whatever a fetch
returns. -/
theorem Runs.can_finish (run : system.Runs schedule history state)
    (owned : ∀ holder, state.fetchGate = some holder → holder = c)
    (body : Except String String) :
    ∃ own final result, Finishes system c state own final result ∧
      ∀ other, .returned c other ∈ own → other = body := by
  induction bound : (state.phase c).rank using Nat.strongRecOn
    generalizing schedule history state with
  | ind rank induction =>
      by_cases finished : ∃ result, state.phase c = .done result
      · obtain ⟨result, stands⟩ := finished
        exact ⟨[], state, result, ⟨⟨[], .refl, by simp⟩, stands⟩, by simp⟩
      · have unblocked : ∀ round, state.phase c = .waitGate round →
            state.fetchGate = none := by
          intro round stands
          cases held : state.fetchGate with
          | none => rfl
          | some holder =>
              have holds := (run.recorded.gate holder).mp held
              rw [owned holder held, stands] at holds
              cases holds
        obtain ⟨action, next, emitted, callerEq, ran, returns⟩ :=
          exists_step_returning system body (not_exists.mp finished) unblocked
        have step := step_of_machine ran
        rw [callerEq] at step
        have ownedNext : ∀ holder, next.fetchGate = some holder →
            holder = c := by
          intro holder held
          rcases step.gate with ⟨gateEq, _⟩ | ⟨_, taken, _⟩ | ⟨_, free, _⟩
          · exact owned holder (gateEq ▸ held)
          · rw [taken, Option.some.injEq] at held
            exact held.symm
          · rw [free] at held
            cases held
        obtain ⟨own, final, result, later, returnsLater⟩ :=
          induction _ (bound ▸ step.rank_lt) (Machine.Runs.tail run ran)
            ownedNext rfl
        refine ⟨emitted ++ own, final, result, later.of_step callerEq ran, ?_⟩
        intro other member
        rcases List.mem_append.mp member with now | afterwards
        · exact returns other now
        · exact returnsLater other afterwards

/-- No call but `c` is active: the others have not begun or have returned. -/
def Idle (state : State ι T) (c : ι) : Prop :=
  ∀ other, other ≠ c → state.phase other = .snapshot ∨
    ∃ result, state.phase other = .done result

theorem Runs.gate_of_idle (run : system.Runs schedule history state)
    (begins : state.phase c = .snapshot) (idle : Idle state c) :
    state.fetchGate = none := by
  cases held : state.fetchGate with
  | none => rfl
  | some holder =>
      have holds := (run.recorded.gate holder).mp held
      by_cases same : holder = c
      · rw [same, begins] at holds
        cases holds
      · rcases idle holder same with stands | ⟨result, stands⟩
        · rw [stands] at holds
          cases holds
        · rw [stands] at holds
          cases holds

end System

end AuthOidc
