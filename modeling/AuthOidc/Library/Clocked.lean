import Mathlib.Logic.Function.Basic
import AuthOidc.Library.Transition

/-!
# Machines beside a clock

A clock that never runs backwards is put beside a machine whose actions belong
to participants.  It may move between any two steps.  A participant begins by
reading it, and acts only after that; the events of an action are stamped with
the clock at that moment.
-/

namespace Transition

/-- A state of a machine, the clock, and who has begun. -/
structure Clocked (ι State : Type*) where
  clock : Nat
  begun : ι → Bool
  base : State

namespace Clocked

variable {ι State : Type*}

/-- Nobody has begun. -/
def start (clock : Nat) (base : State) : Clocked ι State where
  clock := clock
  begun := fun _ => false
  base := base

/-- The clock has reached what each who has begun has read. -/
def ReadingsPassed (reading : ι → Nat) (state : Clocked ι State) : Prop :=
  ∀ participant, state.begun participant = true →
    reading participant ≤ state.clock

end Clocked

inductive ClockedAction (ι Action : Type*) where
  | tick (later : Nat)
  | begins (participant : ι)
  | act (action : Action)

namespace Machine

variable {ι State Action Event : Type*} [DecidableEq ι]
  (machine : Machine State Action Event) (owner : Action → ι)
  (reading : ι → Nat)

/-- What each participant reads is fixed in advance as `reading`, so that a
participant can begin at that moment only. -/
def clocked :
    Machine (Clocked ι State) (ClockedAction ι Action) (Nat × Event) where
  step state
    | .tick later =>
        if state.clock ≤ later then some ({ state with clock := later }, [])
        else none
    | .begins participant =>
        if state.begun participant = false ∧
            reading participant = state.clock then
          some ({ state with
            begun := Function.update state.begun participant true }, [])
        else none
    | .act action =>
        if state.begun (owner action) then
          (machine.step state.base action).map fun (next, emitted) =>
            ({ state with base := next },
              emitted.map fun event => (state.clock, event))
        else none

/-- The steps beside a clock one by one, with what each of them requires. -/
inductive ClockedStep (state : Clocked ι State) :
    ClockedAction ι Action → Clocked ι State → List (Nat × Event) →
    Prop where
  | tick {later : Nat} :
      state.clock ≤ later →
      ClockedStep state (.tick later) { state with clock := later } []
  | begins {participant : ι} :
      reading participant = state.clock →
      ClockedStep state (.begins participant)
        { state with
          begun := Function.update state.begun participant true } []
  | act {action : Action} {next : State} {emitted : List Event} :
      state.begun (owner action) = true →
      machine.step state.base action = some (next, emitted) →
      ClockedStep state (.act action) { state with base := next }
        (emitted.map fun event => (state.clock, event))

variable {machine owner reading}

theorem clockedStep_of_step {state final : Clocked ι State}
    {action : ClockedAction ι Action} {stamped : List (Nat × Event)}
    (ran : (machine.clocked owner reading).step state action =
      some (final, stamped)) :
    machine.ClockedStep owner reading state action final stamped := by
  cases action with
  | tick later =>
      simp only [clocked, Option.ite_none_right_eq_some, Option.some.injEq,
        Prod.mk.injEq] at ran
      obtain ⟨forward, rfl, rfl⟩ := ran
      exact .tick forward
  | begins participant =>
      simp only [clocked, Option.ite_none_right_eq_some, Option.some.injEq,
        Prod.mk.injEq] at ran
      obtain ⟨⟨_, reads⟩, rfl, rfl⟩ := ran
      exact .begins reads
  | act action =>
      simp only [clocked, Option.ite_none_right_eq_some,
        Option.map_eq_some_iff] at ran
      obtain ⟨begun, ⟨next, emitted⟩, stepped, equality⟩ := ran
      cases equality
      exact .act begun stepped

theorem ClockedStep.readingsPassed {state final : Clocked ι State}
    {action : ClockedAction ι Action} {stamped : List (Nat × Event)}
    (step : machine.ClockedStep owner reading state action final stamped)
    (passed : state.ReadingsPassed reading) :
    final.ReadingsPassed reading := by
  intro participant begun
  cases step with
  | tick forward => exact Nat.le_trans (passed participant begun) forward
  | @begins other reads =>
      by_cases same : participant = other
      · subst same
        exact Nat.le_of_eq reads
      · dsimp only at begun
        rw [Function.update_of_ne same] at begun
        exact passed participant begun
  | act _ _ => exact passed participant begun

namespace Runs

variable {start final : Clocked ι State}
  {schedule : List (ClockedAction ι Action)} {history : List (Nat × Event)}

/-- Without the clock a run is a run of the machine. -/
theorem forget_clock
    (run : (machine.clocked owner reading).Runs start schedule history
      final) :
    ∃ actions, machine.Runs start.base actions (history.map Prod.snd)
      final.base := by
  induction run with
  | refl => exact ⟨[], .refl⟩
  | tail _ ran induction =>
      obtain ⟨actions, before⟩ := induction
      cases clockedStep_of_step ran with
      | tick _ => exact ⟨actions, by simpa using before⟩
      | begins _ => exact ⟨actions, by simpa using before⟩
      | act _ stepped =>
          have extended := before.tail stepped
          exact ⟨_, by simpa [List.map_map, Function.comp_def] using extended⟩

theorem readingsPassed
    (run : (machine.clocked owner reading).Runs start schedule history final)
    (passed : start.ReadingsPassed reading) :
    final.ReadingsPassed reading := by
  induction run with
  | refl => exact passed
  | tail _ ran before => exact (clockedStep_of_step ran).readingsPassed before

/-- Who has begun did so at a moment that the clock has reached. -/
theorem reading_le_clock {clock : Nat} {base : State}
    (run : (machine.clocked owner reading).Runs (.start clock base) schedule
      history final) {participant : ι}
    (begun : final.begun participant = true) :
    reading participant ≤ final.clock :=
  run.readingsPassed (fun _ begun => nomatch begun) participant begun

end Runs

end Machine

end Transition
