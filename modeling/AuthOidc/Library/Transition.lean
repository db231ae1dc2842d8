import Mathlib.Data.List.Basic

/-!
# Labelled machines and their runs

A machine answers an action with a successor state and the events the step
makes visible, or refuses it.  A run records the schedule of actions and the
events emitted so far, so that an invariant may speak about the history of a
state as well as about the state itself.
-/

namespace Transition

/-- A machine whose `step` is executable; `none` means that the action is not
enabled in the state. -/
structure Machine (State Action Event : Type*) where
  step : State → Action → Option (State × List Event)

namespace Machine

variable {State Action Event : Type*} (machine : Machine State Action Event)

/-- The finite runs from `start`, extended at their end. -/
inductive Runs (start : State) :
    List Action → List Event → State → Prop where
  | refl : Runs start [] [] start
  | tail {schedule : List Action} {history emitted : List Event}
      {middle final : State} {action : Action} :
      Runs start schedule history middle →
      machine.step middle action = some (final, emitted) →
      Runs start (schedule ++ [action]) (history ++ emitted) final

def Stuck (state : State) : Prop :=
  ∀ action, machine.step state action = none

def exec (start : State) : List Action → Option (State × List Event)
  | [] => some (start, [])
  | action :: schedule =>
      match machine.step start action with
      | none => none
      | some (middle, emitted) =>
          match exec middle schedule with
          | none => none
          | some (final, later) => some (final, emitted ++ later)

variable {machine}

namespace Runs

variable {start middle final : State} {schedule later : List Action}
  {history emitted : List Event} {action : Action}

theorem single (step : machine.step start action = some (final, emitted)) :
    machine.Runs start [action] emitted final := by
  simpa using Runs.tail .refl step

theorem trans {laterHistory : List Event}
    (first : machine.Runs start schedule history middle)
    (second : machine.Runs middle later laterHistory final) :
    machine.Runs start (schedule ++ later) (history ++ laterHistory)
      final := by
  induction second with
  | refl => simpa using first
  | tail _ step extended =>
      simpa only [List.append_assoc] using extended.tail step

/-- A run is empty or begins with a step. -/
theorem cases_head (run : machine.Runs start schedule history final) :
    (schedule = [] ∧ history = [] ∧ final = start) ∨
      ∃ action rest emitted laterHistory middle,
        schedule = action :: rest ∧ history = emitted ++ laterHistory ∧
          machine.step start action = some (middle, emitted) ∧
          machine.Runs middle rest laterHistory final := by
  induction run with
  | refl => exact .inl ⟨rfl, rfl, rfl⟩
  | @tail _ _ lastEmitted _ _ lastAction before step cases =>
      right
      rcases cases with ⟨rfl, rfl, rfl⟩ |
        ⟨action, rest, emitted, laterHistory, next, rfl, rfl, first, later⟩
      · exact ⟨_, [], _, [], _, rfl, by simp, step, .refl⟩
      · exact ⟨action, rest ++ [lastAction], emitted,
          laterHistory ++ lastEmitted, next, rfl, by simp, first,
          later.tail step⟩

/-- The run rule: what holds of the empty history and is kept by every step
taken from a state of a run holds at the end of every run. -/
theorem invariant {holds : List Event → State → Prop}
    (initial : holds [] start)
    (preserved : ∀ {schedule history middle action final emitted},
      machine.Runs start schedule history middle →
      holds history middle →
      machine.step middle action = some (final, emitted) →
      holds (history ++ emitted) final)
    (run : machine.Runs start schedule history final) :
    holds history final := by
  induction run with
  | refl => exact initial
  | tail before step holdsBefore => exact preserved before holdsBefore step

/-- The run rule with a condition on the states that the run visits. -/
theorem invariant_along (visited : State → Prop)
    (holds : List Event → State → Prop) (initial : holds [] start)
    (preserved : ∀ {schedule history middle action final emitted},
      machine.Runs start schedule history middle →
      holds history middle → visited final →
      machine.step middle action = some (final, emitted) →
      holds (history ++ emitted) final)
    (run : machine.Runs start schedule history final)
    (along : ∀ earlier earlierHistory middle, earlier <+: schedule →
      machine.Runs start earlier earlierHistory middle → visited middle) :
    holds history final := by
  induction run with
  | refl => exact initial
  | tail before step induction =>
      have holdsBefore := induction fun earlier _ _ isPrefix reached =>
        along earlier _ _ (isPrefix.trans (List.prefix_append _ _)) reached
      exact preserved before holdsBefore
        (along _ _ _ (List.prefix_refl _) (before.tail step)) step

/-- The run rule with a condition on the steps that the run takes. -/
theorem invariant_steps (allowed : List Event → State → Action → Prop)
    (holds : List Event → State → Prop) (initial : holds [] start)
    (preserved : ∀ {schedule history middle action final emitted},
      machine.Runs start schedule history middle →
      holds history middle → allowed history middle action →
      machine.step middle action = some (final, emitted) →
      holds (history ++ emitted) final)
    (run : machine.Runs start schedule history final)
    (along : ∀ earlier earlierHistory middle action,
      earlier ++ [action] <+: schedule →
      machine.Runs start earlier earlierHistory middle →
      allowed earlierHistory middle action) :
    holds history final := by
  induction run with
  | refl => exact initial
  | tail before step induction =>
      have holdsBefore := induction fun earlier _ _ _ isPrefix reached =>
        along earlier _ _ _ (isPrefix.trans (List.prefix_append _ _)) reached
      exact preserved before holdsBefore
        (along _ _ _ _ (List.prefix_refl _) before) step

/-- A rank that every step lowers bounds the length of every schedule. -/
theorem length_add_rank_le (rank : State → Nat)
    (lowers : ∀ {state action next emitted},
      machine.step state action = some (next, emitted) →
      rank next < rank state)
    (run : machine.Runs start schedule history final) :
    schedule.length + rank final ≤ rank start := by
  induction run with
  | refl => simp
  | tail _ step bound =>
      have lower := lowers step
      simp only [List.length_append, List.length_cons, List.length_nil]
      omega

/-- Bounded runs come to an end: a state without a step is reached. -/
theorem exists_stuck {bound : Nat}
    (bounded : ∀ schedule history final,
      machine.Runs start schedule history final → schedule.length ≤ bound) :
    ∃ schedule history final,
      machine.Runs start schedule history final ∧ machine.Stuck final := by
  by_contra endless
  have longer : ∀ length, ∃ schedule history final,
      machine.Runs start schedule history final ∧
        schedule.length = length := by
    intro length
    induction length with
    | zero => exact ⟨[], [], start, .refl, rfl⟩
    | succ length induction =>
        obtain ⟨schedule, history, middle, run, lengthEq⟩ := induction
        have goesOn : ¬ machine.Stuck middle := fun stuck =>
          endless ⟨schedule, history, middle, run, stuck⟩
        obtain ⟨action, enabled⟩ := not_forall.mp goesOn
        obtain ⟨⟨final, emitted⟩, step⟩ := Option.ne_none_iff_exists'.mp enabled
        exact ⟨_, _, final, run.tail step, by simp [lengthEq]⟩
  obtain ⟨schedule, history, final, run, lengthEq⟩ := longer (bound + 1)
  have within := bounded schedule history final run
  omega

theorem of_exec
    (replayed : machine.exec start schedule = some (final, history)) :
    machine.Runs start schedule history final := by
  induction schedule generalizing start history with
  | nil =>
      simp only [exec, Option.some.injEq, Prod.mk.injEq] at replayed
      obtain ⟨rfl, rfl⟩ := replayed
      exact .refl
  | cons action schedule induction =>
      simp only [exec] at replayed
      cases step : machine.step start action with
      | none => simp [step] at replayed
      | some next =>
          obtain ⟨middle, emitted⟩ := next
          cases rest : machine.exec middle schedule with
          | none => simp [step, rest] at replayed
          | some result =>
              obtain ⟨last, laterHistory⟩ := result
              simp only [step, rest, Option.some.injEq,
                Prod.mk.injEq] at replayed
              obtain ⟨rfl, rfl⟩ := replayed
              exact (single step).trans (induction rest)

/-- A schedule has one run at most. -/
theorem exec_eq (run : machine.Runs start schedule history final) :
    machine.exec start schedule = some (final, history) := by
  have extend : ∀ (schedule : List Action) (start middle final : State)
      (history emitted : List Event) (action : Action),
      machine.exec start schedule = some (middle, history) →
      machine.step middle action = some (final, emitted) →
      machine.exec start (schedule ++ [action]) =
        some (final, history ++ emitted) := by
    intro schedule
    induction schedule with
    | nil =>
        intro start middle final history emitted action replayed step
        cases replayed
        simp [exec, step]
    | cons first rest induction =>
        intro start middle final history emitted action replayed step
        simp only [exec] at replayed
        cases firstStep : machine.step start first with
        | none => simp [firstStep] at replayed
        | some next =>
            obtain ⟨state, firstEmitted⟩ := next
            cases replay : machine.exec state rest with
            | none => simp [firstStep, replay] at replayed
            | some result =>
                obtain ⟨last, later⟩ := result
                simp only [firstStep, replay, Option.some.injEq,
                  Prod.mk.injEq] at replayed
                obtain ⟨rfl, rfl⟩ := replayed
                have extended := induction state last final later emitted
                  action replay step
                simp [exec, firstStep, extended]
  induction run with
  | refl => rfl
  | tail _ step replayed => exact extend _ _ _ _ _ _ _ replayed step

theorem final_unique {other : State} {otherHistory : List Event}
    (run : machine.Runs start schedule history final)
    (otherRun : machine.Runs start schedule otherHistory other) :
    final = other := by
  have both := run.exec_eq.symm.trans otherRun.exec_eq
  simp only [Option.some.injEq, Prod.mk.injEq] at both
  exact both.1

/-- A run goes on from each state that it visits. -/
theorem resume {earlier : List Action} {before : List Event}
    (run : machine.Runs start schedule history final)
    (isPrefix : earlier <+: schedule)
    (reached : machine.Runs start earlier before middle) :
    ∃ later after, machine.Runs middle later after final := by
  induction run with
  | refl =>
      rw [List.prefix_nil.mp isPrefix] at reached
      rw [reached.final_unique .refl]
      exact ⟨[], [], .refl⟩
  | tail run step induction =>
      rcases List.prefix_concat_iff.mp isPrefix with whole | isPrefix
      · rw [whole] at reached
        rw [reached.final_unique (run.tail step)]
        exact ⟨[], [], .refl⟩
      · obtain ⟨later, after, rest⟩ := induction isPrefix
        exact ⟨_, _, rest.tail step⟩

/-- A schedule that can be executed gives a run. -/
theorem of_isSome (enabled : (machine.exec start schedule).isSome = true) :
    machine.Runs start schedule
      ((machine.exec start schedule).get enabled).2
      ((machine.exec start schedule).get enabled).1 :=
  of_exec (Option.some_get enabled).symm

end Runs

end Machine

end Transition
