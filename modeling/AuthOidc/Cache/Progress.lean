import Mathlib.Algebra.BigOperators.Group.Finset.Basic
import Mathlib.Algebra.Order.BigOperators.Group.Finset
import AuthOidc.Cache.History

/-!
# Every call returns

Each step of a caller moves it forward in `with_key`, so a call takes a bounded
number of steps of its own.  A caller can be blocked only by the gate, whose
holder is never blocked; so from every reachable state every call can be driven
to its end.
-/

namespace AuthOidc

open Rust Transition

namespace Phase

variable {T : Type}

/-- How far the phases of a round are from the end of the call. -/
def roundRank : Round → Nat
  | .first => 8
  | .second => 0

def rank : Phase T → Nat
  | snapshot => 17
  | rateCheck round _ => 8 + roundRank round
  | tryGate round _ => 7 + roundRank round
  | lostRace round => 6 + roundRank round
  | waitGate round => 6 + roundRank round
  | postGate round _ => 5 + roundRank round
  | fetching round => 4 + roundRank round
  | writeBack round _ => 3 + roundRank round
  | releaseGate round _ => 2 + roundRank round
  | lookup round _ => 1 + roundRank round
  | done _ => 0

theorem rank_le (phase : Phase T) : phase.rank ≤ 17 := by
  cases phase with
  | snapshot => exact le_refl 17
  | done _ => exact Nat.zero_le 17
  | _ round => cases round <;> simp [rank, roundRank]

end Phase

variable {ι T : Type}

namespace System

variable {system : System ι T}

theorem rank_afterSnapshot (snapshot : Option JwkSet × Bool × Bool) :
    (afterSnapshot snapshot : Phase T).rank < 17 := by
  unfold afterSnapshot
  dsimp only
  split
  · simp [Phase.rank, Phase.roundRank]
  · split <;> simp [Phase.rank, Phase.roundRank]

theorem rank_afterRefresh (system : System ι T) (c : ι) (round : Round)
    (refreshed : Refreshed) :
    (system.afterRefresh c round refreshed).rank ≤
      1 + Phase.roundRank round := by
  unfold afterRefresh
  split
  · exact Nat.zero_le _
  · exact Nat.zero_le _
  · exact Nat.zero_le _
  · exact le_refl _

theorem rank_afterLookup (c : ι) (round : Round) (set : JwkSet) :
    (system.afterLookup c round set).rank < 1 + Phase.roundRank round := by
  unfold afterLookup
  split
  · exact Nat.add_pos_left one_pos _
  · simp [Phase.rank, Phase.roundRank]
  · simp [Phase.rank, Phase.roundRank]

variable [DecidableEq ι]

/-- Every step moves its caller forward. -/
theorem Step.rank_lt {state next : State ι T} {c : ι}
    {emitted : List (Event ι)} (step : system.Step state c next emitted) :
    (next.phase c).rank < (state.phase c).rank := by
  cases step with
  | snapshot stands =>
      rw [State.move_phase_self, stands]
      exact rank_afterSnapshot _
  | @rateLimited round _ refreshed stands _ =>
      have after := rank_afterRefresh system c round refreshed
      rw [State.move_phase_self, stands]
      change _ < 8 + Phase.roundRank round
      omega
  | @serveLoser round stands =>
      have after := rank_afterRefresh system c round
        (system.cache.serveWithinCeiling system.foreign state.inner
          (system.call c).now)
      rw [State.move_phase_self, stands]
      change _ < 6 + Phase.roundRank round
      omega
  | @release round refreshed stands =>
      have after := rank_afterRefresh system c round refreshed
      dsimp only
      rw [State.move_phase_self, stands]
      change _ < 2 + Phase.roundRank round
      omega
  | @lookup round set stands =>
      rw [State.move_phase_self, stands]
      exact rank_afterLookup c round set
  | admitted stands _ | takeGate stands _ | queue stands _
  | loseRace stands _ | wake stands _ | satisfied stands _
  | claim stands _ | fetchReturns _ stands | writeBack stands _ =>
      simp only [State.move_phase_self, stands, Phase.rank]
      omega

/-- A call takes at most seventeen steps of its own in any schedule. -/
theorem own_steps_le {start final : State ι T} {schedule : List (Action ι)}
    {history : List (Event ι)}
    (run : system.machine.Runs start schedule history final) (c : ι) :
    (schedule.filter fun action => decide (action.caller = c)).length +
      (final.phase c).rank ≤ (start.phase c).rank := by
  induction run with
  | refl => simp
  | @tail _ _ _ middle final action before ran bound =>
      have step := step_of_machine ran
      rw [List.filter_append, List.length_append]
      by_cases own : action.caller = c
      · have lower := step.rank_lt
        rw [own] at lower
        simp only [own, decide_true, List.filter_cons_of_pos, List.filter_nil,
          List.length_singleton]
        omega
      · rw [step.others (Ne.symm own)]
        simpa [own] using bound

/-- Only the end of the call, or the wait for a taken gate, leaves a caller
without a step. -/
theorem exists_step {state : State ι T} {c : ι}
    (unfinished : ∀ result, state.phase c ≠ .done result)
    (unblocked : ∀ round, state.phase c = .waitGate round →
      state.fetchGate = none) :
    ∃ next emitted, system.Step state c next emitted := by
  cases stands : state.phase c with
  | snapshot => exact ⟨_, _, .snapshot stands⟩
  | rateCheck round wait =>
      cases checked : system.cache.checkRate system.foreign state.inner
          (system.call c).now wait with
      | leave refreshed => exact ⟨_, _, .rateLimited stands checked⟩
      | proceed desperate => exact ⟨_, _, .admitted stands checked⟩
  | tryGate round desperate =>
      cases gate : state.fetchGate with
      | none => exact ⟨_, _, .takeGate stands gate⟩
      | some holder =>
          cases desperate with
          | true => exact ⟨_, _, .queue stands gate⟩
          | false => exact ⟨_, _, .loseRace stands gate⟩
  | lostRace round => exact ⟨_, _, .serveLoser stands⟩
  | waitGate round =>
      exact ⟨_, _, .wake stands (unblocked round stands)⟩
  | postGate round desperate =>
      cases checked : system.cache.claimWindow system.foreign state.inner
          (system.call c).now desperate with
      | leave refreshed => exact ⟨_, _, .satisfied stands checked⟩
      | proceed claimed => exact ⟨_, _, .claim stands checked⟩
  | fetching round => exact ⟨_, _, .fetchReturns (.error "") stands⟩
  | writeBack round fetched => exact ⟨_, _, .writeBack stands rfl⟩
  | releaseGate round refreshed => exact ⟨_, _, .release stands⟩
  | lookup round set => exact ⟨_, _, .lookup stands⟩
  | done result => exact absurd stands (unfinished result)

theorem exists_step_of_holdsGate (system : System ι T) {state : State ι T}
    {c : ι}
    (holds : (state.phase c).holdsGate = true) :
    ∃ next emitted, system.Step state c next emitted := by
  apply exists_step
  · intro result stands
    rw [stands] at holds
    cases holds
  · intro round stands
    rw [stands] at holds
    cases holds

theorem Step.runs {state next : State ι T} {c : ι}
    {emitted : List (Event ι)} (step : system.Step state c next emitted) :
    ∃ action, system.machine.Runs state [action] emitted next := by
  obtain ⟨action, _, ran⟩ := machine_of_step step
  exact ⟨action, .single ran⟩

variable {schedule : List (Action ι)} {history : List (Event ι)}
  {state : State ι T}

/-- The holder of the gate can go on until it releases it, with the other
callers standing still. -/
theorem Runs.gate_can_be_released (run : system.Runs schedule history state)
    {holder : ι} (held : state.fetchGate = some holder) :
    ∃ later laterHistory final,
      system.machine.Runs state later laterHistory final ∧
        final.fetchGate = none ∧
        ∀ other, other ≠ holder → final.phase other = state.phase other := by
  induction bound : (state.phase holder).rank using Nat.strongRecOn
    generalizing schedule history state with
  | ind rank induction =>
      have holds := (run.recorded.gate holder).mp held
      obtain ⟨next, emitted, step⟩ :=
        exists_step_of_holdsGate system holds
      obtain ⟨action, ran⟩ := step.runs
      rcases step.gate with ⟨gateEq, _⟩ | ⟨free, _⟩ | ⟨_, released, _⟩
      · obtain ⟨later, laterHistory, final, laterRun, free, others⟩ :=
          induction _ (bound ▸ step.rank_lt) (Machine.Runs.trans run ran)
            (gateEq.trans held) rfl
        refine ⟨_, _, final, ran.trans laterRun, free, ?_⟩
        intro other different
        rw [others other different, step.others different]
      · rw [held] at free
        cases free
      · exact ⟨_, _, next, ran, released, fun other different =>
          step.others different⟩

/-- From every reachable state every call can be driven to its end. -/
theorem Runs.call_can_return (run : system.Runs schedule history state)
    (c : ι) :
    ∃ later laterHistory final result,
      system.machine.Runs state later laterHistory final ∧
        final.phase c = .done result := by
  induction bound : (state.phase c).rank using Nat.strongRecOn
    generalizing schedule history state with
  | ind rank induction =>
      -- one step of the caller, once it can be taken
      have advance : ∀ {later laterHistory middle},
          system.machine.Runs state later laterHistory middle →
          middle.phase c = state.phase c →
          (∃ next emitted, system.Step middle c next emitted) →
          ∃ later laterHistory final result,
            system.machine.Runs state later laterHistory final ∧
              final.phase c = .done result := by
        intro later laterHistory middle reached samePhase ⟨next, emitted, step⟩
        obtain ⟨action, ran⟩ := step.runs
        have lower := step.rank_lt
        rw [samePhase, bound] at lower
        have extended := Machine.Runs.trans run (reached.trans ran)
        obtain ⟨_, _, final, result, laterRun, stands⟩ :=
          induction _ lower extended rfl
        exact ⟨_, _, final, result, (reached.trans ran).trans laterRun,
          stands⟩
      by_cases finished : ∃ result, state.phase c = .done result
      · obtain ⟨result, stands⟩ := finished
        exact ⟨_, _, state, result, .refl, stands⟩
      · have unfinished := not_exists.mp finished
        by_cases blocked : ∃ round, state.phase c = .waitGate round
        · obtain ⟨round, stands⟩ := blocked
          cases held : state.fetchGate with
          | none =>
              exact advance .refl rfl ⟨_, _, .wake stands held⟩
          | some holder =>
              have notHolder : c ≠ holder := by
                rintro rfl
                have holds := (run.recorded.gate c).mp held
                rw [stands] at holds
                cases holds
              obtain ⟨later, laterHistory, middle, reached, free, others⟩ :=
                run.gate_can_be_released held
              have samePhase := others c notHolder
              exact advance reached samePhase
                ⟨_, _, .wake (samePhase.trans stands) free⟩
        · apply advance .refl rfl
          apply exists_step unfinished
          intro round stands
          exact absurd ⟨round, stands⟩ blocked

/-- A reachable state is stuck only when every call has returned. -/
theorem Runs.done_of_stuck (run : system.Runs schedule history state)
    (stuck : system.machine.Stuck state) (c : ι) :
    ∃ result, state.phase c = .done result := by
  have noStep : ∀ caller next emitted,
      ¬ system.Step state caller next emitted := by
    intro caller next emitted step
    obtain ⟨action, _, ran⟩ := machine_of_step step
    rw [stuck action] at ran
    cases ran
  by_contra unfinished
  obtain ⟨next, emitted, step⟩ :
      ∃ next emitted, system.Step state c next emitted := by
    apply exists_step (not_exists.mp unfinished)
    intro round _
    cases held : state.fetchGate with
    | none => rfl
    | some holder =>
        obtain ⟨next, emitted, step⟩ := exists_step_of_holdsGate system
          ((run.recorded.gate holder).mp held)
        exact absurd step (noStep holder next emitted)
  exact noStep c next emitted step

/-- Once every call has returned nothing is left to do. -/
theorem stuck_of_done {state : State ι T}
    (finished : ∀ c, ∃ result, state.phase c = .done result) :
    system.machine.Stuck state := by
  intro action
  cases ran : system.machine.step state action with
  | none => rfl
  | some outcome =>
      obtain ⟨result, stands⟩ := finished action.caller
      exact absurd stands (step_of_machine ran).not_done

/-- With finitely many callers every schedule is finite. -/
theorem schedule_length_le [Fintype ι] {start final : State ι T}
    (run : system.machine.Runs start schedule history final) :
    schedule.length ≤ 17 * Fintype.card ι := by
  have lowers := Machine.Runs.length_add_rank_le
    (fun state : State ι T => ∑ c, (state.phase c).rank)
    (fun {state action next emitted} ran => ?_) run
  · have initial : ∑ c, (start.phase c).rank ≤ ∑ _c : ι, 17 :=
      Finset.sum_le_sum fun c _ => (start.phase c).rank_le
    rw [Finset.sum_const_nat fun _ _ => rfl, Finset.card_univ] at initial
    omega
  · have step := step_of_machine ran
    apply Finset.sum_lt_sum
    · intro other _
      by_cases same : other = action.caller
      · rw [same]
        exact step.rank_lt.le
      · rw [step.others same]
    · exact ⟨action.caller, Finset.mem_univ _, step.rank_lt⟩

end System

end AuthOidc
