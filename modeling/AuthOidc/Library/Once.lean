import Mathlib.Logic.Function.Basic
import AuthOidc.Library.Interaction
import AuthOidc.Library.Transition

/-!
# Cells that are filled once

Programs read the values of a function through shared cells.  Who finds a cell
empty computes the value and fills the cell; who finds somebody at it waits.
Under every interleaving a value is computed at most once, a program cannot
tell the cells from the function, and nobody waits for ever.
-/

namespace Once

open Transition Interaction

inductive Cell (ι Value : Type) where
  | empty
  | filling (owner : ι)
  | full (value : Value)

inductive Thread (Key Value Note Result : Type) where
  | running (program : Program Key Value Note Result)
  /-- Computes the value, to fill the cell and go on with it. -/
  | filling (key : Key) (next : Value → Program Key Value Note Result)
  | ended (result : Result)

structure State (ι Key Value Note Result : Type) where
  cell : Key → Cell ι Value
  thread : ι → Thread Key Value Note Result

inductive Event (ι Key Value : Type) where
  | started (owner : ι) (key : Key)
  | got (owner : ι) (key : Key) (value : Value)
  deriving DecidableEq

variable {ι Key Value Note Result : Type}

namespace State

/-- Every cell empty, every program at its start. -/
def initial (program : ι → Program Key Value Note Result) :
    State ι Key Value Note Result where
  cell := fun _ => .empty
  thread := fun c => .running (program c)

section Move

variable [DecidableEq ι] (state : State ι Key Value Note Result)

def move (c : ι) (thread : Thread Key Value Note Result) :
    State ι Key Value Note Result :=
  { state with thread := Function.update state.thread c thread }

variable {state} {c other : ι} {thread : Thread Key Value Note Result}

@[simp] theorem move_thread_self : (state.move c thread).thread c = thread :=
  Function.update_self ..

theorem move_thread_of_ne (different : other ≠ c) :
    (state.move c thread).thread other = state.thread other :=
  Function.update_of_ne different ..

@[simp] theorem move_cell : (state.move c thread).cell = state.cell := rfl

end Move

section Put

variable [DecidableEq Key] (state : State ι Key Value Note Result)

def put (key : Key) (cell : Cell ι Value) : State ι Key Value Note Result :=
  { state with cell := Function.update state.cell key cell }

variable {state} {key wanted : Key} {cell : Cell ι Value}

@[simp] theorem put_thread : (state.put key cell).thread = state.thread := rfl

@[simp] theorem put_cell_self : (state.put key cell).cell key = cell :=
  Function.update_self ..

theorem put_cell_of_ne (different : wanted ≠ key) :
    (state.put key cell).cell wanted = state.cell wanted :=
  Function.update_of_ne different ..

end Put

end State

/-! ## What a thread comes to -/

/-- The result of the thread if every query gets the value. -/
def Thread.eval (init : Key → Value) :
    Thread Key Value Note Result → Result
  | .running program => program.eval init
  | .filling key next => (next (init key)).eval init
  | .ended result => result

/-- The steps of a program that finds every cell empty. -/
def programSteps (init : Key → Value) :
    Program Key Value Note Result → Nat
  | .ret _ => 1
  | .ask key next => programSteps init (next (init key)) + 2
  | .note _ next => programSteps init next + 1

def Thread.steps (init : Key → Value) : Thread Key Value Note Result → Nat
  | .running program => programSteps init program
  | .filling key next => programSteps init (next (init key)) + 1
  | .ended _ => 0

theorem programSteps_bind {Other : Type} (init : Key → Value)
    (program : Program Key Value Note Result)
    (next : Result → Program Key Value Note Other) :
    programSteps init (program.bind next) + 1 =
      programSteps init program +
        programSteps init (next (program.eval init)) := by
  induction program with
  | ret result => exact Nat.add_comm ..
  | ask key rest induction =>
      have rest := induction (init key)
      simp only [Program.bind, programSteps, Program.eval]
      omega
  | note text rest induction =>
      simp only [Program.bind, programSteps, Program.eval]
      omega

theorem programSteps_bind_le {Other : Type} {init : Key → Value}
    {program : Program Key Value Note Result}
    {next : Result → Program Key Value Note Other} {first second : Nat}
    (short : programSteps init program ≤ first + 1)
    (later : programSteps init (next (program.eval init)) ≤ second) :
    programSteps init (program.bind next) ≤ first + second := by
  have whole := programSteps_bind init program next
  omega

/-- Whether the event is the start of a computation of the value. -/
def Event.starts [DecidableEq Key] (key : Key) : Event ι Key Value → Bool
  | .started _ other => other = key
  | .got .. => false

/-- How often the value was computed, or begun to be. -/
def Cell.starts : Cell ι Value → Nat
  | .empty => 0
  | .filling _ | .full _ => 1

/-- The cells hold what the function gives, and tell who is at them and how
often a value was computed; the threads stand where they come to what their
programs come to. -/
structure Coherent [DecidableEq Key] (init : Key → Value)
    (program : ι → Program Key Value Note Result)
    (history : List (Event ι Key Value))
    (state : State ι Key Value Note Result) : Prop where
  full : ∀ key value, state.cell key = .full value → value = init key
  filling : ∀ key c, state.cell key = .filling c ↔
    ∃ next, state.thread c = .filling key next
  starts : ∀ key,
    history.countP (Event.starts key) = (state.cell key).starts
  got : ∀ c key value, .got c key value ∈ history → value = init key
  eval : ∀ c, (state.thread c).eval init = (program c).eval init

theorem coherent_initial [DecidableEq Key] (init : Key → Value)
    (program : ι → Program Key Value Note Result) :
    Coherent init program [] (State.initial program) where
  full := nofun
  filling key c := by simp [State.initial]
  starts _ := rfl
  got := nofun
  eval _ := rfl

/-! ## The steps -/

variable [DecidableEq ι] [DecidableEq Key]

section Machine

variable (init : Key → Value)

/-- `get_or_init` takes two steps at an empty cell and one at a full cell. -/
def step (state : State ι Key Value Note Result) (c : ι) :
    Option (State ι Key Value Note Result × List (Event ι Key Value)) :=
  match state.thread c with
  | .ended _ => none
  | .running (.ret result) => some (state.move c (.ended result), [])
  | .running (.note _ next) => some (state.move c (.running next), [])
  | .running (.ask key next) =>
      match state.cell key with
      | .full value =>
          some (state.move c (.running (next value)), [.got c key value])
      | .filling _ => none
      | .empty =>
          some ((state.put key (.filling c)).move c (.filling key next),
            [.started c key])
  | .filling key next =>
      some ((state.put key (.full (init key))).move c
          (.running (next (init key))),
        [.got c key (init key)])

def machine :
    Machine (State ι Key Value Note Result) ι (Event ι Key Value) where
  step := step init

/-- The steps of the machine, one constructor for each. -/
inductive Step (state : State ι Key Value Note Result) :
    ι → State ι Key Value Note Result → List (Event ι Key Value) →
      Prop where
  | ends {c : ι} {result : Result} :
      state.thread c = .running (.ret result) →
      Step state c (state.move c (.ended result)) []
  | notes {c : ι} {text : Note} {next : Program Key Value Note Result} :
      state.thread c = .running (.note text next) →
      Step state c (state.move c (.running next)) []
  | reads {c : ι} {key : Key} {value : Value}
      {next : Value → Program Key Value Note Result} :
      state.thread c = .running (.ask key next) →
      state.cell key = .full value →
      Step state c (state.move c (.running (next value))) [.got c key value]
  | starts {c : ι} {key : Key}
      {next : Value → Program Key Value Note Result} :
      state.thread c = .running (.ask key next) →
      state.cell key = .empty →
      Step state c ((state.put key (.filling c)).move c (.filling key next))
        [.started c key]
  | fills {c : ι} {key : Key}
      {next : Value → Program Key Value Note Result} :
      state.thread c = .filling key next →
      Step state c ((state.put key (.full (init key))).move c
          (.running (next (init key)))) [.got c key (init key)]

end Machine

variable {init : Key → Value} {state next : State ι Key Value Note Result}
  {c : ι} {emitted : List (Event ι Key Value)}

theorem step_of_machine
    (ran : (machine init).step state c = some (next, emitted)) :
    Step init state c next emitted := by
  change step init state c = _ at ran
  unfold step at ran
  split at ran
  · cases ran
  · rename_i stands
    cases ran
    exact .ends stands
  · rename_i stands
    cases ran
    exact .notes stands
  · rename_i stands
    split at ran
    · rename_i full
      cases ran
      exact .reads stands full
    · cases ran
    · rename_i empty
      cases ran
      exact .starts stands empty
  · rename_i stands
    cases ran
    exact .fills stands

theorem Step.others (ran : Step init state c next emitted) {other : ι}
    (different : other ≠ c) : next.thread other = state.thread other := by
  cases ran with
  | ends _ | notes _ | reads _ _ | starts _ _ | fills _ =>
      exact State.move_thread_of_ne different

namespace Coherent

variable {program : ι → Program Key Value Note Result}
  {history : List (Event ι Key Value)}

/-- A step changes neither what its thread comes to, nor, with the cells in
order, takes it further than a program goes. -/
theorem thread_of_step (coherent : Coherent init program history state)
    (ran : Step init state c next emitted) :
    (next.thread c).eval init = (state.thread c).eval init ∧
      (next.thread c).steps init + 1 ≤ (state.thread c).steps init := by
  cases ran with
  | ends stands =>
      rw [stands, State.move_thread_self]
      exact ⟨rfl, Nat.le_refl 1⟩
  | notes stands =>
      rw [stands, State.move_thread_self]
      exact ⟨rfl, Nat.le_refl _⟩
  | reads stands full =>
      rw [stands, State.move_thread_self, coherent.full _ _ full]
      exact ⟨rfl, Nat.le_succ _⟩
  | starts stands _ =>
      rw [stands, State.move_thread_self]
      exact ⟨rfl, Nat.le_refl _⟩
  | fills stands =>
      rw [stands, State.move_thread_self]
      exact ⟨rfl, Nat.le_refl _⟩

/-- A thread that is at no cell before and after a step, which changes no
cell. -/
theorem filling_of_move (coherent : Coherent init program history state)
    {thread : Thread Key Value Note Result}
    (before : ∀ key rest, state.thread c ≠ .filling key rest)
    (after : ∀ key rest, thread ≠ .filling key rest) (key : Key)
    (owner : ι) :
    (state.move c thread).cell key = .filling owner ↔
      ∃ rest, (state.move c thread).thread owner = .filling key rest := by
  rw [State.move_cell, coherent.filling]
  by_cases same : owner = c
  · subst same
    simp [before, after]
  · rw [State.move_thread_of_ne same]

theorem filling_of_step (coherent : Coherent init program history state)
    (ran : Step init state c next emitted) (key : Key) (owner : ι) :
    next.cell key = .filling owner ↔
      ∃ rest, next.thread owner = .filling key rest := by
  cases ran with
  | ends stands =>
      exact coherent.filling_of_move (by simp [stands]) (by simp) key owner
  | notes stands =>
      exact coherent.filling_of_move (by simp [stands]) (by simp) key owner
  | reads stands _ =>
      exact coherent.filling_of_move (by simp [stands]) (by simp) key owner
  | @starts started rest stands empty =>
      rw [State.move_cell]
      have nobody := coherent.filling started
      simp only [empty, reduceCtorEq, false_iff, not_exists] at nobody
      by_cases sameKey : key = started
      · subst sameKey
        rw [State.put_cell_self, Cell.filling.injEq]
        by_cases same : owner = c
        · subst same
          simp
        · rw [State.move_thread_of_ne same, State.put_thread]
          simp [nobody, Ne.symm same]
      · rw [State.put_cell_of_ne sameKey, coherent.filling]
        by_cases same : owner = c
        · subst same
          simp [stands, Ne.symm sameKey]
        · rw [State.move_thread_of_ne same, State.put_thread]
  | @fills filled rest stands =>
      rw [State.move_cell]
      have mine := (coherent.filling filled c).mpr ⟨rest, stands⟩
      by_cases sameKey : key = filled
      · subst sameKey
        rw [State.put_cell_self]
        by_cases same : owner = c
        · subst same
          simp
        · have notOwner := (coherent.filling key owner).not.mp
            (by simpa [mine] using Ne.symm same)
          rw [State.move_thread_of_ne same, State.put_thread]
          simpa using notOwner
      · rw [State.put_cell_of_ne sameKey, coherent.filling]
        by_cases same : owner = c
        · subst same
          simp [stands, Ne.symm sameKey]
        · rw [State.move_thread_of_ne same, State.put_thread]

theorem full_of_step (coherent : Coherent init program history state)
    (ran : Step init state c next emitted) (key : Key) (value : Value)
    (full : next.cell key = .full value) : value = init key := by
  cases ran with
  | ends _ | notes _ | reads _ _ => exact coherent.full key value full
  | @starts started _ _ _ =>
      rw [State.move_cell] at full
      by_cases same : key = started
      · subst same
        rw [State.put_cell_self] at full
        cases full
      · rw [State.put_cell_of_ne same] at full
        exact coherent.full key value full
  | @fills filled _ _ =>
      rw [State.move_cell] at full
      by_cases same : key = filled
      · subst same
        rw [State.put_cell_self] at full
        exact (Cell.full.inj full).symm
      · rw [State.put_cell_of_ne same] at full
        exact coherent.full key value full

theorem starts_of_step (coherent : Coherent init program history state)
    (ran : Step init state c next emitted) (key : Key) :
    (history ++ emitted).countP (Event.starts key) =
      (next.cell key).starts := by
  rw [List.countP_append, coherent.starts]
  cases ran with
  | ends _ | notes _ | reads _ _ => rfl
  | @starts started _ _ empty =>
      rw [State.move_cell]
      by_cases same : key = started
      · subst same
        rw [State.put_cell_self, empty]
        simp [Event.starts, Cell.starts]
      · rw [State.put_cell_of_ne same]
        simp [Event.starts, Ne.symm same]
  | @fills filled rest stands =>
      rw [State.move_cell]
      by_cases same : key = filled
      · subst same
        rw [State.put_cell_self,
          (coherent.filling key c).mpr ⟨rest, stands⟩]
        rfl
      · rw [State.put_cell_of_ne same]
        rfl

theorem got_of_step (coherent : Coherent init program history state)
    (ran : Step init state c next emitted) (owner : ι) (key : Key)
    (value : Value) (got : .got owner key value ∈ history ++ emitted) :
    value = init key := by
  rcases List.mem_append.mp got with before | now
  · exact coherent.got owner key value before
  · cases ran with
    | ends _ | notes _ => cases now
    | reads _ full =>
        cases List.mem_singleton.mp now
        exact coherent.full _ _ full
    | starts _ _ => cases List.mem_singleton.mp now
    | fills _ =>
        cases List.mem_singleton.mp now
        rfl

theorem step (coherent : Coherent init program history state)
    (ran : Step init state c next emitted) :
    Coherent init program (history ++ emitted) next where
  full := coherent.full_of_step ran
  filling := coherent.filling_of_step ran
  starts := coherent.starts_of_step ran
  got := coherent.got_of_step ran
  eval other := by
    by_cases same : other = c
    · subst same
      rw [(coherent.thread_of_step ran).1, coherent.eval]
    · rw [ran.others same, coherent.eval]

/-- Somebody can go on until all have ended: who computes a value waits for
nobody. -/
theorem ended_of_stuck (coherent : Coherent init program history state)
    (stuck : (machine init).Stuck state) (c : ι) :
    state.thread c = .ended ((program c).eval init) := by
  have idle : Once.step init state c = none := stuck c
  have result := coherent.eval c
  unfold Once.step at idle
  split at idle
  · rename_i ended
    rw [ended] at result ⊢
    exact congrArg _ result
  · cases idle
  · cases idle
  · split at idle
    · cases idle
    · rename_i owner filling
      obtain ⟨rest, stands⟩ := (coherent.filling _ owner).mp filling
      have going : Once.step init state owner = none := stuck owner
      simp [Once.step, stands] at going
    · cases idle
  · cases idle

end Coherent

/-! ## The runs -/

section Runs

variable {program : ι → Program Key Value Note Result} {schedule : List ι}
  {history : List (Event ι Key Value)}

theorem coherent_of_runs
    (run : (machine init).Runs (.initial program) schedule history state) :
    Coherent init program history state :=
  Machine.Runs.invariant (coherent_initial init program)
    (fun _ coherent ran => coherent.step (step_of_machine ran)) run

/-- A program takes no more steps than it would alone with empty cells. -/
theorem count_schedule_le
    (run : (machine init).Runs (.initial program) schedule history state)
    (c : ι) :
    schedule.count c + (state.thread c).steps init ≤
      programSteps init (program c) := by
  induction run with
  | refl =>
      rw [List.count_nil, Nat.zero_add]
      exact Nat.le_refl _
  | @tail _ _ _ middle final action before ran induction =>
      have coherent := coherent_of_runs before
      have step := step_of_machine ran
      rw [List.count_append, List.count_singleton]
      by_cases same : action = c
      · subst same
        have fewer := (coherent.thread_of_step step).2
        rw [beq_self_eq_true, if_pos rfl]
        omega
      · rw [step.others (Ne.symm same), beq_eq_false_iff_ne.mpr same]
        simpa using induction

end Runs

end Once
