import Mathlib.Data.Set.Insert
import Mathlib.Logic.Function.Basic
import Mathlib.Logic.Relation
import Mathlib.Order.RelClasses

/-!
# Threads that take locks

The code of a thread takes and releases locks, reads and updates the data that
one of the locks guards, and calls outside code, which may return anything or
panic.  Code is disciplined if it waits for locks in increasing order, touches
the data under its guard only, calls outside code only under locks that the
call permits, and holds none at its end.  Threads with disciplined code keep
to it under every interleaving, and never wait for each other in a circle.
-/

namespace Locking

/-- What `try_lock` finds: a lock is poisoned when a thread panicked with it. -/
inductive TryLock where
  | acquired (poisoned : Bool)
  | wouldBlock

inductive Code (Lock Data Query : Type) (Answer : Query → Type)
    (Result : Type) where
  /-- Waits while the lock is taken. -/
  | lock (lock : Lock) (next : Bool → Code Lock Data Query Answer Result)
  | tryLock (lock : Lock)
      (next : TryLock → Code Lock Data Query Answer Result)
  | unlock (lock : Lock) (next : Code Lock Data Query Answer Result)
  /-- Goes on with the data as it was before the update. -/
  | access (update : Data → Data)
      (next : Data → Code Lock Data Query Answer Result)
  | call (query : Query)
      (next : Answer query → Code Lock Data Query Answer Result)
  | ret (result : Result)

inductive Thread (Lock Data Query : Type) (Answer : Query → Type)
    (Result : Type) where
  | running (code : Code Lock Data Query Answer Result)
  /-- After a panic, releasing the locks it holds. -/
  | unwinding
  | ended (result : Option Result)

structure State (ι Lock Data Query : Type) (Answer : Query → Type)
    (Result : Type) where
  data : Data
  owner : Lock → Option ι
  poisoned : Lock → Bool
  thread : ι → Thread Lock Data Query Answer Result

/-- What outside code does in a step of a thread. -/
inductive Label (Query : Type) (Answer : Query → Type) where
  | internal
  | answered (query : Query) (answer : Answer query)
  | panicked (query : Query)

variable {ι Lock Data Query : Type} {Answer : Query → Type} {Result : Type}

namespace State

/-- All threads at the start of their code, with every lock free. -/
def initial (data : Data) (code : ι → Code Lock Data Query Answer Result) :
    State ι Lock Data Query Answer Result where
  data := data
  owner := fun _ => none
  poisoned := fun _ => false
  thread := fun c => .running (code c)

variable (state : State ι Lock Data Query Answer Result)

def held (c : ι) : Set Lock :=
  {lock | state.owner lock = some c}

section Owner

variable [DecidableEq Lock]

/-- A lock changes hands, or becomes free. -/
def pass (lock : Lock) (owner : Option ι) :
    State ι Lock Data Query Answer Result :=
  { state with owner := Function.update state.owner lock owner }

variable {state} {c other : ι} {lock : Lock}

theorem held_acquire :
    (state.pass lock (some c)).held c = insert lock (state.held c) := by
  ext wanted
  by_cases same : wanted = lock
  · simp [held, pass, same]
  · simp [held, pass, same]

theorem held_acquire_of_ne (free : state.owner lock = none)
    (different : other ≠ c) :
    (state.pass lock (some c)).held other = state.held other := by
  ext wanted
  by_cases same : wanted = lock
  · simp [held, pass, same, free, Ne.symm different]
  · simp [held, pass, same]

theorem held_release :
    (state.pass lock none).held c = state.held c \ {lock} := by
  ext wanted
  by_cases same : wanted = lock
  · simp [held, pass, same]
  · simp [held, pass, same]

theorem held_release_of_ne (owned : state.owner lock = some c)
    (different : other ≠ c) :
    (state.pass lock none).held other = state.held other := by
  ext wanted
  by_cases same : wanted = lock
  · simp [held, pass, same, owned, Ne.symm different]
  · simp [held, pass, same]

end Owner

variable [DecidableEq ι] (c : ι)
  (thread : Thread Lock Data Query Answer Result)

def move : State ι Lock Data Query Answer Result :=
  { state with thread := Function.update state.thread c thread }

@[simp] theorem move_thread_self : (state.move c thread).thread c = thread :=
  Function.update_self ..

@[simp] theorem held_move (other : ι) :
    (state.move c thread).held other = state.held other := rfl

theorem move_thread_of_ne {other : ι} (different : other ≠ c) :
    (state.move c thread).thread other = state.thread other :=
  Function.update_of_ne different ..

end State

variable [DecidableEq ι] [DecidableEq Lock]

/-- The steps of the threads one by one. -/
inductive Step (state : State ι Lock Data Query Answer Result) :
    ι → Label Query Answer → State ι Lock Data Query Answer Result →
      Prop where
  | lock {c : ι} {lock : Lock}
      {next : Bool → Code Lock Data Query Answer Result} :
      state.thread c = .running (.lock lock next) →
      state.owner lock = none →
      Step state c .internal ((state.pass lock (some c)).move c
        (.running (next (state.poisoned lock))))
  | tryLock {c : ι} {lock : Lock}
      {next : TryLock → Code Lock Data Query Answer Result} :
      state.thread c = .running (.tryLock lock next) →
      state.owner lock = none →
      Step state c .internal ((state.pass lock (some c)).move c
        (.running (next (.acquired (state.poisoned lock)))))
  | wouldBlock {c holder : ι} {lock : Lock}
      {next : TryLock → Code Lock Data Query Answer Result} :
      state.thread c = .running (.tryLock lock next) →
      state.owner lock = some holder →
      Step state c .internal (state.move c (.running (next .wouldBlock)))
  | unlock {c : ι} {lock : Lock}
      {next : Code Lock Data Query Answer Result} :
      state.thread c = .running (.unlock lock next) →
      state.owner lock = some c →
      Step state c .internal ((state.pass lock none).move c (.running next))
  | access {c : ι} {update : Data → Data}
      {next : Data → Code Lock Data Query Answer Result} :
      state.thread c = .running (.access update next) →
      Step state c .internal
        { state.move c (.running (next state.data)) with
          data := update state.data }
  | answer {c : ι} {query : Query}
      {next : Answer query → Code Lock Data Query Answer Result}
      (answer : Answer query) :
      state.thread c = .running (.call query next) →
      Step state c (.answered query answer)
        (state.move c (.running (next answer)))
  | panic {c : ι} {query : Query}
      {next : Answer query → Code Lock Data Query Answer Result} :
      state.thread c = .running (.call query next) →
      Step state c (.panicked query) (state.move c .unwinding)
  | unwind {c : ι} {lock : Lock} :
      state.thread c = .unwinding →
      state.owner lock = some c →
      Step state c .internal
        { state.pass lock none with
          poisoned := Function.update state.poisoned lock true }
  | unwound {c : ι} :
      state.thread c = .unwinding →
      (∀ lock, state.owner lock ≠ some c) →
      Step state c .internal (state.move c (.ended none))
  | ret {c : ι} {result : Result} :
      state.thread c = .running (.ret result) →
      Step state c .internal (state.move c (.ended (some result)))

/-- The states that steps with allowed labels lead to. -/
def Reachable (allowed : ι → Label Query Answer → Prop)
    (start : State ι Lock Data Query Answer Result) :
    State ι Lock Data Query Answer Result → Prop :=
  Relation.ReflTransGen
    (fun state next => ∃ c label, allowed c label ∧ Step state c label next)
    start

/-- The runs from `start` with the labels of their steps. -/
inductive Runs (allowed : ι → Label Query Answer → Prop)
    (start : State ι Lock Data Query Answer Result) :
    List (ι × Label Query Answer) →
      State ι Lock Data Query Answer Result → Prop where
  | refl : Runs allowed start [] start
  | tail {trace : List (ι × Label Query Answer)}
      {middle next : State ι Lock Data Query Answer Result} {c : ι}
      {label : Label Query Answer} :
      Runs allowed start trace middle → allowed c label →
      Step middle c label next →
      Runs allowed start (trace ++ [(c, label)]) next

/-- The thread waits for a lock that `holder` has. -/
def WaitsFor (state : State ι Lock Data Query Answer Result)
    (c holder : ι) : Prop :=
  ∃ lock next, state.thread c = .running (.lock lock next) ∧
    state.owner lock = some holder

/-- The thread has a step other than a panic of the code it calls. -/
def Enabled (state : State ι Lock Data Query Answer Result) (c : ι) : Prop :=
  ∃ label next, (∀ query, label ≠ .panicked query) ∧
    Step state c label next

omit [DecidableEq ι] [DecidableEq Lock] in
theorem WaitsFor.unique {state : State ι Lock Data Query Answer Result}
    {c holder other : ι} (waits : WaitsFor state c holder)
    (waitsForOther : WaitsFor state c other) : holder = other := by
  obtain ⟨lock, code, stands, taken⟩ := waits
  obtain ⟨_, _, standsAgain, takenAgain⟩ := waitsForOther
  rw [stands] at standsAgain
  cases standsAgain
  exact Option.some.inj (taken.symm.trans takenAgain)

namespace Step

variable {state next : State ι Lock Data Query Answer Result} {c other : ι}
  {label : Label Query Answer}

theorem others (step : Step state c label next) (different : other ≠ c) :
    next.thread other = state.thread other ∧
      next.held other = state.held other := by
  cases step with
  | lock _ free | tryLock _ free =>
      exact ⟨State.move_thread_of_ne _ _ _ different,
        State.held_acquire_of_ne free different⟩
  | unlock _ owned =>
      exact ⟨State.move_thread_of_ne _ _ _ different,
        State.held_release_of_ne owned different⟩
  | unwind _ owned => exact ⟨rfl, State.held_release_of_ne owned different⟩
  | _ => exact ⟨State.move_thread_of_ne _ _ _ different, rfl⟩

/-- After a panic no code is run. -/
theorem of_unwinding (step : Step state c label next)
    (stands : state.thread c = .unwinding) :
    next.thread c = .unwinding ∨ next.thread c = .ended none := by
  cases step with
  | unwind _ _ => exact .inl stands
  | unwound _ _ => exact .inr (State.move_thread_self ..)
  | _ => simp_all

/-- A thread that waits has no step. -/
theorem not_waitsFor {holder : ι} (step : Step state c label next) :
    ¬ WaitsFor state c holder := by
  intro waits
  obtain ⟨lock, code, stands, taken⟩ := waits
  cases step <;> simp_all

end Step

/-! ## Executing a schedule -/

namespace State

/-- The step of a thread that is not in outside code. -/
def advance (state : State ι Lock Data Query Answer Result) (c : ι) :
    Option (State ι Lock Data Query Answer Result) :=
  match state.thread c with
  | .running (.lock lock next) =>
      if (state.owner lock).isNone then
        some ((state.pass lock (some c)).move c
          (.running (next (state.poisoned lock))))
      else none
  | .running (.tryLock lock next) =>
      if (state.owner lock).isNone then
        some ((state.pass lock (some c)).move c
          (.running (next (.acquired (state.poisoned lock)))))
      else some (state.move c (.running (next .wouldBlock)))
  | .running (.unlock lock next) =>
      if state.owner lock = some c then
        some ((state.pass lock none).move c (.running next))
      else none
  | .running (.access update next) =>
      some { state.move c (.running (next state.data)) with
        data := update state.data }
  | .running (.ret result) => some (state.move c (.ended (some result)))
  | _ => none

theorem step_of_advance {state next : State ι Lock Data Query Answer Result}
    {c : ι} (advanced : state.advance c = some next) :
    Step state c .internal next := by
  unfold advance at advanced
  split at advanced
  · rename_i stands
    split at advanced
    · rename_i free
      cases advanced
      exact .lock stands (Option.isNone_iff_eq_none.mp free)
    · cases advanced
  · rename_i stands
    split at advanced
    · rename_i free
      cases advanced
      exact .tryLock stands (Option.isNone_iff_eq_none.mp free)
    · rename_i taken
      cases advanced
      obtain ⟨holder, owned⟩ :=
        Option.ne_none_iff_exists'.mp (mt Option.isNone_iff_eq_none.mpr taken)
      exact .wouldBlock stands owned
  · rename_i stands
    split at advanced
    · rename_i owned
      cases advanced
      exact .unlock stands owned
    · cases advanced
  · rename_i stands
    cases advanced
    exact .access stands
  · rename_i stands
    cases advanced
    exact .ret stands
  · cases advanced

end State

theorem Reachable.of_schedule {allowed : ι → Label Query Answer → Prop}
    (internal : ∀ c, allowed c .internal)
    {start state : State ι Lock Data Query Answer Result}
    {schedule : List ι}
    (replayed : schedule.foldlM State.advance start = some state) :
    Reachable allowed start state := by
  induction schedule generalizing start with
  | nil =>
      cases replayed
      exact .refl
  | cons c rest induction =>
      rw [List.foldlM_cons] at replayed
      obtain ⟨next, advanced, later⟩ := Option.bind_eq_some_iff.mp replayed
      exact .head ⟨c, .internal, internal c, State.step_of_advance advanced⟩
        (induction later)

theorem Runs.extend {allowed : ι → Label Query Answer → Prop}
    (internal : ∀ c, allowed c .internal)
    {start middle final : State ι Lock Data Query Answer Result}
    {trace : List (ι × Label Query Answer)}
    (run : Runs allowed start trace middle) {schedule : List ι}
    (replayed : schedule.foldlM State.advance middle = some final) :
    Runs allowed start (trace ++ schedule.map fun c => (c, .internal))
      final := by
  induction schedule generalizing trace middle with
  | nil =>
      cases replayed
      simpa using run
  | cons c rest induction =>
      rw [List.foldlM_cons] at replayed
      obtain ⟨next, advanced, later⟩ := Option.bind_eq_some_iff.mp replayed
      have extended := run.tail (internal c) (State.step_of_advance advanced)
      simpa using induction extended later

namespace State

/-- The step of a thread, where outside code answers at once. -/
def proceed (answers : ∀ query, ι → Answer query)
    (state : State ι Lock Data Query Answer Result) (c : ι) :
    Option (State ι Lock Data Query Answer Result) :=
  match state.thread c with
  | .running (.call query next) =>
      some (state.move c (.running (next (answers query c))))
  | _ => state.advance c

theorem step_of_proceed {answers : ∀ query, ι → Answer query}
    {state next : State ι Lock Data Query Answer Result} {c : ι}
    (proceeded : state.proceed answers c = some next) :
    Step state c .internal next ∨
      ∃ query, Step state c (.answered query (answers query c)) next := by
  unfold proceed at proceeded
  split at proceeded
  · rename_i stands
    cases proceeded
    exact .inr ⟨_, .answer _ stands⟩
  · exact .inl (step_of_advance proceeded)

end State

theorem Reachable.of_answers {allowed : ι → Label Query Answer → Prop}
    {answers : ∀ query, ι → Answer query}
    (internal : ∀ c, allowed c .internal)
    (answered : ∀ c query, allowed c (.answered query (answers query c)))
    {start state : State ι Lock Data Query Answer Result}
    {schedule : List ι}
    (replayed : schedule.foldlM (State.proceed answers) start =
      some state) :
    Reachable allowed start state := by
  induction schedule generalizing start with
  | nil =>
      cases replayed
      exact .refl
  | cons c rest induction =>
      rw [List.foldlM_cons] at replayed
      obtain ⟨next, proceeded, later⟩ := Option.bind_eq_some_iff.mp replayed
      rcases State.step_of_proceed proceeded with step | ⟨query, step⟩
      · exact .head ⟨c, .internal, internal c, step⟩ (induction later)
      · exact .head ⟨c, _, answered c query, step⟩ (induction later)

/-- What an ended thread returned. -/
def Thread.returned : Thread Lock Data Query Answer Result → Option Result
  | .ended result => result
  | _ => none

omit [DecidableEq Lock] in
theorem Thread.ended_of_returned
    {thread : Thread Lock Data Query Answer Result} {result : Result}
    (returned : thread.returned = some result) :
    thread = .ended (some result) := by
  cases thread with
  | ended found =>
      cases returned
      rfl
  | _ => cases returned

/-! ## Discipline -/

section Discipline

variable [Preorder Lock]

/-- Code that keeps to the discipline when it is run under the locks
`held`. -/
inductive Disciplined (guard : Lock) (permits : Set Lock → Query → Prop) :
    Set Lock → Code Lock Data Query Answer Result → Prop where
  | lock {held : Set Lock} {lock : Lock}
      {next : Bool → Code Lock Data Query Answer Result} :
      (∀ earlier ∈ held, earlier < lock) →
      (∀ poisoned, Disciplined guard permits (insert lock held)
        (next poisoned)) →
      Disciplined guard permits held (.lock lock next)
  | tryLock {held : Set Lock} {lock : Lock}
      {next : TryLock → Code Lock Data Query Answer Result} :
      (∀ poisoned, Disciplined guard permits (insert lock held)
        (next (.acquired poisoned))) →
      Disciplined guard permits held (next .wouldBlock) →
      Disciplined guard permits held (.tryLock lock next)
  | unlock {held : Set Lock} {lock : Lock}
      {next : Code Lock Data Query Answer Result} :
      lock ∈ held →
      Disciplined guard permits (held \ {lock}) next →
      Disciplined guard permits held (.unlock lock next)
  | access {held : Set Lock} {update : Data → Data}
      {next : Data → Code Lock Data Query Answer Result} :
      guard ∈ held →
      (∀ data, Disciplined guard permits held (next data)) →
      Disciplined guard permits held (.access update next)
  | call {held : Set Lock} {query : Query}
      {next : Answer query → Code Lock Data Query Answer Result} :
      permits held query →
      (∀ answer, Disciplined guard permits held (next answer)) →
      Disciplined guard permits held (.call query next)
  | ret {held : Set Lock} {result : Result} :
      held = ∅ → Disciplined guard permits held (.ret result)

def Thread.Disciplined (guard : Lock) (permits : Set Lock → Query → Prop)
    (held : Set Lock) : Thread Lock Data Query Answer Result → Prop
  | .running code => Locking.Disciplined guard permits held code
  | .unwinding => True
  | .ended _ => held = ∅

/-- Every thread keeps to the discipline with the locks that it holds. -/
def State.Disciplined (guard : Lock) (permits : Set Lock → Query → Prop)
    (state : State ι Lock Data Query Answer Result) : Prop :=
  ∀ c, (state.thread c).Disciplined guard permits (state.held c)

variable {guard : Lock} {permits : Set Lock → Query → Prop}
  {state next : State ι Lock Data Query Answer Result} {c : ι}
  {label : Label Query Answer}

theorem Step.disciplined (step : Step state c label next)
    (disciplined : (state.thread c).Disciplined guard permits
      (state.held c)) :
    (next.thread c).Disciplined guard permits (next.held c) := by
  cases step with
  | lock stands _ =>
      rw [stands] at disciplined
      cases disciplined with
      | lock _ later =>
          rw [State.move_thread_self, State.held_move, State.held_acquire]
          exact later _
  | tryLock stands _ =>
      rw [stands] at disciplined
      cases disciplined with
      | tryLock later _ =>
          rw [State.move_thread_self, State.held_move, State.held_acquire]
          exact later _
  | wouldBlock stands _ =>
      rw [stands] at disciplined
      cases disciplined with
      | tryLock _ later =>
          rw [State.move_thread_self]
          exact later
  | unlock stands owned =>
      rw [stands] at disciplined
      cases disciplined with
      | unlock _ later =>
          rw [State.move_thread_self, State.held_move, State.held_release]
          exact later
  | access stands =>
      rw [stands] at disciplined
      cases disciplined with
      | access _ later =>
          dsimp only
          rw [State.move_thread_self]
          exact later _
  | answer answer stands =>
      rw [stands] at disciplined
      cases disciplined with
      | call _ later =>
          rw [State.move_thread_self]
          exact later answer
  | panic stands =>
      rw [State.move_thread_self]
      trivial
  | unwind stands _ =>
      change (state.thread c).Disciplined guard permits _
      rw [stands]
      trivial
  | unwound stands free =>
      rw [State.move_thread_self]
      exact Set.eq_empty_of_forall_notMem free
  | ret stands =>
      rw [stands] at disciplined
      cases disciplined with
      | ret free =>
          rw [State.move_thread_self]
          exact free

/-- The discipline is kept under every interleaving. -/
theorem Reachable.disciplined {allowed : ι → Label Query Answer → Prop}
    {start : State ι Lock Data Query Answer Result}
    (initial : start.Disciplined guard permits)
    (reached : Reachable allowed start state) :
    state.Disciplined guard permits := by
  induction reached with
  | refl => exact initial
  | tail _ taken disciplined =>
      obtain ⟨c, label, _, step⟩ := taken
      intro other
      by_cases same : other = c
      · subst same
        exact step.disciplined (disciplined other)
      · obtain ⟨threadEq, heldEq⟩ := step.others same
        rw [threadEq, heldEq]
        exact disciplined other

omit [DecidableEq ι] [DecidableEq Lock] in
theorem State.disciplined_initial {data : Data}
    {code : ι → Code Lock Data Query Answer Result}
    (disciplined : ∀ c, Locking.Disciplined guard permits ∅ (code c)) :
    (State.initial data code).Disciplined guard permits := by
  intro c
  have none : (State.initial data code).held c = ∅ :=
    Set.eq_empty_of_forall_notMem fun lock owned => by cases owned
  rw [none]
  exact disciplined c

/-! ## No deadlock -/

/-- A thread that has not ended goes on, or waits. -/
theorem State.Disciplined.enabled_or_waitsFor
    [∀ query, Nonempty (Answer query)]
    (disciplined : state.Disciplined guard permits)
    (unfinished : ∀ result, state.thread c ≠ .ended result) :
    Enabled state c ∨ ∃ holder, WaitsFor state c holder := by
  have now := disciplined c
  cases stands : state.thread c with
  | ended result => exact absurd stands (unfinished result)
  | unwinding =>
      left
      by_cases holds : ∃ lock, state.owner lock = some c
      · obtain ⟨lock, owned⟩ := holds
        exact ⟨_, _, by simp, .unwind stands owned⟩
      · exact ⟨_, _, by simp, .unwound stands (not_exists.mp holds)⟩
  | running code =>
      rw [stands] at now
      cases now with
      | @lock _ lock code _ _ =>
          cases owned : state.owner lock with
          | none => exact .inl ⟨_, _, by simp, .lock stands owned⟩
          | some holder => exact .inr ⟨holder, lock, code, stands, owned⟩
      | @tryLock _ lock _ _ _ =>
          left
          cases owned : state.owner lock with
          | none => exact ⟨_, _, by simp, .tryLock stands owned⟩
          | some holder => exact ⟨_, _, by simp, .wouldBlock stands owned⟩
      | unlock owned _ => exact .inl ⟨_, _, by simp, .unlock stands owned⟩
      | access _ _ => exact .inl ⟨_, _, by simp, .access stands⟩
      | @call _ query _ _ _ =>
          have answer := Classical.arbitrary (Answer query)
          exact .inl ⟨_, _, by simp, .answer answer stands⟩
      | ret _ => exact .inl ⟨_, _, by simp, .ret stands⟩

/-- Every wait ends, along the holders of the locks, at a thread that goes
on: a thread waits only for a lock above those it holds. -/
theorem State.Disciplined.exists_enabled [WellFoundedGT Lock]
    [∀ query, Nonempty (Answer query)]
    (disciplined : state.Disciplined guard permits)
    (unfinished : ∀ result, state.thread c ≠ .ended result) :
    ∃ other, Relation.ReflTransGen (WaitsFor state) c other ∧
      Enabled state other := by
  have chain : ∀ (lock : Lock) (holder : ι),
      state.owner lock = some holder →
      ∃ other, Relation.ReflTransGen (WaitsFor state) holder other ∧
        Enabled state other := by
    intro lock
    induction lock using WellFoundedGT.induction with
    | ind lock induction =>
        intro holder owned
        have unfinished : ∀ result, state.thread holder ≠ .ended result := by
          intro result stands
          have empty := disciplined holder
          rw [stands] at empty
          exact Set.eq_empty_iff_forall_notMem.mp empty lock owned
        rcases disciplined.enabled_or_waitsFor unfinished with
          enabled | ⟨other, wanted, code, stands, taken⟩
        · exact ⟨holder, .refl, enabled⟩
        · have above := disciplined holder
          rw [stands] at above
          cases above with
          | lock below _ =>
              obtain ⟨last, waits, enabled⟩ :=
                induction wanted (below lock owned) other taken
              exact ⟨last, .head ⟨wanted, code, stands, taken⟩ waits, enabled⟩
  rcases disciplined.enabled_or_waitsFor unfinished with
    enabled | ⟨holder, lock, code, stands, taken⟩
  · exact ⟨c, .refl, enabled⟩
  · obtain ⟨last, waits, enabled⟩ := chain lock holder taken
    exact ⟨last, .head ⟨lock, code, stands, taken⟩ waits, enabled⟩

/-- No threads wait for each other only. -/
theorem State.Disciplined.no_deadlock [WellFoundedGT Lock]
    [∀ query, Nonempty (Answer query)]
    (disciplined : state.Disciplined guard permits) {threads : Set ι}
    (nonempty : threads.Nonempty) :
    ¬ ∀ c ∈ threads, ∃ holder ∈ threads, WaitsFor state c holder := by
  intro circle
  have inside : ∀ {c other}, c ∈ threads →
      Relation.ReflTransGen (WaitsFor state) c other → other ∈ threads := by
    intro c other member waits
    induction waits with
    | refl => exact member
    | tail _ waits induction =>
        obtain ⟨holder, holderMember, waitsForHolder⟩ := circle _ induction
        rwa [waits.unique waitsForHolder]
  obtain ⟨c, member⟩ := nonempty
  obtain ⟨_, _, _, _, stands, _⟩ := circle c member
  obtain ⟨other, waits, _, _, _, step⟩ :=
    disciplined.exists_enabled (c := c) (by simp [stands])
  obtain ⟨holder, _, waiting⟩ := circle other (inside member waits)
  exact step.not_waitsFor waiting

end Discipline

end Locking
