/-!
# Programs that ask questions

A program returns a result, asks a query and goes on with the response, or
leaves a note.  It can be run by a handler with a state of its own, or be
read against a relation that says which responses a query may get.
-/

namespace Interaction

inductive Program (Query Response Note Result : Type) where
  | ret (result : Result)
  | ask (query : Query)
      (next : Response → Program Query Response Note Result)
  | note (note : Note) (next : Program Query Response Note Result)

/-- A handler that counts the queries; its answers may change from one to the
next. -/
def serial {Query Response : Type} (answers : Nat → Query → Response)
    (count : Nat) (query : Query) : Response × Nat :=
  (answers count query, count + 1)

namespace Program

variable {Query Response Note Result Other State : Type}

def map (f : Result → Other) :
    Program Query Response Note Result → Program Query Response Note Other
  | ret result => ret (f result)
  | ask query next => ask query fun response => (next response).map f
  | note text next => note text (next.map f)

def bind : Program Query Response Note Result →
    (Result → Program Query Response Note Other) →
    Program Query Response Note Other
  | ret result, next => next result
  | ask query rest, next => ask query fun response => (rest response).bind next
  | note text rest, next => note text (rest.bind next)

/-- The program can return the result when every query gets one of the
responses that `answer` allows. -/
def Yields (answer : Query → Response → Prop) :
    Program Query Response Note Result → Result → Prop
  | ret result, expected => result = expected
  | ask query next, expected =>
      ∃ response, answer query response ∧
        (next response).Yields answer expected
  | note _ next, expected => next.Yields answer expected

/-- The result when a function answers the queries. -/
def eval (answer : Query → Response) :
    Program Query Response Note Result → Result
  | ret result => result
  | ask query next => (next (answer query)).eval answer
  | note _ next => next.eval answer

/-- The result, the notes, and the state of the handler at the end. -/
def run (handler : State → Query → Response × State) :
    Program Query Response Note Result → State →
      Result × List Note × State
  | ret result, state => (result, [], state)
  | ask query next, state =>
      let (response, after) := handler state query
      (next response).run handler after
  | note text next, state =>
      let (result, notes, after) := next.run handler state
      (result, text :: notes, after)

@[simp] theorem eval_bind {answer : Query → Response}
    {program : Program Query Response Note Result}
    {next : Result → Program Query Response Note Other} :
    (program.bind next).eval answer =
      (next (program.eval answer)).eval answer := by
  induction program with
  | ret result => rfl
  | ask query rest induction => exact induction _
  | note text rest induction => exact induction

theorem yields_map_iff {answer : Query → Response → Prop}
    {program : Program Query Response Note Result} {f : Result → Other}
    {expected : Other} :
    (program.map f).Yields answer expected ↔
      ∃ result, program.Yields answer result ∧ f result = expected := by
  induction program with
  | ret result => simp [map, Yields]
  | ask query next induction =>
      simp only [map, Yields, induction]
      constructor
      · rintro ⟨response, answered, result, yields, equality⟩
        exact ⟨result, ⟨response, answered, yields⟩, equality⟩
      · rintro ⟨result, ⟨response, answered, yields⟩, equality⟩
        exact ⟨response, answered, result, yields, equality⟩
  | note text next induction => exact induction

theorem run_map {handler : State → Query → Response × State}
    {program : Program Query Response Note Result} {f : Result → Other}
    (state : State) :
    (program.map f).run handler state =
      (f (program.run handler state).1, (program.run handler state).2) := by
  induction program generalizing state with
  | ret result => rfl
  | ask query next induction => exact induction _ _
  | note text next induction =>
      simp only [map, run]
      rw [induction]

/-- A program in two parts runs the second from where the first ended. -/
theorem run_bind {handler : State → Query → Response × State}
    {program : Program Query Response Note Result}
    {next : Result → Program Query Response Note Other} (state : State) :
    (program.bind next).run handler state =
      let (result, notes, after) := program.run handler state
      let (other, more, final) := (next result).run handler after
      (other, notes ++ more, final) := by
  induction program generalizing state with
  | ret result => rfl
  | ask query rest induction => exact induction _ _
  | note text rest induction =>
      simp only [bind, run]
      rw [induction]
      rfl

end Program

end Interaction
