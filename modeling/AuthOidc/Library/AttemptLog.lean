import Mathlib.Data.List.Basic

/-!
# Logs of attempts

A log lists attempts in the order in which they started.  Every attempt has
an owner, an anchor and, once it is finished, an outcome.  When attempts are
made one at a time only the last entry of the log can be unfinished.
-/

namespace AttemptLog

structure Attempt (Owner Time Error Value : Type*) where
  owner : Owner
  anchor : Time
  outcome : Option (Except Error Value)

variable {Owner Time Error Value : Type*}

namespace Attempt

def finish (attempt : Attempt Owner Time Error Value)
    (outcome : Except Error Value) : Attempt Owner Time Error Value :=
  { attempt with outcome := some outcome }

/-- The anchor and the value of a successful attempt. -/
def success (attempt : Attempt Owner Time Error Value) :
    Option (Time × Value) :=
  match attempt.outcome with
  | some (.ok value) => some (attempt.anchor, value)
  | _ => none

theorem success_eq_some_iff {attempt : Attempt Owner Time Error Value}
    {anchor : Time} {value : Value} :
    attempt.success = some (anchor, value) ↔
      attempt.anchor = anchor ∧ attempt.outcome = some (.ok value) := by
  rcases attempt with ⟨owner, start, _ | _ | found⟩ <;> simp [success]

end Attempt

/-- A failed attempt with the last success before it. -/
structure Failure (Owner Time Error Value : Type*) where
  owner : Owner
  anchor : Time
  error : Error
  lastSuccess : Option (Time × Value)
  deriving DecidableEq

abbrev Log (Owner Time Error Value : Type*) :=
  List (Attempt Owner Time Error Value)

namespace Log

def start (log : Log Owner Time Error Value) (owner : Owner)
    (anchor : Time) : Log Owner Time Error Value :=
  log ++ [⟨owner, anchor, none⟩]

/-- Record the outcome of the unfinished attempt of `owner`. -/
def finish [DecidableEq Owner] (log : Log Owner Time Error Value)
    (owner : Owner) (outcome : Except Error Value) :
    Log Owner Time Error Value :=
  log.map fun attempt =>
    if attempt.owner = owner ∧ attempt.outcome.isNone then
      attempt.finish outcome
    else attempt

def anchors (log : Log Owner Time Error Value) : List Time :=
  log.map Attempt.anchor

/-- The last attempt, in starting order, that was finished successfully. -/
def lastSuccess (log : Log Owner Time Error Value) :
    Option (Time × Value) :=
  (log.filterMap Attempt.success).getLast?

def Settled (log : Log Owner Time Error Value) : Prop :=
  ∀ attempt ∈ log, attempt.outcome ≠ none

/-- The last attempt is unfinished and all the others are finished. -/
def InFlight (log : Log Owner Time Error Value) (owner : Owner)
    (anchor : Time) : Prop :=
  ∃ front, Settled front ∧ log = front ++ [⟨owner, anchor, none⟩]

theorem settled_nil : Settled ([] : Log Owner Time Error Value) := by
  intro attempt member
  cases member

theorem Settled.start {log : Log Owner Time Error Value}
    (settled : log.Settled) (owner : Owner) (anchor : Time) :
    (log.start owner anchor).InFlight owner anchor :=
  ⟨log, settled, rfl⟩

theorem finish_of_settled [DecidableEq Owner]
    {log : Log Owner Time Error Value} (settled : log.Settled)
    (owner : Owner) (outcome : Except Error Value) :
    log.finish owner outcome = log := by
  unfold finish
  rw [List.map_congr_left (g := id), List.map_id]
  intro attempt member
  have finished := settled attempt member
  simp [finished]

theorem finish_append_unfinished [DecidableEq Owner]
    {front : Log Owner Time Error Value} (settled : Settled front)
    (owner : Owner) (anchor : Time) (outcome : Except Error Value) :
    finish (front ++ [⟨owner, anchor, none⟩]) owner outcome =
      front ++ [⟨owner, anchor, some outcome⟩] := by
  have frontKept := finish_of_settled settled owner outcome
  unfold finish at frontKept ⊢
  rw [List.map_append, frontKept]
  simp [Attempt.finish]

theorem InFlight.settled_finish [DecidableEq Owner]
    {log : Log Owner Time Error Value} {owner : Owner} {anchor : Time}
    (inFlight : log.InFlight owner anchor) (outcome : Except Error Value) :
    (log.finish owner outcome).Settled := by
  obtain ⟨front, settled, rfl⟩ := inFlight
  rw [finish_append_unfinished settled]
  intro attempt member
  rcases List.mem_append.mp member with earlier | latest
  · exact settled attempt earlier
  · rw [List.mem_singleton.mp latest]
    simp

theorem anchors_start (log : Log Owner Time Error Value) (owner : Owner)
    (anchor : Time) :
    (log.start owner anchor).anchors = log.anchors ++ [anchor] := by
  simp [anchors, start]

theorem anchors_finish [DecidableEq Owner]
    (log : Log Owner Time Error Value) (owner : Owner)
    (outcome : Except Error Value) :
    (log.finish owner outcome).anchors = log.anchors := by
  unfold anchors finish
  rw [List.map_map]
  apply List.map_congr_left
  intro attempt _
  dsimp only [Function.comp_apply]
  split <;> rfl

theorem exists_of_mem_finish [DecidableEq Owner]
    {log : Log Owner Time Error Value} {owner : Owner}
    {outcome : Except Error Value}
    {attempt : Attempt Owner Time Error Value}
    (member : attempt ∈ log.finish owner outcome) :
    ∃ before ∈ log, before.owner = attempt.owner ∧
      before.anchor = attempt.anchor := by
  obtain ⟨before, beforeMember, rfl⟩ := List.mem_map.mp member
  refine ⟨before, beforeMember, ?_, ?_⟩
  · split <;> rfl
  · split <;> rfl

/-- A finished attempt stays in the log as it is. -/
theorem mem_finish_of_finished [DecidableEq Owner]
    {log : Log Owner Time Error Value}
    {attempt : Attempt Owner Time Error Value} (member : attempt ∈ log)
    (finished : attempt.outcome ≠ none) (owner : Owner)
    (outcome : Except Error Value) : attempt ∈ log.finish owner outcome := by
  refine List.mem_map.mpr ⟨attempt, member, if_neg ?_⟩
  rintro ⟨_, unfinished⟩
  exact finished (Option.isNone_iff_eq_none.mp unfinished)

theorem lastSuccess_append_of_none {log : Log Owner Time Error Value}
    {attempt : Attempt Owner Time Error Value}
    (unsuccessful : attempt.success = none) :
    lastSuccess (log ++ [attempt]) = lastSuccess log := by
  simp [lastSuccess, List.filterMap_append, unsuccessful]

theorem lastSuccess_append_of_some {log : Log Owner Time Error Value}
    {attempt : Attempt Owner Time Error Value} {success : Time × Value}
    (successful : attempt.success = some success) :
    lastSuccess (log ++ [attempt]) = some success := by
  simp [lastSuccess, List.filterMap_append, successful]

@[simp] theorem lastSuccess_start (log : Log Owner Time Error Value)
    (owner : Owner) (anchor : Time) :
    (log.start owner anchor).lastSuccess = log.lastSuccess :=
  lastSuccess_append_of_none rfl

/-- A failed attempt leaves the last success as it was. -/
theorem InFlight.lastSuccess_finish_error [DecidableEq Owner]
    {log : Log Owner Time Error Value} {owner : Owner} {anchor : Time}
    (inFlight : log.InFlight owner anchor) (error : Error) :
    (log.finish owner (.error error)).lastSuccess = log.lastSuccess := by
  obtain ⟨front, settled, rfl⟩ := inFlight
  rw [finish_append_unfinished settled, lastSuccess_append_of_none rfl,
    lastSuccess_append_of_none rfl]

theorem InFlight.lastSuccess_finish_ok [DecidableEq Owner]
    {log : Log Owner Time Error Value} {owner : Owner} {anchor : Time}
    (inFlight : log.InFlight owner anchor) (value : Value) :
    (log.finish owner (.ok value)).lastSuccess = some (anchor, value) := by
  obtain ⟨front, settled, rfl⟩ := inFlight
  rw [finish_append_unfinished settled]
  exact lastSuccess_append_of_some rfl

theorem mem_of_lastSuccess {log : Log Owner Time Error Value}
    {anchor : Time} {value : Value}
    (last : log.lastSuccess = some (anchor, value)) :
    ∃ owner, ⟨owner, anchor, some (.ok value)⟩ ∈ log := by
  obtain ⟨attempt, member, success⟩ :=
    List.mem_filterMap.mp (List.mem_of_getLast? last)
  obtain ⟨rfl, outcomeEq⟩ := Attempt.success_eq_some_iff.mp success
  exact ⟨attempt.owner, by rw [← outcomeEq]; exact member⟩

/-- When all attempts have succeeded the last success is the last attempt. -/
theorem lastSuccess_of_succeeded {log : Log Owner Time Error Value}
    (succeeded : ∀ attempt ∈ log, ∃ value,
      attempt.outcome = some (.ok value)) :
    log.lastSuccess.map Prod.fst = log.anchors.getLast? := by
  have anchorsEq : (log.filterMap Attempt.success).map Prod.fst =
      log.anchors := by
    induction log with
    | nil => rfl
    | cons attempt rest induction =>
        obtain ⟨value, outcomeEq⟩ := succeeded attempt List.mem_cons_self
        have success : attempt.success = some (attempt.anchor, value) :=
          Attempt.success_eq_some_iff.mpr ⟨rfl, outcomeEq⟩
        rw [List.filterMap_cons_some success, List.map_cons,
          induction fun later member =>
            succeeded later (List.mem_cons_of_mem _ member)]
        rfl
  rw [lastSuccess, ← List.getLast?_map, anchorsEq]

/-! ## Failures -/

theorem lastSuccess_cons (attempt : Attempt Owner Time Error Value)
    (rest : Log Owner Time Error Value) :
    lastSuccess (attempt :: rest) = (lastSuccess rest).or attempt.success := by
  unfold lastSuccess
  cases success : attempt.success with
  | none => simp [success]
  | some found =>
      rw [List.filterMap_cons_some success, List.getLast?_cons]
      cases (rest.filterMap Attempt.success).getLast? <;> rfl

/-- The failures of a log that goes on after the success `last`. -/
def failuresAfter (last : Option (Time × Value)) :
    Log Owner Time Error Value → List (Failure Owner Time Error Value)
  | [] => []
  | attempt :: rest =>
      match attempt.outcome with
      | some (.error error) =>
          ⟨attempt.owner, attempt.anchor, error, last⟩ ::
            failuresAfter last rest
      | _ => failuresAfter (attempt.success.or last) rest

/-- The failures in starting order. -/
def failures (log : Log Owner Time Error Value) :
    List (Failure Owner Time Error Value) :=
  failuresAfter none log

theorem failuresAfter_append (last : Option (Time × Value))
    (front rest : Log Owner Time Error Value) :
    failuresAfter last (front ++ rest) =
      failuresAfter last front ++
        failuresAfter ((lastSuccess front).or last) rest := by
  induction front generalizing last with
  | nil => rfl
  | cons attempt front induction =>
      rw [lastSuccess_cons, Option.or_assoc]
      rcases attempt with ⟨owner, anchor, _ | error | value⟩
      · exact induction _
      · exact congrArg _ (induction last)
      · exact induction _

theorem failures_start (log : Log Owner Time Error Value) (owner : Owner)
    (anchor : Time) : (log.start owner anchor).failures = log.failures := by
  rw [failures, start, failuresAfter_append]
  exact List.append_nil _

theorem InFlight.failures_finish_ok [DecidableEq Owner]
    {log : Log Owner Time Error Value} {owner : Owner} {anchor : Time}
    (inFlight : log.InFlight owner anchor) (value : Value) :
    (log.finish owner (.ok value)).failures = log.failures := by
  obtain ⟨front, settled, rfl⟩ := inFlight
  rw [finish_append_unfinished settled, failures, failures,
    failuresAfter_append, failuresAfter_append]
  rfl

theorem owners_failuresAfter_sublist (last : Option (Time × Value))
    (log : Log Owner Time Error Value) :
    ((failuresAfter last log).map Failure.owner).Sublist
      (log.map Attempt.owner) := by
  induction log generalizing last with
  | nil => exact .slnil
  | cons attempt rest induction =>
      rcases attempt with ⟨owner, anchor, _ | error | value⟩
      · exact (induction _).cons _
      · exact (induction last).cons_cons _
      · exact (induction _).cons _

/-- A failed attempt is added with the last success as it was. -/
theorem InFlight.failures_finish_error [DecidableEq Owner]
    {log : Log Owner Time Error Value} {owner : Owner} {anchor : Time}
    (inFlight : log.InFlight owner anchor) (error : Error) :
    (log.finish owner (.error error)).failures =
      log.failures ++ [⟨owner, anchor, error, log.lastSuccess⟩] := by
  obtain ⟨front, settled, rfl⟩ := inFlight
  rw [finish_append_unfinished settled, failures, failures,
    failuresAfter_append, failuresAfter_append,
    lastSuccess_append_of_none rfl, Option.or_none]
  simp [failuresAfter]

end Log

end AttemptLog
