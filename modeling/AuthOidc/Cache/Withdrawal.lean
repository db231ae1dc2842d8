import AuthOidc.Cache.Ceiling
import AuthOidc.Cache.Provenance
import AuthOidc.Cache.Starts

/-!
# Withdrawn keys

A provider withdraws a key by no longer publishing it.  Once a set without the
key is cached only the callers that hold an older set already can still try it.
And whatever fetches fail, the ceiling bounds in real time how long the key
lives on: a fetch starts after the reading of its caller, so an old reading is
the only way to an old body.
-/

namespace AuthOidc

open Rust Transition AttemptLog

variable {ι T : Type}

namespace System

/-- The sets that a caller can look a key up in from a state on: the one that
it carries there, the one cached there, and those installed since. -/
inductive Current (start : State ι T) (history : List (Event ι)) (c : ι)
    (set : JwkSet) : Prop where
  | carried : (start.phase c).carries = some set → Current start history c set
  | cached : start.inner.keys = some set → Current start history c set
  | installed {owner : ι} :
      .completed owner (.ok set) ∈ history → Current start history c set

theorem Current.append {start : State ι T} {history : List (Event ι)} {c : ι}
    {set : JwkSet} (current : Current start history c set)
    (emitted : List (Event ι)) : Current start (history ++ emitted) c set := by
  cases current with
  | carried carries => exact .carried carries
  | cached keys => exact .cached keys
  | installed completed => exact .installed (List.mem_append_left _ completed)

variable [DecidableEq ι] {system : System ι T}

/-- The cached set changes by the installation of another one only. -/
theorem Step.keys_eq {state next : State ι T} {c : ι}
    {emitted : List (Event ι)} {set : JwkSet}
    (step : system.Step state c next emitted)
    (cached : next.inner.keys = some set) :
    state.inner.keys = some set ∨ .completed c (.ok set) ∈ emitted := by
  cases step.effect with
  | quiet innerEq _ _ =>
      rw [innerEq] at cached
      exact .inl cached
  | claimed _ _ _ _ innerEq _ =>
      rw [innerEq] at cached
      exact .inl cached
  | @written round fetched _ _ innerEq emittedEq =>
      rw [innerEq] at cached
      cases fetched with
      | error error =>
          rw [JwksCache.writeBack_error_inner] at cached
          exact .inl cached
      | ok fresh =>
          cases cached
          rw [emittedEq]
          exact .inr List.mem_cons_self

/-- What has been done since a state, and what is about to be done, is done
with sets that are current. -/
structure UpToDate (system : System ι T) (start : State ι T)
    (history : List (Event ι)) (state : State ι T) : Prop where
  keys : ∀ c set, state.inner.keys = some set → Current start history c set
  carried : ∀ c set, (state.phase c).carries = some set →
    Current start history c set
  invoked : ∀ c set key, .invoked c set key ∈ history →
    Current start history c set ∧ key ∈ set.findAll (system.call c).kid
  succeeded : ∀ c value, state.phase c = .done (.ok value) →
    start.phase c = .done (.ok value) ∨
      ∃ set key, .invoked c set key ∈ history ∧
        (system.call c).f key = .ok value

theorem UpToDate.step {start state next : State ι T}
    {history emitted : List (Event ι)} {c : ι}
    (upToDate : UpToDate system start history state)
    (paired : state.inner.Paired)
    (step : system.Step state c next emitted) :
    UpToDate system start (history ++ emitted) next := by
  have keys : ∀ c set, next.inner.keys = some set →
      Current start (history ++ emitted) c set := by
    intro other set cached
    rcases step.keys_eq cached with before | installed
    · exact (upToDate.keys other set before).append emitted
    · exact .installed (List.mem_append_right _ installed)
  constructor
  · exact keys
  · intro other set carried
    by_cases same : other = c
    · subst same
      rcases step.carries paired carried with before | serves
      · exact (upToDate.carried other set before).append emitted
      · exact keys other set serves.1
    · rw [step.others same] at carried
      exact (upToDate.carried other set carried).append emitted
  · intro other set key invoked
    rcases List.mem_append.mp invoked with earlier | now
    · obtain ⟨current, matching⟩ := upToDate.invoked other set key earlier
      exact ⟨current.append emitted, matching⟩
    · obtain ⟨rfl, carried, matching⟩ := step.invoked now
      exact ⟨(upToDate.carried other set carried).append emitted, matching⟩
  · intro other value succeeded
    by_cases same : other = c
    · subst same
      obtain ⟨set, key, invoked, accepted⟩ := step.done_ok succeeded
      exact .inr ⟨set, key, List.mem_append_right _ invoked, accepted⟩
    · rw [step.others same] at succeeded
      rcases upToDate.succeeded other value succeeded with before | found
      · exact .inl before
      · obtain ⟨set, key, invoked, accepted⟩ := found
        exact .inr ⟨set, key, List.mem_append_left _ invoked, accepted⟩

variable {schedule later : List (Action ι)}
  {history laterHistory : List (Event ι)} {start state : State ι T}

theorem Runs.upToDate (run : system.Runs schedule history start)
    (rest : system.machine.Runs start later laterHistory state) :
    UpToDate system start laterHistory state := by
  induction rest with
  | refl =>
      exact ⟨fun _ _ => .cached, fun _ _ => .carried, by simp,
        fun _ _ => .inl⟩
  | tail before ran upToDate =>
      exact upToDate.step (Runs.recorded (run.trans before)).paired
        (step_of_machine ran)

/-- Once the cached set and all sets installed later are without a key, the key
is tried only by the callers that carry an older set at that moment.  Whoever
else succeeds afterwards does so with another key of a current set, on which
its closure was invoked. -/
theorem Runs.withdrawn_key_unused (run : system.Runs schedule history start)
    (rest : system.machine.Runs start later laterHistory state) {key : Jwk}
    (withdrawn : ∀ set, start.inner.keys = some set → key ∉ set.keys)
    (stays : ∀ owner set, .completed owner (.ok set) ∈ laterHistory →
      key ∉ set.keys)
    {c : ι}
    (released : ∀ set, (start.phase c).carries = some set → key ∉ set.keys) :
    (∀ set, .invoked c set key ∉ laterHistory) ∧
    ∀ value, state.phase c = .done (.ok value) →
      start.phase c = .done (.ok value) ∨
        ∃ set other, Current start laterHistory c set ∧
          .invoked c set other ∈ laterHistory ∧ other ∈ set.keys ∧
          other.GoesBy (system.call c).kid ∧ other ≠ key ∧
          (system.call c).f other = .ok value := by
  have upToDate := run.upToDate rest
  have without : ∀ set, Current start laterHistory c set →
      key ∉ set.keys := by
    intro set current
    cases current with
    | carried carries => exact released set carries
    | cached keys => exact withdrawn set keys
    | installed completed => exact stays _ set completed
  constructor
  · intro set invoked
    obtain ⟨current, found⟩ := upToDate.invoked c set key invoked
    exact without set current (JwkSet.mem_findAll_iff.mp found).1
  · intro value succeeded
    rcases upToDate.succeeded c value succeeded with before | found
    · exact .inl before
    · obtain ⟨set, other, invoked, accepted⟩ := found
      obtain ⟨current, otherFound⟩ := upToDate.invoked c set other invoked
      obtain ⟨member, goesBy⟩ := JwkSet.mem_findAll.mp otherFound
      refine .inr ⟨set, other, current, invoked, member, goesBy, ?_, accepted⟩
      rintro rfl
      exact without set current member

end System

namespace Sample

/-- Callers one after the other: the second one renews what the first one
fetched, and the others begin after that. -/
def withdrawal : System Nat Unit where
  foreign := foreign
  cache := cache
  call c :=
    { kid := "k1"
      now := (if c = 0 then 0 else 3600 + c) * 1000000000
      f := fun _ => .ok () }

/-- The set of `uselessDocument`. -/
def uselessSet : JwkSet where
  keys := [⟨"RSA", some "k1", none, none, none, none, none, none⟩]

def withdrawalSchedule : List (Action Nat) :=
  List.replicate 4 (.run 0) ++ .fetched 0 (.ok document) ::
    List.replicate 2 (.run 0) ++ List.replicate 4 (.run 1) ++
      [.fetched 1 (.ok uselessDocument), .run 1]

theorem withdrawal_enabled :
    (withdrawal.machine.exec .fresh withdrawalSchedule).isSome = true := by
  decide +kernel

def withdrawn : State Nat Unit × List (Event Nat) :=
  (withdrawal.machine.exec .fresh withdrawalSchedule).get withdrawal_enabled

theorem withdrawnRun :
    withdrawal.Runs withdrawalSchedule withdrawn.2 withdrawn.1 :=
  .of_isSome withdrawal_enabled

theorem afterwards_enabled :
    (withdrawal.machine.exec withdrawn.1
      (List.replicate 2 (.run 2))).isSome = true := by
  decide +kernel

def afterwards : State Nat Unit × List (Event Nat) :=
  (withdrawal.machine.exec withdrawn.1 (List.replicate 2 (.run 2))).get
    afterwards_enabled

theorem afterwardsRun :
    withdrawal.machine.Runs withdrawn.1 (List.replicate 2 (.run 2))
      afterwards.2 afterwards.1 :=
  .of_isSome afterwards_enabled

end Sample

namespace System

theorem Runs.withdrawn_key_unused_sample :
    ∃ key ∈ Sample.keySet.keys,
      (∀ set, .invoked 2 set key ∉ Sample.afterwards.2) ∧
      ∃ set other, .invoked 2 set other ∈ Sample.afterwards.2 ∧
        other ∈ set.keys ∧ other ≠ key ∧
        (Sample.withdrawal.call 2).f other = .ok () := by
  obtain ⟨key, listed⟩ : ∃ key, key ∈ Sample.keySet.keys :=
    ⟨_, List.mem_cons_self⟩
  refine ⟨key, listed, ?_⟩
  have cached : Sample.withdrawn.1.inner.keys = some Sample.uselessSet := by
    decide +kernel
  have quiet : Sample.afterwards.2 =
      Sample.uselessSet.keys.map (.invoked 2 Sample.uselessSet) := by
    decide +kernel
  have begins : Sample.withdrawn.1.phase 2 = .snapshot := by
    decide +kernel
  have absent : key ∉ Sample.uselessSet.keys := by
    cases List.mem_singleton.mp listed
    decide +kernel
  have unused := Runs.withdrawn_key_unused Sample.withdrawnRun
    Sample.afterwardsRun
    (fun set keys => by
      rw [cached, Option.some.injEq] at keys
      rwa [← keys])
    (fun owner set completed => by
      rw [quiet] at completed
      simp [Sample.uselessSet] at completed)
    (fun set carried => by
      rw [begins] at carried
      cases carried)
  refine ⟨unused.1, ?_⟩
  rcases unused.2 () (by decide +kernel) with before |
    ⟨set, other, _, invoked, member, _, different, accepted⟩
  · rw [begins] at before
    cases before
  · exact ⟨set, other, invoked, member, different, accepted⟩

end System

/-! ## In real time -/

def LaunchEvent.cacheEvent : LaunchEvent ι → Option (Event ι)
  | .launched _ => none
  | .cache event => some event

/-- The events of the cache itself. -/
def cacheHistory (history : List (Instant × LaunchEvent ι)) :
    List (Event ι) :=
  history.filterMap fun stamped => stamped.2.cacheEvent

@[simp] theorem cacheHistory_append
    (first second : List (Instant × LaunchEvent ι)) :
    cacheHistory (first ++ second) =
      cacheHistory first ++ cacheHistory second :=
  List.filterMap_append

@[simp] theorem cacheHistory_cache (clock : Instant)
    (emitted : List (Event ι)) :
    cacheHistory ((emitted.map .cache).map fun event => (clock, event)) =
      emitted := by
  simp [cacheHistory, LaunchEvent.cacheEvent, List.filterMap_map,
    Function.comp_def]

theorem mem_cacheHistory {history : List (Instant × LaunchEvent ι)}
    {event : Event ι} :
    event ∈ cacheHistory history ↔
      ∃ moment, (moment, .cache event) ∈ history := by
  simp only [cacheHistory, List.mem_filterMap]
  constructor
  · rintro ⟨⟨moment, launch⟩, member, found⟩
    cases launch with
    | launched c => cases found
    | cache other =>
        cases found
        exact ⟨moment, member⟩
  · rintro ⟨moment, member⟩
    exact ⟨_, member, rfl⟩

namespace System

variable [DecidableEq ι] {system : System ι T}

/-- The provider answers each fetch with what it publishes at some moment while
the fetch is under way. -/
def AnsweredBy (published : Instant → String)
    (history : List (Instant × LaunchEvent ι)) : Prop :=
  ∀ c body returned, (returned, .cache (.returned c (.ok body))) ∈ history →
    ∃ launched answered, (launched, .launched c) ∈ history ∧
      launched ≤ answered ∧ answered ≤ returned ∧ body = published answered

variable {schedule : List (ClockedAction ι (LaunchAction ι))}
  {history : List (Instant × LaunchEvent ι)}
  {start state : Clocked ι (LaunchState ι T)}

/-- Beside the clock the cache runs as it does alone. -/
theorem exists_cacheRun
    (run : system.timed.Runs start schedule history state) :
    ∃ actions, system.machine.Runs start.base.cache actions
      (cacheHistory history) state.base.cache := by
  induction run with
  | refl => exact ⟨[], .refl⟩
  | tail _ ran induction =>
      obtain ⟨actions, before⟩ := induction
      cases Machine.clockedStep_of_step ran with
      | tick _ | begins _ => exact ⟨actions, by simpa using before⟩
      | act _ launches =>
          cases launchStep_of_step launches with
          | launch _ _ =>
              refine ⟨actions, ?_⟩
              simpa [cacheHistory, LaunchEvent.cacheEvent] using before
          | cache stepped _ =>
              have extended := before.tail stepped
              rw [cacheHistory_append, cacheHistory_cache]
              exact ⟨_, extended⟩

/-- A fetch starts after its caller began. -/
theorem now_le_launched
    (run : system.timed.Runs start schedule history state)
    (passed : start.ReadingsPassed fun c => (system.call c).now) {c : ι}
    {launched : Instant} (member : (launched, .launched c) ∈ history) :
    (system.call c).now ≤ launched := by
  induction run with
  | refl => cases member
  | tail before ran induction =>
      rcases List.mem_append.mp member with earlier | latest
      · exact induction earlier
      · cases Machine.clockedStep_of_step ran with
        | tick _ | begins _ => cases latest
        | act begun launches =>
            cases launchStep_of_step launches with
            | launch _ _ =>
                cases List.mem_singleton.mp latest
                exact before.readingsPassed passed c begun
            | cache _ _ => simp at latest

/-- The ceiling in real time: what a provider has not published since a moment
is not tried by any call that begins `max_stale` after it, whatever fetches
fail or take long. -/
theorem TimedRuns.withdrawn_key_expires {clock : Instant}
    (run : system.TimedRuns clock schedule history state)
    {published : Instant → String} (answered : AnsweredBy published history)
    {key : Jwk} {since : Instant}
    (withdrawn : ∀ moment, since ≤ moment → ∀ set,
      JwkSet.parse system.foreign (published moment) = .ok set →
        key ∉ set.keys)
    {c : ι} (late : since + system.cache.maxStale.nanos ≤ (system.call c).now) :
    (∀ moment set, (moment, .cache (.invoked c set key)) ∉ history) ∧
    ∀ value, state.base.cache.phase c = .done (.ok value) →
      ∃ moment set other,
        (moment, .cache (.invoked c set other)) ∈ history ∧
        system.InstalledWithin (cacheHistory history) c set ∧
        other ∈ set.keys ∧ other.GoesBy (system.call c).kid ∧
        other ≠ key ∧ (system.call c).f other = .ok value := by
  obtain ⟨actions, cacheRun⟩ := exists_cacheRun run
  have fresh := Runs.fresh cacheRun
  have without : ∀ set,
      system.InstalledWithin (cacheHistory history) c set →
        key ∉ set.keys := by
    intro set installed
    obtain ⟨attempt, member, outcome, within⟩ := installed
    rw [Instant.saturatingDurationSince_lt] at within
    obtain ⟨body, returned, parsed⟩ :=
      (Runs.sourced cacheRun).outcomes attempt member _ outcome
    cases body with
    | error error => cases parsed
    | ok body =>
        obtain ⟨moment, stamped⟩ := mem_cacheHistory.mp returned
        obtain ⟨launched, answeredAt, launchedMember, after, -, bodyEq⟩ :=
          answered attempt.owner body moment stamped
        have began := now_le_launched run
          (fun _ begun => nomatch begun) launchedMember
        rw [← (Runs.recorded cacheRun).anchored attempt member] at began
        have reading : (system.call c).now ≤
            system.cache.maxStale.nanos + attempt.anchor :=
          Nat.le_add_of_sub_le within.le
        rw [Nat.add_comm] at reading
        have anchored : since ≤ attempt.anchor :=
          Nat.le_of_add_le_add_right (late.trans reading)
        apply withdrawn answeredAt (anchored.trans (began.trans after)) set
        rw [← bodyEq]
        exact parsed.symm
  constructor
  · intro moment set invoked
    obtain ⟨found, installed⟩ :=
      fresh.invoked c set key (mem_cacheHistory.mpr ⟨moment, invoked⟩)
    exact without set installed (JwkSet.mem_findAll_iff.mp found).1
  · intro value succeeded
    obtain ⟨set, other, invoked, accepted⟩ :=
      fresh.succeeded c value succeeded
    obtain ⟨found, installed⟩ := fresh.invoked c set other invoked
    obtain ⟨member, goesBy⟩ := JwkSet.mem_findAll.mp found
    obtain ⟨moment, stamped⟩ := mem_cacheHistory.mp invoked
    refine ⟨moment, set, other, stamped, installed, member, goesBy, ?_,
      accepted⟩
    rintro rfl
    exact without set installed member

end System

namespace Sample

/-- Two calls more than a day apart, under a ceiling of one day. -/
def overdue : System Bool Unit where
  foreign := foreign
  cache := cache
  call c :=
    { kid := "k1"
      now := (if c then 90000 else 0) * 1000000000
      f := fun _ => .ok () }

/-- What is published changes one hour after the first call. -/
def publishes (moment : Instant) : String :=
  if moment < 3600 * 1000000000 then document else uselessDocument

/-- A whole call that fetches what is published at `reading` seconds. -/
def fetches (c : Bool) (reading : Nat) :
    List (ClockedAction Bool (LaunchAction Bool)) :=
  let moment := reading * 1000000000
  [.tick moment, .begins c] ++ List.replicate 4 (.act (.cache (.run c))) ++
    [.act (.launch c), .act (.cache (.fetched c (.ok (publishes moment))))] ++
    List.replicate 3 (.act (.cache (.run c)))

theorem overdue_enabled :
    (overdue.timed.exec (.start 0 ⟨.fresh, fun _ => false⟩)
      (fetches false 0 ++ fetches true 90000)).isSome = true := by
  decide +kernel

def overdueOutcome : Clocked Bool (LaunchState Bool Unit) ×
    List (Instant × LaunchEvent Bool) :=
  (overdue.timed.exec (.start 0 ⟨.fresh, fun _ => false⟩)
    (fetches false 0 ++ fetches true 90000)).get overdue_enabled

theorem overdueRun :
    overdue.TimedRuns 0 (fetches false 0 ++ fetches true 90000)
      overdueOutcome.2 overdueOutcome.1 :=
  .of_isSome overdue_enabled

/-- The events of a call whose fetched set verifies. -/
def fetchEvents (c : Bool) (anchor : Instant) (set : JwkSet) :
    List (LaunchEvent Bool) :=
  .cache (.started c anchor) :: .launched c ::
    .cache (.returned c (.ok (publishes anchor))) ::
    .cache (.completed c (.ok set)) ::
    .cache (.refreshed c (.ok (some set))) ::
    set.keys.map fun key => .cache (.invoked c set key)

theorem overdueEvents :
    overdueOutcome.2 =
      (fetchEvents false 0 keySet).map (fun event => (0, event)) ++
        (fetchEvents true (90000 * 1000000000) uselessSet).map
          fun event => (90000 * 1000000000, event) := by
  decide +kernel

theorem overdue_answered :
    System.AnsweredBy publishes overdueOutcome.2 := by
  intro c body returned member
  rw [overdueEvents] at member ⊢
  rcases List.mem_append.mp member with first | second
  · obtain ⟨rfl, rfl, rfl⟩ : returned = 0 ∧ c = false ∧ body = publishes 0 := by
      simpa [fetchEvents] using first
    exact ⟨0, 0, by simp [fetchEvents], le_rfl, le_rfl, rfl⟩
  · obtain ⟨rfl, rfl, rfl⟩ : returned = 90000 * 1000000000 ∧ c = true ∧
        body = publishes (90000 * 1000000000) := by
      simpa [fetchEvents] using second
    exact ⟨90000 * 1000000000, 90000 * 1000000000, by simp [fetchEvents],
      le_rfl, le_rfl, rfl⟩

end Sample

namespace System

theorem TimedRuns.withdrawn_key_expires_sample :
    ∃ key ∈ Sample.keySet.keys,
      (∀ moment set, (moment, .cache (.invoked true set key)) ∉
        Sample.overdueOutcome.2) ∧
      ∃ moment set other,
        (moment, .cache (.invoked true set other)) ∈
          Sample.overdueOutcome.2 ∧
        other ∈ set.keys ∧ other ≠ key ∧
        (Sample.overdue.call true).f other = .ok () := by
  obtain ⟨key, listed⟩ : ∃ key, key ∈ Sample.keySet.keys :=
    ⟨_, List.mem_cons_self⟩
  refine ⟨key, listed, ?_⟩
  have parsed : JwkSet.parse Sample.foreign Sample.uselessDocument =
      .ok Sample.uselessSet := by
    decide +kernel
  have absent : key ∉ Sample.uselessSet.keys := by
    cases List.mem_singleton.mp listed
    decide +kernel
  have expires := TimedRuns.withdrawn_key_expires Sample.overdueRun
    Sample.overdue_answered (c := true)
    (fun moment (later : 3600 * 1000000000 ≤ moment) set published => by
      rw [Sample.publishes, if_neg (Nat.not_lt.mpr later)] at published
      rw [← Except.ok.inj (parsed.symm.trans published)]
      exact absent)
    (by decide)
  obtain ⟨moment, set, other, invoked, _, member, _, different, accepted⟩ :=
    expires.2 () (by decide +kernel)
  exact ⟨expires.1, moment, set, other, invoked, member, different, accepted⟩

end System

end AuthOidc
