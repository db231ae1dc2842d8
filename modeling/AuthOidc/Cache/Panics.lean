import AuthOidc.Cache.Failures
import AuthOidc.Cache.Provenance
import AuthOidc.Cache.Refinement
import AuthOidc.Cache.Storm

/-!
# The rate limit on threads that may panic

A fetch that panics has claimed its window like any other, and the gate that it
leaves poisoned is taken like any other.  So the fetches of threads with their
locks are as far apart as those of the machine.
-/

namespace AuthOidc

open Rust Transition AttemptLog Spacing

variable {ι T : Type} [DecidableEq ι]

namespace System

variable {system : System ι T}

/-! ## Fetches that have returned -/

/-- A fetch stays in flight until it returns. -/
theorem fetching_or_returned {state final : State ι T}
    {schedule : List (Action ι)} {history : List (Event ι)} {c : ι}
    (run : system.machine.Runs state schedule history final)
    (fetching : ∃ round, state.phase c = .fetching round) :
    (∃ round, final.phase c = .fetching round) ∨
      ∃ body, .returned c body ∈ history := by
  induction run with
  | refl => exact .inl fetching
  | @tail _ _ _ _ _ action _ ran induction =>
      have step := step_of_machine ran
      rcases induction with ⟨round, stands⟩ | ⟨body, returned⟩
      · by_cases same : c = action.caller
        · rw [← same] at step
          rcases step.returns with ⟨body, _, rfl, _⟩ | ⟨_, never⟩
          · exact .inr ⟨body, by simp⟩
          · obtain ⟨body, nextStands⟩ := step.of_fetching stands
            exact absurd nextStands (never _ _)
        · exact .inl ⟨round, (step.others same).trans stands⟩
      · exact .inr ⟨body, List.mem_append_left _ returned⟩

variable {schedule : List (Action ι)} {history : List (Event ι)}
  {state : State ι T} {c other : ι}

/-- A fetch that has returned is written back, or about to be. -/
def Settles (history : List (Event ι)) (state : State ι T) (c : ι) : Prop :=
  (∃ round fetched, state.phase c = .writeBack round fetched) ∨
    ∃ attempt ∈ fetchLog history, attempt.owner = c ∧ attempt.outcome ≠ none

theorem Recorded.settles_step {next : State ι T} {emitted : List (Event ι)}
    (recorded : Recorded system history state)
    (step : system.Step state other next emitted)
    (settles : Settles history state c) :
    Settles (history ++ emitted) next c := by
  rcases settles with ⟨round, fetched, stands⟩ |
    ⟨attempt, member, owned, finished⟩
  · by_cases same : c = other
    · subst same
      have flight : (state.phase c).inFlight = true := by
        rw [stands]
        rfl
      cases step.effect with
      | quiet _ _ flightEq =>
          rw [step.of_writeBack stands, flight] at flightEq
          cases flightEq
      | claimed _ noFlight _ _ _ _ =>
          rw [flight] at noFlight
          cases noFlight
      | @written _ outcome _ _ _ emittedEq =>
          obtain ⟨front, settled, logEq⟩ := recorded.inFlight c flight
          right
          rw [emittedEq, fetchLog_completed, logEq,
            Log.finish_append_unfinished settled]
          exact ⟨_, List.mem_append_right _ (List.mem_singleton_self _), rfl,
            by simp⟩
    · exact .inl ⟨round, fetched, (step.others same).trans stands⟩
  · exact .inr ⟨attempt, mem_fetchLog_append member finished, owned, finished⟩

theorem Runs.settles_of_returned (run : system.Runs schedule history state)
    {body : Except String String} (returned : .returned c body ∈ history) :
    Settles history state c := by
  induction run with
  | refl => cases returned
  | @tail _ _ emitted _ _ action before ran induction =>
      have step := step_of_machine ran
      rcases List.mem_append.mp returned with earlier | latest
      · exact (Runs.recorded before).settles_step step (induction earlier)
      · rcases step.returns with ⟨other, round, rfl, nextStands⟩ |
          ⟨silent, _⟩
        · cases List.mem_singleton.mp latest
          exact .inl ⟨round, _, nextStands⟩
        · have none := silent _ latest c
          simp [Event.returnedTo] at none

/-- A fetch in flight lies a full interval after every fetch that has
returned. -/
theorem Runs.returned_before_fetching
    (run : system.Runs schedule history state)
    (positive : 0 < system.cache.minRefetchInterval.nanos) {round : Round}
    (stands : state.phase c = .fetching round)
    {body : Except String String}
    (returned : .returned other body ∈ history) :
    (system.call other).now + system.cache.minRefetchInterval.nanos ≤
      (system.call c).now := by
  have flight : (state.phase c).inFlight = true := by
    rw [stands]
    rfl
  rcases run.settles_of_returned returned with
    ⟨otherRound, fetched, writes⟩ | ⟨attempt, member, rfl, finished⟩
  · have otherFlight : (state.phase other).inFlight = true := by
      rw [writes]
      rfl
    rw [run.recorded.inFlight_unique flight otherFlight, stands] at writes
    cases writes
  · have spaced := run.spaced positive
    have anchored := run.recorded.anchored attempt member
    obtain ⟨front, _, logEq⟩ := run.recorded.inFlight c flight
    rw [logEq] at member
    rw [logEq, Log.anchors, List.map_append] at spaced
    rcases List.mem_append.mp member with earlier | latest
    · rw [← anchored]
      exact (spaced_append_singleton.mp spaced).2 _
        (List.mem_map_of_mem earlier)
    · rw [List.mem_singleton.mp latest] at finished
      exact absurd rfl finished

/-! ## Fetches of threads -/

/-- The label of a fetch that returns or panics. -/
def endsFetch :
    Locking.Label Outside (Outside.Answer T) → Bool
  | .answered (.fetch _) _ | .panicked (.fetch _) => true
  | _ => false

abbrev LockTrace (ι T : Type) :=
  List (ι × Locking.Label Outside (Outside.Answer T))

/-- The callers whose fetches have ended, in that order. -/
def fetchers (trace : LockTrace ι T) : List ι :=
  (trace.filter fun entry => endsFetch entry.2).map Prod.fst

/-- The thread is in the fetcher. -/
def Fetches (thread : Locking.Thread CacheLock Inner Outside
    (Outside.Answer T) (Except String T)) : Prop :=
  ∃ url next, thread = .running (.call (.fetch url) next)

omit [DecidableEq ι] in
theorem fetchers_append_of_ends {trace : LockTrace ι T}
    {label : Locking.Label Outside (Outside.Answer T)}
    (ends : endsFetch label = true) :
    fetchers (trace ++ [(c, label)]) = fetchers trace ++ [c] := by
  simp [fetchers, ends]

omit [DecidableEq ι] in
theorem fetchers_append_of_not_ends {trace : LockTrace ι T}
    {label : Locking.Label Outside (Outside.Answer T)}
    (goesOn : endsFetch label = false) :
    fetchers (trace ++ [(c, label)]) = fetchers trace := by
  simp [fetchers, goesOn]

variable {allowed : String → Prop} {lockState next : LockState ι T}
  {label : Locking.Label Outside (Outside.Answer T)} {coarse : State ι T}

theorem fetches_of_ends (step : Locking.Step lockState c label next)
    (ends : endsFetch label = true) : Fetches (lockState.thread c) := by
  cases step with
  | @answer query _ _ stands =>
      cases query with
      | fetch url => exact ⟨url, _, stands⟩
      | _ => cases ends
  | @panic query _ stands =>
      cases query with
      | fetch url => exact ⟨url, _, stands⟩
      | _ => cases ends
  | _ => cases ends

omit [DecidableEq ι] in
/-- A thread in the fetcher goes on with the section that writes back. -/
theorem Represents.fetching (represents : Represents system lockState coarse)
    {url : String} {later : Except String String → CacheCode T}
    (stands : lockState.thread c = .running (.call (.fetch url) later)) :
    (∃ round, coarse.phase c = .fetching round) ∧
      ∀ body, ∃ update rest, later body = JwksCache.Locks.lock update rest := by
  obtain ⟨phase, phaseEq, codeStands⟩ := represents.codeStands stands
  cases codeStands with
  | here noLookup codeEq =>
      cases codeAt_begins system noLookup codeEq with
      | @fetches round => exact ⟨⟨round, phaseEq⟩, fun body => ⟨_, _, rfl⟩⟩
  | trying _ codeEq => cases codeEq

omit [DecidableEq ι] in
theorem CodeStands.ne_fetching {phase : Phase T} {update : Inner → Inner}
    {rest : Inner → CacheCode T}
    (stands : system.CodeStands c (JwksCache.Locks.lock update rest) phase)
    (round : Round) : phase ≠ .fetching round := by
  rintro rfl
  generalize codeEq : JwksCache.Locks.lock update rest = code at stands
  cases stands with
  | here _ fetches =>
      rw [← codeEq] at fetches
      cases fetches
  | inSection _ _ => cases codeEq
  | leaving _ => cases codeEq

/-- The fetches that have ended are spaced, and each has returned in the
machine, or will once its thread has released the gate. -/
structure Traced (system : System ι T) (trace : LockTrace ι T)
    (lockState : LockState ι T) (history : List (Event ι))
    (coarse : State ι T) : Prop where
  represents : Represents system lockState coarse
  ended : ∀ c ∈ fetchers trace, (∃ body, .returned c body ∈ history) ∨
    (∃ round, coarse.phase c = .fetching round) ∧
      lockState.thread c = .unwinding
  spaced : Spaced system.cache.minRefetchInterval.nanos
    ((fetchers trace).map fun c => (system.call c).now)

namespace Traced

variable {trace : LockTrace ι T}

theorem fetch_spaced (traced : Traced system trace lockState history coarse)
    (run : system.Runs schedule history coarse)
    (positive : 0 < system.cache.minRefetchInterval.nanos)
    (fetches : Fetches (lockState.thread c)) :
    Spaced system.cache.minRefetchInterval.nanos
      ((fetchers trace ++ [c]).map fun c => (system.call c).now) := by
  obtain ⟨url, later, running⟩ := fetches
  obtain ⟨⟨round, stands⟩, _⟩ := traced.represents.fetching running
  rw [List.map_append]
  refine spaced_append_singleton.mpr ⟨traced.spaced, ?_⟩
  intro earlier member
  obtain ⟨other, otherMember, rfl⟩ := List.mem_map.mp member
  rcases traced.ended other otherMember with
    ⟨body, returned⟩ | ⟨⟨otherRound, otherStands⟩, unwinding⟩
  · exact run.returned_before_fetching positive stands returned
  · -- a single fetch is in flight, and this thread has not panicked
    have flight : (coarse.phase c).inFlight = true := by
      rw [stands]
      rfl
    have otherFlight : (coarse.phase other).inFlight = true := by
      rw [otherStands]
      rfl
    rw [run.recorded.inFlight_unique flight otherFlight, running] at unwinding
    cases unwinding

/-- An ended fetch stays so. -/
theorem ended_stays (traced : Traced system trace lockState history coarse)
    {later : List (Action ι)} {laterHistory : List (Event ι)}
    {final : State ι T}
    (laterRun : system.machine.Runs coarse later laterHistory final)
    (represents : Represents system next final)
    (step : Locking.Step lockState c label next)
    (member : other ∈ fetchers trace) :
    (∃ body, .returned other body ∈ history ++ laterHistory) ∨
      (∃ round, final.phase other = .fetching round) ∧
        next.thread other = .unwinding := by
  rcases traced.ended other member with
    ⟨body, returned⟩ | ⟨fetching, unwinding⟩
  · exact .inl ⟨body, List.mem_append_left _ returned⟩
  · rcases fetching_or_returned laterRun fetching with
      ⟨round, still⟩ | ⟨body, returned⟩
    · refine .inr ⟨⟨round, still⟩, ?_⟩
      by_cases same : other = c
      · subst same
        refine (step.of_unwinding unwinding).resolve_right ?_
        intro ended
        have stands := represents.stands other
        rw [ended, still] at stands
        cases stands with
        | panicked noGate => cases noGate
      · rw [(step.others same).1, unwinding]
    · exact .inl ⟨body, List.mem_append_right _ returned⟩

/-- A fetch that returns, returns in the machine; one that panics leaves its
thread unwinding. -/
theorem ended_of_ends (traced : Traced system trace lockState history coarse)
    {later : List (Action ι)} {laterHistory : List (Event ι)}
    {final : State ι T}
    (laterRun : system.machine.Runs coarse later laterHistory final)
    (represents : Represents system next final)
    (step : Locking.Step lockState c label next)
    (ends : endsFetch label = true) :
    (∃ body, .returned c body ∈ history ++ laterHistory) ∨
      (∃ round, final.phase c = .fetching round) ∧
        next.thread c = .unwinding := by
  obtain ⟨url, rest, running⟩ := fetches_of_ends step ends
  obtain ⟨fetching, locks⟩ := traced.represents.fetching running
  rcases fetching_or_returned laterRun fetching with
    ⟨round, still⟩ | ⟨body, returned⟩
  · cases step with
    | answer body stands =>
        rw [running] at stands
        cases stands
        obtain ⟨update, after, codeEq⟩ := locks body
        obtain ⟨phase, phaseEq, codeStands⟩ :=
          represents.codeStands (Locking.State.move_thread_self ..)
        rw [codeEq] at codeStands
        rw [still] at phaseEq
        exact absurd phaseEq.symm (codeStands.ne_fetching round)
    | panic _ =>
        exact .inr ⟨⟨round, still⟩, Locking.State.move_thread_self ..⟩
    | _ => cases ends
  · exact .inl ⟨body, List.mem_append_right _ returned⟩

theorem step (traced : Traced system trace lockState history coarse)
    (run : system.Runs schedule history coarse)
    (positive : 0 < system.cache.minRefetchInterval.nanos)
    (step : Locking.Step lockState c label next)
    (lawful : system.Lawful allowed c label) :
    ∃ later laterHistory final,
      system.machine.Runs coarse later laterHistory final ∧
        Traced system (trace ++ [(c, label)]) next (history ++ laterHistory)
          final := by
  obtain ⟨final, ⟨later, laterHistory, laterRun, _, _⟩, represents⟩ :=
    traced.represents.step (run.recorded.gate c) step lawful
  refine ⟨later, laterHistory, final, laterRun, represents, ?_, ?_⟩
  · intro other member
    cases ends : endsFetch label with
    | false =>
        rw [fetchers_append_of_not_ends ends] at member
        exact traced.ended_stays laterRun represents step member
    | true =>
        rw [fetchers_append_of_ends ends] at member
        rcases List.mem_append.mp member with earlier | latest
        · exact traced.ended_stays laterRun represents step earlier
        · rw [List.mem_singleton.mp latest]
          exact traced.ended_of_ends laterRun represents step ends
  · cases ends : endsFetch label with
    | false =>
        rw [fetchers_append_of_not_ends ends]
        exact traced.spaced
    | true =>
        rw [fetchers_append_of_ends ends]
        exact traced.fetch_spaced run positive (fetches_of_ends step ends)

end Traced

theorem exists_traced {trace : LockTrace ι T}
    (run : Locking.Runs (system.Lawful allowed) system.lockStart trace
      lockState)
    (positive : 0 < system.cache.minRefetchInterval.nanos) :
    ∃ schedule history coarse, system.Runs schedule history coarse ∧
      Traced system trace lockState history coarse := by
  induction run with
  | refl =>
      refine ⟨[], [], .fresh, .refl, ⟨rfl, rfl, ?_⟩, by simp [fetchers],
        by simp [fetchers]⟩
      intro c
      exact .running (.here (by simp [State.fresh]) rfl)
  | tail _ lawful step induction =>
      obtain ⟨schedule, history, coarse, run, traced⟩ := induction
      obtain ⟨later, laterHistory, final, laterRun, traced⟩ :=
        traced.step run positive step lawful
      exact ⟨_, _, final, Machine.Runs.trans run laterRun, traced⟩

/-- The fetch-storm bound on threads with their locks, whatever panics: one
thread in the fetcher at most, each fetch a full interval after all the fetches
that have returned or panicked, and at most `width / interval + 1` of those in
a window of that width. -/
theorem lock_fetch_storm_bound {trace : LockTrace ι T}
    (run : Locking.Runs (system.Lawful allowed) system.lockStart trace
      lockState)
    (positive : 0 < system.cache.minRefetchInterval.nanos) :
    (∀ c other, Fetches (lockState.thread c) →
      Fetches (lockState.thread other) → other = c) ∧
    (∀ c, Fetches (lockState.thread c) →
      Spaced system.cache.minRefetchInterval.nanos
        ((fetchers trace ++ [c]).map fun c => (system.call c).now)) ∧
    Spaced system.cache.minRefetchInterval.nanos
      ((fetchers trace).map fun c => (system.call c).now) ∧
    ∀ low width,
      (((fetchers trace).map fun c => (system.call c).now).filter fun now =>
        decide (low ≤ now ∧ now ≤ low + width)).length ≤
          width / system.cache.minRefetchInterval.nanos + 1 := by
  obtain ⟨schedule, history, coarse, machineRun, traced⟩ :=
    exists_traced run positive
  refine ⟨?_, ?_, traced.spaced, ?_⟩
  · rintro c other ⟨_, _, running⟩ ⟨_, _, otherRunning⟩
    obtain ⟨⟨round, stands⟩, _⟩ := traced.represents.fetching running
    obtain ⟨⟨otherRound, otherStands⟩, _⟩ :=
      traced.represents.fetching otherRunning
    exact machineRun.recorded.inFlight_unique (by rw [stands]; rfl)
      (by rw [otherStands]; rfl)
  · exact fun c fetches => traced.fetch_spaced machineRun positive fetches
  · exact traced.spaced.count_window positive

end System

/-! ## A sample run

The first call panics in its fetch, and the second one fetches an hour later
under the gate that the first one left poisoned. -/

namespace Sample

theorem panicking_enabled :
    ((List.replicate 10 false).foldlM Locking.State.advance
      failingSystem.lockStart).isSome = true := rfl

def panicFetching : System.LockState Bool Unit :=
  Option.get _ panicking_enabled

def panicUnwinding : System.LockState Bool Unit :=
  panicFetching.move false .unwinding

def panicReleased : System.LockState Bool Unit :=
  { panicUnwinding.pass .fetchGate none with
    poisoned := Function.update panicUnwinding.poisoned .fetchGate true }

def panicEnded : System.LockState Bool Unit :=
  panicReleased.move false (.ended none)

theorem refetching_enabled :
    ((List.replicate 10 true).foldlM Locking.State.advance
      panicEnded).isSome = true := rfl

def refetching : System.LockState Bool Unit :=
  Option.get _ refetching_enabled

def panicTrace : System.LockTrace Bool Unit :=
  (List.replicate 10 false).map (fun c => (c, .internal)) ++
    [(false, .panicked (.fetch cache.url))] ++ [(false, .internal)] ++
    [(false, .internal)] ++
    (List.replicate 10 true).map (fun c => (c, .internal))

theorem panicRun (allowed : String → Prop) :
    Locking.Runs (failingSystem.Lawful allowed) failingSystem.lockStart
      panicTrace refetching := by
  have internal : ∀ c, failingSystem.Lawful allowed c .internal :=
    fun _ => trivial
  have fetching : Locking.Runs (failingSystem.Lawful allowed)
      failingSystem.lockStart _ panicFetching :=
    .extend internal .refl (Option.some_get panicking_enabled).symm
  have panics : Locking.Step panicFetching false
      (.panicked (.fetch cache.url)) panicUnwinding := .panic rfl
  have unwinds : Locking.Step panicUnwinding false .internal panicReleased :=
    .unwind rfl rfl
  have unwound : Locking.Step panicReleased false .internal panicEnded := by
    refine .unwound rfl ?_
    intro lock
    cases lock <;> exact nofun
  have lawful : failingSystem.Lawful allowed false
      (.panicked (.fetch cache.url)) := trivial
  have panicked := fetching.tail lawful panics
  have released := panicked.tail (internal _) unwinds
  have ended := released.tail (internal _) unwound
  exact ended.extend internal (Option.some_get refetching_enabled).symm

end Sample

namespace System

theorem lock_fetch_storm_bound_sample :
    Fetches (Sample.refetching.thread true) ∧
      Spaced (60 * 1000000000)
        ((fetchers Sample.panicTrace ++ [true]).map fun c =>
          (Sample.failingSystem.call c).now) := by
  have fetches : Fetches (Sample.refetching.thread true) :=
    ⟨Sample.cache.url, _, rfl⟩
  obtain ⟨_, spaced, _⟩ := lock_fetch_storm_bound
    (Sample.panicRun fun _ => False) (by decide)
  exact ⟨fetches, spaced true fetches⟩

end System

end AuthOidc
