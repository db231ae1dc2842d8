import AuthOidc.Cache.Finishes
import AuthOidc.Cache.Outage
import AuthOidc.Cache.Trying

/-!
# One decision

A call that no other call runs next to makes one decision: to fetch or not.
Its two refreshes and two lookups then come to one fetch, at most, and one
lookup in the set that is cached afterwards.
-/

namespace AuthOidc

open Rust Transition

variable {ι T : Type}

def Event.isStart : Event ι → Bool
  | .started _ _ => true
  | _ => false

/-- How many fetches the events start. -/
def starts (history : List (Event ι)) : Nat :=
  history.countP Event.isStart

theorem starts_append (first second : List (Event ι)) :
    starts (first ++ second) = starts first + starts second :=
  List.countP_append

/-! ## The specification -/

/-- The decision of a call to fetch: the rate limit permits it, and the cache
is cold, its set is at least `ttl` old, or no key of the set matches. -/
structure FetchDue (cache : JwksCache) (inner : Inner) (call : Call T) :
    Prop where
  permitted : ∀ last, inner.lastAttempt = some last →
    cache.minRefetchInterval ≤ call.now.saturatingDurationSince last
  needed : inner.keys = none ∨
    (∃ fetchedAt, inner.fetchedAt = some fetchedAt ∧
      cache.ttl ≤ call.now.saturatingDurationSince fetchedAt) ∨
    ∃ set, inner.keys = some set ∧ ∀ key ∈ set.keys, ¬ key.GoesBy call.kid

namespace JwksCache

theorem ttl_le_maxStale (cache : JwksCache) : cache.ttl ≤ cache.maxStale := by
  have bound := cache.ttl.nanos_le
  rw [Duration.le_iff, cache.maxStale_eq, Duration.nanos_max,
    Duration.nanos_saturatingMul, Duration.maxNanos]
  exact le_trans (by omega) (Nat.le_max_left _ _)

end JwksCache

variable [DecidableEq ι]

namespace System

variable {system : System ι T} {c : ι} {state final : State ι T}
  {history : List (Event ι)} {result : Except String T}

/-! ## One refresh -/

/-- A caller that is alone under the gate finds the data as it left them, so
only the rate limit is left to decide. -/
theorem claimWindow_alone (foreign : Foreign) (cache : JwksCache)
    (inner : Inner) (now : Instant) (wait : Bool) :
    cache.claimWindow foreign inner now
        (wait && (inner.keys.isNone || cache.pastCeiling inner now)) =
      if cache.permitsAttempt inner now then
        .proceed { inner with lastAttempt := some now }
      else .leave (cache.serveWithinCeiling foreign inner now) := by
  unfold JwksCache.claimWindow
  cases inner.keys <;> cases cache.pastCeiling inner now <;> cases wait <;>
    cases cache.permitsAttempt inner now <;> simp

/-- What a refresh leaves behind: of a fetch with its response, or of none. -/
def refreshOutcome (system : System ι T) (c : ι) (inner : Inner) :
    Option (Except String String) → WrittenBack
  | none =>
      { inner
        refreshed := system.cache.serveWithinCeiling system.foreign inner
          (system.call c).now
        warned := none }
  | some body =>
      system.cache.writeBack
        { inner with lastAttempt := some (system.call c).now }
        (system.call c).now (body.bind (JwkSet.parse system.foreign))

/-- The events of that refresh. -/
def refreshEvents (system : System ι T) (c : ι) (inner : Inner)
    (fetch : Option (Except String String)) : List (Event ι) :=
  let outcome := system.refreshOutcome c inner fetch
  match fetch with
  | none => [.refreshed c outcome.refreshed]
  | some body =>
      .started c (system.call c).now :: .returned c body ::
        .completed c (body.bind (JwkSet.parse system.foreign)) ::
        ((outcome.warned.map (.warned c)).toList ++
          [.refreshed c outcome.refreshed])

section Events

variable (system : System ι T) (c : ι) (inner : Inner)
  (fetch : Option (Except String String))

omit [DecidableEq ι]

theorem starts_refreshEvents :
    starts (system.refreshEvents c inner fetch) =
      if fetch.isSome then 1 else 0 := by
  cases fetch with
  | none => rfl
  | some body =>
      rw [refreshEvents]
      cases (system.refreshOutcome c inner (some body)).warned <;> rfl

theorem returned_mem_refreshEvents {body : Except String String} :
    .returned c body ∈ system.refreshEvents c inner fetch ↔
      fetch = some body := by
  cases fetch with
  | none => simp [refreshEvents]
  | some other =>
      rw [refreshEvents]
      cases (system.refreshOutcome c inner (some other)).warned <;>
        simp [eq_comm]

theorem invoked_not_mem_refreshEvents {caller : ι} {set : JwkSet}
    {key : Jwk} :
    .invoked caller set key ∉ system.refreshEvents c inner fetch := by
  cases fetch with
  | none => simp [refreshEvents]
  | some other =>
      rw [refreshEvents]
      cases (system.refreshOutcome c inner (some other)).warned <;> simp

end Events

/-- What a refresh of a caller alone does to the state: it fetches exactly if
the rate limit permits an attempt. -/
structure Refreshes (system : System ι T) (c : ι) (state : State ι T)
    (round : Round) (fetch : Option (Except String String))
    (next : State ι T) : Prop where
  attempts : fetch.isSome =
    system.cache.permitsAttempt state.inner (system.call c).now
  gate : next.fetchGate = none
  inner : next.inner = (system.refreshOutcome c state.inner fetch).inner
  phase : next.phase c = system.afterRefresh c round
    (system.refreshOutcome c state.inner fetch).refreshed

theorem Finishes.refresh
    (finishes : Finishes system c state history final result)
    {round : Round} {wait : Bool}
    (stands : state.phase c = .rateCheck round wait)
    (free : state.fetchGate = none) :
    ∃ fetch next rest,
      history = system.refreshEvents c state.inner fetch ++ rest ∧
        Finishes system c next rest final result ∧
        Refreshes system c state round fetch next := by
  cases checked : system.cache.checkRate system.foreign state.inner
      (system.call c).now wait with
  | leave refreshed =>
      obtain ⟨rfl, limited, _⟩ := JwksCache.checkRate_leave checked
      obtain ⟨rest, rfl, later⟩ :=
        finishes.forced (.rateLimited stands checked) (by simp [stands])
      exact ⟨none, _, rest, rfl, later, limited.symm, free, rfl,
        State.move_phase_self ..⟩
  | proceed desperate =>
      obtain ⟨rfl, _⟩ := JwksCache.checkRate_proceed checked
      obtain ⟨_, rfl, atGate⟩ :=
        finishes.forced (.admitted stands checked) (by simp [stands])
      obtain ⟨_, rfl, underGate⟩ := atGate.forced
        (.takeGate (State.move_phase_self ..) free) (by simp)
      have claimed := claimWindow_alone system.foreign system.cache
        state.inner (system.call c).now wait
      cases permitted : system.cache.permitsAttempt state.inner
          (system.call c).now with
      | false =>
          rw [permitted, if_neg (by simp)] at claimed
          obtain ⟨_, rfl, satisfied⟩ := underGate.forced
            (.satisfied (State.move_phase_self ..) claimed) (by simp)
          obtain ⟨rest, rfl, released⟩ := satisfied.forced
            (.release (State.move_phase_self ..)) (by simp)
          exact ⟨none, _, rest, rfl, released, permitted.symm, rfl, rfl,
            State.move_phase_self ..⟩
      | true =>
          rw [permitted, if_pos rfl] at claimed
          obtain ⟨_, rfl, fetching⟩ := underGate.forced
            (.claim (State.move_phase_self ..) claimed) (by simp)
          obtain ⟨body, _, rfl, returned⟩ :=
            fetching.fetch (State.move_phase_self ..)
          obtain ⟨_, rfl, written⟩ := returned.forced
            (.writeBack (State.move_phase_self ..) rfl) (by simp)
          obtain ⟨rest, rfl, released⟩ := written.forced
            (.release (State.move_phase_self ..)) (by simp)
          refine ⟨some body, _, rest, ?_, released, permitted.symm, rfl, rfl,
            State.move_phase_self ..⟩
          simp only [refreshEvents, refreshOutcome, State.move_inner,
            List.nil_append, List.cons_append, List.append_assoc]

/-! ## What a refresh leaves to serve -/

section Outcome

omit [DecidableEq ι]

variable (system : System ι T) (c : ι) (fetch : Option (Except String String))

theorem refreshOutcome_paired {inner : Inner} (paired : inner.Paired) :
    (system.refreshOutcome c inner fetch).inner.Paired := by
  cases fetch with
  | none => exact paired
  | some body =>
      rw [refreshOutcome]
      cases body.bind (JwkSet.parse system.foreign) with
      | ok fresh => rfl
      | error error =>
          rw [JwksCache.writeBack_error_inner]
          exact paired

/-- A refresh returns a set exactly if the data it leaves serves it. -/
theorem refreshOutcome_refreshed {inner : Inner} (paired : inner.Paired)
    {set : JwkSet} :
    (system.refreshOutcome c inner fetch).refreshed = .ok (some set) ↔
      system.cache.Serves (system.refreshOutcome c inner fetch).inner
        (system.call c).now set := by
  cases fetch with
  | none =>
      exact ⟨JwksCache.serves_of_serveWithinCeiling paired,
        JwksCache.Serves.serveWithinCeiling⟩
  | some body =>
      refine ⟨JwksCache.serves_of_writeBack paired, ?_⟩
      intro serves
      rw [refreshOutcome] at serves ⊢
      cases parsed : body.bind (JwkSet.parse system.foreign) with
      | ok fresh =>
          rw [parsed] at serves
          exact congrArg Except.ok serves.1
      | error error =>
          rw [parsed] at serves
          have before := serves
          rw [JwksCache.writeBack_error_inner] at before
          exact writeBack_of_serves before serves

/-- An attempt, or a closed window, keeps the window closed. -/
theorem refreshOutcome_closed {inner : Inner}
    (positive : 0 < system.cache.minRefetchInterval.nanos)
    (attempts : fetch.isSome =
      system.cache.permitsAttempt inner (system.call c).now) :
    system.cache.permitsAttempt (system.refreshOutcome c inner fetch).inner
      (system.call c).now = false := by
  cases fetch with
  | none => exact attempts.symm
  | some body =>
      rw [Bool.eq_false_iff, Ne, JwksCache.permitsAttempt_iff]
      intro permitted
      have elapsed := permitted (system.call c).now
        JwksCache.writeBack_lastAttempt
      omega

theorem afterRefresh_of_unserved {round : Round} {refreshed : Refreshed}
    (unserved : ∀ set, refreshed ≠ .ok (some set)) :
    ∃ e, system.afterRefresh c round refreshed = .done (.error e) := by
  cases refreshed with
  | error e => exact ⟨e, rfl⟩
  | ok keys =>
      cases keys with
      | none => cases round <;> exact ⟨_, rfl⟩
      | some set => exact absurd rfl (unserved set)

end Outcome

/-! ## Two refreshes and two lookups make one decision -/

/-- The end of a call alone that fetched, or did not: that fetch is all it
does to the data, and the set that the data then serves gives the result. -/
structure Decided (system : System ι T) (c : ι) (inner : Inner)
    (fetch : Option (Except String String)) (history : List (Event ι))
    (final : State ι T) (result : Except String T) : Prop where
  starts : starts history = if fetch.isSome then 1 else 0
  returned : ∀ body, .returned c body ∈ history ↔ fetch = some body
  inner : final.inner = (system.refreshOutcome c inner fetch).inner
  served : ∀ set, system.cache.Serves final.inner (system.call c).now set →
    result = JwksCache.resultOn system.foreign (system.call c) set
  unserved :
    (∀ set, ¬ system.cache.Serves final.inner (system.call c).now set) →
    (∃ e, result = .error e) ∧ ∀ set key, .invoked c set key ∉ history

namespace Decided

variable {fetch : Option (Except String String)} {inner : Inner}

omit [DecidableEq ι]

/-- A refresh that leaves nothing to serve ends the call. -/
theorem of_unserved {e : String} (paired : inner.Paired)
    (innerEq : final.inner = (system.refreshOutcome c inner fetch).inner)
    (unserved : ∀ set,
      (system.refreshOutcome c inner fetch).refreshed ≠ .ok (some set)) :
    Decided system c inner fetch (system.refreshEvents c inner fetch) final
      (.error e) where
  starts := system.starts_refreshEvents c inner fetch
  returned := fun body => system.returned_mem_refreshEvents c inner fetch
  inner := innerEq
  served := by
    intro set serves
    rw [innerEq, ← refreshOutcome_refreshed system c fetch paired] at serves
    exact absurd serves (unserved set)
  unserved := fun _ => ⟨⟨e, rfl⟩, fun _ _ =>
    system.invoked_not_mem_refreshEvents c inner fetch⟩

/-- A lookup in a served set that ends the call. -/
theorem of_lookup {set : JwkSet} (innerEq : final.inner = inner)
    (serves : system.cache.Serves inner (system.call c).now set) :
    Decided system c inner none (system.invocations c set) final
      (JwksCache.resultOn system.foreign (system.call c) set) where
  starts := by simp [AuthOidc.starts, invocations, Event.isStart]
  returned := by simp [invocations]
  inner := innerEq
  served := by
    intro other servesOther
    rw [innerEq] at servesOther
    rw [serves.unique servesOther]
  unserved := by
    intro never
    rw [innerEq] at never
    exact absurd serves (never set)

/-- A fetch that succeeds has the last word. -/
theorem result_of_fetched {body : Except String String} {fresh : JwkSet}
    (decided : Decided system c inner (some body) history final result)
    (paired : inner.Paired)
    (parsed : body.bind (JwkSet.parse system.foreign) = .ok fresh) :
    result = JwksCache.resultOn system.foreign (system.call c) fresh := by
  apply decided.served
  rw [decided.inner, ← refreshOutcome_refreshed system c _ paired,
    refreshOutcome, parsed]
  rfl

/-- After a refresh, what follows without a fetch. -/
theorem after_refresh {rest : List (Event ι)} {round : Round}
    {next : State ι T} (refreshes : Refreshes system c state round fetch next)
    (later : Decided system c next.inner none rest final result) :
    Decided system c state.inner fetch
      (system.refreshEvents c state.inner fetch ++ rest) final result where
  starts := by
    rw [starts_append, starts_refreshEvents, later.starts]
    rfl
  returned := by
    intro body
    rw [List.mem_append, returned_mem_refreshEvents, later.returned]
    simp
  inner := later.inner.trans refreshes.inner
  served := later.served
  unserved := by
    intro never
    obtain ⟨failed, silent⟩ := later.unserved never
    refine ⟨failed, ?_⟩
    intro set key member
    rcases List.mem_append.mp member with earlier | afterwards
    · exact system.invoked_not_mem_refreshEvents c state.inner fetch earlier
    · exact silent set key afterwards

end Decided

omit [DecidableEq ι] in
theorem Refreshes.served {round : Round} {next : State ι T}
    {fetch : Option (Except String String)} {set : JwkSet}
    (refreshes : Refreshes system c state round fetch next)
    (paired : state.inner.Paired)
    (served : (system.refreshOutcome c state.inner fetch).refreshed =
      .ok (some set)) :
    next.phase c = .lookup round set ∧
      system.cache.Serves next.inner (system.call c).now set := by
  constructor
  · rw [refreshes.phase, served]
    cases round <;> rfl
  · rwa [refreshes.inner, ← refreshOutcome_refreshed system c fetch paired]

namespace Finishes

theorem decided_unserved {round : Round} {next : State ι T}
    {fetch : Option (Except String String)} {rest : List (Event ι)}
    (finishes : Finishes system c next rest final result)
    (refreshes : Refreshes system c state round fetch next)
    (paired : state.inner.Paired)
    (unserved : ∀ set,
      (system.refreshOutcome c state.inner fetch).refreshed ≠
        .ok (some set)) :
    Decided system c state.inner fetch
      (system.refreshEvents c state.inner fetch ++ rest) final result := by
  obtain ⟨e, ended⟩ := system.afterRefresh_of_unserved c unserved
  obtain ⟨rfl, rfl, rfl⟩ := finishes.ended (refreshes.phase.trans ended)
  rw [List.append_nil]
  exact .of_unserved paired refreshes.inner unserved

theorem decided_second
    (finishes : Finishes system c state history final result)
    (stands : state.phase c = .rateCheck .second false)
    (free : state.fetchGate = none) (paired : state.inner.Paired) :
    ∃ fetch,
      fetch.isSome =
        system.cache.permitsAttempt state.inner (system.call c).now ∧
      Decided system c state.inner fetch history final result := by
  obtain ⟨fetch, next, rest, rfl, later, refreshes⟩ :=
    finishes.refresh stands free
  refine ⟨fetch, refreshes.attempts, ?_⟩
  by_cases served : ∃ set,
      (system.refreshOutcome c state.inner fetch).refreshed = .ok (some set)
  · obtain ⟨set, served⟩ := served
    obtain ⟨phase, serves⟩ := refreshes.served paired served
    obtain ⟨_, rfl, ended⟩ := later.forced (.lookup phase) (by simp [phase])
    obtain ⟨rfl, rfl, rfl⟩ := ended.ended
      ((State.move_phase_self ..).trans (system.afterLookup_second c set))
    rw [List.append_nil]
    exact .after_refresh refreshes (.of_lookup rfl serves)
  · exact later.decided_unserved refreshes paired (not_exists.mp served)

/-- The first lookup goes on only if no key matches. -/
theorem decided_lookup
    (finishes : Finishes system c state history final result) {set : JwkSet}
    (stands : state.phase c = .lookup .first set)
    (serves : system.cache.Serves state.inner (system.call c).now set)
    (free : state.fetchGate = none) (paired : state.inner.Paired) :
    ∃ fetch,
      fetch.isSome =
        (system.cache.permitsAttempt state.inner (system.call c).now &&
          (set.findAll (system.call c).kid).isEmpty) ∧
      Decided system c state.inner fetch history final result := by
  obtain ⟨rest, rfl, later⟩ :=
    finishes.forced (.lookup stands) (by simp [stands])
  cases tried : JwksCache.tryAll set (system.call c).kid (system.call c).f with
  | some answer =>
      have matching : set.findAll (system.call c).kid ≠ [] := by
        intro none
        rw [JwksCache.tryAll, tryKeys_eq_none.mpr none] at tried
        cases tried
      obtain ⟨rfl, rfl, rfl⟩ := later.ended
        ((State.move_phase_self ..).trans (system.afterLookup_of_some tried))
      have resultEq : result =
          JwksCache.resultOn system.foreign (system.call c) set := by
        simp [JwksCache.resultOn, tried]
      rw [List.append_nil, resultEq]
      refine ⟨none, ?_, .of_lookup rfl serves⟩
      simp [matching]
  | none =>
      have matching := tryKeys_eq_none.mp tried
      obtain ⟨fetch, attempts, decided⟩ := later.decided_second
        ((State.move_phase_self ..).trans
          (system.afterLookup_first_of_none tried)) free paired
      refine ⟨fetch, ?_, ?_⟩
      · simpa [matching] using attempts
      · simpa [invocations, matching, triedKeys] using decided

/-- After the first refresh the window is closed, so it is the only one. -/
theorem decided_first
    (finishes : Finishes system c state history final result)
    (positive : 0 < system.cache.minRefetchInterval.nanos) {wait : Bool}
    (stands : state.phase c = .rateCheck .first wait)
    (free : state.fetchGate = none) (paired : state.inner.Paired) :
    ∃ fetch,
      fetch.isSome =
        system.cache.permitsAttempt state.inner (system.call c).now ∧
      Decided system c state.inner fetch history final result := by
  obtain ⟨fetch, next, rest, rfl, later, refreshes⟩ :=
    finishes.refresh stands free
  refine ⟨fetch, refreshes.attempts, ?_⟩
  have pairedNext : next.inner.Paired := by
    rw [refreshes.inner]
    exact system.refreshOutcome_paired c fetch paired
  have closed := system.refreshOutcome_closed c fetch positive
    refreshes.attempts
  rw [← refreshes.inner] at closed
  by_cases served : ∃ set,
      (system.refreshOutcome c state.inner fetch).refreshed = .ok (some set)
  · obtain ⟨set, served⟩ := served
    obtain ⟨phase, serves⟩ := refreshes.served paired served
    obtain ⟨again, attempts, decided⟩ :=
      later.decided_lookup phase serves refreshes.gate pairedNext
    rw [closed, Bool.false_and, Option.isSome_eq_false_iff,
      Option.isNone_iff_eq_none] at attempts
    subst attempts
    exact .after_refresh refreshes decided
  · exact later.decided_unserved refreshes paired (not_exists.mp served)

end Finishes

omit [DecidableEq ι] in
/-- What the snapshot decides. -/
theorem afterSnapshot_decides (cache : JwksCache) {inner : Inner}
    (now : Instant) (paired : inner.Paired) :
    (∃ wait, (afterSnapshot (cache.snapshot inner now) : Phase T) =
        .rateCheck .first wait ∧
      (inner.keys = none ∨ ∃ fetchedAt, inner.fetchedAt = some fetchedAt ∧
        cache.ttl ≤ now.saturatingDurationSince fetchedAt)) ∨
      ∃ set, cache.Serves inner now set ∧
        (afterSnapshot (cache.snapshot inner now) : Phase T) =
          .lookup .first set ∧
        ∀ fetchedAt, inner.fetchedAt = some fetchedAt →
          ¬ cache.ttl ≤ now.saturatingDurationSince fetchedAt := by
  cases keys : inner.keys with
  | none =>
      exact .inl ⟨true, afterSnapshot_of_cold cache now keys, .inl rfl⟩
  | some set =>
      obtain ⟨fetchedAt, fetched⟩ := paired.exists_fetchedAt keys
      rw [afterSnapshot_of_fetched cache now keys fetched]
      by_cases expired :
          cache.maxStale ≤ now.saturatingDurationSince fetchedAt
      · have ordered := Duration.le_iff.mp cache.ttl_le_maxStale
        refine .inl ⟨true, if_pos expired, .inr ⟨fetchedAt, fetched, ?_⟩⟩
        exact Duration.le_iff.mpr (ordered.trans (Duration.le_iff.mp expired))
      · rw [if_neg expired]
        by_cases stale : cache.ttl ≤ now.saturatingDurationSince fetchedAt
        · exact .inl ⟨false, if_pos stale, .inr ⟨fetchedAt, fetched, stale⟩⟩
        · refine .inr ⟨set, ⟨keys, fetchedAt, fetched,
            Duration.not_le.mp expired⟩, if_neg stale, ?_⟩
          intro other otherEq
          rw [fetched, Option.some.injEq] at otherEq
          rwa [← otherEq]

omit [DecidableEq ι] in
theorem fetchDue_iff {cache : JwksCache} {inner : Inner} {call : Call T} :
    FetchDue cache inner call ↔
      cache.permitsAttempt inner call.now = true ∧ (inner.keys = none ∨
        (∃ fetchedAt, inner.fetchedAt = some fetchedAt ∧
          cache.ttl ≤ call.now.saturatingDurationSince fetchedAt) ∨
        ∃ set, inner.keys = some set ∧
          ∀ key ∈ set.keys, ¬ key.GoesBy call.kid) := by
  have permitted : cache.permitsAttempt inner call.now = true ↔
      ∀ last, inner.lastAttempt = some last →
        cache.minRefetchInterval ≤ call.now.saturatingDurationSince last := by
    simp only [JwksCache.permitsAttempt_iff,
      Instant.le_saturatingDurationSince]
  rw [permitted]
  exact ⟨fun due => ⟨due.permitted, due.needed⟩, fun due => ⟨due.1, due.2⟩⟩

/-- A call alone fetches exactly if its one decision says so. -/
theorem Finishes.decided
    (finishes : Finishes system c state history final result)
    (positive : 0 < system.cache.minRefetchInterval.nanos)
    (begins : state.phase c = .snapshot) (free : state.fetchGate = none)
    (paired : state.inner.Paired) :
    ∃ fetch,
      (fetch.isSome = true ↔
        FetchDue system.cache state.inner (system.call c)) ∧
      Decided system c state.inner fetch history final result := by
  obtain ⟨rest, rfl, later⟩ :=
    finishes.forced (.snapshot begins) (by simp [begins])
  rw [fetchDue_iff]
  rcases afterSnapshot_decides (T := T) system.cache (system.call c).now
    paired with ⟨wait, check, needed⟩ | ⟨set, serves, lookup, fresh⟩
  · rw [check] at later
    obtain ⟨fetch, attempts, decided⟩ := later.decided_first positive
      (State.move_phase_self ..) free paired
    refine ⟨fetch, ?_, decided⟩
    rw [attempts]
    exact ⟨fun permitted => ⟨permitted, needed.imp_right .inl⟩, And.left⟩
  · rw [lookup] at later
    obtain ⟨fetch, attempts, decided⟩ := later.decided_lookup
      (State.move_phase_self ..) serves free paired
    refine ⟨fetch, ?_, decided⟩
    rw [attempts, Bool.and_eq_true, List.isEmpty_iff,
      JwkSet.findAll_eq_nil_iff]
    constructor
    · intro misses
      obtain ⟨permitted, unmatched⟩ := misses
      exact ⟨permitted, .inr (.inr ⟨set, serves.1, unmatched⟩)⟩
    · rintro ⟨permitted, cold | ⟨fetchedAt, fetchedAtEq, stale⟩ |
        ⟨other, keys, unmatched⟩⟩
      · rw [serves.1] at cold
        cases cold
      · exact absurd stale (fresh fetchedAt fetchedAtEq)
      · rw [serves.1, Option.some.injEq] at keys
        rw [keys]
        exact ⟨permitted, unmatched⟩

variable {schedule : List (Action ι)}

/-- A call of `with_key` that no other call runs next to makes one decision.
It fetches once if that is due, and else not at all.  If the set that is then
cached is absent or past the ceiling, the call fails without invoking its
closure; else the set alone gives the result.  In particular a rotated key is
found within the call. -/
theorem Runs.one_decision (run : system.Runs schedule history state)
    (positive : 0 < system.cache.minRefetchInterval.nanos)
    (begins : state.phase c = .snapshot) (idle : Idle state c) :
    (∀ own final result, Finishes system c state own final result →
      (FetchDue system.cache state.inner (system.call c) →
        starts own = 1) ∧
      (¬ FetchDue system.cache state.inner (system.call c) →
        starts own = 0) ∧
      ((final.inner.keys = none ∨
          ∃ fetchedAt, final.inner.fetchedAt = some fetchedAt ∧
            system.cache.maxStale ≤
              (system.call c).now.saturatingDurationSince fetchedAt) →
        (∃ e, result = .error e) ∧
          ∀ set key, .invoked c set key ∉ own) ∧
      (∀ set fetchedAt, final.inner.keys = some set →
        final.inner.fetchedAt = some fetchedAt →
        ¬ system.cache.maxStale ≤
          (system.call c).now.saturatingDurationSince fetchedAt →
        ResultFrom system.foreign (system.call c) set.keys result) ∧
      ∀ body fresh key value,
        system.cache.permitsAttempt state.inner (system.call c).now = true →
        (∀ old, state.inner.keys = some old →
          ∀ key ∈ old.keys, ¬ key.GoesBy (system.call c).kid) →
        (∀ other, .returned c other ∈ own → other = body) →
        body.bind (JwkSet.parse system.foreign) = .ok fresh →
        key ∈ fresh.keys → key.GoesBy (system.call c).kid →
        (system.call c).f key = .ok value →
        ∃ verified, result = .ok verified) ∧
    ∀ body, ∃ own final result, Finishes system c state own final result ∧
      ∀ other, .returned c other ∈ own → other = body := by
  have free := run.gate_of_idle begins idle
  constructor
  · intro own final result finishes
    obtain ⟨fetch, due, decided⟩ :=
      finishes.decided positive begins free run.recorded.paired
    have paired : final.inner.Paired := by
      rw [decided.inner]
      exact system.refreshOutcome_paired c fetch run.recorded.paired
    refine ⟨?_, ?_, ?_, ?_, ?_⟩
    · intro isDue
      rw [decided.starts, if_pos (due.mpr isDue)]
    · intro notDue
      rw [decided.starts, if_neg (mt due.mp notDue)]
    · intro unusable
      apply decided.unserved
      intro set serves
      obtain ⟨keys, fetchedAt, fetchedAtEq, within⟩ := serves
      rcases unusable with cold | ⟨other, otherEq, expired⟩
      · rw [keys] at cold
        cases cold
      · rw [fetchedAtEq, Option.some.injEq] at otherEq
        rw [← otherEq] at expired
        exact Duration.not_le.mpr within expired
    · intro set fetchedAt keys fetchedAtEq within
      apply JwksCache.resultFrom_iff.mpr
      exact decided.served set ⟨keys, fetchedAt, fetchedAtEq,
        Duration.not_le.mp within⟩
    · intro body fresh key value permitted unmatched returns parsed member
        goesBy accepts
      have needed : state.inner.keys = none ∨
          ∃ old, state.inner.keys = some old ∧
            ∀ key ∈ old.keys, ¬ key.GoesBy (system.call c).kid := by
        cases keys : state.inner.keys with
        | none => exact .inl rfl
        | some old => exact .inr ⟨old, rfl, unmatched old keys⟩
      have isDue := due.mpr (fetchDue_iff.mpr
        ⟨permitted, needed.imp_right .inr⟩)
      obtain ⟨other, rfl⟩ := Option.isSome_iff_exists.mp isDue
      cases returns other ((decided.returned other).mpr rfl)
      have given : ResultFrom system.foreign (system.call c) fresh.keys
          result :=
        JwksCache.resultFrom_iff.mpr
          (decided.result_of_fetched run.recorded.paired parsed)
      exact given.isOk member goesBy accepts
  · intro body
    refine run.can_finish ?_ body
    intro holder held
    rw [free] at held
    cases held

theorem Runs.one_decision_sample :
    ∃ own final, Finishes Sample.system false .fresh own final (.ok ()) ∧
      starts own = 1 := by
  have run : Sample.system.Runs [] [] .fresh := .refl
  obtain ⟨decides, ends⟩ := Runs.one_decision (c := false) run (by decide)
    rfl fun _ _ => .inl rfl
  obtain ⟨own, final, result, finishes, returns⟩ :=
    ends (.ok Sample.document)
  obtain ⟨once, _, _, _, rotated⟩ := decides own final result finishes
  have parsed : (Except.ok Sample.document : Except String String).bind
      (JwkSet.parse Sample.system.foreign) = .ok Sample.keySet := by
    decide +kernel
  obtain ⟨key, keysEq⟩ : ∃ key, Sample.keySet.keys = [key] := ⟨_, rfl⟩
  have goesBy : key.GoesBy "k1" := by
    cases keysEq
    exact .inl rfl
  have accepts : (Sample.system.call false).f key = .ok () := by
    cases keysEq
    rfl
  obtain ⟨verified, rfl⟩ := rotated (.ok Sample.document) Sample.keySet key ()
    rfl (by simp [State.fresh, Inner.new]) returns parsed
    (by simp [keysEq]) goesBy accepts
  exact ⟨own, final, finishes, once ⟨by simp [State.fresh, Inner.new],
    .inl rfl⟩⟩

end System

end AuthOidc
