import AuthOidc.Cache.Locks
import AuthOidc.Cache.History

/-!
# Lock discipline and progress

`with_key` takes the data lock above the gate and drops it before it calls the
fetcher or the closure; it calls the fetcher under the gate and the closure
under no lock.  So any number of calls keep to this in every interleaving, and
never block each other for good.
-/

namespace AuthOidc

open Rust Locking

namespace JwksCache.Locks

/-- The locks under which outside code is called. -/
def Permits (held : Set CacheLock) : Outside → Prop
  | .fetch _ => .inner ∉ held ∧ .fetchGate ∈ held
  | .apply _ => .inner ∉ held ∧ .fetchGate ∉ held
  | .warn _ => .inner ∉ held

/-- The discipline of the cache, under the locks `held`. -/
abbrev Keeps {T : Type} (held : Set CacheLock) (code : CacheCode T) : Prop :=
  Disciplined .inner Permits held code

variable {T : Type} {foreign : Foreign} {self : JwksCache}
  {held : Set CacheLock}

theorem keeps_lock (noData : .inner ∉ held) {update : Inner → Inner}
    {next : Inner → CacheCode T}
    (keeps : ∀ inner, Keeps (insert .inner held) (next inner)) :
    Keeps held (lock update next) := by
  refine .lock ?_ fun _ => .access (Set.mem_insert _ _) keeps
  intro earlier member
  cases earlier with
  | fetchGate => exact Nat.zero_lt_one
  | inner => exact absurd member noData

theorem keeps_unlock (noData : .inner ∉ held) {next : CacheCode T}
    (keeps : Keeps held next) :
    Keeps (insert .inner held) (.unlock .inner next) := by
  refine .unlock (Set.mem_insert _ _) ?_
  rwa [Set.insert_sdiff_self_of_notMem noData]

theorem keeps_releaseGate {next : CacheCode T} (keeps : Keeps ∅ next) :
    Keeps {.fetchGate} (.unlock .fetchGate next) := by
  refine .unlock (Set.mem_singleton _) ?_
  rwa [Set.sdiff_self]

theorem noData_of_gate :
    (CacheLock.inner : CacheLock) ∉ ({.fetchGate} : Set CacheLock) := by
  simp

section Refresh

variable {now : Instant} {next : Refreshed → CacheCode T}
  (keeps : ∀ refreshed, Keeps ∅ (next refreshed))

include keeps

theorem keeps_serveWithinCeiling :
    Keeps ∅ (serveWithinCeiling foreign self now next) :=
  keeps_lock (Set.notMem_empty _) fun _ =>
    keeps_unlock (Set.notMem_empty _) (keeps _)

theorem keeps_writeBack {fetched : Except String JwkSet} :
    Keeps {.fetchGate} (writeBack self now fetched next) := by
  refine keeps_lock noData_of_gate fun inner =>
    keeps_unlock noData_of_gate ?_
  cases (self.writeBack inner now fetched).warned with
  | none => exact keeps_releaseGate (keeps _)
  | some error =>
      exact .call noData_of_gate fun _ => keeps_releaseGate (keeps _)

theorem keeps_underGate {desperate : Bool} :
    Keeps {.fetchGate} (underGate foreign self now desperate next) := by
  refine keeps_lock noData_of_gate fun inner => ?_
  cases self.claimWindow foreign inner now desperate with
  | leave refreshed =>
      exact keeps_unlock noData_of_gate (keeps_releaseGate (keeps refreshed))
  | proceed claimed =>
      exact keeps_unlock noData_of_gate
        (.call ⟨noData_of_gate, Set.mem_singleton _⟩
          fun _ => keeps_writeBack keeps)

theorem keeps_takeGate {desperate : Bool} :
    Keeps ∅ (takeGate foreign self now desperate next) := by
  have underGate : Keeps (insert .fetchGate ∅)
      (underGate foreign self now desperate next) := by
    rw [insert_empty_eq]
    exact keeps_underGate keeps
  refine .tryLock (fun _ => underGate) ?_
  cases desperate with
  | false => exact keeps_serveWithinCeiling keeps
  | true =>
      exact .lock (fun _ member => absurd member (Set.notMem_empty _))
        fun _ => underGate

theorem keeps_refresh {wait : Bool} :
    Keeps ∅ (refresh foreign self now wait next) := by
  refine keeps_lock (Set.notMem_empty _) fun inner => ?_
  cases self.checkRate foreign inner now wait with
  | leave refreshed => exact keeps_unlock (Set.notMem_empty _) (keeps _)
  | proceed desperate =>
      exact keeps_unlock (Set.notMem_empty _) (keeps_takeGate keeps)

end Refresh

theorem keeps_tryKeys {next : Option (Except String T) → CacheCode T}
    (keeps : ∀ result, Keeps ∅ (next result)) (keys : List Jwk)
    (lastErr : Option String) : Keeps ∅ (tryKeys keys lastErr next) := by
  induction keys generalizing lastErr with
  | nil => exact keeps _
  | cons key rest induction =>
      refine .call ⟨Set.notMem_empty _, Set.notMem_empty _⟩ fun answer => ?_
      cases answer with
      | ok value => exact keeps _
      | error e => exact induction (some e)

theorem keeps_ret (result : Except String T) :
    Keeps ∅ (.ret result : CacheCode T) :=
  .ret rfl

theorem keeps_lookup {kid : String} {set : JwkSet} {missed : CacheCode T}
    (keeps : Keeps ∅ missed) : Keeps ∅ (lookup kid set missed) := by
  refine keeps_tryKeys (fun result => ?_) _ none
  cases result with
  | none => exact keeps
  | some result => exact keeps_ret _

theorem keeps_withRetried {kid : String} (refreshed : Refreshed) :
    Keeps ∅ (withRetried foreign kid refreshed : CacheCode T) := by
  rcases refreshed with e | _ | set
  · exact keeps_ret _
  · exact keeps_ret _
  · exact keeps_lookup (keeps_ret _)

theorem keeps_withEnsured {kid : String} {now : Instant}
    (ensured : Refreshed) :
    Keeps ∅ (withEnsured foreign self kid now ensured : CacheCode T) := by
  rcases ensured with e | _ | set
  · exact keeps_ret _
  · exact keeps_ret _
  · exact keeps_lookup (keeps_refresh keeps_withRetried)

theorem keeps_withKey (kid : String) (now : Instant) :
    Keeps ∅ (withKey foreign self kid now : CacheCode T) := by
  refine keeps_lock (Set.notMem_empty _) fun inner =>
    keeps_unlock (Set.notMem_empty _) ?_
  rcases self.snapshot inner now with ⟨cached, stale, expired⟩
  dsimp only
  generalize (if expired then none else cached) = keys
  split
  · exact keeps_refresh keeps_withEnsured
  · exact keeps_withEnsured _

end JwksCache.Locks

/-! ## Any number of calls -/

namespace System

variable {ι T : Type}

abbrev LockState (ι T : Type) :=
  Locking.State ι CacheLock Inner Outside (Outside.Answer T) (Except String T)

/-- A fresh cache and the code of every call on it. -/
def lockStart (system : System ι T) : LockState ι T :=
  .initial .new fun c => JwksCache.Locks.withKey system.foreign system.cache
    (system.call c).kid (system.call c).now

section Calls

variable (state : LockState ι T) (c : ι)

/-- The call executes the fetcher. -/
def Fetching : Prop :=
  ∃ url next, state.thread c = .running (.call (.fetch url) next)

/-- The call executes its closure. -/
def Applying : Prop :=
  ∃ key next, state.thread c = .running (.call (.apply key) next)

/-- The call is taking the lock, and waits while it is taken. -/
def Taking (lock : CacheLock) : Prop :=
  ∃ next, state.thread c = .running (.lock lock next)

/-- The call reads and updates the data. -/
def Accessing : Prop :=
  ∃ update next, state.thread c = .running (.access update next)

def Holds (lock : CacheLock) : Prop :=
  state.owner lock = some c

def Returned : Prop :=
  ∃ result, state.thread c = .ended result

end Calls

variable [DecidableEq ι] {system : System ι T} {state : LockState ι T}

/-- The states of any number of calls under any interleaving, whatever the
outside code returns and wherever it panics. -/
def LockReachable (system : System ι T) (state : LockState ι T) : Prop :=
  Reachable (fun _ _ => True) system.lockStart state

theorem LockReachable.disciplined (reached : system.LockReachable state) :
    state.Disciplined .inner JwksCache.Locks.Permits :=
  Reachable.disciplined
    (State.disciplined_initial fun _ => JwksCache.Locks.keeps_withKey _ _)
    reached

/-- No two calls are at the data at the same time, so that a section under the
data lock can be taken for one step. -/
theorem LockReachable.accessing_unique
    (reached : system.LockReachable state) {c other : ι}
    (accessing : Accessing state c) (otherAccessing : Accessing state other) :
    c = other := by
  have holds : ∀ {c}, Accessing state c → Holds state c .inner := by
    intro c accesses
    obtain ⟨update, next, stands⟩ := accesses
    have kept := reached.disciplined c
    rw [stands] at kept
    cases kept with
    | access owned _ => exact owned
  exact Option.some.inj ((holds accessing).symm.trans (holds otherAccessing))

/-- Neither the fetcher nor the closure is executed under the data lock, the
closure not under the gate either, and the fetcher only under the gate; no call
waits for the gate with the data lock.  While some call has not returned some
call has a step, the one where the waits of the first end, and no set of calls
is deadlocked. -/
theorem lock_discipline (reached : system.LockReachable state) :
    (∀ c, Fetching state c ∨ Applying state c →
      ¬ Holds state c .inner) ∧
      (∀ c, Applying state c → ¬ Holds state c .fetchGate) ∧
      (∀ c, Fetching state c → Holds state c .fetchGate) ∧
      (∀ c, Taking state c .fetchGate → ¬ Holds state c .inner) ∧
      (∀ c, ¬ Returned state c →
        ∃ other, Relation.ReflTransGen (WaitsFor state) c other ∧
          Enabled state other) ∧
      ∀ calls : Set ι, calls.Nonempty →
        ¬ ∀ c ∈ calls, ∃ holder ∈ calls, WaitsFor state c holder := by
  have disciplined := reached.disciplined
  have fetching : ∀ c, Fetching state c →
      ¬ Holds state c .inner ∧ Holds state c .fetchGate := by
    intro c fetches
    obtain ⟨url, next, stands⟩ := fetches
    have kept := disciplined c
    rw [stands] at kept
    cases kept with
    | call permitted _ => exact permitted
  have applying : ∀ c, Applying state c →
      ¬ Holds state c .inner ∧ ¬ Holds state c .fetchGate := by
    intro c applies
    obtain ⟨key, next, stands⟩ := applies
    have kept := disciplined c
    rw [stands] at kept
    cases kept with
    | call permitted _ => exact permitted
  refine ⟨?_, fun c applies => (applying c applies).2,
    fun c fetches => (fetching c fetches).2, ?_, ?_,
    fun calls nonempty => disciplined.no_deadlock nonempty⟩
  · intro c executes
    rcases executes with fetches | applies
    · exact (fetching c fetches).1
    · exact (applying c applies).1
  · intro c takes holds
    obtain ⟨next, stands⟩ := takes
    have kept := disciplined c
    rw [stands] at kept
    cases kept with
    | lock below _ => exact absurd (below .inner holds) (by decide)
  · intro c unreturned
    exact disciplined.exists_enabled (not_exists.mp unreturned)

/-- The first call is in the fetcher and the second one waits for it. -/
theorem lock_discipline_sample :
    ∃ state, Sample.system.LockReachable state ∧ Fetching state false ∧
      Taking state true .fetchGate ∧ Holds state false .fetchGate ∧
      ∃ other, Relation.ReflTransGen (WaitsFor state) true other ∧
        Enabled state other := by
  have enabled : ((List.replicate 10 false ++ List.replicate 7 true).foldlM
      State.advance Sample.system.lockStart).isSome = true := rfl
  have reached : Sample.system.LockReachable (Option.get _ enabled) :=
    .of_schedule (fun _ => trivial) (Option.some_get enabled).symm
  have fetching : Fetching (Option.get _ enabled) false := ⟨_, _, rfl⟩
  have taking : Taking (Option.get _ enabled) true .fetchGate := ⟨_, rfl⟩
  obtain ⟨_, _, underGate, _, progress, _⟩ := lock_discipline reached
  obtain ⟨next, stands⟩ := taking
  refine ⟨_, reached, fetching, ⟨next, stands⟩, underGate _ fetching,
    progress true ?_⟩
  intro hasReturned
  obtain ⟨result, returned⟩ := hasReturned
  rw [stands] at returned
  cases returned

end System

end AuthOidc
