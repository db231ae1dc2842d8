import Mathlib.Order.WellFounded
import AuthOidc.Cache
import AuthOidc.Library.Locking

/-!
# `with_key` and its locks

The code of `with_key` with every lock operation it performs: the guards of
the data lock, which end with their scope or are dropped by hand, and the gate
that `refresh` tries, waits for and holds for the rest of its body.  What runs
between two lock operations is the section of that name.
-/

namespace AuthOidc

open Rust Locking

/-- The two locks of the cache, the gate below the data. -/
inductive CacheLock where
  | fetchGate
  | inner
  deriving DecidableEq

def CacheLock.level : CacheLock → Nat
  | fetchGate => 0
  | inner => 1

instance : Preorder CacheLock :=
  .lift CacheLock.level

instance : WellFoundedGT CacheLock where
  wf := by
    refine (measure fun lock : CacheLock => 1 - lock.level).wf.mono ?_
    intro upper lower below
    change lower.level < upper.level at below
    change 1 - upper.level < 1 - lower.level
    cases upper <;> cases lower <;> simp_all [CacheLock.level]

/-- The code that `with_key` calls and that may take its time. -/
inductive Outside where
  | fetch (url : String)
  | apply (key : Jwk)
  | warn (error : String)

/-- What that code returns. -/
def Outside.Answer (T : Type) : Outside → Type
  | fetch _ => Except String String
  | apply _ => Except String T
  | warn _ => Unit

instance (T : Type) (query : Outside) : Nonempty (query.Answer T) :=
  match query with
  | .fetch _ => ⟨.error ""⟩
  | .apply _ => ⟨.error ""⟩
  | .warn _ => ⟨()⟩

abbrev CacheCode (T : Type) :=
  Code CacheLock Inner Outside (Outside.Answer T) (Except String T)

namespace JwksCache.Locks

variable {T : Type} (foreign : Foreign) (self : JwksCache)

/-- `lock`, which recovers from poisoning, and a section under its guard. -/
def lock (update : Inner → Inner) (next : Inner → CacheCode T) :
    CacheCode T :=
  .lock .inner fun _poisoned => .access update next

def snapshot (now : Instant)
    (next : Option JwkSet × Bool × Bool → CacheCode T) : CacheCode T :=
  lock id fun inner => .unlock .inner (next (self.snapshot inner now))

/-- `serve_within_ceiling` with a guard that lives as long as the call. -/
def serveWithinCeiling (now : Instant) (next : Refreshed → CacheCode T) :
    CacheCode T :=
  lock id fun inner =>
    .unlock .inner (next (self.serveWithinCeiling foreign inner now))

/-- `refresh` after the fetch.  The guard of the data is dropped before the
warning; that of the gate, declared first, is dropped last. -/
def writeBack (now : Instant) (fetched : Except String JwkSet)
    (next : Refreshed → CacheCode T) : CacheCode T :=
  lock (fun inner => (self.writeBack inner now fetched).inner) fun inner =>
    let written := self.writeBack inner now fetched
    .unlock .inner <|
      match written.warned with
      | none => .unlock .fetchGate (next written.refreshed)
      | some error =>
          .call (.warn error) fun _ =>
            .unlock .fetchGate (next written.refreshed)

def fetch (now : Instant) (next : Refreshed → CacheCode T) : CacheCode T :=
  .call (.fetch self.url) fun body =>
    writeBack self now (Except.bind body (JwkSet.parse foreign)) next

/-- `refresh` from the acquired gate on. -/
def underGate (now : Instant) (desperate : Bool)
    (next : Refreshed → CacheCode T) : CacheCode T :=
  lock
    (fun inner =>
      match self.claimWindow foreign inner now desperate with
      | .leave _ => inner
      | .proceed claimed => claimed)
    fun inner =>
      match self.claimWindow foreign inner now desperate with
      | .leave refreshed =>
          .unlock .inner (.unlock .fetchGate (next refreshed))
      | .proceed _ => .unlock .inner (fetch foreign self now next)

/-- A poisoned gate is taken like any other. -/
def takeGate (now : Instant) (desperate : Bool)
    (next : Refreshed → CacheCode T) : CacheCode T :=
  .tryLock .fetchGate fun
    | .acquired _poisoned => underGate foreign self now desperate next
    | .wouldBlock =>
        if !desperate then serveWithinCeiling foreign self now next
        else .lock .fetchGate fun _poisoned =>
          underGate foreign self now desperate next

def refresh (now : Instant) (wait : Bool)
    (next : Refreshed → CacheCode T) : CacheCode T :=
  lock id fun inner =>
    match self.checkRate foreign inner now wait with
    | .leave refreshed => .unlock .inner (next refreshed)
    | .proceed desperate =>
        .unlock .inner (takeGate foreign self now desperate next)

/-- The loop of `try_all`. -/
def tryKeys : List Jwk → Option String →
    (Option (Except String T) → CacheCode T) → CacheCode T
  | [], lastErr, next => next (lastErr.map .error)
  | k :: rest, _, next =>
      .call (.apply k) fun
        | .ok v => next (some (.ok v))
        | .error e => tryKeys rest (some e) next

/-- What follows that loop: its result, or `missed` when no key matched. -/
def concluded (missed : CacheCode T) :
    Option (Except String T) → CacheCode T
  | some result => .ret result
  | none => missed

def lookup (kid : String) (set : JwkSet) (missed : CacheCode T) :
    CacheCode T :=
  tryKeys (set.findAll kid) none (concluded missed)

/-- `with_key` after the rotation refetch. -/
def withRetried (kid : String) : Refreshed → CacheCode T
  | .error e => .ret (.error e)
  | .ok none => .ret (.error (unknownKidError foreign kid))
  | .ok (some set) =>
      lookup kid set (.ret (.error (unknownKidError foreign kid)))

/-- `with_key` once it has ensured a key set, or failed to. -/
def withEnsured (kid : String) (now : Instant) : Refreshed → CacheCode T
  | .error e => .ret (.error e)
  | .ok none => .ret (.error self.neverFetchedError)
  | .ok (some set) =>
      lookup kid set
        (refresh foreign self now false (withRetried foreign kid))

def withKey (kid : String) (now : Instant) : CacheCode T :=
  snapshot self now fun (keys, stale, expired) =>
    let keys := if expired then none else keys
    if keys.isNone || stale then
      refresh foreign self now keys.isNone (withEnsured foreign self kid now)
    else withEnsured foreign self kid now (.ok keys)

end JwksCache.Locks

end AuthOidc
