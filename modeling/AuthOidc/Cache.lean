import AuthOidc.Jwks

/-!
# The JWKS cache

The data of the cache and the pieces of `with_key` and `refresh` that run
between two lock operations.  Each piece that the source runs while it holds
the data lock is one function of the locked `Inner`; the machine over many
callers and the sequential `with_key` are both put together from them.
-/

namespace AuthOidc

open Rust

structure JwksCache where
  url : String
  minRefetchInterval : Duration
  ttl : Duration
  maxStale : Duration
  maxStale_eq : maxStale =
    Duration.max (ttl.saturatingMul 24) (Duration.fromSecs (24 * 3600))

def JwksCache.new (url : String) (minRefetchInterval ttl : Duration) :
    JwksCache where
  url := url
  minRefetchInterval := minRefetchInterval
  ttl := ttl
  maxStale := Duration.max (ttl.saturatingMul 24)
    (Duration.fromSecs (24 * 3600))
  maxStale_eq := rfl

/-- The data under the cache lock. -/
structure Inner where
  keys : Option JwkSet
  fetchedAt : Option Instant
  lastAttempt : Option Instant
  deriving DecidableEq

def Inner.new : Inner where
  keys := none
  fetchedAt := none
  lastAttempt := none

/-- Keys are present exactly when the time of their fetch is. -/
def Inner.Paired (inner : Inner) : Prop :=
  inner.keys.isSome = inner.fetchedAt.isSome

theorem Inner.Paired.exists_fetchedAt {inner : Inner} {set : JwkSet}
    (paired : inner.Paired) (keys : inner.keys = some set) :
    ∃ fetchedAt, inner.fetchedAt = some fetchedAt := by
  apply Option.isSome_iff_exists.mp
  rw [← paired, keys, Option.isSome_some]

/-- What `refresh` returns. -/
abbrev Refreshed := Except String (Option JwkSet)

/-- A locked section of `refresh` returns from the function or goes on. -/
inductive Section (Next : Type) where
  | leave (refreshed : Refreshed)
  | proceed (next : Next)

/-- The outcome of a section that writes back, with the error it logs. -/
structure WrittenBack where
  inner : Inner
  refreshed : Refreshed
  warned : Option String

/-- The arguments of one `with_key` call. -/
structure Call (T : Type) where
  kid : String
  now : Instant
  f : Jwk → Except String T

/-- The loop of `try_all` over the matching keys. -/
def tryKeys {T : Type} (f : Jwk → Except String T) :
    List Jwk → Option String → Option (Except String T)
  | [], lastErr => lastErr.map .error
  | k :: rest, _ =>
      match f k with
      | .ok v => some (.ok v)
      | .error e => tryKeys f rest (some e)

/-- The keys on which that loop invokes `f`. -/
def triedKeys {T : Type} (f : Jwk → Except String T) : List Jwk → List Jwk
  | [] => []
  | k :: rest =>
      match f k with
      | .ok _ => [k]
      | .error _ => k :: triedKeys f rest

theorem mem_of_mem_triedKeys {T : Type} {f : Jwk → Except String T}
    {keys : List Jwk} {key : Jwk} (tried : key ∈ triedKeys f keys) :
    key ∈ keys := by
  induction keys with
  | nil => cases tried
  | cons first rest induction =>
      unfold triedKeys at tried
      split at tried
      · rw [List.mem_singleton.mp tried]
        exact List.mem_cons_self
      · rcases List.mem_cons.mp tried with rfl | later
        · exact List.mem_cons_self
        · exact List.mem_cons_of_mem _ (induction later)

/-- A success comes from one of the keys that were tried. -/
theorem tryKeys_eq_ok {T : Type} {f : Jwk → Except String T}
    {keys : List Jwk} {lastErr : Option String} {value : T}
    (tried : tryKeys f keys lastErr = some (.ok value)) :
    ∃ key ∈ triedKeys f keys, f key = .ok value := by
  induction keys generalizing lastErr with
  | nil => cases lastErr <;> simp [tryKeys] at tried
  | cons key rest induction =>
      unfold tryKeys at tried
      split at tried
      · rename_i found accepted
        cases tried
        refine ⟨key, ?_, accepted⟩
        rw [triedKeys, accepted]
        exact List.mem_singleton.mpr rfl
      · rename_i e rejected
        obtain ⟨later, member, accepted⟩ := induction tried
        refine ⟨later, ?_, accepted⟩
        rw [triedKeys, rejected]
        exact List.mem_cons_of_mem _ member

/-- Keys that are all rejected leave the loop with the last error. -/
theorem tryKeys_of_rejected {T : Type} {f : Jwk → Except String T}
    {keys : List Jwk} {key : Jwk} {e : String} {lastErr : Option String}
    (rejected : ∀ earlier ∈ keys, ∃ reason, f earlier = .error reason)
    (last : f key = .error e) :
    tryKeys f (keys ++ [key]) lastErr = some (.error e) := by
  induction keys generalizing lastErr with
  | nil => simp [tryKeys, last]
  | cons first rest induction =>
      obtain ⟨reason, firstRejected⟩ := rejected first List.mem_cons_self
      rw [List.cons_append, tryKeys, firstRejected]
      exact induction fun earlier member =>
        rejected earlier (List.mem_cons_of_mem _ member)

/-- The first key that is accepted ends the loop. -/
theorem tryKeys_of_accepted {T : Type} {f : Jwk → Except String T}
    {keys rest : List Jwk} {key : Jwk} {value : T} {lastErr : Option String}
    (rejected : ∀ earlier ∈ keys, ∃ reason, f earlier = .error reason)
    (accepted : f key = .ok value) :
    tryKeys f (keys ++ key :: rest) lastErr = some (.ok value) := by
  induction keys generalizing lastErr with
  | nil => simp [tryKeys, accepted]
  | cons first keys induction =>
      obtain ⟨reason, firstRejected⟩ := rejected first List.mem_cons_self
      rw [List.cons_append, tryKeys, firstRejected]
      exact induction fun earlier member =>
        rejected earlier (List.mem_cons_of_mem _ member)

/-- Only a list without keys has no result. -/
theorem tryKeys_eq_none {T : Type} {f : Jwk → Except String T}
    {keys : List Jwk} : tryKeys f keys none = none ↔ keys = [] := by
  have some_of_some : ∀ (keys : List Jwk) (e : String),
      tryKeys f keys (some e) ≠ none := by
    intro keys
    induction keys with
    | nil => simp [tryKeys]
    | cons first rest induction =>
        intro e
        rw [tryKeys]
        split
        · simp
        · exact induction _
  cases keys with
  | nil => simp [tryKeys]
  | cons first rest =>
      rw [tryKeys]
      split
      · simp
      · simpa using some_of_some rest _

-- when no key succeeds the error of the last one is kept
example :
    tryKeys (fun key => if key.kty = "EC" then .ok () else .error key.kty)
      [⟨"oct", none, none, none, none, none, none, none⟩,
        ⟨"RSA", none, none, none, none, none, none, none⟩] none =
      some (.error "RSA") := by
  decide

namespace JwksCache

/-- `try_all`: the first success, else the last error, and `none` when no key
matches. -/
def tryAll {T : Type} (set : JwkSet) (kid : String)
    (f : Jwk → Except String T) : Option (Except String T) :=
  tryKeys f (set.findAll kid) none

variable (foreign : Foreign) (self : JwksCache)

def permitsAttempt (inner : Inner) (now : Instant) : Bool :=
  match inner.lastAttempt with
  | none => true
  | some t => self.minRefetchInterval ≤ now.saturatingDurationSince t

def pastCeiling (inner : Inner) (now : Instant) : Bool :=
  inner.fetchedAt.any fun t => self.maxStale ≤ now.saturatingDurationSince t

/-- The cached set, whether it is past the TTL, and whether it is past the
ceiling. -/
def snapshot (inner : Inner) (now : Instant) : Option JwkSet × Bool × Bool :=
  let stale := match inner.fetchedAt with
    | none => true
    | some t => decide (self.ttl ≤ now.saturatingDurationSince t)
  let expired := match inner.fetchedAt with
    | none => false
    | some t => decide (self.maxStale ≤ now.saturatingDurationSince t)
  (inner.keys, stale, expired)

def ceilingError : String :=
  "cached JWKS from " ++ self.url ++ " is past the absolute staleness " ++
    "ceiling (" ++ foreign.debugDuration self.maxStale ++ ") while every " ++
    "refetch attempt is failing or rate-limited; refusing to verify " ++
    "against a key set the provider may have rotated out because it was " ++
    "compromised"

def serveWithinCeiling (inner : Inner) (now : Instant) : Refreshed :=
  if self.pastCeiling inner now then .error (self.ceilingError foreign)
  else .ok inner.keys

/-- The first locked section of `refresh`: the rate limit for a caller that
has something to serve.  It proceeds with `desperate`. -/
def checkRate (inner : Inner) (now : Instant) (wait : Bool) : Section Bool :=
  let desperate := wait && (inner.keys.isNone || self.pastCeiling inner now)
  if !desperate && !self.permitsAttempt inner now then
    .leave (self.serveWithinCeiling foreign inner now)
  else .proceed desperate

/-- The locked section under the gate: the fetch queued behind may already
have satisfied the caller; else the rate limit again, and then the window is
claimed. -/
def claimWindow (inner : Inner) (now : Instant) (desperate : Bool) :
    Section Inner :=
  if desperate && inner.keys.isSome && !self.pastCeiling inner now then
    .leave (self.serveWithinCeiling foreign inner now)
  else if !self.permitsAttempt inner now then
    .leave (self.serveWithinCeiling foreign inner now)
  else .proceed { inner with lastAttempt := some now }

/-- The locked section after the fetch.  A failure falls back to the previous
keys while these are within the ceiling, and is logged then. -/
def writeBack (inner : Inner) (now : Instant)
    (fetched : Except String JwkSet) : WrittenBack :=
  match fetched with
  | .ok set =>
      let written := { inner with keys := some set, fetchedAt := some now }
      { inner := written, refreshed := .ok written.keys, warned := none }
  | .error e =>
      match inner.keys with
      | some keys =>
          if self.pastCeiling inner now then
            { inner, refreshed := .error e, warned := none }
          else { inner, refreshed := .ok (some keys), warned := some e }
      | none => { inner, refreshed := .error e, warned := none }

def neverFetchedError : String :=
  "no JWKS has been fetched from " ++ self.url ++ " yet (the last fetch " ++
    "attempt failed and the refetch rate limit is holding off the next " ++
    "one); cannot verify any token"

def unknownKidError (kid : String) : String :=
  "no JWKS key matches the token's kid '" ++ foreign.escapeDebug kid ++
    "' (after a bounded rotation refetch); the signing key is unknown to " ++
    "the configured jwks_url"

/-- What trying `f` on the keys of one set gives: the result of `try_all`, or
the unknown-kid error when no key matches. -/
def resultOn {T : Type} (call : Call T) (set : JwkSet) : Except String T :=
  (tryAll set call.kid call.f).getD
    (.error (unknownKidError foreign call.kid))

variable {foreign self}

/-! ## What the sections say about the locked data -/

/-- The cached set is within the ceiling at `now`. -/
def Serves (self : JwksCache) (inner : Inner) (now : Instant)
    (set : JwkSet) : Prop :=
  inner.keys = some set ∧ ∃ fetchedAt, inner.fetchedAt = some fetchedAt ∧
    now.saturatingDurationSince fetchedAt < self.maxStale

theorem maxStale_pos (self : JwksCache) : 0 < self.maxStale.nanos := by
  have floor : 24 * 3600 * 1000000000 ≤ self.maxStale.nanos := by
    rw [self.maxStale_eq, Duration.nanos_max]
    exact Nat.le_max_right _ _
  omega

theorem permitsAttempt_iff {inner : Inner} {now : Instant} :
    self.permitsAttempt inner now = true ↔
      ∀ last, inner.lastAttempt = some last →
        self.minRefetchInterval.nanos ≤ now - last := by
  unfold permitsAttempt
  cases inner.lastAttempt with
  | none => simp
  | some last => simp [Instant.le_saturatingDurationSince]

theorem pastCeiling_eq_false_iff {inner : Inner} {now : Instant} :
    self.pastCeiling inner now = false ↔
      ∀ fetchedAt, inner.fetchedAt = some fetchedAt →
        now.saturatingDurationSince fetchedAt < self.maxStale := by
  unfold pastCeiling
  cases inner.fetchedAt with
  | none => simp
  | some fetchedAt => simp [Duration.not_le]

theorem Serves.pastCeiling {inner : Inner} {now : Instant} {set : JwkSet}
    (serves : self.Serves inner now set) :
    self.pastCeiling inner now = false := by
  obtain ⟨_, fetchedAt, fetchedAtEq, within⟩ := serves
  apply pastCeiling_eq_false_iff.mpr
  intro other otherEq
  rw [fetchedAtEq, Option.some.injEq] at otherEq
  rwa [← otherEq]

theorem Serves.unique {inner : Inner} {now later : Instant}
    {set other : JwkSet} (serves : self.Serves inner now set)
    (servesOther : self.Serves inner later other) : set = other :=
  Option.some.inj (serves.1.symm.trans servesOther.1)

/-- Keys with the time of their fetch are served once they are known not to be
past the ceiling. -/
theorem serves_of_keys {inner : Inner} {now : Instant} {set : JwkSet}
    (paired : inner.Paired) (keys : inner.keys = some set)
    (within : self.pastCeiling inner now = false) :
    self.Serves inner now set := by
  obtain ⟨fetchedAt, fetchedAtEq⟩ := paired.exists_fetchedAt keys
  exact ⟨keys, fetchedAt, fetchedAtEq,
    pastCeiling_eq_false_iff.mp within fetchedAt fetchedAtEq⟩

theorem Serves.serveWithinCeiling {inner : Inner} {now : Instant}
    {set : JwkSet} (serves : self.Serves inner now set) :
    self.serveWithinCeiling foreign inner now = .ok (some set) := by
  simp [JwksCache.serveWithinCeiling, serves.pastCeiling, serves.1]

theorem serves_of_serveWithinCeiling {inner : Inner} {now : Instant}
    {set : JwkSet} (paired : inner.Paired)
    (served : self.serveWithinCeiling foreign inner now =
      .ok (some set)) :
    self.Serves inner now set := by
  unfold JwksCache.serveWithinCeiling at served
  split at served
  · cases served
  · rename_i within
    exact serves_of_keys paired (Except.ok.inj served)
      (Bool.eq_false_iff.mpr within)

/-- Every early return of `refresh` goes through `serveWithinCeiling`. -/
theorem checkRate_leave {inner : Inner} {now : Instant} {wait : Bool}
    {refreshed : Refreshed}
    (left : self.checkRate foreign inner now wait = .leave refreshed) :
    refreshed = self.serveWithinCeiling foreign inner now ∧
      self.permitsAttempt inner now = false ∧
      (wait = true → inner.keys.isSome ∧
        self.pastCeiling inner now = false) := by
  simp only [checkRate] at left
  split at left
  · rename_i condition
    rw [Bool.and_eq_true, Bool.not_eq_true', Bool.not_eq_true'] at condition
    cases left
    refine ⟨rfl, condition.2, ?_⟩
    intro waiting
    simpa [waiting, Option.isSome_iff_ne_none] using condition.1
  · cases left

theorem checkRate_proceed {inner : Inner} {now : Instant}
    {wait desperate : Bool}
    (proceeds : self.checkRate foreign inner now wait =
      .proceed desperate) :
    desperate =
        (wait && (inner.keys.isNone || self.pastCeiling inner now)) ∧
      (desperate = false → self.permitsAttempt inner now = true) := by
  simp only [checkRate] at proceeds
  split at proceeds
  · cases proceeds
  · rename_i condition
    cases proceeds
    refine ⟨rfl, ?_⟩
    intro notDesperate
    simpa [notDesperate] using condition

theorem claimWindow_leave {inner : Inner} {now : Instant} {desperate : Bool}
    {refreshed : Refreshed}
    (left : self.claimWindow foreign inner now desperate =
      .leave refreshed) :
    refreshed = self.serveWithinCeiling foreign inner now ∧
      (inner.keys.isSome = true ∨
        self.permitsAttempt inner now = false) := by
  unfold claimWindow at left
  split at left
  · rename_i satisfied
    cases left
    rw [Bool.and_eq_true, Bool.and_eq_true] at satisfied
    exact ⟨rfl, .inl satisfied.1.2⟩
  · split at left
    · rename_i limited
      cases left
      exact ⟨rfl, .inr (by simpa using limited)⟩
    · cases left

theorem claimWindow_proceed {inner claimed : Inner} {now : Instant}
    {desperate : Bool}
    (proceeds : self.claimWindow foreign inner now desperate =
      .proceed claimed) :
    claimed = { inner with lastAttempt := some now } ∧
      self.permitsAttempt inner now = true := by
  unfold claimWindow at proceeds
  split at proceeds
  · cases proceeds
  · split at proceeds
    · cases proceeds
    · rename_i permitted
      cases proceeds
      exact ⟨rfl, by simpa using permitted⟩

theorem writeBack_error_inner {inner : Inner} {now : Instant}
    {error : String} :
    (self.writeBack inner now (.error error)).inner = inner := by
  unfold writeBack
  cases inner.keys with
  | none => rfl
  | some keys =>
      dsimp only
      split <;> rfl

theorem writeBack_lastAttempt {inner : Inner} {now : Instant}
    {fetched : Except String JwkSet} :
    (self.writeBack inner now fetched).inner.lastAttempt =
      inner.lastAttempt := by
  cases fetched with
  | ok set => rfl
  | error error => rw [writeBack_error_inner]

/-- A set that `refresh` returns after its fetch is within the ceiling of the
data as written back. -/
theorem serves_of_writeBack {inner : Inner} {now : Instant} {set : JwkSet}
    {fetched : Except String JwkSet} (paired : inner.Paired)
    (served : (self.writeBack inner now fetched).refreshed =
      .ok (some set)) :
    self.Serves (self.writeBack inner now fetched).inner now set := by
  cases fetched with
  | ok fresh =>
      cases served
      refine ⟨rfl, now, rfl, ?_⟩
      rw [Instant.saturatingDurationSince_lt, Nat.sub_self]
      exact self.maxStale_pos
  | error error =>
      rw [writeBack_error_inner]
      unfold writeBack at served
      cases keys : inner.keys with
      | none => simp [keys] at served
      | some previous =>
          simp only [keys] at served
          split at served
          · cases served
          · rename_i within
            cases served
            exact serves_of_keys paired keys (Bool.eq_false_iff.mpr within)

end JwksCache

end AuthOidc
