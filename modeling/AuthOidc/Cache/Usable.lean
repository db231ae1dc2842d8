import AuthOidc.Cache.Provenance
import AuthOidc.Jwt

/-!
# Keys that can verify, and keys that are installed

A key set is installed as soon as one of its entries deserializes; whether an
entry can ever verify a signature is found out only when a token asks for it.
So the keys of a working set are safe exactly from the documents that bring a
key which can verify along with the entries that deserialize.
-/

namespace AuthOidc

open Rust SerdeJson Transition AttemptLog

/-- The field is present and base64url. -/
def decodes (field : Option String) : Bool :=
  (field.bind b64Decode).isSome

/-- The key is one that `verify_signature` could ever accept a token under. -/
def Jwk.canVerify (key : Jwk) : Bool :=
  key.keyUse != some "enc" &&
    (key.kty == "RSA" && decodes key.n && decodes key.e ||
      key.kty == "EC" && key.crv == some "P-256" && decodes key.x &&
        decodes key.y)

/-- A key that a token was ever accepted under can verify. -/
theorem canVerify_of_accepted {foreign : Foreign} {parts : Parts}
    {key : Jwk}
    (accepted : Jwt.verifySignature foreign parts key = .ok ()) :
    key.canVerify = true := by
  obtain ⟨_, notEnc, verified⟩ := Jwt.verifySignature_eq_ok_iff.mp accepted
  cases verified with
  | rs256 _ kty material _ =>
      obtain ⟨_, n, e⟩ := material_eq_rsa_iff.mp material
      simp [Jwk.canVerify, decodes, notEnc, kty, n, e]
  | es256 _ kty crv material _ =>
      obtain ⟨_, x, y, xDecoded, yDecoded, _⟩ :=
        material_eq_ec_iff.mp material
      simp [Jwk.canVerify, decodes, notEnc, kty, crv, xDecoded, yDecoded]

/-- Under verifiers that accept, a key that can verify accepts some token. -/
theorem exists_accepted_of_canVerify (foreign : Foreign) {key : Jwk}
    (canVerify : key.canVerify = true) :
    ∃ parts, Jwt.verifySignature
      { foreign with
        rsaVerify := fun _ _ _ _ => true
        ecdsaVerify := fun _ _ _ => true } parts key = .ok () := by
  simp only [Jwk.canVerify, decodes, Bool.and_eq_true, Bool.or_eq_true,
    bne_iff_ne, beq_iff_eq, Option.isSome_iff_exists] at canVerify
  obtain ⟨notEnc, ⟨⟨kty, n, nDecoded⟩, e, eDecoded⟩ |
    ⟨⟨⟨kty, crv⟩, x, xDecoded⟩, y, yDecoded⟩⟩ := canVerify
  · refine ⟨⟨⟨"RS256", none, none⟩, [], [], ""⟩, ?_⟩
    exact Jwt.verifySignature_eq_ok_iff.mpr ⟨rfl, notEnc, .rs256 rfl kty
      (material_eq_rsa_iff.mpr ⟨kty, nDecoded, eDecoded⟩) rfl⟩
  · refine ⟨⟨⟨"ES256", none, none⟩, [], [], ""⟩, ?_⟩
    exact Jwt.verifySignature_eq_ok_iff.mpr ⟨rfl, notEnc,
      .es256 rfl kty crv
        (material_eq_ec_iff.mpr ⟨kty, x, y, xDecoded, yDecoded, rfl⟩) rfl⟩

/-- The document keeps verification possible: when entries of it deserialize as
keys, one of those keys can verify. -/
def KeepsVerifying (foreign : Foreign) : Except String String → Prop
  | .error _ => True
  | .ok body => ∀ entries, foreign.jwksEntriesFromStr body = .ok entries →
      (∃ entry ∈ entries, (Jwk.fromValue entry).isSome = true) →
      ∃ entry ∈ entries, ∃ key, Jwk.fromValue entry = some key ∧
        key.canVerify = true

theorem keepsVerifying_iff {foreign : Foreign}
    {body : Except String String} :
    KeepsVerifying foreign body ↔
      ∀ set, body.bind (JwkSet.parse foreign) = .ok set →
        ∃ key ∈ set.keys, key.canVerify = true := by
  cases body with
  | error error => simp [KeepsVerifying, Except.bind]
  | ok text =>
      simp only [KeepsVerifying, Except.bind, JwkSet.parse_eq_ok_iff]
      constructor
      · rintro keeps set ⟨entries, read, keysEq, nonempty⟩
        have deserializes :
            ∃ entry ∈ entries, (Jwk.fromValue entry).isSome = true := by
          obtain ⟨key, member⟩ := List.exists_mem_of_ne_nil _ nonempty
          rw [keysEq, JwkSet.skipUnusableKeys, List.mem_filterMap] at member
          obtain ⟨entry, entryMember, keyEq⟩ := member
          exact ⟨entry, entryMember, by rw [keyEq]; rfl⟩
        obtain ⟨entry, member, key, keyEq, canVerify⟩ :=
          keeps entries read deserializes
        refine ⟨key, ?_, canVerify⟩
        rw [keysEq]
        exact List.mem_filterMap.mpr ⟨entry, member, keyEq⟩
      · rintro usable entries read ⟨entry, member, deserializes⟩
        obtain ⟨key, keyEq⟩ := Option.isSome_iff_exists.mp deserializes
        have keyMember : key ∈ JwkSet.skipUnusableKeys entries :=
          List.mem_filterMap.mpr ⟨entry, member, keyEq⟩
        obtain ⟨found, foundMember, canVerify⟩ :=
          usable ⟨JwkSet.skipUnusableKeys entries⟩
            ⟨entries, read, rfl, List.ne_nil_of_mem keyMember⟩
        obtain ⟨source, sourceMember, sourceEq⟩ :=
          List.mem_filterMap.mp foundMember
        exact ⟨source, sourceMember, found, sourceEq, canVerify⟩

/-- Some entry of the document is a key that can verify. -/
def BringsUsable (foreign : Foreign) (body : Except String String) : Prop :=
  ∃ text entries, body = .ok text ∧
    foreign.jwksEntriesFromStr text = .ok entries ∧
    ∃ entry ∈ entries, ∃ key, Jwk.fromValue entry = some key ∧
      key.canVerify = true

theorem bringsUsable_of_parse {foreign : Foreign}
    {body : Except String String} {set : JwkSet} {key : Jwk}
    (parsed : body.bind (JwkSet.parse foreign) = .ok set)
    (member : key ∈ set.keys) (canVerify : key.canVerify = true) :
    BringsUsable foreign body := by
  cases body with
  | error error => simp [Except.bind] at parsed
  | ok text =>
      obtain ⟨entries, read, keysEq, _⟩ := JwkSet.parse_eq_ok_iff.mp parsed
      rw [keysEq, JwkSet.skipUnusableKeys, List.mem_filterMap] at member
      obtain ⟨entry, entryMember, keyEq⟩ := member
      exact ⟨text, entries, rfl, read, entry, entryMember, key, keyEq,
        canVerify⟩

variable {ι T : Type} [DecidableEq ι]

namespace System

variable {system : System ι T} {schedule : List (Action ι)}
  {history : List (Event ι)} {state : State ι T}

/-- A write back installs only sets with a key that can verify, and keeps what
is cached from every other document, exactly when the body it was parsed from
keeps verification possible; and while all bodies do, the cached set has such a
key. -/
theorem Runs.installs_usable_iff (run : system.Runs schedule history state) :
    (∀ c round fetched body next emitted,
      state.phase c = .writeBack round fetched →
      lastReturned c history = some body →
      system.machine.step state (.run c) = some (next, emitted) →
      ((∀ set, .completed c (.ok set) ∈ emitted →
          next.inner.keys = some set ∧
            next.inner.fetchedAt = some (system.call c).now ∧
            ∃ key ∈ set.keys, key.canVerify = true) ∧
          (¬ BringsUsable system.foreign body →
            next.inner.keys = state.inner.keys ∧
              next.inner.fetchedAt = state.inner.fetchedAt) ↔
        KeepsVerifying system.foreign body)) ∧
    ((∀ c body, .returned c body ∈ history →
        KeepsVerifying system.foreign body) →
      ∀ set, state.inner.keys = some set →
        ∃ key ∈ set.keys, key.canVerify = true) := by
  constructor
  · intro c round fetched body next emitted stands last ran
    obtain ⟨source, sourceLast, fetchedEq⟩ :=
      run.sourced.writeBack c round fetched stands
    rw [last, Option.some.injEq] at sourceLast
    subst sourceLast
    simp only [machine, runStep, stands, Option.some.injEq,
      Prod.mk.injEq] at ran
    obtain ⟨rfl, rfl⟩ := ran
    rw [keepsVerifying_iff]
    constructor
    · rintro ⟨installs, _⟩ set parsed
      have fetchedOk : .ok set = fetched := (fetchedEq.trans parsed).symm
      exact (installs set (completed_mem_iff.mpr ⟨rfl, fetchedOk⟩)).2.2
    · intro keeps
      constructor
      · intro set completed
        obtain ⟨_, rfl⟩ := completed_mem_iff.mp completed
        exact ⟨rfl, rfl, keeps set fetchedEq.symm⟩
      · intro useless
        cases fetched with
        | ok fresh =>
            obtain ⟨key, member, canVerify⟩ := keeps fresh fetchedEq.symm
            exact (useless (bringsUsable_of_parse fetchedEq.symm member
              canVerify)).elim
        | error error =>
            dsimp only
            rw [JwksCache.writeBack_error_inner]
            exact ⟨rfl, rfl⟩
  · intro keeps set cached
    obtain ⟨c, body, returned, parsed⟩ := run.keys_source cached
    exact keepsVerifying_iff.mp (keeps c (.ok body) returned) set parsed

theorem document_keepsVerifying :
    KeepsVerifying Sample.foreign (.ok Sample.document) := by
  apply keepsVerifying_iff.mpr
  intro set parsed
  have known : JwkSet.parse Sample.foreign Sample.document =
      .ok Sample.keySet := by
    decide +kernel
  simp only [Except.bind, known, Except.ok.injEq] at parsed
  have usable : ∃ key ∈ Sample.keySet.keys, key.canVerify = true := by
    decide +kernel
  rwa [← parsed]

theorem Runs.installs_usable_sample :
    Sample.cached.1.inner.keys = some Sample.keySet ∧
      ∃ key ∈ Sample.keySet.keys, key.canVerify = true := by
  have cached : Sample.cached.1.inner.keys = some Sample.keySet := by
    decide +kernel
  refine ⟨cached, ?_⟩
  refine (Runs.installs_usable_iff Sample.cachedRun).2 ?_ _ cached
  intro c body returned
  have same : body = .ok Sample.document := by
    have found : body ∈ Sample.cached.2.filterMap (Event.returnedTo c) :=
      List.mem_filterMap.mpr ⟨_, returned, by simp [Event.returnedTo]⟩
    have onlyDocument : ∀ caller,
        Sample.cached.2.filterMap (Event.returnedTo caller) =
          if caller then [] else [.ok Sample.document] := by
      decide +kernel
    rw [onlyDocument c] at found
    cases c <;> simp_all
  rw [same]
  exact document_keepsVerifying

end System

namespace Sample

/-- Two callers, the second one at the end of the TTL of what the first one
cached. -/
def renewal : System Bool Unit where
  foreign := foreign
  cache := cache
  call second :=
    { kid := "k1"
      now := if second then 3600 * 1000000000 else 0
      f := fun key =>
        if key.kty = "EC" then .ok () else .error "unexpected kty" }

def renewalSchedule : List (Action Bool) :=
  firstFetch ++ List.replicate 4 (.run true) ++
    [.fetched true (.ok uselessDocument), .run true]

theorem renewal_enabled :
    (renewal.machine.exec .fresh renewalSchedule).isSome = true := by
  decide +kernel

/-- Keys that verify are replaced by one that cannot, so a cached set need not
have a key to verify under. -/
theorem useless_set_is_installed :
    ¬ ∀ schedule history state, renewal.Runs schedule history state →
      ∀ set, .completed true (.ok set) ∈ history →
        state.inner.keys = some set →
        ∃ key ∈ set.keys, key.canVerify = true := by
  intro claimed
  have installed := claimed _ _ _ (.of_isSome renewal_enabled)
    ⟨[⟨"RSA", some "k1", none, none, none, none, none, none⟩]⟩
    (by decide +kernel) (by decide +kernel)
  revert installed
  decide +kernel

end Sample

end AuthOidc
