import AuthOidc.Cache.Decision
import AuthOidc.Cache.Provenance

/-!
# What a lookup in a document finds

A document is read entry by entry, a `kid` selects some of the keys, and the
loop over these stops at the first success.  Together they come to a property
of the list of keys that order and odd entries hardly touch.
-/

namespace AuthOidc

open SerdeJson

variable {T : Type}

/-- The entries with some inserted that do not deserialize. -/
inductive Padded : List Value → List Value → Prop where
  | nil : Padded [] []
  | keep {entries padded : List Value} (entry : Value) :
      Padded entries padded → Padded (entry :: entries) (entry :: padded)
  | insert {entries padded : List Value} {odd : Value} :
      Jwk.fromValue odd = none →
      Padded entries padded → Padded entries (odd :: padded)

/-- Only a key of that very kid is tried for a kid that is not empty. -/
theorem JwksCache.kid_of_mem_triedKeys {set : JwkSet} {kid : String}
    {f : Jwk → Except String T} {key : Jwk} (named : kid ≠ "")
    (tried : key ∈ triedKeys f (set.findAll kid)) : key.kid = some kid :=
  (JwkSet.mem_findAll.mp (mem_of_mem_triedKeys tried)).2.kid_eq named

theorem Padded.skipUnusableKeys_eq {entries padded : List Value}
    (padding : Padded entries padded) :
    JwkSet.skipUnusableKeys padded = JwkSet.skipUnusableKeys entries := by
  unfold JwkSet.skipUnusableKeys
  induction padding with
  | nil => rfl
  | keep entry _ induction =>
      rw [List.filterMap_cons, List.filterMap_cons, induction]
  | insert odd _ induction => rw [List.filterMap_cons_none odd, induction]

namespace JwkSet

variable {foreign : Foreign} {body other : String} {set otherSet : JwkSet}
  {entries others : List Value}

/-- The keys are the readings of the entries with the failures left out. -/
theorem skipUnusableKeys_map_some (entries : List Value) :
    (skipUnusableKeys entries).map some =
      (entries.map Jwk.fromValue).filter Option.isSome := by
  unfold skipUnusableKeys
  induction entries with
  | nil => rfl
  | cons entry rest induction =>
      cases read : Jwk.fromValue entry with
      | none => simp [read, induction]
      | some key => simp [read, induction]

theorem parse_of_read (read : foreign.jwksEntriesFromStr body = .ok entries)
    (parsed : parse foreign body = .ok set) :
    set.keys = skipUnusableKeys entries := by
  obtain ⟨found, foundEq, keysEq, _⟩ := parse_eq_ok_iff.mp parsed
  rw [read, Except.ok.injEq] at foundEq
  rw [keysEq, foundEq]

/-- On a document only its entries matter. -/
theorem parse_congr (read : foreign.jwksEntriesFromStr body = .ok entries)
    (readOther : foreign.jwksEntriesFromStr other = .ok others)
    (sameKeys : skipUnusableKeys others = skipUnusableKeys entries) :
    parse foreign other = parse foreign body := by
  simp only [parse, read, readOther, sameKeys]

theorem exists_parse_eq_error_iff
    (read : foreign.jwksEntriesFromStr body = .ok entries) :
    (∃ e, parse foreign body = .error e) ↔
      ∀ entry ∈ entries, Jwk.fromValue entry = none := by
  have fails : FetchFails foreign (.ok body) ↔
      ∃ e, parse foreign body = .error e := fetchFails_iff
  simp [← fails, FetchFails, read]

/-- A document is its entries that deserialize, in their order.  A lookup in it
is the first success among the keys that go by the kid, else the last
rejection, else no match; so neither odd entries nor the order of the entries
decide whether a token verifies. -/
theorem lookup_in_document
    (read : foreign.jwksEntriesFromStr body = .ok entries) :
    ((∃ e, parse foreign body = .error e) ↔
      ∀ entry ∈ entries, Jwk.fromValue entry = none) ∧
    (∀ set, parse foreign body = .ok set →
      set.keys.map some =
        (entries.map Jwk.fromValue).filter Option.isSome) ∧
    (∀ set, parse foreign body = .ok set →
      ∀ (T : Type) (kid : String) (f : Jwk → Except String T),
        LooksUp set.keys kid f (JwksCache.tryAll set kid f) ∧
        (kid ≠ "" → ∀ key ∈ triedKeys f (set.findAll kid),
          key.kid = some kid)) ∧
    (∀ other padded, foreign.jwksEntriesFromStr other = .ok padded →
      Padded entries padded →
      (∃ entry ∈ entries, Jwk.fromValue entry ≠ none) →
      ∃ set, parse foreign body = .ok set ∧ parse foreign other = .ok set) ∧
    (∀ other permuted, foreign.jwksEntriesFromStr other = .ok permuted →
      entries.Perm permuted →
      ((∃ e, parse foreign other = .error e) ↔
        ∃ e, parse foreign body = .error e) ∧
      ∀ set otherSet, parse foreign body = .ok set →
        parse foreign other = .ok otherSet →
        ∀ (T : Type) (kid : String) (f : Jwk → Except String T),
          ((∃ value, JwksCache.tryAll otherSet kid f = some (.ok value)) ↔
            ∃ value, JwksCache.tryAll set kid f = some (.ok value)) ∧
          (JwksCache.tryAll otherSet kid f = none ↔
            JwksCache.tryAll set kid f = none)) := by
  refine ⟨exists_parse_eq_error_iff read, ?_, ?_, ?_, ?_⟩
  · intro set parsed
    rw [parse_of_read read parsed, skipUnusableKeys_map_some]
  · intro set _ T kid f
    exact ⟨JwksCache.looksUp_tryAll set kid f,
      fun named key tried => JwksCache.kid_of_mem_triedKeys named tried⟩
  · intro other padded readOther padding usable
    obtain ⟨entry, member, deserializes⟩ := usable
    rw [parse_congr read readOther padding.skipUnusableKeys_eq]
    cases parsed : parse foreign body with
    | ok set => exact ⟨set, rfl, rfl⟩
    | error e =>
        have allOdd := (exists_parse_eq_error_iff read).mp ⟨e, parsed⟩
        exact absurd (allOdd entry member) deserializes
  · intro other permuted readOther permutation
    constructor
    · rw [exists_parse_eq_error_iff read, exists_parse_eq_error_iff readOther]
      simp only [permutation.mem_iff]
    · intro set otherSet parsed parsedOther T kid f
      have sameKeys : ∀ key, key ∈ otherSet.keys ↔ key ∈ set.keys := by
        intro key
        rw [parse_of_read read parsed, parse_of_read readOther parsedOther]
        exact (permutation.filterMap Jwk.fromValue).mem_iff.symm
      constructor
      · simp only [JwksCache.exists_tryAll_eq_ok_iff, sameKeys]
      · simp only [JwksCache.tryAll_eq_none_iff, sameKeys]

theorem lookup_in_document_sample :
    LooksUp Sample.keySet.keys "k1" (Sample.system.call false).f
      (some (.ok ())) := by
  have parsed : parse Sample.foreign Sample.document = .ok Sample.keySet := by
    decide +kernel
  obtain ⟨entries, read, _⟩ := parse_eq_ok_iff.mp parsed
  have tried : JwksCache.tryAll Sample.keySet "k1"
      (Sample.system.call false).f = some (.ok ()) := by
    decide +kernel
  obtain ⟨_, _, looksUp, _, _⟩ := lookup_in_document read
  have found := (looksUp Sample.keySet parsed Unit "k1"
    (Sample.system.call false).f).1
  rwa [tried] at found

-- an entry without a `kty`, one with a number for it, and a key
example :
    (skipUnusableKeys [.object [("kid", .string "k1")],
      .object [("kty", .null)],
      .object [("kty", .string "RSA"), ("kid", .string "k1")]]).map
        Jwk.kid = [some "k1"] := by
  decide +kernel

end JwkSet

end AuthOidc
