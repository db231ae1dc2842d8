import AuthOidc.Cache

/-!
# Trying the keys

The loop of `try_all` stops at the first success and keeps the last rejection.
What it comes to is said here of the list of keys alone, and so is the result
that a call takes from it.
-/

namespace AuthOidc

variable {T : Type}

/-- The first success of `f` over the keys, or the last error. -/
inductive FirstSuccess (f : Jwk → Except String T) (keys : List Jwk) :
    Except String T → Prop where
  | accepted {before after : List Jwk} {key : Jwk} {value : T} :
      keys = before ++ key :: after →
      (∀ earlier ∈ before, ∃ e, f earlier = .error e) →
      f key = .ok value → FirstSuccess f keys (.ok value)
  | rejected {before : List Jwk} {key : Jwk} {e : String} :
      keys = before ++ [key] →
      (∀ earlier ∈ before, ∃ e, f earlier = .error e) →
      f key = .error e → FirstSuccess f keys (.error e)

namespace FirstSuccess

variable {f : Jwk → Except String T} {keys : List Jwk}
  {result : Except String T}

theorem tryKeys (first : FirstSuccess f keys result) :
    tryKeys f keys none = some result := by
  cases first with
  | accepted keysEq rejected accepts =>
      rw [keysEq]
      exact tryKeys_of_accepted rejected accepts
  | rejected keysEq rejected last =>
      rw [keysEq]
      exact tryKeys_of_rejected rejected last

theorem cons {key : Jwk} {e : String} (rejects : f key = .error e)
    (first : FirstSuccess f keys result) :
    FirstSuccess f (key :: keys) result := by
  have extend : ∀ before : List Jwk,
      (∀ earlier ∈ before, ∃ e, f earlier = .error e) →
      ∀ earlier ∈ key :: before, ∃ e, f earlier = .error e := by
    intro before rejected earlier member
    rcases List.mem_cons.mp member with rfl | later
    · exact ⟨e, rejects⟩
    · exact rejected earlier later
  cases first with
  | accepted keysEq rejected accepts =>
      exact .accepted (congrArg (key :: ·) keysEq) (extend _ rejected) accepts
  | rejected keysEq rejected last =>
      exact .rejected (congrArg (key :: ·) keysEq) (extend _ rejected) last

theorem exists_of_ne_nil (matching : keys ≠ []) :
    ∃ result, FirstSuccess f keys result := by
  induction keys with
  | nil => exact absurd rfl matching
  | cons key rest induction =>
      cases applied : f key with
      | ok value =>
          exact ⟨.ok value, .accepted (List.nil_append _).symm
            (List.forall_mem_nil _) applied⟩
      | error e =>
          cases rest with
          | nil =>
              exact ⟨.error e, .rejected (List.nil_append _).symm
                (List.forall_mem_nil _) applied⟩
          | cons next later =>
              obtain ⟨result, first⟩ := induction (List.cons_ne_nil _ _)
              exact ⟨result, first.cons applied⟩

/-- A key that is accepted makes it a success. -/
theorem isOk {key : Jwk} {value : T} (first : FirstSuccess f keys result)
    (member : key ∈ keys) (accepts : f key = .ok value) :
    ∃ verified, result = .ok verified := by
  cases first with
  | accepted _ _ _ => exact ⟨_, rfl⟩
  | rejected keysEq rejected last =>
      rw [keysEq, List.mem_append, List.mem_singleton] at member
      rcases member with earlier | rfl
      · obtain ⟨e, rejects⟩ := rejected key earlier
        rw [accepts] at rejects
        cases rejects
      · rw [accepts] at last
        cases last

end FirstSuccess

/-- What looking `kid` up among the keys and trying `f` on what is found comes
to: the first success, the last rejection, or no match. -/
structure LooksUp (keys : List Jwk) (kid : String)
    (f : Jwk → Except String T) (result : Option (Except String T)) :
    Prop where
  accepted : ∀ value, result = some (.ok value) ↔
    ∃ before key after, keys = before ++ key :: after ∧ key.GoesBy kid ∧
      f key = .ok value ∧
      ∀ earlier ∈ before, earlier.GoesBy kid → ∃ e, f earlier = .error e
  rejected : ∀ e, result = some (.error e) ↔
    ∃ before key after, keys = before ++ key :: after ∧ key.GoesBy kid ∧
      f key = .error e ∧ (∀ later ∈ after, ¬ later.GoesBy kid) ∧
      ∀ earlier ∈ before, earlier.GoesBy kid → ∃ e, f earlier = .error e
  unmatched : result = none ↔ ∀ key ∈ keys, ¬ key.GoesBy kid

/-- What a call has to return on a list of keys: the first success of its
closure over those that go by its kid, else the last rejection, else that the
kid is unknown. -/
inductive ResultFrom (foreign : Foreign) (call : Call T) (keys : List Jwk) :
    Except String T → Prop where
  | accepted {before after : List Jwk} {key : Jwk} {value : T} :
      keys = before ++ key :: after →
      key.GoesBy call.kid →
      call.f key = .ok value →
      (∀ earlier ∈ before, earlier.GoesBy call.kid →
        ∃ e, call.f earlier = .error e) →
      ResultFrom foreign call keys (.ok value)
  | rejected {before after : List Jwk} {key : Jwk} {e : String} :
      keys = before ++ key :: after →
      key.GoesBy call.kid →
      call.f key = .error e →
      (∀ later ∈ after, ¬ later.GoesBy call.kid) →
      (∀ earlier ∈ before, earlier.GoesBy call.kid →
        ∃ e, call.f earlier = .error e) →
      ResultFrom foreign call keys (.error e)
  | unmatched :
      (∀ key ∈ keys, ¬ key.GoesBy call.kid) →
      ResultFrom foreign call keys
        (.error (JwksCache.unknownKidError foreign call.kid))

theorem FirstSuccess.iff_tryKeys {f : Jwk → Except String T}
    {keys : List Jwk} {result : Except String T} :
    FirstSuccess f keys result ↔
      AuthOidc.tryKeys f keys none = some result := by
  constructor
  · exact FirstSuccess.tryKeys
  · intro tried
    have matching : keys ≠ [] := by
      intro empty
      rw [tryKeys_eq_none.mpr empty] at tried
      cases tried
    obtain ⟨other, first⟩ := FirstSuccess.exists_of_ne_nil (f := f) matching
    rw [first.tryKeys, Option.some.injEq] at tried
    rwa [← tried]

namespace JwkSet

/-- A key found after others stands in the set after keys of which only these
go by the id. -/
theorem findAll_eq_append_cons_iff {set : JwkSet} {kid : String}
    {found rest : List Jwk} {key : Jwk} :
    set.findAll kid = found ++ key :: rest ↔
      ∃ before after, set.keys = before ++ key :: after ∧ key.GoesBy kid ∧
        before.filter (fun jwk => jwk.matchesKid kid) = found ∧
        after.filter (fun jwk => jwk.matchesKid kid) = rest := by
  simp only [findAll, List.filter_eq_append_iff, List.filter_eq_cons_iff]
  constructor
  · rintro ⟨front, back, keysEq, foundEq, skipped, after, rfl, unmatched,
      goesBy, restEq⟩
    refine ⟨front ++ skipped, after, by simpa using keysEq,
      Jwk.matchesKid_iff.mp goesBy, ?_, restEq⟩
    rw [List.filter_append, foundEq, List.filter_eq_nil_iff.mpr unmatched,
      List.append_nil]
  · rintro ⟨before, after, keysEq, goesBy, foundEq, restEq⟩
    exact ⟨before, key :: after, keysEq, foundEq, [], after, rfl, by simp,
      Jwk.matchesKid_iff.mpr goesBy, restEq⟩

theorem forall_mem_filter {kid : String} {keys : List Jwk}
    {holds : Jwk → Prop} :
    (∀ key ∈ keys.filter fun jwk => jwk.matchesKid kid, holds key) ↔
      ∀ key ∈ keys, key.GoesBy kid → holds key := by
  simp only [List.mem_filter, Jwk.matchesKid_iff, and_imp, Jwk.GoesBy]

end JwkSet

namespace JwksCache

variable {set : JwkSet} {kid : String} {f : Jwk → Except String T}

theorem tryAll_eq_ok_iff {value : T} :
    tryAll set kid f = some (.ok value) ↔
      ∃ before key after, set.keys = before ++ key :: after ∧
        key.GoesBy kid ∧ f key = .ok value ∧
        ∀ earlier ∈ before, earlier.GoesBy kid →
          ∃ e, f earlier = .error e := by
  rw [tryAll, ← FirstSuccess.iff_tryKeys]
  constructor
  · intro first
    cases first with
    | accepted found rejected accepts =>
        obtain ⟨before, after, keysEq, goesBy, rfl, _⟩ :=
          JwkSet.findAll_eq_append_cons_iff.mp found
        exact ⟨before, _, after, keysEq, goesBy, accepts,
          JwkSet.forall_mem_filter.mp rejected⟩
  · rintro ⟨before, key, after, keysEq, goesBy, accepts, rejected⟩
    have found := JwkSet.findAll_eq_append_cons_iff.mpr
      ⟨before, after, keysEq, goesBy, rfl, rfl⟩
    exact .accepted found (JwkSet.forall_mem_filter.mpr rejected) accepts

theorem tryAll_eq_error_iff {e : String} :
    tryAll set kid f = some (.error e) ↔
      ∃ before key after, set.keys = before ++ key :: after ∧
        key.GoesBy kid ∧ f key = .error e ∧
        (∀ later ∈ after, ¬ later.GoesBy kid) ∧
        ∀ earlier ∈ before, earlier.GoesBy kid →
          ∃ e, f earlier = .error e := by
  rw [tryAll, ← FirstSuccess.iff_tryKeys]
  constructor
  · intro first
    cases first with
    | rejected found rejected last =>
        obtain ⟨before, after, keysEq, goesBy, rfl, noneLater⟩ :=
          JwkSet.findAll_eq_append_cons_iff.mp found
        refine ⟨before, _, after, keysEq, goesBy, last, ?_,
          JwkSet.forall_mem_filter.mp rejected⟩
        intro later member matching
        exact List.filter_eq_nil_iff.mp noneLater later member
          (Jwk.matchesKid_iff.mpr matching)
  · rintro ⟨before, key, after, keysEq, goesBy, last, noneLater, rejected⟩
    have unmatched : after.filter (fun jwk => jwk.matchesKid kid) = [] := by
      apply List.filter_eq_nil_iff.mpr
      intro later member matching
      exact noneLater later member (Jwk.matchesKid_iff.mp matching)
    have found := JwkSet.findAll_eq_append_cons_iff.mpr
      ⟨before, after, keysEq, goesBy, rfl, unmatched⟩
    exact .rejected found (JwkSet.forall_mem_filter.mpr rejected) last

theorem tryAll_eq_none_iff :
    tryAll set kid f = none ↔ ∀ key ∈ set.keys, ¬ key.GoesBy kid := by
  rw [tryAll, tryKeys_eq_none, JwkSet.findAll_eq_nil_iff]

theorem looksUp_tryAll (set : JwkSet) (kid : String)
    (f : Jwk → Except String T) :
    LooksUp set.keys kid f (tryAll set kid f) where
  accepted _ := tryAll_eq_ok_iff
  rejected _ := tryAll_eq_error_iff
  unmatched := tryAll_eq_none_iff

/-- Whether a lookup succeeds depends on the keys as a collection only. -/
theorem exists_tryAll_eq_ok_iff :
    (∃ value, tryAll set kid f = some (.ok value)) ↔
      ∃ key ∈ set.keys, key.GoesBy kid ∧ ∃ value, f key = .ok value := by
  constructor
  · intro verifies
    obtain ⟨value, tried⟩ := verifies
    obtain ⟨key, member, accepts⟩ := tryKeys_eq_ok tried
    obtain ⟨keyMember, goesBy⟩ :=
      JwkSet.mem_findAll.mp (mem_of_mem_triedKeys member)
    exact ⟨key, keyMember, goesBy, value, accepts⟩
  · rintro ⟨key, member, goesBy, value, accepts⟩
    have found := JwkSet.mem_findAll.mpr ⟨member, goesBy⟩
    obtain ⟨result, first⟩ :=
      FirstSuccess.exists_of_ne_nil (f := f) (List.ne_nil_of_mem found)
    obtain ⟨verified, rfl⟩ := first.isOk found accepts
    exact ⟨verified, first.tryKeys⟩

theorem resultFrom_resultOn (foreign : Foreign) (call : Call T)
    (set : JwkSet) :
    ResultFrom foreign call set.keys (resultOn foreign call set) := by
  unfold resultOn
  cases tried : tryAll set call.kid call.f with
  | none => exact .unmatched (tryAll_eq_none_iff.mp tried)
  | some result =>
      cases result with
      | ok value =>
          obtain ⟨_, _, _, keysEq, goesBy, accepts, rejected⟩ :=
            tryAll_eq_ok_iff.mp tried
          exact .accepted keysEq goesBy accepts rejected
      | error e =>
          obtain ⟨_, _, _, keysEq, goesBy, last, noneLater, rejected⟩ :=
            tryAll_eq_error_iff.mp tried
          exact .rejected keysEq goesBy last noneLater rejected

/-- The keys leave no choice of a result. -/
theorem resultFrom_iff {foreign : Foreign} {call : Call T} {set : JwkSet}
    {result : Except String T} :
    ResultFrom foreign call set.keys result ↔
      result = resultOn foreign call set := by
  constructor
  · intro given
    unfold resultOn
    cases given with
    | accepted keysEq goesBy accepts rejected =>
        rw [tryAll_eq_ok_iff.mpr
          ⟨_, _, _, keysEq, goesBy, accepts, rejected⟩]
        rfl
    | rejected keysEq goesBy last noneLater rejected =>
        rw [tryAll_eq_error_iff.mpr
          ⟨_, _, _, keysEq, goesBy, last, noneLater, rejected⟩]
        rfl
    | unmatched noneMatches =>
        rw [tryAll_eq_none_iff.mpr noneMatches]
        rfl
  · rintro rfl
    exact resultFrom_resultOn foreign call set

end JwksCache

/-- A key that goes by the kid and is accepted makes it a success. -/
theorem ResultFrom.isOk {foreign : Foreign} {call : Call T} {set : JwkSet}
    {result : Except String T} {key : Jwk} {value : T}
    (given : ResultFrom foreign call set.keys result) (member : key ∈ set.keys)
    (goesBy : key.GoesBy call.kid) (accepts : call.f key = .ok value) :
    ∃ verified, result = .ok verified := by
  obtain ⟨verified, tried⟩ := JwksCache.exists_tryAll_eq_ok_iff.mpr
    ⟨key, member, goesBy, value, accepts⟩
  rw [JwksCache.resultFrom_iff.mp given, JwksCache.resultOn, tried]
  exact ⟨verified, rfl⟩

end AuthOidc
