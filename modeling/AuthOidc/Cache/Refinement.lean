import AuthOidc.Cache.Discipline
import AuthOidc.Cache.Sequential

/-!
# Sections under a lock are single steps

Every run of the code with its locks is a run of the machine whose steps are
whole sections: a section takes effect where it accesses the data, and taking
and releasing the data lock changes nothing else.  A panic in the fetcher is a
fetch that fails, since unwinding releases the gate, poisoned, and leaves the
data alone; a panic in a closure ends its own call only.
-/

namespace AuthOidc

open Rust JwksCache

namespace System

variable {ι T : Type} (system : System ι T)

/-- `with_key` after the `refresh` of a round. -/
def codeAfter (c : ι) : Round → Refreshed → CacheCode T
  | .first => Locks.withEnsured system.foreign system.cache
      (system.call c).kid (system.call c).now
  | .second => Locks.withRetried system.foreign (system.call c).kid

/-- `with_key` after a lookup without a match. -/
def codeMissed (c : ι) : Round → CacheCode T
  | .first => Locks.refresh system.foreign system.cache (system.call c).now
      false (system.codeAfter c .second)
  | .second => .ret (.error (unknownKidError system.foreign
      (system.call c).kid))

/-- The code that is left of a call at a phase. -/
def codeAt (c : ι) : Phase T → CacheCode T
  | .snapshot => Locks.withKey system.foreign system.cache
      (system.call c).kid (system.call c).now
  | .rateCheck round wait => Locks.refresh system.foreign system.cache
      (system.call c).now wait (system.codeAfter c round)
  | .tryGate round desperate => Locks.takeGate system.foreign system.cache
      (system.call c).now desperate (system.codeAfter c round)
  | .lostRace round => Locks.serveWithinCeiling system.foreign system.cache
      (system.call c).now (system.codeAfter c round)
  | .waitGate round =>
      .lock .fetchGate fun _ => Locks.underGate system.foreign system.cache
        (system.call c).now true (system.codeAfter c round)
  | .postGate round desperate => Locks.underGate system.foreign system.cache
      (system.call c).now desperate (system.codeAfter c round)
  | .fetching round => Locks.fetch system.foreign system.cache
      (system.call c).now (system.codeAfter c round)
  | .writeBack round fetched => Locks.writeBack system.cache
      (system.call c).now fetched (system.codeAfter c round)
  | .releaseGate round refreshed =>
      .unlock .fetchGate (system.codeAfter c round refreshed)
  | .lookup round set =>
      Locks.lookup (system.call c).kid set (system.codeMissed c round)
  | .done result => .ret result

theorem codeAt_snapshot (c : ι) :
    system.codeAt c .snapshot =
      Locks.snapshot system.cache (system.call c).now fun snapshot =>
        system.codeAt c (afterSnapshot snapshot) := by
  unfold codeAt Locks.withKey
  dsimp only
  congr 1
  funext ⟨cached, stale, expired⟩
  dsimp only [afterSnapshot]
  cases (if expired then none else cached : Option JwkSet) with
  | none => rfl
  | some set => cases stale <;> rfl

theorem codeAt_afterRefresh (c : ι) (round : Round) (refreshed : Refreshed) :
    system.codeAt c (system.afterRefresh c round refreshed) =
      system.codeAfter c round refreshed := by
  rcases refreshed with e | _ | set
  · cases round <;> rfl
  · cases round <;> rfl
  · cases round <;> rfl

/-- Where a thread with this code stands. -/
inductive CodeStands (c : ι) : CacheCode T → Phase T → Prop where
  | here {phase : Phase T} {code : CacheCode T} :
      (∀ round set, phase ≠ .lookup round set) →
      system.codeAt c phase = code → CodeStands c code phase
  /-- In a section, before it accesses the data. -/
  | inSection {phase : Phase T} {update : Inner → Inner}
      {next : Inner → CacheCode T} :
      (∀ round set, phase ≠ .lookup round set) →
      system.codeAt c phase = Locks.lock update next →
      CodeStands c (.access update next) phase
  | leaving {phase : Phase T} {code : CacheCode T} :
      CodeStands c code phase → CodeStands c (.unlock .inner code) phase
  | warning {round : Round} {refreshed : Refreshed} (error : String) :
      CodeStands c (.call (.warn error) fun _ =>
          system.codeAt c (.releaseGate round refreshed))
        (.releaseGate round refreshed)
  | trying {round : Round} {set : JwkSet} {key : Jwk} {rest : List Jwk}
      {lastErr : Option String} {code : CacheCode T} :
      tryAll set (system.call c).kid (system.call c).f =
        tryKeys (system.call c).f (key :: rest) lastErr →
      Locks.tryKeys (key :: rest) lastErr
        (Locks.concluded (system.codeMissed c round)) = code →
      CodeStands c code (.lookup round set)

/-- Where a thread stands in the machine.  One that panicked under the gate
did so in its fetch or in the warning about it. -/
inductive Stands (c : ι) :
    Locking.Thread CacheLock Inner Outside (Outside.Answer T)
      (Except String T) → Phase T → Prop where
  | running {code : CacheCode T} {phase : Phase T} :
      system.CodeStands c code phase → Stands c (.running code) phase
  | ended {result : Except String T} :
      Stands c (.ended (some result)) (.done result)
  | failing {round : Round} : Stands c .unwinding (.fetching round)
  | releasing {round : Round} {refreshed : Refreshed} :
      Stands c .unwinding (.releaseGate round refreshed)
  | unwinding {phase : Phase T} :
      phase.holdsGate = false → Stands c .unwinding phase
  | panicked {phase : Phase T} :
      phase.holdsGate = false → Stands c (.ended none) phase

variable {system} [DecidableEq ι]

omit [DecidableEq ι] in
theorem afterLookup_ne_lookup (c : ι) (round other : Round)
    (set otherSet : JwkSet) :
    system.afterLookup c round set ≠ .lookup other otherSet := by
  unfold afterLookup
  split <;> simp

omit [DecidableEq ι] in
theorem codeAt_afterLookup (c : ι) (round : Round) (set : JwkSet) :
    system.codeAt c (system.afterLookup c round set) =
      Locks.concluded (system.codeMissed c round)
        (tryAll set (system.call c).kid (system.call c).f) := by
  unfold afterLookup
  cases tryAll set (system.call c).kid (system.call c).f with
  | some result => rfl
  | none => cases round <;> rfl

/-- The machine goes from `state` to `final` by steps of one caller, whose
fetches return documents that are allowed. -/
def Moves (system : System ι T) (allowed : String → Prop) (c : ι)
    (state final : State ι T) : Prop :=
  ∃ schedule history, system.machine.Runs state schedule history final ∧
    (∀ other, other ≠ c → final.phase other = state.phase other) ∧
    ∀ owner body, .fetched owner (.ok body) ∈ schedule → allowed body

section Moves

variable {allowed : String → Prop} {c : ι} {state middle final : State ι T}
  {emitted : List (Event ι)}

theorem Moves.refl : system.Moves allowed c state state :=
  ⟨[], [], .refl, fun _ _ => rfl, by simp⟩

theorem Moves.trans (first : system.Moves allowed c state middle)
    (second : system.Moves allowed c middle final) :
    system.Moves allowed c state final := by
  obtain ⟨schedule, history, run, others, fetched⟩ := first
  obtain ⟨later, laterHistory, laterRun, laterOthers, laterFetched⟩ := second
  refine ⟨_, _, run.trans laterRun, ?_, ?_⟩
  · intro other different
    rw [laterOthers other different, others other different]
  · intro owner body member
    rcases List.mem_append.mp member with earlier | afterwards
    · exact fetched owner body earlier
    · exact laterFetched owner body afterwards

theorem Step.moves (step : system.Step state c final emitted)
    (noFetch : ∀ round, state.phase c ≠ .fetching round) :
    system.Moves allowed c state final := by
  obtain ⟨action, rfl, ran⟩ := machine_of_step step
  refine ⟨[action], emitted, .single ran, fun _ different =>
    step.others different, ?_⟩
  intro owner body member
  cases List.mem_singleton.mp member
  change system.fetchedStep state owner (.ok body) = some _ at ran
  unfold fetchedStep at ran
  split at ran
  · rename_i round stands
    exact absurd stands (noFetch round)
  · cases ran

/-- The fetch of a caller returns. -/
theorem moves_fetched {round : Round} (body : Except String String)
    (stands : state.phase c = .fetching round)
    (lawful : ∀ text, body = .ok text → allowed text) :
    system.Moves allowed c state (state.move c (.writeBack round
      (body.bind (JwkSet.parse system.foreign)))) := by
  refine ⟨[.fetched c body], _, .single (by
    simp only [machine, fetchedStep, stands]; rfl), ?_, ?_⟩
  · exact fun _ different => State.move_phase_of_ne _ _ _ different
  · intro owner text member
    cases List.mem_singleton.mp member
    exact lawful text rfl

end Moves

variable {allowed : String → Prop}

/-- What the machine does while the thread of `c` takes one step. -/
structure Follows (system : System ι T) (allowed : String → Prop) (c : ι)
    (coarse : State ι T) (inner : Inner) (gate : Option ι)
    (code : CacheCode T) (final : State ι T) : Prop where
  moves : system.Moves allowed c coarse final
  inner : final.inner = inner
  gate : final.fetchGate = gate
  stands : system.CodeStands c code (final.phase c)

section Follows

variable {c : ι} {coarse middle : State ι T} {code : CacheCode T}

/-- The loop over the keys ends. -/
theorem follows_lookup {round : Round} {set : JwkSet}
    {result : Option (Except String T)}
    (stands : coarse.phase c = .lookup round set)
    (tried : tryAll set (system.call c).kid (system.call c).f = result) :
    ∃ final, Follows system allowed c coarse coarse.inner coarse.fetchGate
      (Locks.concluded (system.codeMissed c round) result) final := by
  have lookup : system.Step coarse c _ _ := .lookup stands
  refine ⟨_, lookup.moves (by simp [stands]), rfl, rfl, ?_⟩
  rw [State.move_phase_self]
  refine .here (fun other otherSet =>
    afterLookup_ne_lookup c round other set otherSet) ?_
  rw [codeAt_afterLookup, tried]

theorem follows_tryKeys {round : Round} {set : JwkSet} {keys : List Jwk}
    {lastErr : Option String} (stands : coarse.phase c = .lookup round set)
    (progress : tryAll set (system.call c).kid (system.call c).f =
      tryKeys (system.call c).f keys lastErr) :
    ∃ final, Follows system allowed c coarse coarse.inner coarse.fetchGate
      (Locks.tryKeys keys lastErr
        (Locks.concluded (system.codeMissed c round))) final := by
  cases keys with
  | nil => exact follows_lookup stands progress
  | cons key rest =>
      refine ⟨coarse, .refl, rfl, rfl, ?_⟩
      rw [stands]
      exact .trying progress rfl

/-- A lookup without a matching key takes no time. -/
theorem follows_settle (codeEq : system.codeAt c (coarse.phase c) = code) :
    ∃ final, Follows system allowed c coarse coarse.inner coarse.fetchGate code
      final := by
  by_cases looking : ∃ round set, coarse.phase c = .lookup round set
  · obtain ⟨round, set, stands⟩ := looking
    rw [stands] at codeEq
    subst codeEq
    exact follows_tryKeys stands rfl
  · refine ⟨coarse, .refl, rfl, rfl, .here ?_ codeEq⟩
    intro round set stands
    exact looking ⟨round, set, stands⟩

theorem follows_moves {next : State ι T} {inner : Inner} {gate : Option ι}
    {phase : Phase T} (moves : system.Moves allowed c coarse next)
    (innerEq : next.inner = inner) (gateEq : next.fetchGate = gate)
    (phaseEq : next.phase c = phase)
    (codeEq : system.codeAt c phase = code) :
    ∃ final, Follows system allowed c coarse inner gate code final := by
  rw [← phaseEq] at codeEq
  obtain ⟨final, follows⟩ :
      ∃ final, Follows system allowed c next _ _ _ final :=
    follows_settle codeEq
  exact ⟨final, moves.trans follows.moves, follows.inner.trans innerEq,
    follows.gate.trans gateEq, follows.stands⟩

theorem follows_step {next : State ι T} {emitted : List (Event ι)}
    {inner : Inner} {gate : Option ι} {phase : Phase T}
    (step : system.Step coarse c next emitted)
    (noFetch : ∀ round, coarse.phase c ≠ .fetching round)
    (innerEq : next.inner = inner) (gateEq : next.fetchGate = gate)
    (phaseEq : next.phase c = phase)
    (codeEq : system.codeAt c phase = code) :
    ∃ final, Follows system allowed c coarse inner gate code final :=
  follows_moves (step.moves noFetch) innerEq gateEq phaseEq codeEq

/-- A section has run, up to the drop of its guard. -/
theorem follows_section {next : State ι T} {emitted : List (Event ι)}
    {inner : Inner} {gate : Option ι} {phase : Phase T}
    (step : system.Step coarse c next emitted)
    (noFetch : ∀ round, coarse.phase c ≠ .fetching round)
    (innerEq : next.inner = inner) (gateEq : next.fetchGate = gate)
    (phaseEq : next.phase c = phase)
    (codeEq : system.codeAt c phase = code) :
    ∃ final, Follows system allowed c coarse inner gate (.unlock .inner code)
      final := by
  obtain ⟨final, follows⟩ :=
    follows_step step noFetch innerEq gateEq phaseEq codeEq
  exact ⟨final, { follows with stands := .leaving follows.stands }⟩

/-! ## One step of a thread -/

omit [DecidableEq ι] in
theorem lock_injective {update otherUpdate : Inner → Inner}
    {next otherNext : Inner → CacheCode T}
    (same : Locks.lock update next = Locks.lock otherUpdate otherNext) :
    update = otherUpdate ∧ next = otherNext := by
  simp only [Locks.lock, Locking.Code.lock.injEq, true_and] at same
  have body := congrFun same false
  simpa using body

/-- The access of a section is the step of the machine. -/
theorem follows_access {update : Inner → Inner}
    {next : Inner → CacheCode T}
    (noLookup : ∀ round set, coarse.phase c ≠ .lookup round set)
    (inSection : system.codeAt c (coarse.phase c) =
      Locks.lock update next) :
    ∃ final, Follows system allowed c coarse (update coarse.inner)
      coarse.fetchGate (next coarse.inner) final := by
  have noFetch : ∀ round, coarse.phase c ≠ .fetching round := by
    intro round stands
    rw [stands] at inSection
    cases inSection
  cases stands : coarse.phase c with
  | snapshot =>
      rw [stands, codeAt_snapshot] at inSection
      obtain ⟨rfl, rfl⟩ := lock_injective inSection
      exact follows_section (.snapshot stands) noFetch rfl rfl
        (State.move_phase_self ..) rfl
  | rateCheck round wait =>
      rw [stands] at inSection
      obtain ⟨rfl, rfl⟩ := lock_injective inSection
      dsimp only
      cases checked : system.cache.checkRate system.foreign coarse.inner
          (system.call c).now wait with
      | leave refreshed =>
          exact follows_section (.rateLimited stands checked) noFetch rfl rfl
            (State.move_phase_self ..) (codeAt_afterRefresh ..)
      | proceed desperate =>
          exact follows_section (.admitted stands checked) noFetch rfl rfl
            (State.move_phase_self ..) rfl
  | lostRace round =>
      rw [stands] at inSection
      obtain ⟨rfl, rfl⟩ := lock_injective inSection
      exact follows_section (.serveLoser stands) noFetch rfl rfl
        (State.move_phase_self ..) (codeAt_afterRefresh ..)
  | postGate round desperate =>
      rw [stands] at inSection
      obtain ⟨rfl, rfl⟩ := lock_injective inSection
      dsimp only
      cases checked : system.cache.claimWindow system.foreign coarse.inner
          (system.call c).now desperate with
      | leave refreshed =>
          exact follows_section (.satisfied stands checked) noFetch rfl rfl
            (State.move_phase_self ..) rfl
      | proceed claimed =>
          exact follows_section (.claim stands checked) noFetch rfl rfl
            (State.move_phase_self ..) rfl
  | writeBack round fetched =>
      rw [stands] at inSection
      obtain ⟨rfl, rfl⟩ := lock_injective inSection
      have step : system.Step coarse c _ _ := .writeBack stands rfl
      refine ⟨_, step.moves noFetch, rfl, rfl, .leaving ?_⟩
      dsimp only
      rw [State.move_phase_self]
      cases (system.cache.writeBack coarse.inner (system.call c).now
          fetched).warned with
      | none => exact .here (by simp) rfl
      | some error => exact .warning error
  | lookup round set => exact absurd stands (noLookup round set)
  | tryGate round desperate =>
      rw [stands] at inSection
      cases inSection
  | waitGate round =>
      rw [stands] at inSection
      cases inSection
  | fetching round =>
      rw [stands] at inSection
      cases inSection
  | releaseGate round refreshed =>
      rw [stands] at inSection
      cases inSection
  | done result =>
      rw [stands] at inSection
      cases inSection

end Follows

/-- What the code at a phase begins with. -/
inductive Begins (system : System ι T) (c : ι) :
    Phase T → CacheCode T → Prop where
  | locks {phase : Phase T} {update : Inner → Inner}
      {next : Inner → CacheCode T} :
      system.codeAt c phase = Locks.lock update next →
      Begins system c phase (Locks.lock update next)
  | waits {round : Round} :
      Begins system c (.waitGate round) (system.codeAt c (.waitGate round))
  | tries {round : Round} {desperate : Bool} :
      Begins system c (.tryGate round desperate)
        (system.codeAt c (.tryGate round desperate))
  | fetches {round : Round} :
      Begins system c (.fetching round) (system.codeAt c (.fetching round))
  | releases {round : Round} {refreshed : Refreshed} :
      Begins system c (.releaseGate round refreshed)
        (system.codeAt c (.releaseGate round refreshed))
  | ends {result : Except String T} :
      Begins system c (.done result) (.ret result)

omit [DecidableEq ι] in
theorem codeAt_begins (system : System ι T) {c : ι} {phase : Phase T}
    {code : CacheCode T} (noLookup : ∀ round set, phase ≠ .lookup round set)
    (codeEq : system.codeAt c phase = code) :
    Begins system c phase code := by
  subst codeEq
  cases phase with
  | lookup round set => exact absurd rfl (noLookup round set)
  | tryGate round desperate => exact .tries
  | waitGate round => exact .waits
  | fetching round => exact .fetches
  | releaseGate round refreshed => exact .releases
  | done result => exact .ends
  | _ => exact .locks rfl

/-- The closure answers as the call has it, and the fetcher with documents that
are allowed.  Anything may panic. -/
def Lawful (system : System ι T) (allowed : String → Prop) (c : ι) :
    Locking.Label Outside (Outside.Answer T) → Prop
  | .answered (.apply key) answer => answer = (system.call c).f key
  | .answered (.fetch _) body => ∀ text, body = .ok text → allowed text
  | .answered (.warn _) _ | .internal | .panicked _ => True

/-- The machine at the same data and gate, each call at its code. -/
structure Represents (system : System ι T) (state : LockState ι T)
    (coarse : State ι T) : Prop where
  inner : coarse.inner = state.data
  gate : coarse.fetchGate = state.owner .fetchGate
  stands : ∀ c, system.Stands c (state.thread c) (coarse.phase c)

section Represents

variable {c : ι} {state : LockState ι T} {coarse : State ι T}

omit [DecidableEq ι] in
theorem Represents.codeStands {code : CacheCode T}
    (represents : Represents system state coarse)
    (stands : state.thread c = .running code) :
    ∃ phase, coarse.phase c = phase ∧ system.CodeStands c code phase := by
  have threadStands := represents.stands c
  rw [stands] at threadStands
  cases threadStands with
  | running codeStands => exact ⟨_, rfl, codeStands⟩

theorem Represents.follows_lock {lock : CacheLock}
    {later : Bool → CacheCode T}
    (represents : Represents system state coarse)
    (stands : state.thread c = .running (.lock lock later))
    (free : state.owner lock = none) :
    ∃ final, Follows system allowed c coarse state.data
      ((state.pass lock (some c)).owner .fetchGate)
      (later (state.poisoned lock)) final := by
  obtain ⟨phase, phaseEq, codeStands⟩ := represents.codeStands stands
  cases codeStands with
  | here noLookup codeEq =>
      cases codeAt_begins system noLookup codeEq with
      | locks entered =>
          refine ⟨coarse, .refl, represents.inner, represents.gate, ?_⟩
          rw [phaseEq]
          exact .inSection noLookup entered
      | waits =>
          exact follows_step (.wake phaseEq (represents.gate.trans free))
            (by simp [phaseEq]) represents.inner rfl
            (State.move_phase_self ..) rfl
  | trying _ codeEq => cases codeEq

theorem Represents.follows_tryLock {lock : CacheLock}
    {later : Locking.TryLock → CacheCode T}
    (represents : Represents system state coarse)
    (stands : state.thread c = .running (.tryLock lock later)) :
    lock = .fetchGate ∧
      (state.owner lock = none →
        ∃ final, Follows system allowed c coarse state.data (some c)
          (later (.acquired (state.poisoned lock))) final) ∧
      ∀ holder, state.owner lock = some holder →
        ∃ final, Follows system allowed c coarse state.data (some holder)
          (later .wouldBlock) final := by
  obtain ⟨phase, phaseEq, codeStands⟩ := represents.codeStands stands
  cases codeStands with
  | here noLookup codeEq =>
      cases codeAt_begins system noLookup codeEq with
      | @tries round desperate =>
          refine ⟨rfl, ?_, ?_⟩
          · intro free
            exact follows_step
              (.takeGate phaseEq (represents.gate.trans free))
              (by simp [phaseEq]) represents.inner rfl
              (State.move_phase_self ..) rfl
          · intro holder taken
            have gateTaken := represents.gate.trans taken
            cases desperate with
            | true =>
                exact follows_step (.queue phaseEq gateTaken)
                  (by simp [phaseEq]) represents.inner gateTaken
                  (State.move_phase_self ..) rfl
            | false =>
                exact follows_step (.loseRace phaseEq gateTaken)
                  (by simp [phaseEq]) represents.inner gateTaken
                  (State.move_phase_self ..) rfl
  | trying _ codeEq => cases codeEq

theorem Represents.follows_unlock {lock : CacheLock} {later : CacheCode T}
    (represents : Represents system state coarse)
    (stands : state.thread c = .running (.unlock lock later)) :
    ∃ final, Follows system allowed c coarse state.data
      ((state.pass lock none).owner .fetchGate) later final := by
  obtain ⟨phase, phaseEq, codeStands⟩ := represents.codeStands stands
  cases codeStands with
  | here noLookup codeEq =>
      cases codeAt_begins system noLookup codeEq with
      | releases =>
          exact follows_step (.release phaseEq) (by simp [phaseEq])
            represents.inner rfl (State.move_phase_self ..)
            (codeAt_afterRefresh ..)
  | leaving codeStands =>
      refine ⟨coarse, .refl, represents.inner, represents.gate, ?_⟩
      rwa [phaseEq]
  | trying _ codeEq => cases codeEq

theorem Represents.follows_update {update : Inner → Inner}
    {later : Inner → CacheCode T}
    (represents : Represents system state coarse)
    (stands : state.thread c = .running (.access update later)) :
    ∃ final, Follows system allowed c coarse (update state.data)
      (state.owner .fetchGate) (later state.data) final := by
  obtain ⟨phase, phaseEq, codeStands⟩ := represents.codeStands stands
  cases codeStands with
  | here noLookup codeEq =>
      cases codeAt_begins system noLookup codeEq
  | inSection noLookup codeEq =>
      rw [← phaseEq] at noLookup codeEq
      obtain ⟨final, follows⟩ := follows_access noLookup codeEq
      rw [represents.inner, represents.gate] at follows
      exact ⟨final, follows⟩
  | trying _ codeEq => cases codeEq

theorem Represents.follows_answer {query : Outside}
    {later : query.Answer T → CacheCode T} {answer : query.Answer T}
    (represents : Represents system state coarse)
    (stands : state.thread c = .running (.call query later))
    (lawful : Lawful system allowed c (.answered query answer)) :
    ∃ final, Follows system allowed c coarse state.data
      (state.owner .fetchGate) (later answer) final := by
  obtain ⟨phase, phaseEq, codeStands⟩ := represents.codeStands stands
  cases codeStands with
  | here noLookup codeEq =>
      cases codeAt_begins system noLookup codeEq with
      | fetches =>
          exact follows_moves (moves_fetched answer phaseEq lawful)
            represents.inner represents.gate (State.move_phase_self ..) rfl
  | warning error =>
      refine ⟨coarse, .refl, represents.inner, represents.gate, ?_⟩
      rw [phaseEq]
      exact .here (by simp) rfl
  | @trying round set key rest lastErr _ progress codeEq =>
      cases codeEq
      rw [← represents.inner, ← represents.gate]
      change answer = (system.call c).f key at lawful
      rw [tryKeys, ← lawful] at progress
      cases answer with
      | ok value => exact follows_lookup phaseEq progress
      | error e => exact follows_tryKeys phaseEq progress

/-! ### Panics -/

theorem moves_released {round : Round} {refreshed : Refreshed}
    (stands : coarse.phase c = .releaseGate round refreshed) :
    ∃ final, system.Moves allowed c coarse final ∧
      final.inner = coarse.inner ∧ final.fetchGate = none ∧
      (final.phase c).holdsGate = false := by
  have release : system.Step coarse c _ _ := .release stands
  refine ⟨_, release.moves (by simp [stands]), rfl, rfl, ?_⟩
  dsimp only
  rw [State.move_phase_self]
  exact holdsGate_afterRefresh ..

/-- What a fetch that panics leaves behind, one that fails leaves too. -/
theorem moves_failed {round : Round}
    (stands : coarse.phase c = .fetching round) :
    ∃ final, system.Moves allowed c coarse final ∧
      final.inner = coarse.inner ∧ final.fetchGate = none ∧
      (final.phase c).holdsGate = false := by
  have fetched : system.Moves allowed c coarse _ :=
    moves_fetched (.error "panicked") stands (by simp)
  obtain ⟨middle, fetchedTo, middleInner, writing⟩ :
      ∃ middle, system.Moves allowed c coarse middle ∧
        middle.inner = coarse.inner ∧
        middle.phase c = .writeBack round (.error "panicked") :=
    ⟨_, fetched, rfl, State.move_phase_self ..⟩
  have writes : system.Step middle c _ _ := .writeBack writing rfl
  obtain ⟨final, released, innerEq, free, noGate⟩ :
      ∃ final, system.Moves allowed c _ final ∧ final.inner = _ ∧
        final.fetchGate = none ∧ (final.phase c).holdsGate = false :=
    moves_released (writes.of_writeBack writing)
  refine ⟨final,
    (fetchedTo.trans (writes.moves (by simp [writing]))).trans released, ?_,
    free, noGate⟩
  rw [innerEq, ← middleInner]
  exact writeBack_error_inner

omit [DecidableEq ι] in
theorem Represents.stands_panicked {query : Outside}
    {later : query.Answer T → CacheCode T}
    (represents : Represents system state coarse)
    (stands : state.thread c = .running (.call query later)) :
    system.Stands c .unwinding (coarse.phase c) := by
  obtain ⟨phase, phaseEq, codeStands⟩ := represents.codeStands stands
  rw [phaseEq]
  cases codeStands with
  | here noLookup codeEq =>
      cases codeAt_begins system noLookup codeEq with
      | fetches => exact .failing
  | warning error => exact .releasing
  | trying _ _ => exact .unwinding rfl

/-- Unwinding releases the gate and leaves the data alone. -/
theorem Represents.moves_unwind (represents : Represents system state coarse)
    (gate : coarse.fetchGate = some c ↔ (coarse.phase c).holdsGate = true)
    (stands : state.thread c = .unwinding)
    (owned : state.owner .fetchGate = some c) :
    ∃ final, system.Moves allowed c coarse final ∧
      final.inner = state.data ∧ final.fetchGate = none ∧
      (final.phase c).holdsGate = false := by
  have holds := gate.mp (represents.gate.trans owned)
  have threadStands := represents.stands c
  rw [stands] at threadStands
  rw [← represents.inner]
  generalize phaseEq : coarse.phase c = phase at threadStands holds
  cases threadStands with
  | failing => exact moves_failed phaseEq
  | releasing => exact moves_released phaseEq
  | unwinding noGate =>
      rw [noGate] at holds
      cases holds

omit [DecidableEq ι] in
/-- Who has released all its locks does not hold the gate. -/
theorem Represents.stands_unwound (represents : Represents system state coarse)
    (gate : coarse.fetchGate = some c ↔ (coarse.phase c).holdsGate = true)
    (released : ∀ lock, state.owner lock ≠ some c) :
    system.Stands c (.ended none) (coarse.phase c) := by
  refine .panicked (Bool.eq_false_iff.mpr ?_)
  intro holds
  exact released .fetchGate (represents.gate.symm.trans (gate.mpr holds))

variable {next : LockState ι T}
  {label : Locking.Label Outside (Outside.Answer T)}

theorem Represents.thread_step (represents : Represents system state coarse)
    (gate : coarse.fetchGate = some c ↔ (coarse.phase c).holdsGate = true)
    (step : Locking.Step state c label next)
    (lawful : Lawful system allowed c label) :
    ∃ final, system.Moves allowed c coarse final ∧
      final.inner = next.data ∧ final.fetchGate = next.owner .fetchGate ∧
      system.Stands c (next.thread c) (final.phase c) := by
  have runs : ∀ {inner gate code},
      (∃ final, Follows system allowed c coarse inner gate code final) →
      inner = next.data → gate = next.owner .fetchGate →
      next.thread c = .running code →
      ∃ final, system.Moves allowed c coarse final ∧ final.inner = next.data ∧
        final.fetchGate = next.owner .fetchGate ∧
        system.Stands c (next.thread c) (final.phase c) := by
    intro inner gate code ⟨final, follows⟩ innerEq gateEq threadEq
    refine ⟨final, follows.moves, follows.inner.trans innerEq,
      follows.gate.trans gateEq, ?_⟩
    rw [threadEq]
    exact .running follows.stands
  cases step with
  | lock stands free =>
      exact runs (represents.follows_lock stands free) rfl rfl
        (Locking.State.move_thread_self ..)
  | tryLock stands free =>
      obtain ⟨rfl, acquires, _⟩ := represents.follows_tryLock stands
      exact runs (acquires free) rfl rfl (Locking.State.move_thread_self ..)
  | wouldBlock stands taken =>
      obtain ⟨rfl, _, blocks⟩ := represents.follows_tryLock stands
      exact runs (blocks _ taken) rfl taken.symm
        (Locking.State.move_thread_self ..)
  | unlock stands _ =>
      exact runs (represents.follows_unlock stands) rfl rfl
        (Locking.State.move_thread_self ..)
  | access stands =>
      exact runs (represents.follows_update stands) rfl rfl
        (Locking.State.move_thread_self ..)
  | answer answer stands =>
      exact runs (represents.follows_answer stands lawful) rfl rfl
        (Locking.State.move_thread_self ..)
  | panic stands =>
      refine ⟨coarse, .refl, represents.inner, represents.gate, ?_⟩
      rw [Locking.State.move_thread_self]
      exact represents.stands_panicked stands
  | @unwind lock stands owned =>
      cases lock with
      | fetchGate =>
          obtain ⟨final, moves, innerEq, free, noGate⟩ :=
            represents.moves_unwind gate stands owned
          refine ⟨final, moves, innerEq, free, ?_⟩
          change system.Stands c (state.thread c) (final.phase c)
          rw [stands]
          exact .unwinding noGate
      | inner =>
          exact ⟨coarse, .refl, represents.inner, represents.gate,
            represents.stands c⟩
  | unwound stands released =>
      refine ⟨coarse, .refl, represents.inner, represents.gate, ?_⟩
      rw [Locking.State.move_thread_self]
      exact represents.stands_unwound gate released
  | ret stands =>
      refine ⟨coarse, .refl, represents.inner, represents.gate, ?_⟩
      rw [Locking.State.move_thread_self]
      obtain ⟨phase, phaseEq, codeStands⟩ := represents.codeStands stands
      cases codeStands with
      | here noLookup codeEq =>
          cases codeAt_begins system noLookup codeEq with
          | ends =>
              rw [phaseEq]
              exact .ended
      | trying _ codeEq => cases codeEq

theorem Represents.step (represents : Represents system state coarse)
    (gate : coarse.fetchGate = some c ↔ (coarse.phase c).holdsGate = true)
    (step : Locking.Step state c label next)
    (lawful : Lawful system allowed c label) :
    ∃ final, system.Moves allowed c coarse final ∧
      Represents system next final := by
  obtain ⟨final, moves, innerEq, gateEq, stands⟩ :=
    represents.thread_step gate step lawful
  refine ⟨final, moves, innerEq, gateEq, ?_⟩
  intro other
  by_cases same : other = c
  · rwa [same]
  · obtain ⟨_, _, _, others, _⟩ := moves
    rw [(step.others same).1, others other same]
    exact represents.stands other

omit [DecidableEq ι] in
theorem Represents.done_of_ended (represents : Represents system state coarse)
    {result : Except String T}
    (ended : state.thread c = .ended (some result)) :
    coarse.phase c = .done result := by
  have stands := represents.stands c
  rw [ended] at stands
  generalize coarse.phase c = phase at stands
  cases stands with
  | ended => rfl

/-- The states that a run of the machine with allowed documents represents. -/
def Represented (system : System ι T) (allowed : String → Prop)
    (state : LockState ι T) : Prop :=
  ∃ schedule history coarse, system.Runs schedule history coarse ∧
    (∀ owner body, .fetched owner (.ok body) ∈ schedule → allowed body) ∧
    Represents system state coarse

theorem represented_of_reachable (reached :
    Locking.Reachable (system.Lawful allowed) system.lockStart state) :
    Represented system allowed state := by
  induction reached with
  | refl =>
      refine ⟨[], [], .fresh, .refl, by simp, rfl, rfl, ?_⟩
      intro c
      exact .running (.here (by simp [State.fresh]) rfl)
  | tail _ taken induction =>
      obtain ⟨schedule, history, coarse, run, fetched, represents⟩ := induction
      obtain ⟨c, label, lawful, step⟩ := taken
      obtain ⟨final, ⟨later, laterHistory, laterRun, _, laterFetched⟩,
        represents⟩ := represents.step (run.recorded.gate c) step lawful
      refine ⟨_, _, final, Transition.Machine.Runs.trans run laterRun, ?_,
        represents⟩
      intro owner body member
      rcases List.mem_append.mp member with earlier | afterwards
      · exact fetched owner body earlier
      · exact laterFetched owner body afterwards

/-- Every run with its locks, whatever panics in it, is a run of the machine of
sections: what a call returns, and the data it leaves, the machine has too. -/
theorem lock_refinement (reached :
    Locking.Reachable (system.Lawful allowed) system.lockStart state) :
    ∃ schedule history coarse, system.Runs schedule history coarse ∧
      (∀ owner body, .fetched owner (.ok body) ∈ schedule → allowed body) ∧
      coarse.inner = state.data ∧
      coarse.fetchGate = state.owner .fetchGate ∧
      (∀ c result, state.thread c = .ended (some result) →
        coarse.phase c = .done result) ∧
      ∀ c, state.thread c = .ended none →
        (coarse.phase c).holdsGate = false := by
  obtain ⟨schedule, history, coarse, run, fetched, represents⟩ :=
    represented_of_reachable reached
  refine ⟨schedule, history, coarse, run, fetched, represents.inner,
    represents.gate, ?_, ?_⟩
  · exact fun _ _ ended => represents.done_of_ended ended
  · intro c ended
    have stands := represents.stands c
    rw [ended] at stands
    generalize coarse.phase c = phase at stands
    cases stands with
    | panicked noGate => exact noGate

end Represents

end System

/-! ## A sample run

The first call panics in its fetch, and the second one, which had not begun,
finds the gate poisoned and the window claimed. -/

namespace Sample

theorem fetching_enabled :
    ((List.replicate 10 false).foldlM Locking.State.advance
      system.lockStart).isSome = true := rfl

def lockFetching : System.LockState Bool Unit :=
  Option.get _ fetching_enabled

def lockUnwinding : System.LockState Bool Unit :=
  lockFetching.move false .unwinding

def lockReleased : System.LockState Bool Unit :=
  { lockUnwinding.pass .fetchGate none with
    poisoned := Function.update lockUnwinding.poisoned .fetchGate true }

def lockPanicked : System.LockState Bool Unit :=
  lockReleased.move false (.ended none)

theorem panicked_enabled :
    ((List.replicate 12 true).foldlM Locking.State.advance
      lockPanicked).isSome = true := rfl

def lockEnded : System.LockState Bool Unit :=
  Option.get _ panicked_enabled

theorem lockEnded_reached (allowed : String → Prop) :
    Locking.Reachable (system.Lawful allowed) system.lockStart
      lockEnded := by
  have fetching : Locking.Reachable (system.Lawful allowed)
      system.lockStart lockFetching :=
    .of_schedule (fun _ => trivial) (Option.some_get fetching_enabled).symm
  have panics : Locking.Step lockFetching false _ lockUnwinding :=
    .panic rfl
  have unwinds : Locking.Step lockUnwinding false .internal lockReleased :=
    .unwind rfl rfl
  have unwound : Locking.Step lockReleased false .internal lockPanicked := by
    refine .unwound rfl ?_
    intro lock
    cases lock <;> exact nofun
  have ended : Locking.Reachable (system.Lawful allowed) lockPanicked
      lockEnded :=
    .of_schedule (fun _ => trivial) (Option.some_get panicked_enabled).symm
  exact ((fetching.tail ⟨false, .panicked _, trivial, panics⟩).tail
    ⟨false, .internal, trivial, unwinds⟩).tail
      ⟨false, .internal, trivial, unwound⟩ |>.trans ended

end Sample

namespace System

theorem lock_refinement_sample :
    ∃ schedule history coarse, Sample.system.Runs schedule history coarse ∧
      coarse.fetchGate = none ∧
      coarse.phase true =
        .done (.error Sample.system.cache.neverFetchedError) := by
  obtain ⟨schedule, history, coarse, run, _, _, gate, returned, _⟩ :=
    lock_refinement (Sample.lockEnded_reached fun _ => False)
  exact ⟨schedule, history, coarse, run, gate, returned true _ rfl⟩

end System

end AuthOidc
