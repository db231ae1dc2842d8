import AuthOidc.Cache.Outage
import AuthOidc.Cache.Provenance

/-!
# Calls under a healthy provider

When every fetch brings a set that a call accepts, the call cannot fail: its
first lookup is its last one.  Neither the rate limit nor the ceiling nor a
lost race for the gate turns it away, provided that the interval between two
fetches does not outlast the ceiling.
-/

namespace AuthOidc

open Rust Transition AttemptLog Spacing

variable {ι T : Type}

namespace JwksCache

variable {foreign : Foreign} {self : JwksCache} {inner : Inner}
  {now : Instant}

/-- Whoever is served nothing finds no set, or one past the ceiling. -/
theorem keys_eq_none_or_pastCeiling (paired : inner.Paired)
    (unserved : ∀ set, ¬ self.Serves inner now set) :
    inner.keys = none ∨ self.pastCeiling inner now = true := by
  cases keys : inner.keys with
  | none => exact .inl rfl
  | some set =>
      right
      rw [← Bool.not_eq_false]
      intro within
      exact unserved set (serves_of_keys paired keys within)

/-- A caller that is served nothing claims the window once it may fetch. -/
theorem claimWindow_of_unserved {desperate : Bool} (paired : inner.Paired)
    (unserved : ∀ set, ¬ self.Serves inner now set)
    (permitted : self.permitsAttempt inner now = true) :
    self.claimWindow foreign inner now desperate =
      .proceed { inner with lastAttempt := some now } := by
  rcases keys_eq_none_or_pastCeiling paired unserved with absent | expired
  · simp [claimWindow, absent, permitted]
  · simp [claimWindow, expired, permitted]

/-- The rate check lets a caller go on that has nothing to serve, and tells it
to wait for the gate. -/
theorem serves_of_checkRate_proceed {wait : Bool} (paired : inner.Paired)
    (served : wait = false → ∃ set, self.Serves inner now set)
    (proceeds : self.checkRate foreign inner now wait = .proceed false) :
    ∃ set, self.Serves inner now set := by
  have calm := (checkRate_proceed proceeds).1
  cases wait with
  | false => exact served rfl
  | true =>
      by_contra unserved
      rw [not_exists] at unserved
      rcases keys_eq_none_or_pastCeiling paired unserved with absent | expired
      · simp [absent] at calm
      · simp [expired] at calm

theorem serves_of_checkRate_leave {wait : Bool} {refreshed : Refreshed}
    (paired : inner.Paired)
    (served : wait = false → ∃ set, self.Serves inner now set)
    (left : self.checkRate foreign inner now wait = .leave refreshed) :
    ∃ set, self.Serves inner now set := by
  cases wait with
  | false => exact served rfl
  | true =>
      obtain ⟨present, within⟩ := (checkRate_leave left).2.2 rfl
      obtain ⟨set, keys⟩ := Option.isSome_iff_exists.mp present
      exact ⟨set, serves_of_keys paired keys within⟩

end JwksCache

namespace System

variable {system : System ι T}

/-- The set has a key that goes by the kid of the call and that its closure
accepts. -/
def Accepts (system : System ι T) (c : ι) (set : JwkSet) : Prop :=
  ∃ key ∈ set.keys, key.GoesBy (system.call c).kid ∧
    ∃ value, (system.call c).f key = .ok value

def Served (system : System ι T) (inner : Inner) (c : ι) : Prop :=
  ∃ set, system.cache.Serves inner (system.call c).now set

/-- What a call on its way to success is at.  It is in its first round, and
wherever it does not wait for the gate the data serves it a set. -/
inductive OnTrack (system : System ι T) (inner : Inner) (c : ι) :
    Phase T → Prop where
  | snapshot : OnTrack system inner c .snapshot
  | rateCheck {wait : Bool} :
      (wait = false → system.Served inner c) →
      OnTrack system inner c (.rateCheck .first wait)
  | tryGate {desperate : Bool} :
      (desperate = false → system.Served inner c) →
      OnTrack system inner c (.tryGate .first desperate)
  | lostRace : system.Served inner c →
      OnTrack system inner c (.lostRace .first)
  | waitGate : OnTrack system inner c (.waitGate .first)
  | postGate {desperate : Bool} :
      (desperate = false → system.Served inner c) →
      OnTrack system inner c (.postGate .first desperate)
  | fetching : OnTrack system inner c (.fetching .first)
  | writeBack {set : JwkSet} : system.Accepts c set →
      OnTrack system inner c (.writeBack .first (.ok set))
  | releaseGate {set : JwkSet} : system.Accepts c set →
      OnTrack system inner c (.releaseGate .first (.ok (some set)))
  | lookup {set : JwkSet} : system.Accepts c set →
      OnTrack system inner c (.lookup .first set)
  | done {value : T} : OnTrack system inner c (.done (.ok value))

/-- Data that goes on serving the call keeps it on its way. -/
theorem OnTrack.serving {inner later : Inner} {c : ι} {phase : Phase T}
    (onTrack : OnTrack system inner c phase)
    (serving : system.Served inner c → system.Served later c) :
    OnTrack system later c phase := by
  cases onTrack with
  | snapshot => exact .snapshot
  | rateCheck served => exact .rateCheck fun calm => serving (served calm)
  | tryGate served => exact .tryGate fun calm => serving (served calm)
  | lostRace served => exact .lostRace (serving served)
  | waitGate => exact .waitGate
  | postGate served => exact .postGate fun calm => serving (served calm)
  | fetching => exact .fetching
  | writeBack accepts => exact .writeBack accepts
  | releaseGate accepts => exact .releaseGate accepts
  | lookup accepts => exact .lookup accepts
  | done => exact .done

/-! ### The groups of phases -/

section Phases

variable {inner : Inner} {c : ι} {round : Round}

/-- A call that is served a set it accepts goes on to look its key up there. -/
theorem OnTrack.of_served (served : system.Served inner c)
    (accepted : ∀ set, inner.keys = some set → system.Accepts c set)
    (later : Inner) :
    OnTrack system later c (system.afterRefresh c .first
      (system.cache.serveWithinCeiling system.foreign inner
        (system.call c).now)) := by
  obtain ⟨set, serves⟩ := served
  rw [serves.serveWithinCeiling]
  exact .lookup (accepted set serves.1)

theorem OnTrack.of_snapshot (paired : inner.Paired)
    (accepted : ∀ set, inner.keys = some set → system.Accepts c set) :
    OnTrack system inner c
      (afterSnapshot (system.cache.snapshot inner (system.call c).now)) := by
  rcases afterSnapshot_cases (T := T) system.cache (system.call c).now
    paired with ⟨set, serves, check | found⟩ | ⟨_, check⟩
  · rw [check]
    exact .rateCheck fun _ => ⟨set, serves⟩
  · rw [found]
    exact .lookup (accepted set serves.1)
  · rw [check]
    exact .rateCheck fun calm => by cases calm

/-- The rate check serves the call, or sends it on to the gate. -/
theorem OnTrack.of_rateCheck {wait : Bool} (paired : inner.Paired)
    (accepted : ∀ set, inner.keys = some set → system.Accepts c set)
    (onTrack : OnTrack system inner c (.rateCheck round wait)) :
    (∀ refreshed, system.cache.checkRate system.foreign inner
        (system.call c).now wait = .leave refreshed →
      OnTrack system inner c (system.afterRefresh c round refreshed)) ∧
    ∀ desperate, system.cache.checkRate system.foreign inner
        (system.call c).now wait = .proceed desperate →
      OnTrack system inner c (.tryGate round desperate) := by
  cases onTrack with
  | rateCheck served =>
      constructor
      · intro refreshed left
        rw [(JwksCache.checkRate_leave left).1]
        exact .of_served
          (JwksCache.serves_of_checkRate_leave paired served left) accepted _
      · intro desperate proceeds
        refine .tryGate ?_
        rintro rfl
        exact JwksCache.serves_of_checkRate_proceed paired served proceeds

/-- The call takes the gate, queues for it, or lost the race for it with a set
to be served. -/
theorem OnTrack.of_tryGate {desperate : Bool}
    (onTrack : OnTrack system inner c (.tryGate round desperate)) :
    OnTrack system inner c (.postGate round desperate) ∧
      OnTrack system inner c (.waitGate round) ∧
      (desperate = false → OnTrack system inner c (.lostRace round)) := by
  cases onTrack with
  | tryGate served =>
      exact ⟨.postGate served, .waitGate, fun calm => .lostRace (served calm)⟩

theorem OnTrack.of_lostRace
    (accepted : ∀ set, inner.keys = some set → system.Accepts c set)
    (onTrack : OnTrack system inner c (.lostRace round)) :
    OnTrack system inner c (system.afterRefresh c round
      (system.cache.serveWithinCeiling system.foreign inner
        (system.call c).now)) := by
  cases onTrack with
  | lostRace served => exact .of_served served accepted _

theorem OnTrack.of_waitGate
    (onTrack : OnTrack system inner c (.waitGate round)) :
    OnTrack system inner c (.postGate round true) := by
  cases onTrack with
  | waitGate => exact .postGate fun calm => by cases calm

/-- Under the gate the call finds a set, or claims the window. -/
theorem OnTrack.of_postGate {desperate : Bool}
    (accepted : ∀ set, inner.keys = some set → system.Accepts c set)
    (onTrack : OnTrack system inner c (.postGate round desperate)) :
    (∀ refreshed, system.Served inner c →
      system.cache.claimWindow system.foreign inner (system.call c).now
        desperate = .leave refreshed →
      OnTrack system inner c (.releaseGate round refreshed)) ∧
    ∀ claimed, OnTrack system claimed c (.fetching round) := by
  cases onTrack with
  | postGate _ =>
      refine ⟨?_, fun _ => .fetching⟩
      rintro refreshed ⟨set, serves⟩ left
      rw [(JwksCache.claimWindow_leave left).1, serves.serveWithinCeiling]
      exact .releaseGate (accepted set serves.1)

theorem OnTrack.of_fetching {set : JwkSet} (accepts : system.Accepts c set)
    (onTrack : OnTrack system inner c (.fetching round)) :
    OnTrack system inner c (.writeBack round (.ok set)) := by
  cases onTrack with
  | fetching => exact .writeBack accepts

theorem OnTrack.of_writeBack {fetched : Except String JwkSet}
    {before : Inner} {now : Instant}
    (onTrack : OnTrack system inner c (.writeBack round fetched))
    (later : Inner) :
    OnTrack system later c (.releaseGate round
      (system.cache.writeBack before now fetched).refreshed) := by
  cases onTrack with
  | writeBack accepts => exact .releaseGate accepts

theorem OnTrack.of_releaseGate {refreshed : Refreshed}
    (onTrack : OnTrack system inner c (.releaseGate round refreshed)) :
    OnTrack system inner c (system.afterRefresh c round refreshed) := by
  cases onTrack with
  | releaseGate accepts => exact .lookup accepts

theorem OnTrack.of_lookup {set : JwkSet}
    (onTrack : OnTrack system inner c (.lookup round set)) :
    OnTrack system inner c (system.afterLookup c round set) := by
  cases onTrack with
  | lookup accepts =>
      obtain ⟨value, tried⟩ := JwksCache.exists_tryAll_eq_ok_iff.mpr accepts
      rw [system.afterLookup_of_some tried]
      exact .done

end Phases

/-- Every fetch that has returned brought a set that the call accepts. -/
def Healthy (system : System ι T) (history : List (Event ι)) (c : ι) : Prop :=
  ∀ owner body, .returned owner body ∈ history →
    ∃ set, system.outcomeOf body = .ok set ∧ system.Accepts c set

variable [DecidableEq ι]

/-- Under the gate a call that is served nothing may fetch: the last fetch is
the one that brought the cached set. -/
theorem permitsAttempt_of_healthy {history : List (Event ι)}
    {state : State ι T} {c : ι} (recorded : Recorded system history state)
    (sourced : Sourced system history state)
    (outlasted : system.cache.minRefetchInterval ≤ system.cache.maxStale)
    (healthy : system.Healthy history c)
    (holds : (state.phase c).holdsGate = true)
    (noFlight : (state.phase c).inFlight = false)
    (unserved : ¬ system.Served state.inner c) :
    system.cache.permitsAttempt state.inner (system.call c).now = true := by
  have settled : (fetchLog history).Settled := by
    apply recorded.settled
    intro other
    by_cases same : other = c
    · rw [same, noFlight]
    · exact recorded.not_inFlight_of_ne holds same
  have succeeded : ∀ attempt ∈ fetchLog history, ∃ set,
      attempt.outcome = some (.ok set) := by
    intro attempt member
    obtain ⟨outcome, finished⟩ :=
      Option.ne_none_iff_exists'.mp (settled attempt member)
    obtain ⟨body, returned, outcomeEq⟩ :=
      sourced.outcomes attempt member outcome finished
    obtain ⟨set, parsed, _⟩ := healthy attempt.owner body returned
    exact ⟨set, by rw [finished, outcomeEq, parsed]⟩
  have fetchedLast : state.inner.fetchedAt = state.inner.lastAttempt := by
    rw [recorded.fetchedAt, recorded.lastAttempt]
    exact Log.lastSuccess_of_succeeded succeeded
  apply JwksCache.permitsAttempt_iff.mpr
  intro last isLast
  rw [← fetchedLast] at isLast
  have expired : system.cache.pastCeiling state.inner (system.call c).now =
      true := by
    rcases JwksCache.keys_eq_none_or_pastCeiling recorded.paired
      (not_exists.mp unserved) with absent | expired
    · have paired := recorded.paired
      rw [Inner.Paired, absent, isLast] at paired
      cases paired
    · exact expired
  simp only [JwksCache.pastCeiling, isLast, Option.any_some,
    decide_eq_true_eq, Instant.le_saturatingDurationSince] at expired
  exact Nat.le_trans outlasted expired

/-- A caller that leaves the gate without a fetch is served a set: it would
have claimed the window otherwise. -/
theorem served_of_satisfied {history : List (Event ι)} {state : State ι T}
    {c : ι} {round : Round} {desperate : Bool} {refreshed : Refreshed}
    (recorded : Recorded system history state)
    (sourced : Sourced system history state)
    (outlasted : system.cache.minRefetchInterval ≤ system.cache.maxStale)
    (healthy : system.Healthy history c)
    (stands : state.phase c = .postGate round desperate)
    (left : system.cache.claimWindow system.foreign state.inner
      (system.call c).now desperate = .leave refreshed) :
    system.Served state.inner c := by
  by_contra unserved
  have permitted := permitsAttempt_of_healthy recorded sourced outlasted
    healthy (by rw [stands]; rfl) (by rw [stands]; rfl) unserved
  rw [JwksCache.claimWindow_of_unserved recorded.paired
    (not_exists.mp unserved) permitted] at left
  cases left

/-- A call on its way to success stays on it with every step of its own. -/
theorem OnTrack.step {history emitted : List (Event ι)}
    {state next : State ι T} {c : ι} (recorded : Recorded system history state)
    (sourced : Sourced system history state)
    (outlasted : system.cache.minRefetchInterval ≤ system.cache.maxStale)
    (healthy : system.Healthy (history ++ emitted) c)
    (accepted : ∀ set, state.inner.keys = some set → system.Accepts c set)
    (onTrack : OnTrack system state.inner c (state.phase c))
    (step : system.Step state c next emitted) :
    OnTrack system next.inner c (next.phase c) := by
  have paired := recorded.paired
  cases step with
  | snapshot _ =>
      rw [State.move_phase_self]
      exact .of_snapshot paired accepted
  | rateLimited stands left =>
      rw [stands] at onTrack
      rw [State.move_phase_self]
      exact (onTrack.of_rateCheck paired accepted).1 _ left
  | admitted stands proceeds =>
      rw [stands] at onTrack
      rw [State.move_phase_self]
      exact (onTrack.of_rateCheck paired accepted).2 _ proceeds
  | takeGate stands _ =>
      rw [stands] at onTrack
      simpa using onTrack.of_tryGate.1
  | queue stands _ =>
      rw [stands] at onTrack
      rw [State.move_phase_self]
      exact onTrack.of_tryGate.2.1
  | loseRace stands _ =>
      rw [stands] at onTrack
      rw [State.move_phase_self]
      exact onTrack.of_tryGate.2.2 rfl
  | serveLoser stands =>
      rw [stands] at onTrack
      rw [State.move_phase_self]
      exact onTrack.of_lostRace accepted
  | wake stands _ =>
      rw [stands] at onTrack
      simpa using onTrack.of_waitGate
  | satisfied stands left =>
      rw [List.append_nil] at healthy
      have served :=
        served_of_satisfied recorded sourced outlasted healthy stands left
      rw [stands] at onTrack
      rw [State.move_phase_self]
      exact (onTrack.of_postGate accepted).1 _ served left
  | claim stands _ =>
      rw [stands] at onTrack
      simpa using (onTrack.of_postGate accepted).2 _
  | fetchReturns body stands =>
      obtain ⟨set, parsed, accepts⟩ := healthy c body
        (List.mem_append_right _ List.mem_cons_self)
      rw [stands] at onTrack
      rw [State.move_phase_self]
      change OnTrack system _ c (.writeBack _ (system.outcomeOf body))
      rw [parsed]
      exact onTrack.of_fetching accepts
  | writeBack stands written =>
      subst written
      rw [stands] at onTrack
      simpa using onTrack.of_writeBack _
  | release stands =>
      rw [stands] at onTrack
      simpa using onTrack.of_releaseGate
  | lookup stands =>
      rw [stands] at onTrack
      rw [State.move_phase_self]
      exact onTrack.of_lookup

variable {schedule : List (Action ι)} {history : List (Event ι)}
  {state : State ι T}

theorem Runs.onTrack (run : system.Runs schedule history state)
    (positive : 0 < system.cache.minRefetchInterval.nanos)
    (outlasted : system.cache.minRefetchInterval ≤ system.cache.maxStale)
    (c : ι) :
    system.Healthy history c →
      OnTrack system state.inner c (state.phase c) := by
  induction run with
  | refl => exact fun _ => .snapshot
  | @tail _ history _ _ _ action before ran induction =>
      intro healthy
      have earlier : system.Healthy history c := fun owner body returned =>
        healthy owner body (List.mem_append_left _ returned)
      have onTrack := induction earlier
      have step := step_of_machine ran
      have recorded := Runs.recorded before
      by_cases same : c = action.caller
      · subst same
        refine onTrack.step recorded (Runs.sourced before) outlasted healthy
          ?_ step
        intro set cached
        obtain ⟨owner, body, returned, parsed⟩ :=
          Runs.keys_source before cached
        obtain ⟨found, outcome, accepts⟩ := earlier owner _ returned
        rw [← Except.ok.inj (parsed.symm.trans outcome)] at accepts
        exact accepts
      · rw [step.others same]
        apply onTrack.serving
        rintro ⟨set, serves⟩
        exact recorded.serves_step (Runs.spaced before positive) step serves

/-- A call fails only when it is given cause: some fetch of the run, its own or
another's, brought no set or a set that the call does not accept. -/
theorem Runs.healthy_call_succeeds (run : system.Runs schedule history state)
    (positive : 0 < system.cache.minRefetchInterval.nanos)
    (outlasted : system.cache.minRefetchInterval ≤ system.cache.maxStale)
    {c : ι} (healthy : system.Healthy history c) {result : Except String T}
    (finished : state.phase c = .done result) :
    ∃ value, result = .ok value := by
  have onTrack := run.onTrack positive outlasted c healthy
  rw [finished] at onTrack
  cases onTrack with
  | done => exact ⟨_, rfl⟩

/-- What a fetch returns is up to the schedule. -/
theorem Runs.scheduled_of_returned
    (run : system.Runs schedule history state) {c : ι}
    {body : Except String String} (returned : .returned c body ∈ history) :
    .fetched c body ∈ schedule := by
  induction run with
  | refl => cases returned
  | @tail _ _ emitted _ _ action _ ran induction =>
      rcases List.mem_append.mp returned with earlier | latest
      · exact List.mem_append_left _ (induction earlier)
      · apply List.mem_append_right
        cases action with
        | fetched owner other =>
            cases step_of_machine ran with
            | fetchReturns _ stands =>
                simp_all [machine, fetchedStep, Action.caller]
            | _ => simp_all [machine, fetchedStep, Action.caller]
        | run owner =>
            cases step_of_runStep ran with
            | fetchReturns _ stands => simp [machine, runStep, stands] at ran
            | _ => simp_all [invocations]

/-- A provider that publishes one document is healthy for whoever accepts
it. -/
theorem Runs.healthy_of_scheduled (run : system.Runs schedule history state)
    {c : ι} {text : String} {set : JwkSet}
    (parsed : JwkSet.parse system.foreign text = .ok set)
    (accepts : system.Accepts c set)
    (scheduled : ∀ owner body, .fetched owner body ∈ schedule →
      body = .ok text) : system.Healthy history c := by
  intro owner body returned
  rw [scheduled owner body (run.scheduled_of_returned returned)]
  exact ⟨set, parsed, accepts⟩

end System

namespace Sample

theorem document_parsed : JwkSet.parse foreign document = .ok keySet := by
  decide +kernel

/-- A cache whose refetch interval of two days outlasts its ceiling of one. -/
def patient : System Bool Unit where
  foreign := foreign
  cache :=
    .new "https://idp/jwks" (Duration.fromSecs (48 * 3600))
      (Duration.fromSecs 3600)
  call second :=
    { kid := "k1"
      now := if second then 36 * 3600 * 1000000000 else 0
      f := fun _ => .ok () }

def patientSchedule : List (Action Bool) :=
  firstFetch ++ List.replicate 5 (.run true)

theorem patient_enabled :
    (patient.machine.exec .fresh patientSchedule).isSome = true := by
  decide +kernel

def turnedAway : State Bool Unit × List (Event Bool) :=
  (patient.machine.exec .fresh patientSchedule).get patient_enabled

theorem patientRun :
    patient.Runs patientSchedule turnedAway.2 turnedAway.1 :=
  .of_isSome patient_enabled

end Sample

namespace System

theorem Runs.healthy_call_succeeds_sample :
    ∃ result, Sample.outcome.1.phase false = .done result ∧
      ∃ value, result = .ok value := by
  have finished : Sample.outcome.1.phase false = .done (.ok ()) := by
    decide +kernel
  have accepts : Sample.system.Accepts false Sample.keySet :=
    ⟨_, List.mem_singleton.mpr rfl, .inl rfl, (), rfl⟩
  have healthy : Sample.system.Healthy Sample.outcome.2 false :=
    Runs.healthy_of_scheduled Sample.run Sample.document_parsed accepts
      (by simp [Sample.schedule])
  exact ⟨_, finished, Runs.healthy_call_succeeds Sample.run (by decide)
    (by decide) healthy finished⟩

/-- An interval that outlasts the ceiling turns calls away although nothing
ever failed. -/
theorem interval_beyond_ceiling_fails :
    Sample.patient.Healthy Sample.turnedAway.2 true ∧
      Sample.turnedAway.1.phase true =
        .done (.error (Sample.patient.cache.ceilingError Sample.foreign)) := by
  have accepts : Sample.patient.Accepts true Sample.keySet :=
    ⟨_, List.mem_singleton.mpr rfl, .inl rfl, (), rfl⟩
  refine ⟨Runs.healthy_of_scheduled Sample.patientRun Sample.document_parsed
    accepts (by simp [Sample.patientSchedule, Sample.firstFetch]), ?_⟩
  decide +kernel

end System

end AuthOidc
