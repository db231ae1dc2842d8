import AuthOidc.Cache.Provenance
import AuthOidc.Library.Reading

/-!
# Fetching over HTTP

`ReqwestFetcher`: what the answer to a GET comes to.  The client is foreign
code, and so is the body that it hands out: a reader that gives the bytes in
chunks of its own choice and may never end.
-/

namespace AuthOidc

open Rust Reading

/-- Upper bound on a JWKS or discovery document. -/
def maxJwksBytes : Nat := 1024 * 1024

structure Response (Stream : Type) where
  status : UInt16
  body : Stream

def Response.isSuccess {Stream : Type} (resp : Response Stream) : Bool :=
  200 ≤ resp.status && resp.status < 300

/-- What `ReqwestFetcher::new` asks of the client. -/
structure ClientSettings (Certificate : Type) where
  timeout : Duration
  connectTimeout : Duration
  httpsOnly : Bool
  rootCertificates : List Certificate

/-- The HTTP library: how a client is built, what its GETs may be answered in
the end, after the redirects that it follows, and how the body of a response
is read. -/
structure Reqwest (Certificate Client Stream : Type) where
  certificateFromPem : Bytes → Except String Certificate
  build : ClientSettings Certificate → Except String Client
  sends : Client → String → Except String (Response Stream) → Prop
  reader : Reader Stream String
  displayStatus : UInt16 → String

/-- `ReqwestFetcher::new`. -/
def newFetcher {Certificate Client Stream : Type}
    (reqwest : Reqwest Certificate Client Stream) (timeout : Duration)
    (extraRootCertPem : Option String) : Except String Client :=
  let build := fun rootCertificates =>
    (reqwest.build ⟨timeout, timeout, true, rootCertificates⟩).mapError
      fun e => s!"failed to build JWKS HTTP client: {e}"
  match extraRootCertPem with
  | none => build []
  | some pem =>
      match reqwest.certificateFromPem (Text.asBytes pem) with
      | .error e => .error s!"invalid ca_cert_pem: {e}"
      | .ok cert => build [cert]

/-- `read_capped` from the end of the reading on. -/
def cappedText (cap : Nat) (url : String) (read : Except String Bytes) :
    Except String String :=
  match read with
  | .error e => .error s!"reading {url} response body failed: {e}"
  | .ok buf =>
      if cap < buf.length then
        .error s!"{url} JWKS body exceeds the {cap}-byte cap"
      else
        match Text.fromUtf8 buf with
        | none => .error s!"{url} JWKS body is not UTF-8"
        | some text => .ok text

section Fetch

variable {Certificate Client Stream : Type} (reader : Reader Stream String)
  (reqwest : Reqwest Certificate Client Stream) (sizes : Nat → Nat)

/-- The loop of `read_capped` after a number of reads: one byte past the cap
is asked for. -/
def readingCapped (cap turns : Nat) (r : Stream) :
    Progress (Stream × Nat) String :=
  reader.take.readToEnd sizes turns (.start (r, cap + 1))

/-- `read_capped`; `none` while it is still reading. -/
def readCapped (cap : Nat) (url : String) (turns : Nat) (r : Stream) :
    Option (Except String String) :=
  (readingCapped reader sizes cap turns r).result.map (cappedText cap url)

/-- `ReqwestFetcher::fetch` from the answer of the client on. -/
def fetch (url : String) (turns : Nat) :
    Except String (Response Stream) → Option (Except String String)
  | .error e => some (.error s!"request to {url} failed: {e}")
  | .ok resp =>
      if !resp.isSuccess then
        let status := reqwest.displayStatus resp.status
        some (.error s!"{url} returned HTTP {status}")
      else readCapped reqwest.reader sizes maxJwksBytes url turns resp.body

end Fetch

theorem cappedText_eq_ok_iff {cap : Nat} {url text : String}
    {read : Except String Bytes} :
    cappedText cap url read = .ok text ↔
      ∃ buf, read = .ok buf ∧ buf.length ≤ cap ∧ Text.asBytes text = buf := by
  cases read with
  | error e => simp [cappedText]
  | ok buf =>
      simp only [cappedText, Except.ok.injEq, exists_eq_left',
        ← Text.fromUtf8_eq_some_iff]
      split
      · rename_i beyond
        simp [Nat.not_le.mpr beyond]
      · rename_i within
        cases Text.fromUtf8 buf <;> simp [Nat.not_lt.mp within]

variable {Certificate Client Stream : Type} {reader : Reader Stream String}
  {reqwest : Reqwest Certificate Client Stream} {sizes : Nat → Nat}

/-- At no moment is more than one byte past the cap buffered. -/
theorem readingCapped_buf_le (cap turns : Nat) (r : Stream) :
    (readingCapped reader sizes cap turns r).buf.length ≤ cap + 1 := by
  have kept : (Progress.start (r, cap + 1) :
      Progress (Stream × Nat) String).buf.length + (cap + 1) = cap + 1 :=
    Nat.zero_add _
  have limited : (readingCapped reader sizes cap turns r).buf.length +
      (readingCapped reader sizes cap turns r).state.2 = cap + 1 :=
    Reader.buffered_add_limit kept turns
  exact Nat.le_of_add_right_le limited.le

theorem fetch_of_success {resp : Response Stream}
    (success : resp.isSuccess = true) (url : String) (turns : Nat) :
    fetch reqwest sizes url turns (.ok resp) =
      readCapped reqwest.reader sizes maxJwksBytes url turns resp.body := by
  simp [fetch, success]

theorem fetch_of_not_success {resp : Response Stream}
    (failed : resp.isSuccess = false) (url : String) (turns : Nat) :
    fetch reqwest sizes url turns (.ok resp) =
      some (.error (url ++ " returned HTTP " ++
        reqwest.displayStatus resp.status)) := by
  simp [fetch, failed, toString]

theorem fetch_eq_ok {url text : String} {turns : Nat}
    {answer : Except String (Response Stream)}
    (fetched : fetch reqwest sizes url turns answer =
      some (.ok text)) :
    ∃ resp, answer = .ok resp ∧ resp.isSuccess = true ∧
      (readingCapped reqwest.reader sizes maxJwksBytes turns
        resp.body).result = some (.ok (Text.asBytes text)) ∧
      (Text.asBytes text).length ≤ maxJwksBytes := by
  cases answer with
  | error e => cases fetched
  | ok resp =>
      cases success : resp.isSuccess with
      | false =>
          rw [fetch_of_not_success success] at fetched
          cases fetched
      | true =>
          rw [fetch_of_success success] at fetched
          obtain ⟨read, ended, capped⟩ := Option.map_eq_some_iff.mp fetched
          obtain ⟨buf, rfl, within, rfl⟩ := cappedText_eq_ok_iff.mp capped
          exact ⟨resp, rfl, success, ended, within⟩

/-- A reading that ends within the cap has drained the body. -/
theorem drains_of_readingCapped {cap turns : Nat} {r : Stream}
    {content : Bytes} (positive : ∀ turn, 0 < sizes turn)
    (ended : (readingCapped reader sizes cap turns r).result =
      some (.ok content))
    (within : content.length ≤ cap) : Drains reader r content := by
  obtain ⟨drained, rfl, drains⟩ :=
    Reader.drains_of_readToEnd positive ended
  exact Reader.drains_of_take drains (Nat.lt_succ_of_le within)

/-! ## A body that ends -/

/-- What the reading of a whole body comes to; what follows a body beyond the
cap is not asked for. -/
def wholeRead (cap : Nat) (content : Bytes) :
    Ending String → Except String Bytes
  | .failed e => if cap < content.length then .ok content else .error e
  | .eof | .unknown => .ok content

theorem cappedText_of_beyond {cap : Nat} {url : String} {buf : Bytes}
    (beyond : cap < buf.length) :
    cappedText cap url (.ok buf) =
      .error s!"{url} JWKS body exceeds the {cap}-byte cap" := by
  simp [cappedText, beyond]

/-- In whatever chunks the body comes, and however much is asked for at a
time, the reading ends, and with the same result. -/
theorem readCapped_ends {cap : Nat} {r : Stream} {content : Bytes}
    {ending : Ending String} (serves : Serves reader r content ending)
    (more : ending = .unknown → cap < content.length)
    (positive : ∀ turn, 0 < sizes turn) (url : String) :
    ∃ enough, ∀ turns ≥ enough,
      readCapped reader sizes cap url turns r =
        some (cappedText cap url (wholeRead cap content ending)) := by
  have limited : Serves reader.take (r, cap + 1) (content.take (cap + 1))
      (if cap + 1 ≤ content.length then .eof else ending) :=
    Reader.serves_take serves more
  rcases Nat.lt_or_ge cap content.length with beyond | within
  · rw [if_pos (Nat.succ_le_of_lt beyond)] at limited
    obtain ⟨enough, ended⟩ :=
      Reader.ends_of_serves limited (by simp) positive []
    refine ⟨enough, fun turns many => ?_⟩
    have longer : cap < (content.take (cap + 1)).length := by
      rw [List.length_take]
      exact Nat.lt_min.mpr ⟨Nat.lt_succ_self cap, beyond⟩
    have whole : wholeRead cap content ending = .ok content := by
      cases ending <;> simp [wholeRead, beyond]
    have read : (readingCapped reader sizes cap turns r).result =
        some (.ok (content.take (cap + 1))) := ended turns many
    rw [readCapped, read, whole, Option.map_some,
      cappedText_of_beyond longer, cappedText_of_beyond beyond]
  · rw [if_neg (Nat.not_le.mpr (Nat.lt_succ_of_le within)),
      List.take_of_length_le (Nat.le_succ_of_le within)] at limited
    have known : ending ≠ .unknown := fun same =>
      absurd (more same) (Nat.not_lt.mpr within)
    obtain ⟨enough, ended⟩ :=
      Reader.ends_of_serves limited known positive []
    refine ⟨enough, fun turns many => ?_⟩
    have read : (readingCapped reader sizes cap turns r).result =
        ending.result content := ended turns many
    rw [readCapped, read]
    cases ending with
    | eof => rfl
    | failed e => simp [Ending.result, wholeRead, Nat.not_lt.mpr within]
    | unknown => exact absurd rfl known

theorem wholeRead_eq_ok_iff {cap : Nat} {content buf : Bytes}
    {ending : Ending String}
    (more : ending = .unknown → cap < content.length)
    (within : buf.length ≤ cap) :
    wholeRead cap content ending = .ok buf ↔
      ending = .eof ∧ content = buf := by
  cases ending with
  | eof => simp [wholeRead]
  | failed e =>
      simp only [wholeRead, reduceCtorEq, false_and, iff_false]
      split
      · rename_i beyond
        rintro same
        cases same
        exact Nat.not_lt.mpr within beyond
      · simp
  | unknown =>
      simp only [wholeRead, Except.ok.injEq, reduceCtorEq, false_and,
        iff_false]
      rintro rfl
      exact Nat.not_lt.mpr within (more rfl)

theorem cappedText_wholeRead_eq_ok_iff {cap : Nat} {url text : String}
    {content : Bytes} {ending : Ending String}
    (more : ending = .unknown → cap < content.length) :
    cappedText cap url (wholeRead cap content ending) = .ok text ↔
      ending = .eof ∧ content.length ≤ cap ∧ Text.asBytes text = content := by
  rw [cappedText_eq_ok_iff]
  constructor
  · rintro ⟨buf, read, within, same⟩
    obtain ⟨eof, rfl⟩ := (wholeRead_eq_ok_iff more within).mp read
    exact ⟨eof, within, same⟩
  · rintro ⟨rfl, within, same⟩
    exact ⟨content, rfl, within, same⟩

theorem bind_parse_eq_ok_iff {foreign : Foreign}
    {result : Except String String} {set : JwkSet} :
    result.bind (JwkSet.parse foreign) = .ok set ↔
      ∃ text, result = .ok text ∧ JwkSet.parse foreign text = .ok set := by
  cases result with
  | error e => simp [Except.bind]
  | ok text => simp [Except.bind]

/-- The result of a GET that is answered with this status and this content, to
this ending, however they come. -/
def wholeFetch (displayStatus : UInt16 → String) (url : String)
    (resp : Response Bytes) (ending : Ending String) : Except String String :=
  if resp.isSuccess then
    cappedText maxJwksBytes url (wholeRead maxJwksBytes resp.body ending)
  else .error (url ++ " returned HTTP " ++ displayStatus resp.status)

/-- A GET whose body ends, or goes on beyond the cap, comes to its result after
finitely many reads, whatever the chunks and the sizes asked for.  A longer
body is refused; and a key set is read exactly when the status is a success
and the whole body, within the cap, is the UTF-8 form of a JWKS document. -/
theorem fetch_ends {resp : Response Stream} {content : Bytes}
    {ending : Ending String}
    (serves : Serves reqwest.reader resp.body content ending)
    (more : ending = .unknown → maxJwksBytes < content.length)
    (foreign : Foreign) (url : String) :
    let result :=
      wholeFetch reqwest.displayStatus url ⟨resp.status, content⟩ ending
    (∀ sizes : Nat → Nat, (∀ turn, 0 < sizes turn) →
      ∃ enough, ∀ turns ≥ enough,
        fetch reqwest sizes url turns (.ok resp) = some result) ∧
    (resp.isSuccess = true → maxJwksBytes < content.length →
      result =
        .error s!"{url} JWKS body exceeds the {maxJwksBytes}-byte cap") ∧
    ∀ set, result.bind (JwkSet.parse foreign) = .ok set ↔
      resp.isSuccess = true ∧ ending = .eof ∧
        content.length ≤ maxJwksBytes ∧
        ∃ text, Text.asBytes text = content ∧
          JwkSet.parse foreign text = .ok set := by
  have sameStatus : (Response.mk resp.status content).isSuccess =
      resp.isSuccess := rfl
  dsimp only
  rw [wholeFetch, sameStatus]
  cases success : resp.isSuccess with
  | false =>
      rw [if_neg (by simp)]
      refine ⟨?_, nofun, fun set => ?_⟩
      · intro sizes _
        exact ⟨0, fun turns _ => fetch_of_not_success success url turns⟩
      · simp [Except.bind]
  | true =>
      rw [if_pos rfl]
      refine ⟨?_, ?_, ?_⟩
      · intro sizes positive
        obtain ⟨enough, ended⟩ := readCapped_ends serves more positive url
        exact ⟨enough, fun turns many =>
          (fetch_of_success success url turns).trans (ended turns many)⟩
      · intro _ beyond
        have whole : wholeRead maxJwksBytes content ending = .ok content := by
          cases ending <;> simp [wholeRead, beyond]
        rw [whole, cappedText_of_beyond beyond]
      · intro set
        simp only [bind_parse_eq_ok_iff, cappedText_wholeRead_eq_ok_iff more,
          true_and, and_assoc, exists_and_left]

namespace Sample

/-- A client that is given one body whatever it asks for. -/
def oneBody {Stream : Type} (reader : Reader Stream String) (body : Stream) :
    Reqwest Unit Unit Stream where
  certificateFromPem _ := .error "invalid certificate encoding"
  build _ := .ok ()
  sends _ _ answer := answer = .ok ⟨200, body⟩
  reader := reader
  displayStatus status := toString status

end Sample

/-- An endless body is refused once the cap is passed, whatever the sizes of
the reads. -/
theorem fetch_ends_sample :
    ∃ enough, ∀ turns ≥ enough, ∀ sizes ∈ [fun _ => 32, fun turn => turn + 1],
      fetch (Sample.oneBody (Reader.repeated 0x78) ()) sizes
          "https://idp/jwks" turns (.ok ⟨200, ()⟩) =
        some (.error ("https://idp/jwks JWKS body exceeds the " ++
          "1048576-byte cap")) := by
  have beyond : maxJwksBytes <
      (List.replicate (maxJwksBytes + 1) (0x78 : UInt8)).length := by
    rw [List.length_replicate]
    exact Nat.lt_succ_self _
  have serves : Serves (Reader.repeated 0x78 : Reader Unit String) ()
      (.replicate (maxJwksBytes + 1) 0x78) .unknown :=
    Reader.serves_repeated ..
  obtain ⟨ended, refused, _⟩ :=
    @fetch_ends Unit Unit Unit (Sample.oneBody (Reader.repeated 0x78) ())
      ⟨200, ()⟩ _ _ serves (fun _ => beyond) Sample.foreign
      "https://idp/jwks"
  rw [refused (by decide) beyond] at ended
  obtain ⟨first, even⟩ := ended (fun _ => 32) (fun _ => by decide)
  obtain ⟨second, growing⟩ := ended (fun turn => turn + 1) Nat.succ_pos
  refine ⟨max first second, fun turns enough sizes given => ?_⟩
  rcases List.mem_pair.mp given with rfl | rfl
  · exact even turns ((le_max_left _ _).trans enough)
  · exact growing turns ((le_max_right _ _).trans enough)

/-! ## The cached keys -/

/-- The response delivers a body: it is the answer to a GET of the url, it is a
success, and its stream hands out the bytes of the body, no more of them than
the cap, and then says that it ends; that is where the capped reading came
to. -/
structure Delivers (reqwest : Reqwest Certificate Client Stream)
    (client : Client) (url : String) (resp : Response Stream)
    (body : String) : Prop where
  sent : reqwest.sends client url (.ok resp)
  success : resp.isSuccess = true
  within : (Text.asBytes body).length ≤ maxJwksBytes
  whole : Drains reqwest.reader resp.body (Text.asBytes body)
  read : ∃ sizes turns, (∀ turn, 0 < sizes turn) ∧
    (readingCapped reqwest.reader sizes maxJwksBytes turns resp.body).result =
      some (.ok (Text.asBytes body))

theorem delivers_of_fetch {client : Client} {url text : String} {turns : Nat}
    {answer : Except String (Response Stream)}
    (positive : ∀ turn, 0 < sizes turn)
    (sent : reqwest.sends client url answer)
    (fetched : fetch reqwest sizes url turns answer = some (.ok text)) :
    ∃ resp, Delivers reqwest client url resp text := by
  obtain ⟨resp, rfl, success, ended, within⟩ := fetch_eq_ok fetched
  exact ⟨resp, sent, success, within,
    drains_of_readingCapped positive ended within,
    sizes, turns, positive, ended⟩

variable {ι T : Type} [DecidableEq ι]

namespace System

variable {system : System ι T} {client : Client}

/-- What the fetches of a run returned is what the fetcher makes of answers to
the GETs of the client, with room for some bytes at each read. -/
def OverHttp (system : System ι T)
    (reqwest : Reqwest Certificate Client Stream) (client : Client)
    (history : List (Event ι)) : Prop :=
  ∀ c body, .returned c body ∈ history →
    ∃ sizes turns answer, (∀ turn, 0 < sizes turn) ∧
      reqwest.sends client system.cache.url answer ∧
      fetch reqwest sizes system.cache.url turns answer = some body

omit [DecidableEq ι] in
theorem OverHttp.delivers {history : List (Event ι)} {c : ι} {body : String}
    (overHttp : system.OverHttp reqwest client history)
    (returned : .returned c (.ok body) ∈ history) :
    ∃ resp, Delivers reqwest client system.cache.url resp body := by
  obtain ⟨sizes, turns, answer, positive, sent, fetched⟩ :=
    overHttp c _ returned
  exact delivers_of_fetch positive sent fetched

/-- Over HTTP no fetch buffers more than the cap and one byte, whatever the
provider sends, and the cached keys were parsed from one whole body within the
cap, that came with a success. -/
theorem Runs.keys_over_http {schedule : List (Action ι)}
    {history : List (Event ι)} {state : State ι T}
    (run : system.Runs schedule history state)
    (overHttp : system.OverHttp reqwest client history) :
    (∀ sizes turns r,
      (readingCapped reqwest.reader sizes maxJwksBytes turns r).buf.length ≤
        maxJwksBytes + 1) ∧
    ∀ set, state.inner.keys = some set →
      ∃ resp body, Delivers reqwest client system.cache.url resp body ∧
        JwkSet.parse system.foreign body = .ok set := by
  refine ⟨fun sizes turns r => readingCapped_buf_le .., ?_⟩
  intro set cached
  obtain ⟨c, body, returned, parsed⟩ := run.keys_source cached
  obtain ⟨resp, delivers⟩ := overHttp.delivers returned
  exact ⟨resp, body, delivers, parsed⟩

end System

/-! ## The sample run over HTTP -/

namespace Sample

/-- The provider answers every GET with the document, in memory. -/
def memory : Reqwest Unit Unit Bytes :=
  oneBody Reader.slice (Text.asBytes document)

theorem fetched : ∃ turns,
    fetch memory (fun _ => 32) cache.url turns
        (.ok ⟨200, Text.asBytes document⟩) =
      some (.ok document) := by
  obtain ⟨enough, ended⟩ : ∃ enough, ∀ turns ≥ enough,
      readCapped memory.reader (fun _ => 32) maxJwksBytes cache.url turns
        (Text.asBytes document) = some (cappedText _ _ _) :=
    readCapped_ends (Reader.serves_slice _) nofun (fun _ => by decide) _
  refine ⟨enough, ?_⟩
  have text : cappedText maxJwksBytes cache.url
      (.ok (Text.asBytes document)) = .ok document :=
    cappedText_eq_ok_iff.mpr ⟨_, rfl, by decide +kernel, rfl⟩
  rw [fetch_of_success (by decide), ended enough (Nat.le_refl _), ← text]
  rfl

theorem overHttp : system.OverHttp memory () outcome.2 := by
  have documents : ∀ event ∈ outcome.2, ∀ c,
      event.returnedTo c = none ∨
        event.returnedTo c = some (.ok document) := by
    decide +kernel
  intro c body returned
  obtain ⟨turns, ended⟩ := fetched
  refine ⟨_, turns, _, fun _ => by decide, rfl, ended.trans ?_⟩
  simpa [Event.returnedTo, eq_comm] using documents _ returned c

end Sample

theorem System.Runs.keys_over_http_sample :
    ∃ resp body,
      Delivers Sample.memory () Sample.cache.url resp body ∧
      JwkSet.parse Sample.foreign body = .ok Sample.keySet :=
  (System.Runs.keys_over_http Sample.run Sample.overHttp).2 Sample.keySet
    (by decide +kernel)

end AuthOidc
