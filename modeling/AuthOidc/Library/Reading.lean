import Mathlib.Data.List.Basic
import Mathlib.Order.Basic

/-!
# Reading to the end

A reader hands out bytes in chunks of its own choice, may be interrupted, and
ends or fails at some point.  Whoever reads to the end asks again after every
interruption, with a buffer of any size.  What comes out depends on the bytes
and on the ending only, and a limit on the reader bounds what is buffered at
every moment, whatever the reader does.
-/

namespace Reading

/-- What one call of `read` comes to; no bytes mean the end. -/
inductive Answer (Error : Type*) where
  | bytes (chunk : List UInt8)
  | interrupted
  | failed (error : Error)

/-- A reader hands out no more than it is asked for. -/
structure Reader (State Error : Type*) where
  read : State → Nat → Answer Error × State
  length_le : ∀ {state after size chunk},
    read state size = (.bytes chunk, after) → chunk.length ≤ size

/-- How far a loop that reads to the end has come. -/
structure Progress (State Error : Type*) where
  state : State
  buf : List UInt8
  result : Option (Except Error (List UInt8))

variable {State Error : Type*}

/-- Nothing read yet. -/
def Progress.start (state : State) : Progress State Error where
  state := state
  buf := []
  result := none

namespace Reader

/-- One turn of that loop, with room for `size` bytes. -/
def turn (reader : Reader State Error) (size : Nat)
    (progress : Progress State Error) : Progress State Error :=
  match progress.result with
  | some _ => progress
  | none =>
      match reader.read progress.state size with
      | (.bytes [], after) =>
          { progress with state := after, result := some (.ok progress.buf) }
      | (.bytes chunk, after) =>
          { progress with state := after, buf := progress.buf ++ chunk }
      | (.interrupted, after) => { progress with state := after }
      | (.failed error, after) =>
          { progress with state := after, result := some (.error error) }

/-- The first turns of the loop that reads to the end. -/
def readToEnd (reader : Reader State Error) (sizes : Nat → Nat) :
    Nat → Progress State Error → Progress State Error
  | 0, progress => progress
  | turns + 1, progress =>
      readToEnd reader (fun later => sizes (later + 1)) turns
        (reader.turn (sizes 0) progress)

/-- `take`: the reader, up to a number of bytes. -/
def take (reader : Reader State Error) : Reader (State × Nat) Error where
  read := fun (state, limit) size =>
    if limit = 0 then (.bytes [], (state, limit))
    else
      match reader.read state (min size limit) with
      | (.bytes chunk, after) => (.bytes chunk, (after, limit - chunk.length))
      | (.interrupted, after) => (.interrupted, (after, limit))
      | (.failed error, after) => (.failed error, (after, limit))
  length_le := by
    rintro ⟨state, limit⟩ after size chunk given
    dsimp only at given
    split at given
    · cases given
      exact Nat.zero_le _
    · split at given
      · rename_i bytes inner
        cases given
        exact Nat.le_trans (reader.length_le inner) (Nat.min_le_left _ _)
      · cases given
      · cases given

end Reader

/-- How a reader goes on after the bytes that are known of it. -/
inductive Ending (Error : Type*) where
  | eof
  | failed (error : Error)
  | unknown

/-- The reader hands out the content, in any chunks and with interruptions
between them, and ends as said.  Where nothing is known of what follows, it is
asked for no more than the content. -/
inductive Serves (reader : Reader State Error) :
    State → List UInt8 → Ending Error → Prop where
  | eof {state : State} (after : Nat → State) :
      (∀ size, 0 < size → reader.read state size = (.bytes [], after size)) →
      Serves reader state [] .eof
  | failed {state : State} {error : Error} (after : Nat → State) :
      (∀ size, 0 < size →
        reader.read state size = (.failed error, after size)) →
      Serves reader state [] (.failed error)
  | unknown {state : State} : Serves reader state [] .unknown
  | interrupted {state : State} {content : List UInt8}
      {ending : Ending Error} (after : Nat → State) :
      (∀ size, 0 < size →
        reader.read state size = (.interrupted, after size)) →
      (∀ size, 0 < size → Serves reader (after size) content ending) →
      Serves reader state content ending
  | chunk {state : State} {content : List UInt8} {ending : Ending Error}
      (after : Nat → State) (given : Nat → Nat) :
      content ≠ [] →
      (∀ size, 0 < size → (ending = .unknown → size ≤ content.length) →
        0 < given size ∧
          reader.read state size =
            (.bytes (content.take (given size)), after size)) →
      (∀ size, 0 < size → (ending = .unknown → size ≤ content.length) →
        Serves reader (after size) (content.drop (given size)) ending) →
      Serves reader state content ending

/-- Everything that a reader hands out, asked for some bytes each time, until
it says that there is no more. -/
inductive Drains (reader : Reader State Error) :
    State → List UInt8 → Prop where
  | eof {state after : State} {size : Nat} :
      0 < size → reader.read state size = (.bytes [], after) →
      Drains reader state []
  | interrupted {state after : State} {size : Nat} {content : List UInt8} :
      reader.read state size = (.interrupted, after) →
      Drains reader after content → Drains reader state content
  | chunk {state after : State} {size : Nat} {chunk content : List UInt8} :
      reader.read state size = (.bytes chunk, after) → chunk ≠ [] →
      Drains reader after content → Drains reader state (chunk ++ content)

/-- What reading to the end comes to. -/
def Ending.result : Ending Error → List UInt8 →
    Option (Except Error (List UInt8))
  | .eof, content => some (.ok content)
  | .failed error, _ => some (.error error)
  | .unknown, _ => none

namespace Reader

variable {reader : Reader State Error} {sizes : Nat → Nat}

theorem turn_of_ended {progress : Progress State Error}
    {result : Except Error (List UInt8)}
    (ended : progress.result = some result) (size : Nat) :
    reader.turn size progress = progress := by
  simp [turn, ended]

theorem readToEnd_of_ended {progress : Progress State Error}
    {result : Except Error (List UInt8)}
    (ended : progress.result = some result) (turns : Nat) :
    reader.readToEnd sizes turns progress = progress := by
  induction turns generalizing sizes with
  | zero => rfl
  | succ turns induction =>
      rw [readToEnd, turn_of_ended ended]
      exact induction

/-- One turn that does not end the loop is followed by the rest. -/
theorem ends_of_turn {progress next : Progress State Error}
    {result : Option (Except Error (List UInt8))}
    (turned : reader.turn (sizes 0) progress = next)
    (ends : ∃ enough, ∀ turns ≥ enough, (reader.readToEnd
      (fun later => sizes (later + 1)) turns next).result = result) :
    ∃ enough, ∀ turns ≥ enough,
      (reader.readToEnd sizes turns progress).result = result := by
  obtain ⟨enough, ended⟩ := ends
  refine ⟨enough + 1, ?_⟩
  intro turns many
  obtain ⟨more, rfl⟩ := Nat.exists_eq_add_of_le' many
  rw [← Nat.add_assoc, readToEnd, turned]
  exact ended _ (Nat.le_add_left _ _)

theorem ends_of_result {progress next : Progress State Error}
    {result : Except Error (List UInt8)}
    (turned : reader.turn (sizes 0) progress = next)
    (ended : next.result = some result) :
    ∃ enough, ∀ turns ≥ enough,
      (reader.readToEnd sizes turns progress).result = some result :=
  ends_of_turn turned ⟨0, fun turns _ => by
    rw [readToEnd_of_ended ended, ended]⟩

theorem turn_eof {state after : State} {buf : List UInt8} {size : Nat}
    (given : reader.read state size = (.bytes [], after)) :
    (reader.turn size ⟨state, buf, none⟩).result = some (.ok buf) := by
  simp [turn, given]

theorem turn_failed {state after : State} {buf : List UInt8} {size : Nat}
    {error : Error} (given : reader.read state size = (.failed error, after)) :
    (reader.turn size ⟨state, buf, none⟩).result = some (.error error) := by
  simp [turn, given]

theorem turn_interrupted {state after : State} {buf : List UInt8}
    {size : Nat} (given : reader.read state size = (.interrupted, after)) :
    reader.turn size ⟨state, buf, none⟩ = ⟨after, buf, none⟩ := by
  simp [turn, given]

theorem turn_chunk {state after : State} {buf chunk : List UInt8}
    {size : Nat} (some : chunk ≠ [])
    (given : reader.read state size = (.bytes chunk, after)) :
    reader.turn size ⟨state, buf, none⟩ = ⟨after, buf ++ chunk, none⟩ := by
  cases chunk with
  | nil => exact absurd rfl some
  | cons byte rest => simp [turn, given]

/-- Reading to the end gives the content, or the error that follows it, in
whatever chunks the bytes come. -/
theorem ends_of_serves {state : State} {content : List UInt8}
    {ending : Ending Error} (serves : Serves reader state content ending)
    (known : ending ≠ .unknown) (positive : ∀ turn, 0 < sizes turn)
    (buf : List UInt8) :
    ∃ enough, ∀ turns ≥ enough,
      (reader.readToEnd sizes turns ⟨state, buf, none⟩).result =
        ending.result (buf ++ content) := by
  induction serves generalizing sizes buf with
  | eof _ given =>
      rw [List.append_nil]
      exact ends_of_result rfl (turn_eof (given _ (positive 0)))
  | failed _ given =>
      exact ends_of_result rfl (turn_failed (given _ (positive 0)))
  | unknown => exact absurd rfl known
  | interrupted _ given _ induction =>
      exact ends_of_turn (turn_interrupted (given _ (positive 0)))
        (induction _ (positive 0) known (fun _ => positive _) buf)
  | @chunk _ content ending _ given nonempty reads _ induction =>
      have asked : ending = .unknown → sizes 0 ≤ content.length :=
        fun same => absurd same known
      obtain ⟨givenPositive, read⟩ := reads _ (positive 0) asked
      have someBytes : content.take (given (sizes 0)) ≠ [] := by
        simp [nonempty, Nat.ne_of_gt givenPositive]
      have later := induction _ (positive 0) asked known
        (fun turn => positive (turn + 1))
        (buf ++ content.take (given (sizes 0)))
      rw [List.append_assoc, List.take_append_drop] at later
      exact ends_of_turn (turn_chunk someBytes read) later

/-- A loop that came to its end has drained the reader. -/
theorem drains_of_readToEnd {state : State} {buf whole : List UInt8}
    {turns : Nat} (positive : ∀ turn, 0 < sizes turn)
    (ended : (reader.readToEnd sizes turns ⟨state, buf, none⟩).result =
      some (.ok whole)) :
    ∃ content, whole = buf ++ content ∧ Drains reader state content := by
  induction turns generalizing sizes state buf with
  | zero => cases ended
  | succ turns induction =>
      rw [readToEnd] at ended
      cases given : reader.read state (sizes 0) with
      | mk answer after =>
          cases answer with
          | bytes chunk =>
              by_cases last : chunk = []
              · subst last
                rw [readToEnd_of_ended (turn_eof given), turn_eof given]
                  at ended
                cases ended
                exact ⟨[], by simp, .eof (positive 0) given⟩
              · rw [turn_chunk last given] at ended
                obtain ⟨content, rfl, drains⟩ :=
                  induction (fun turn => positive (turn + 1)) ended
                exact ⟨chunk ++ content, List.append_assoc ..,
                  .chunk given last drains⟩
          | interrupted =>
              rw [turn_interrupted given] at ended
              obtain ⟨content, rfl, drains⟩ :=
                induction (fun turn => positive (turn + 1)) ended
              exact ⟨content, rfl, .interrupted given drains⟩
          | failed error =>
              rw [readToEnd_of_ended (turn_failed given), turn_failed given]
                at ended
              cases ended

/-! ## Under a limit -/

theorem take_read_of_pos (reader : Reader State Error) (state : State)
    {limit : Nat} (positive : 0 < limit) (size : Nat) :
    reader.take.read (state, limit) size =
      match reader.read state (min size limit) with
      | (.bytes chunk, after) => (.bytes chunk, (after, limit - chunk.length))
      | (.interrupted, after) => (.interrupted, (after, limit))
      | (.failed error, after) => (.failed error, (after, limit)) :=
  if_neg (Nat.ne_of_gt positive)

/-- Below its limit the reader answers for itself. -/
theorem read_of_take_read {state : State} {limit size : Nat}
    {answer : Answer Error} {after : State × Nat} (positive : 0 < limit)
    (given : reader.take.read (state, limit) size = (answer, after)) :
    reader.read state (min size limit) = (answer, after.1) ∧
      (∀ chunk, answer = .bytes chunk → after.2 = limit - chunk.length) ∧
      (answer = .interrupted → after.2 = limit) := by
  rw [take_read_of_pos reader state positive] at given
  cases inner : reader.read state (min size limit) with
  | mk found next =>
      rw [inner] at given
      cases found <;> cases given <;> simp

/-- What is drained without reaching the limit is all there is. -/
theorem drains_of_take {start : State × Nat} {content : List UInt8}
    (drains : Drains reader.take start content)
    (short : content.length < start.2) : Drains reader start.1 content := by
  induction drains with
  | @eof start after size asked given =>
      obtain ⟨read, _, _⟩ := read_of_take_read short given
      exact .eof (Nat.lt_min.mpr ⟨asked, short⟩) read
  | @interrupted start after size content given _ induction =>
      obtain ⟨read, _, kept⟩ :=
        read_of_take_read (Nat.zero_lt_of_lt short) given
      exact .interrupted read (induction (by rwa [kept rfl]))
  | @chunk start after size chunk content given nonempty _ induction =>
      obtain ⟨read, taken, _⟩ :=
        read_of_take_read (Nat.zero_lt_of_lt short) given
      rw [List.length_append] at short
      refine .chunk read nonempty (induction ?_)
      rw [taken chunk rfl]
      omega

theorem take_turn_add {limit : Nat} {progress : Progress (State × Nat) Error}
    (kept : progress.buf.length + progress.state.2 = limit) (size : Nat) :
    (reader.take.turn size progress).buf.length +
      (reader.take.turn size progress).state.2 = limit := by
  rcases progress with ⟨⟨state, left⟩, buf, _ | result⟩
  · rcases Nat.eq_zero_or_pos left with rfl | positive
    · simpa [turn, take] using kept
    · cases given : reader.read state (min size left) with
      | mk answer after =>
          have read := reader.take_read_of_pos state positive size
          rw [given] at read
          cases answer with
          | bytes chunk =>
              cases chunk with
              | nil => simpa [turn, read] using kept
              | cons byte rest =>
                  have short := Nat.le_trans (reader.length_le given)
                    (Nat.min_le_right size left)
                  dsimp only at kept
                  simp only [turn, read, List.length_append]
                  omega
          | interrupted => simpa [turn, read] using kept
          | failed error => simpa [turn, read] using kept
  · exact kept

/-- What is buffered and what may still come make up the limit, at every turn
and whatever the reader does. -/
theorem buffered_add_limit {limit : Nat}
    {progress : Progress (State × Nat) Error}
    (kept : progress.buf.length + progress.state.2 = limit) (turns : Nat) :
    (reader.take.readToEnd sizes turns progress).buf.length +
      (reader.take.readToEnd sizes turns progress).state.2 = limit := by
  induction turns generalizing sizes progress with
  | zero => exact kept
  | succ turns induction => exact induction (take_turn_add kept _)

theorem serves_take_zero {state : State} {content : List UInt8}
    {ending : Ending Error} :
    Serves reader.take (state, 0) (content.take 0)
      (if 0 ≤ content.length then .eof else ending) := by
  rw [if_pos (Nat.zero_le _), List.take_zero]
  exact .eof (fun _ => (state, 0)) fun _ _ => rfl

/-- What is left of a limited content once some of it was given. -/
theorem take_given {content : List UInt8} {given limit : Nat}
    (short : (content.take given).length ≤ limit) :
    (content.take limit).take given = content.take given ∧
      (content.take limit).drop given =
        (content.drop given).take (limit - (content.take given).length) ∧
      (limit - (content.take given).length ≤ (content.drop given).length ↔
        limit ≤ content.length) := by
  rw [List.length_take] at short ⊢
  rw [List.length_drop]
  rcases Nat.le_total given content.length with within | beyond
  · rw [Nat.min_eq_left within] at short ⊢
    refine ⟨?_, List.drop_take .., by omega⟩
    rw [List.take_take, Nat.min_eq_left short]
  · rw [Nat.min_eq_right beyond] at short ⊢
    rw [List.take_of_length_le short, List.drop_of_length_le beyond]
    exact ⟨rfl, by simp, by omega⟩

/-- Under a limit a reader serves the content up to there. -/
theorem serves_take {state : State} {content : List UInt8}
    {ending : Ending Error} (serves : Serves reader state content ending)
    {limit : Nat} (enough : ending = .unknown → limit ≤ content.length) :
    Serves reader.take (state, limit) (content.take limit)
      (if limit ≤ content.length then .eof else ending) := by
  rcases Nat.eq_zero_or_pos limit with rfl | positive
  · exact serves_take_zero
  induction serves generalizing limit with
  | eof after given =>
      rw [List.take_nil, List.length_nil, if_neg (Nat.not_le.mpr positive)]
      refine .eof (fun size => (after (min size limit), limit)) ?_
      intro size sizePositive
      rw [take_read_of_pos reader _ positive,
        given _ (Nat.lt_min.mpr ⟨sizePositive, positive⟩)]
      rfl
  | failed after given =>
      rw [List.take_nil, List.length_nil, if_neg (Nat.not_le.mpr positive)]
      refine .failed (fun size => (after (min size limit), limit)) ?_
      intro size sizePositive
      rw [take_read_of_pos reader _ positive,
        given _ (Nat.lt_min.mpr ⟨sizePositive, positive⟩)]
  | unknown => exact absurd (enough rfl) (Nat.not_le.mpr positive)
  | interrupted after given _ induction =>
      refine .interrupted (fun size => (after (min size limit), limit)) ?_ ?_
      · intro size sizePositive
        rw [take_read_of_pos reader _ positive,
          given _ (Nat.lt_min.mpr ⟨sizePositive, positive⟩)]
      · intro size sizePositive
        exact induction _ (Nat.lt_min.mpr ⟨sizePositive, positive⟩) enough
          positive
  | @chunk _ content ending after given nonempty reads _ induction =>
      have asked : ∀ size, ending = .unknown →
          min size limit ≤ content.length := fun size same =>
        Nat.le_trans (Nat.min_le_right _ _) (enough same)
      have short : ∀ size, 0 < size →
          (content.take (given (min size limit))).length ≤ limit := by
        intro size sizePositive
        have read := (reads _ (Nat.lt_min.mpr ⟨sizePositive, positive⟩)
          (asked size)).2
        exact Nat.le_trans (reader.length_le read) (Nat.min_le_right _ _)
      refine .chunk
        (fun size => (after (min size limit),
          limit - (content.take (given (min size limit))).length))
        (fun size => given (min size limit))
        (by simp [nonempty, Nat.ne_of_gt positive]) ?_ ?_
      · intro size sizePositive _
        obtain ⟨givenPositive, read⟩ :=
          reads _ (Nat.lt_min.mpr ⟨sizePositive, positive⟩) (asked size)
        refine ⟨givenPositive, ?_⟩
        rw [take_read_of_pos reader _ positive, read,
          (take_given (short size sizePositive)).1]
      · intro size sizePositive _
        obtain ⟨_, dropped, remains⟩ := take_given (short size sizePositive)
        rw [dropped]
        simp only [← remains]
        rcases Nat.eq_zero_or_pos
          (limit - (content.take (given (min size limit))).length) with
          exhausted | left
        · rw [exhausted]
          exact serves_take_zero
        · exact induction _ (Nat.lt_min.mpr ⟨sizePositive, positive⟩)
            (asked size) (fun same => remains.mpr (enough same)) left

/-! ## Two readers -/

/-- Bytes in memory. -/
def slice : Reader (List UInt8) Error where
  read := fun bytes size => (.bytes (bytes.take size), bytes.drop size)
  length_le := by
    intro bytes after size chunk given
    cases given
    exact List.length_take_le ..

theorem serves_slice (bytes : List UInt8) :
    Serves (slice : Reader (List UInt8) Error) bytes bytes .eof := by
  cases bytes with
  | nil => exact .eof (fun _ => []) fun size _ => by simp [slice]
  | cons byte rest =>
      refine .chunk (fun size => (byte :: rest).drop size) id (by simp)
        (fun size positive _ => ⟨positive, rfl⟩) ?_
      intro size positive _
      exact serves_slice _
termination_by bytes.length
decreasing_by
  simp only [List.length_drop, List.length_cons]
  omega

/-- One byte for ever. -/
def repeated (byte : UInt8) : Reader Unit Error where
  read := fun _ size => (.bytes (.replicate size byte), ())
  length_le := by
    intro _ after size chunk given
    cases given
    exact Nat.le_of_eq List.length_replicate

theorem serves_repeated (byte : UInt8) (count : Nat) :
    Serves (repeated byte : Reader Unit Error) () (.replicate count byte)
      .unknown := by
  cases count with
  | zero => exact .unknown
  | succ count =>
      refine .chunk (fun _ => ()) id (by simp) ?_ ?_
      · intro size positive short
        rw [List.length_replicate] at short
        refine ⟨positive, ?_⟩
        rw [id_eq, List.take_replicate, Nat.min_eq_left (short rfl)]
        rfl
      · intro size positive _
        rw [id_eq, List.drop_replicate]
        exact serves_repeated byte _
termination_by count
decreasing_by omega

end Reader

end Reading
