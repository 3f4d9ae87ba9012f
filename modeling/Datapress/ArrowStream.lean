import Datapress.Errors
import Datapress.Library.Channel
import Datapress.Library.Fallible

/-!
The Arrow IPC body of a response, which an encoder writes on a blocking thread while the
connection takes it chunk by chunk.

The encoder comes with the Arrow library or with the database, so it is a parameter: any
program that writes to what it is given and flushes it.
-/
namespace Datapress

open Interleaving Channel

abbrev Bytes := List UInt8

/-- `std::io::Error`. -/
structure IoError where
  kind : String
  message : String
deriving Repr, DecidableEq

/-- A call of an encoder to `std::io::Write`. -/
inductive WriterCall where
  | write (bytes : Bytes)
  | flush

abbrev WriterCall.Answer : WriterCall → Type
  | .write _ => Except IoError Nat
  | .flush => Except IoError Unit

abbrev Encoder (ρ : Type) := Prog WriterCall.Answer ρ

namespace Encoder

variable {ρ : Type}

/-- Runs the encoder on a `Vec<u8>`, which takes whatever is written to it. -/
def intoVec : Encoder ρ → Bytes → ρ × Bytes
  | .done result, vec => (result, vec)
  | .act (.write bytes) next, vec => intoVec (next (.ok bytes.length)) (vec ++ bytes)
  | .act .flush next, vec => intoVec (next (.ok ())) vec

/-- The length of the longest write. -/
def longestWrite : Encoder ρ → Nat
  | .done _ => 0
  | .act (.write bytes) next => max bytes.length (longestWrite (next (.ok bytes.length)))
  | .act .flush next => longestWrite (next (.ok ()))

theorem intoVec_eq (encoder : Encoder ρ) (vec : Bytes) :
    encoder.intoVec vec = ((encoder.intoVec []).1, vec ++ (encoder.intoVec []).2) := by
  induction encoder generalizing vec with
  | done result => simp only [intoVec, List.append_nil]
  | act call next ih =>
      cases call with
      | write bytes =>
          simp only [intoVec]
          rw [ih, ih _ ([] ++ bytes)]
          simp only [List.nil_append, List.append_assoc]
      | flush => exact ih _ vec

end Encoder

/-- The target size of a chunk. -/
def ARROW_CHUNK_TARGET : Nat := 64 * 1024

/-- What goes through the channel of a response body. -/
abbrev ArrowIpcItem := Except AppError Bytes

abbrev ArrowIpcSender (ρ : Type) := Sender ArrowIpcItem ρ

structure ArrowIpcChunkWriter where
  buf : Bytes := []
deriving Repr, DecidableEq

namespace ArrowIpcChunkWriter

def sendError (_ : ArrowIpcChunkWriter) (err : AppError) : ArrowIpcSender ArrowIpcChunkWriter := do
  let _ ← Prog.perform (Except.error err : ArrowIpcItem)
  pure { buf := [] }

def sendBuffered (w : ArrowIpcChunkWriter) :
    ArrowIpcSender (Except IoError Unit × ArrowIpcChunkWriter) :=
  if w.buf.isEmpty then pure (.ok (), w)
  else do
    let accepted ← Prog.perform (Except.ok w.buf : ArrowIpcItem)
    pure (if accepted then .ok () else .error ⟨"BrokenPipe", "response stream closed"⟩, { buf := [] })

def write (w : ArrowIpcChunkWriter) (bytes : Bytes) :
    ArrowIpcSender (Except IoError Nat × ArrowIpcChunkWriter) := do
  let w := { buf := w.buf ++ bytes }
  if ARROW_CHUNK_TARGET ≤ w.buf.length then
    let (sent, w) ← w.sendBuffered
    pure (sent.map fun _ => bytes.length, w)
  else pure (.ok bytes.length, w)

def flush (w : ArrowIpcChunkWriter) :
    ArrowIpcSender (Except IoError Unit × ArrowIpcChunkWriter) := w.sendBuffered

def drop (w : ArrowIpcChunkWriter) : ArrowIpcSender Unit := do
  let _ ← w.sendBuffered

/-- Runs an encoder on the writer. -/
def drive {ρ : Type} : Encoder ρ → ArrowIpcChunkWriter → ArrowIpcSender (ρ × ArrowIpcChunkWriter)
  | .done result, w => pure (result, w)
  | .act (.write bytes) next, w => do
    let (answer, w) ← w.write bytes
    drive (next answer) w
  | .act .flush next, w => do
    let (answer, w) ← w.flush
    drive (next answer) w

end ArrowIpcChunkWriter

open ArrowIpcChunkWriter in
/-- The task behind every Arrow stream: it encodes, reports a failure and drops the writer. -/
def arrowStreamTask (encoder : Encoder (Except AppError Unit)) : ArrowIpcSender Unit := do
  let (result, w) ← drive encoder {}
  let w ← match result with
    | .ok _ => pure w
    | .error err => w.sendError err
  w.drop

/-- The chunks an encoder fills and what it leaves in the writer. -/
structure Chunked (messages : List ArrowIpcItem) (chunks : List Bytes) (longest : Nat) : Prop where
  sent : messages = chunks.map .ok
  nonempty : ∀ chunk ∈ chunks, chunk ≠ []
  short : ∀ chunk ∈ chunks, chunk.length < ARROW_CHUNK_TARGET + longest

namespace Chunked

variable {first second : List ArrowIpcItem} {before after : List Bytes} {m n : Nat}

theorem nil : Chunked [] [] n := ⟨rfl, by simp, by simp⟩

theorem weaken (chunked : Chunked first before m) (larger : m ≤ n) : Chunked first before n :=
  ⟨chunked.sent, chunked.nonempty,
    fun chunk member => Nat.lt_of_lt_of_le (chunked.short chunk member) (Nat.add_le_add_left larger _)⟩

theorem append (left : Chunked first before n) (right : Chunked second after n) :
    Chunked (first ++ second) (before ++ after) n where
  sent := by rw [left.sent, right.sent, List.map_append]
  nonempty := List.forall_mem_append.mpr ⟨left.nonempty, right.nonempty⟩
  short := List.forall_mem_append.mpr ⟨left.short, right.short⟩

end Chunked

namespace ArrowIpcChunkWriter

open Sender

variable {ρ : Type} {w : ArrowIpcChunkWriter}

/-- Over an open channel the buffer goes out as one chunk, unless it is empty. -/
theorem sendBuffered_spec (small : w.buf.length < ARROW_CHUNK_TARGET + n) :
    ∃ chunks, Chunked w.sendBuffered.messages chunks n ∧ chunks.flatten = w.buf ∧
      w.sendBuffered.result = (.ok (), { buf := [] }) := by
  by_cases empty : w.buf = []
  · refine ⟨[], ?_⟩
    have same : w = { buf := [] } := by cases w; exact congrArg _ empty
    subst same
    exact ⟨.nil, rfl, rfl⟩
  · refine ⟨[w.buf], ?_⟩
    have shape : w.sendBuffered = (do
        let accepted ← Prog.perform (Except.ok w.buf : ArrowIpcItem)
        pure (if accepted then .ok () else .error ⟨"BrokenPipe", "response stream closed"⟩,
          { buf := [] })) := by
      simp [sendBuffered, empty]
    rw [shape]
    exact ⟨⟨rfl, by simpa using empty, by simpa using small⟩, by simp, rfl⟩

theorem write_spec (small : w.buf.length < ARROW_CHUNK_TARGET) (bytes : Bytes) :
    ∃ chunks after, Chunked (w.write bytes).messages chunks bytes.length ∧
      chunks.flatten ++ after.buf = w.buf ++ bytes ∧ after.buf.length < ARROW_CHUNK_TARGET ∧
      (w.write bytes).result = (.ok bytes.length, after) := by
  by_cases full : ARROW_CHUNK_TARGET ≤ (w.buf ++ bytes).length
  · have bound : (w.buf ++ bytes).length < ARROW_CHUNK_TARGET + bytes.length := by
      rw [List.length_append]; omega
    obtain ⟨chunks, chunked, whole, result⟩ :=
      sendBuffered_spec (w := { buf := w.buf ++ bytes }) bound
    refine ⟨chunks, { buf := [] }, ?_, ?_, by decide, ?_⟩
    · simpa only [write, full, if_true, messages_bind, messages_pure, List.append_nil] using chunked
    · simpa only [List.append_nil] using whole
    · simp only [write, full, if_true, result_bind, result, result_pure]
      rfl
  · refine ⟨[], { buf := w.buf ++ bytes }, ?_, rfl, Nat.lt_of_not_le full, ?_⟩
    · simpa only [write, full, if_false] using .nil
    · simp only [write, full, if_false, result_pure]

theorem drive_spec (encoder : Encoder ρ) (small : w.buf.length < ARROW_CHUNK_TARGET) :
    ∃ chunks after, Chunked (drive encoder w).messages chunks encoder.longestWrite ∧
      chunks.flatten ++ after.buf = w.buf ++ (encoder.intoVec []).2 ∧
      after.buf.length < ARROW_CHUNK_TARGET ∧
      (drive encoder w).result = ((encoder.intoVec []).1, after) := by
  induction encoder generalizing w with
  | done result => exact ⟨[], w, .nil, (List.append_nil _).symm, small, rfl⟩
  | act call next ih =>
      cases call with
      | write bytes =>
          obtain ⟨early, middle, chunked, joined, less, answered⟩ := write_spec small bytes
          obtain ⟨late, after, others, whole, least, ended⟩ := ih (.ok bytes.length) less
          refine ⟨early ++ late, after, ?_, ?_, least, ?_⟩
          · simp only [drive, messages_bind, answered]
            exact (chunked.weaken (Nat.le_max_left ..)).append (others.weaken (Nat.le_max_right ..))
          · simp only [Encoder.intoVec, List.nil_append]
            rw [Encoder.intoVec_eq, List.flatten_append, List.append_assoc, whole,
              ← List.append_assoc, joined, List.append_assoc]
          · simp only [drive, result_bind, answered, Encoder.intoVec, List.nil_append]
            rw [ended, Encoder.intoVec_eq _ bytes]
      | flush =>
          obtain ⟨early, chunked, joined, answered⟩ :=
            sendBuffered_spec (w := w) (n := Encoder.longestWrite (.act .flush next))
              (Nat.lt_add_right _ small)
          obtain ⟨late, after, others, whole, least, ended⟩ :=
            ih (.ok ()) (w := { buf := [] }) (by decide)
          refine ⟨early ++ late, after, ?_, ?_, least, ?_⟩
          · simp only [drive, flush, messages_bind, answered]
            exact chunked.append others
          · simp only [List.flatten_append, List.append_assoc, whole, List.nil_append, joined]
            rfl
          · simp only [drive, flush, result_bind, answered, ended]
            rfl

end ArrowIpcChunkWriter

/-- What the task sends while the connection is open: the bytes of the encoder in chunks; when
it fails, the error after all but a part of a chunk. -/
inductive Transcript (encoder : Encoder (Except AppError Unit)) (items : List ArrowIpcItem) : Prop where
  | complete (chunks : List Bytes) (chunked : Chunked items chunks encoder.longestWrite)
      (succeeded : (encoder.intoVec []).1 = .ok ())
      (whole : chunks.flatten = (encoder.intoVec []).2)
  | failed (chunks : List Bytes) (sent : List ArrowIpcItem) (err : AppError)
      (chunked : Chunked sent chunks encoder.longestWrite) (shape : items = sent ++ [.error err])
      (failed : (encoder.intoVec []).1 = .error err) (unsent : Bytes)
      (whole : chunks.flatten ++ unsent = (encoder.intoVec []).2)
      (little : unsent.length < ARROW_CHUNK_TARGET)

section Task

open ArrowIpcChunkWriter Sender

variable {encoder : Encoder (Except AppError Unit)}

theorem arrowStreamTask_messages (encoder : Encoder (Except AppError Unit)) :
    Transcript encoder (arrowStreamTask encoder).messages := by
  obtain ⟨chunks, after, chunked, whole, less, ended⟩ :=
    drive_spec (w := {}) encoder (by decide)
  replace whole : chunks.flatten ++ after.buf = (encoder.intoVec []).2 := whole
  cases outcome : (encoder.intoVec []).1 with
  | ok =>
      obtain ⟨tail, last, joined, _⟩ :=
        sendBuffered_spec (w := after) (n := encoder.longestWrite) (Nat.lt_add_right _ less)
      refine .complete (chunks ++ tail) ?_ outcome ?_
      · simpa only [arrowStreamTask, messages_bind, ended, outcome, messages_pure, result_pure,
          ArrowIpcChunkWriter.drop, List.append_nil, List.nil_append] using chunked.append last
      · rw [List.flatten_append, joined, whole]
  | error err =>
      refine .failed chunks _ err chunked ?_ outcome after.buf whole less
      simp only [arrowStreamTask, messages_bind, ended, outcome]
      rfl

/-- The chunks received so far are a beginning of the encoder's bytes, and nothing follows an
error, which is the encoder's own. -/
structure Received (encoder : Encoder (Except AppError Unit)) (items : List ArrowIpcItem)
    (chunks : List Bytes) (failure : Option AppError) : Prop where
  shape : items = chunks.map .ok ++ (failure.map .error).toList
  nonempty : ∀ chunk ∈ chunks, chunk ≠ []
  short : ∀ chunk ∈ chunks, chunk.length < ARROW_CHUNK_TARGET + encoder.longestWrite
  begins : chunks.flatten <+: (encoder.intoVec []).2
  own : ∀ err ∈ failure, (encoder.intoVec []).1 = .error err

theorem Chunked.received {items part : List ArrowIpcItem} {chunks : List Bytes}
    (chunked : Chunked items chunks encoder.longestWrite)
    (whole : chunks.flatten <+: (encoder.intoVec []).2) (early : part <+: items) :
    ∃ some, Received encoder part some none := by
  rw [chunked.sent] at early
  obtain ⟨some, first, rfl⟩ := List.prefix_map_iff.mp early
  refine ⟨some, by simp, fun chunk member => chunked.nonempty chunk (first.subset member),
    fun chunk member => chunked.short chunk (first.subset member), ?_, by simp⟩
  obtain ⟨rest, rfl⟩ := first
  exact (List.flatten_append ▸ List.prefix_append ..).trans whole

theorem Transcript.received {items part : List ArrowIpcItem} (transcript : Transcript encoder items)
    (early : part <+: items) : ∃ chunks failure, Received encoder part chunks failure := by
  cases transcript with
  | complete chunks chunked succeeded whole =>
      obtain ⟨some, received⟩ := chunked.received (whole ▸ List.prefix_refl _) early
      exact ⟨some, none, received⟩
  | failed chunks sent err chunked shape failed unsent whole little =>
      have begins : chunks.flatten <+: (encoder.intoVec []).2 := whole ▸ List.prefix_append ..
      subst shape
      rcases List.prefix_concat_iff.mp early with rfl | before
      · refine ⟨chunks, some err, ?_, chunked.nonempty, chunked.short, begins, ?_⟩
        · rw [chunked.sent]; rfl
        · rintro _ ⟨⟩; exact failed
      · obtain ⟨some, received⟩ := chunked.received begins before
        exact ⟨some, none, received⟩

variable {capacity : Nat} {events : List Event} {s : State ArrowIpcItem Unit}

/-- At every moment of every run, also after the connection was closed, what the connection has
received is a beginning of what the encoder writes. -/
theorem arrowStream_received
    (run : Machine.Run (step capacity) Machine.Anything (initial (arrowStreamTask encoder)) events s) :
    s.queue.length ≤ capacity ∧ ∃ chunks failure, Received encoder s.received chunks failure :=
  have sound := sound_of_run run
  ⟨sound.bounded, (arrowStreamTask_messages encoder).received sound.part⟩

/-- While the connection is open no schedule of the task and the connection goes on forever, and
one that has nothing left to do has delivered everything. -/
theorem arrowStream_finishes (positive : 0 < capacity)
    (run : Machine.Run (step capacity) Machine.Anything (initial (arrowStreamTask encoder)) events s)
    (opened : s.closed = false) {more : List Event} {t : State ArrowIpcItem Unit}
    (rest : Machine.Run (step capacity) (fun _ => Flows) s more t) :
    more.length ≤ remaining s ∧ (Machine.Rests (step capacity) Flows t →
      Transcript encoder t.received ∧ t.sender = .done ()) := by
  obtain ⟨bounded, delivered⟩ := delivers positive run opened rest
  refine ⟨bounded, fun rests => ?_⟩
  obtain ⟨all, ended⟩ := delivered rests
  exact ⟨all ▸ arrowStreamTask_messages encoder, ended⟩

/-- A statement that fails when it has written a whole chunk. -/
private def breaking : Encoder (Except AppError Unit) :=
  .act (.write (List.replicate ARROW_CHUNK_TARGET 0)) fun _ => .done (.error (.unknownColumn "x"))

private theorem breaking_task : arrowStreamTask breaking =
    .act (.ok (List.replicate ARROW_CHUNK_TARGET 0)) fun _ =>
      .act (.error (.unknownColumn "x")) fun _ => .done () := by
  have full : ARROW_CHUNK_TARGET ≤ (List.replicate ARROW_CHUNK_TARGET (0 : UInt8)).length :=
    Nat.le_of_eq List.length_replicate.symm
  have some : (List.replicate ARROW_CHUNK_TARGET (0 : UInt8)).isEmpty = false := rfl
  simp only [arrowStreamTask, breaking, drive, write, List.nil_append, full, if_true,
    sendBuffered, some, Bool.false_eq_true, if_false]
  rfl

/-- The connection takes the chunk and closes before it has the error. -/
theorem arrowStream_received_error : ∃ s : State ArrowIpcItem Unit,
    s.queue.length ≤ 8 ∧ ∃ chunks failure, Received breaking s.received chunks failure := by
  have run : Machine.Run (step 8) Machine.Anything (initial (arrowStreamTask breaking))
      [.send, .send, .receive, .close]
      { sender := .done (), queue := [], closed := true
        received := [.ok (List.replicate ARROW_CHUNK_TARGET 0)] } := by
    rw [breaking_task]
    exact Machine.run_of_exec rfl
  exact ⟨_, arrowStream_received run⟩

theorem arrowStream_finishes_error : ∃ s t : State ArrowIpcItem Unit,
    [Event.send, .receive].length ≤ remaining s ∧ (Machine.Rests (step 8) Flows t →
      Transcript breaking t.received ∧ t.sender = .done ()) := by
  have run : Machine.Run (step 8) Machine.Anything (initial (arrowStreamTask breaking))
      [.send, .receive]
      { sender := .act (.error (.unknownColumn "x")) fun _ => .done (), queue := []
        received := [.ok (List.replicate ARROW_CHUNK_TARGET 0)], closed := false } := by
    rw [breaking_task]
    exact Machine.run_of_exec rfl
  exact ⟨_, _, arrowStream_finishes (by decide) run rfl (Machine.run_of_exec rfl)⟩

end Task

/-! ### The streams of the DataFusion backend -/

section DataFusion

/-- `arrow::ipc::writer::StreamWriter`, whatever it writes to. -/
structure StreamWriter (σ Schema Batch : Type) where
  tryNew : Schema → ExceptT AppError (Prog WriterCall.Answer) σ
  write : σ → Batch → ExceptT AppError (Prog WriterCall.Answer) σ
  finish : σ → ExceptT AppError (Prog WriterCall.Answer) Unit

/-- The record batches of the Arrow library. -/
structure RecordBatches (Schema Batch : Type) where
  schema : Batch → Schema
  numRows : Batch → Nat
  newEmpty : Schema → Batch
  concatBatches : Schema → List Batch → Except AppError Batch

variable {σ Schema Batch Row : Type} (arrow : StreamWriter σ Schema Batch)
  (lib : RecordBatches Schema Batch) (empty : Schema)

/-- Empty batches are left out. -/
def encodeBatches (schema : Schema) (batches : List Batch) :
    ExceptT AppError (Prog WriterCall.Answer) Unit := do
  let w ← arrow.tryNew schema
  let w ← batches.foldlM (fun w batch =>
    if 0 < lib.numRows batch then arrow.write w batch else pure w) w
  arrow.finish w

def schemaOf (batches : List Batch) : Schema := (batches.head?.map lib.schema).getD empty

def streamArrowBatches (batches : List Batch) : ArrowIpcSender Unit :=
  arrowStreamTask (encodeBatches arrow lib (schemaOf lib empty batches) batches).run

/-- The batches of a page in one, as `query_batch` returns it. -/
def queryBatch : List Batch → Except AppError Batch
  | [] => .ok (lib.newEmpty empty)
  | [batch] => .ok batch
  | first :: rest =>
    if (first :: rest).all fun batch => lib.numRows batch = 0 then
      .ok (lib.newEmpty (lib.schema first))
    else lib.concatBatches (lib.schema first) (first :: rest)

/-- What `query_arrow` makes of the batches of a page. -/
def queryArrow (batches : List Batch) : Except AppError Bytes := do
  let batch ← queryBatch lib empty batches
  let (result, buf) := Encoder.intoVec (encodeBatches arrow lib (lib.schema batch) [batch]).run []
  result.map fun _ => buf

/-! What the backend relies on in the library. -/

structure RecordBatches.Lawful (rows : Batch → List Row) : Prop where
  numRows : ∀ batch, (rows batch).length = lib.numRows batch
  newEmpty : ∀ schema, lib.schema (lib.newEmpty schema) = schema ∧
    lib.numRows (lib.newEmpty schema) = 0
  concatBatches : ∀ schema batches joined, (∀ batch ∈ batches, lib.schema batch = schema) →
    lib.concatBatches schema batches = .ok joined →
    lib.schema joined = schema ∧ rows joined = batches.flatMap rows

/-- A whole stream. -/
def StreamWriter.writeAll (schema : Schema) (batches : List Batch) :
    ExceptT AppError (Prog WriterCall.Answer) Unit := do
  let w ← arrow.tryNew schema
  let w ← batches.foldlM arrow.write w
  arrow.finish w

/-- A reader finds what was written: one schema and the rows of all batches. -/
def StreamWriter.ReadBy (rows : Batch → List Row) (read : Bytes → Option (Schema × List Row)) :
    Prop :=
  ∀ schema batches buf, (∀ batch ∈ batches, lib.schema batch = schema) →
    Encoder.intoVec (arrow.writeAll schema batches).run [] = (.ok (), buf) →
    read buf = some (schema, batches.flatMap rows)

section Page

variable {arrow lib empty} {batches : List Batch} {rows : Batch → List Row}
  {read : Bytes → Option (Schema × List Row)}

theorem encodeBatches_eq_writeAll (schema : Schema) (batches : List Batch) :
    encodeBatches arrow lib schema batches =
      arrow.writeAll schema (batches.filter fun batch => 0 < lib.numRows batch) := by
  have filled (w : σ) : batches.foldlM (fun w batch =>
      if 0 < lib.numRows batch then arrow.write w batch else pure w) w =
      (batches.filter fun batch => 0 < lib.numRows batch).foldlM arrow.write w := by
    induction batches generalizing w with
    | nil => rfl
    | cons batch rest ih =>
        by_cases some : 0 < lib.numRows batch
        · rw [List.filter_cons, if_pos (decide_eq_true some), List.foldlM_cons, List.foldlM_cons,
            if_pos some]
          exact congrArg _ (funext ih)
        · rw [List.filter_cons, if_neg (by simpa using some), List.foldlM_cons, if_neg some]
          exact ih w
  unfold encodeBatches StreamWriter.writeAll
  exact congrArg (arrow.tryNew schema >>= ·) (funext fun w => congrArg (· >>= _) (filled w))

theorem RecordBatches.Lawful.flatMap_filled (lawful : lib.Lawful rows) (batches : List Batch) :
    (batches.filter fun batch => 0 < lib.numRows batch).flatMap rows = batches.flatMap rows := by
  induction batches with
  | nil => rfl
  | cons batch rest ih =>
      by_cases some : 0 < lib.numRows batch
      · rw [List.filter_cons, if_pos (decide_eq_true some), List.flatMap_cons, List.flatMap_cons, ih]
      · have none : rows batch = [] := by
          rw [← List.length_eq_zero_iff, lawful.numRows]
          omega
        rw [List.filter_cons, if_neg (by simpa using some), List.flatMap_cons, none, ih,
          List.nil_append]

theorem StreamWriter.ReadBy.encoded (reads : arrow.ReadBy lib rows read)
    (lawful : lib.Lawful rows) {schema : Schema} {buf : Bytes}
    (same : ∀ batch ∈ batches, lib.schema batch = schema)
    (wrote : Encoder.intoVec (encodeBatches arrow lib schema batches).run [] = (.ok (), buf)) :
    read buf = some (schema, batches.flatMap rows) := by
  rw [encodeBatches_eq_writeAll] at wrote
  rw [← lawful.flatMap_filled]
  exact reads _ _ _ (fun batch member => same batch (List.mem_of_mem_filter member)) wrote

/-- One batch holds the page. -/
theorem queryBatch_ok (lawful : lib.Lawful rows)
    (same : ∀ batch ∈ batches, lib.schema batch = schemaOf lib empty batches) {batch : Batch}
    (joined : queryBatch lib empty batches = .ok batch) :
    lib.schema batch = schemaOf lib empty batches ∧ rows batch = batches.flatMap rows := by
  have none {batch : Batch} (zero : lib.numRows batch = 0) : rows batch = [] :=
    List.length_eq_zero_iff.mp ((lawful.numRows batch).trans zero)
  unfold queryBatch at joined
  split at joined
  · cases joined
    exact ⟨(lawful.newEmpty _).1, none (lawful.newEmpty _).2⟩
  · cases joined
    exact ⟨rfl, (List.append_nil _).symm⟩
  case h_3 first rest _ =>
    split at joined
    case isTrue all =>
      cases joined
      refine ⟨(lawful.newEmpty _).1, (none (lawful.newEmpty _).2).trans ?_⟩
      refine (List.flatMap_eq_nil_iff.mpr fun batch member => none ?_).symm
      exact of_decide_eq_true (List.all_eq_true.mp all batch member)
    case isFalse => exact lawful.concatBatches _ _ _ same joined

/-- The page is encoded as it is when it is one batch or has no rows. -/
theorem queryArrow_single (lawful : lib.Lawful rows)
    (single : batches.length ≤ 1 ∨ ∀ batch ∈ batches, lib.numRows batch = 0) :
    queryArrow arrow lib empty batches =
      let (result, buf) := Encoder.intoVec
        (encodeBatches arrow lib (schemaOf lib empty batches) batches).run []
      result.map fun _ => buf := by
  have vacant (schema : Schema) (others : List Batch)
      (zero : ∀ batch ∈ others, lib.numRows batch = 0) :
      encodeBatches arrow lib schema others = arrow.writeAll schema [] := by
    have filtered : (others.filter fun batch => 0 < lib.numRows batch) = [] :=
      List.filter_eq_nil_iff.mpr fun batch member => by simp [zero batch member]
    rw [encodeBatches_eq_writeAll, filtered]
  rcases batches with _ | ⟨first, _ | ⟨second, rest⟩⟩
  · obtain ⟨schema, zero⟩ := lawful.newEmpty empty
    simp only [queryArrow, queryBatch]
    rw [Fallible.ok_bind, schema, vacant _ _ (List.forall_mem_singleton.mpr zero)]
    rfl
  · rfl
  · obtain ⟨schema, zero⟩ := lawful.newEmpty (lib.schema first)
    have none := single.resolve_left (by simp)
    have all : (first :: second :: rest).all (fun batch => lib.numRows batch = 0) = true :=
      List.all_eq_true.mpr fun batch member => decide_eq_true (none batch member)
    simp only [queryArrow, queryBatch, all, if_true]
    rw [Fallible.ok_bind, schema, vacant _ _ (List.forall_mem_singleton.mpr zero),
      vacant _ _ none]
    rfl

/-- A stream that has ended holds the buffered answer of the same page in chunks, or ends with its
error, when the page is one batch or has no rows. Of several batches both hold the same rows. -/
theorem streamArrowBatches_eq_queryArrow (lawful : lib.Lawful rows) (reads : arrow.ReadBy lib rows read)
    (same : ∀ batch ∈ batches, lib.schema batch = schemaOf lib empty batches)
    {capacity : Nat} (positive : 0 < capacity) {events : List Event}
    {s : State ArrowIpcItem Unit} (opened : s.closed = false)
    (run : Machine.Run (step capacity) Machine.Anything
      (initial (streamArrowBatches arrow lib empty batches)) events s)
    (rests : Machine.Rests (step capacity) Flows s) :
    (batches.length ≤ 1 ∨ (∀ batch ∈ batches, lib.numRows batch = 0) →
      (∀ buf, queryArrow arrow lib empty batches = .ok buf →
        ∃ chunks : List Bytes, s.received = chunks.map .ok ∧ chunks.flatten = buf) ∧
      ∀ err, queryArrow arrow lib empty batches = .error err →
        ∃ chunks : List Bytes, s.received = chunks.map .ok ++ [.error err]) ∧
    ∀ buf, queryArrow arrow lib empty batches = .ok buf → (∀ err, .error err ∉ s.received) →
      ∃ chunks : List Bytes, s.received = chunks.map .ok ∧
        read chunks.flatten = some (schemaOf lib empty batches, batches.flatMap rows) ∧
        read buf = some (schemaOf lib empty batches, batches.flatMap rows) := by
  have all := ((delivers positive run opened (.nil s)).2 rests).1
  have transcript := all ▸ arrowStreamTask_messages
    (encodeBatches arrow lib (schemaOf lib empty batches) batches).run
  have buffered {buf : Bytes} (answer : queryArrow arrow lib empty batches = .ok buf) :
      read buf = some (schemaOf lib empty batches, batches.flatMap rows) := by
    obtain ⟨batch, joined, encoded⟩ := Fallible.bind_ok_iff.mp answer
    obtain ⟨schema, whole⟩ := queryBatch_ok lawful same joined
    obtain ⟨_, wrote, rfl⟩ := Fallible.map_ok_iff.mp encoded
    have read_one := reads.encoded lawful (List.forall_mem_singleton.mpr rfl)
      (Prod.ext wrote rfl)
    rw [read_one, schema, List.flatMap_singleton, whole]
  cases transcript with
  | complete chunks chunked succeeded whole =>
      have streamed : Encoder.intoVec
          (encodeBatches arrow lib (schemaOf lib empty batches) batches).run [] =
          (.ok (), chunks.flatten) := Prod.ext succeeded whole.symm
      refine ⟨fun single => ?_, fun buf answer _ => ?_⟩
      · have answer : queryArrow arrow lib empty batches = .ok chunks.flatten := by
          rw [queryArrow_single lawful single, streamed]
          rfl
        refine ⟨fun buf one => ⟨chunks, chunked.sent, ?_⟩, fun err one => ?_⟩
        · exact Except.ok.inj (answer.symm.trans one)
        · cases answer.symm.trans one
      · exact ⟨chunks, chunked.sent, reads.encoded lawful same streamed, buffered answer⟩
  | failed chunks sent err chunked shape failed unsent whole little =>
      refine ⟨fun single => ?_, fun buf _ sound => absurd ?_ (sound err)⟩
      · have answer : queryArrow arrow lib empty batches = .error err := by
          rw [queryArrow_single lawful single]
          exact congrArg (Except.map _) failed
        refine ⟨fun buf one => ?_, fun other one => ⟨chunks, ?_⟩⟩
        · cases answer.symm.trans one
        · rw [shape, chunked.sent, Except.error.inj (answer.symm.trans one)]
      · rw [shape]
        exact List.mem_append_right _ List.mem_cons_self

end Page

section Runs

/-- Batches of bytes, each of which is written with a mark before it. -/
private def byteBatches : RecordBatches Unit Bytes where
  schema _ := ()
  numRows := List.length
  newEmpty _ := []
  concatBatches _ batches := .ok batches.flatten

private def markWriter : StreamWriter Unit Unit Bytes where
  tryNew _ := put [255]
  write _ batch := put (batch.flatMap fun byte => [1, byte])
  finish _ := put [0]
where
  put (bytes : Bytes) : ExceptT AppError (Prog WriterCall.Answer) Unit := do
    let _ ← (Prog.perform (WriterCall.write bytes) : Encoder (Except IoError Nat))

private def marked : Bytes → Option Bytes
  | [0] => some []
  | 1 :: byte :: rest => (marked rest).map (byte :: ·)
  | _ => none

private def readMarks : Bytes → Option (Unit × Bytes)
  | 255 :: rest => (marked rest).map fun bytes => ((), bytes)
  | _ => none

private theorem byteBatches_lawful : byteBatches.Lawful id where
  numRows _ := rfl
  newEmpty _ := ⟨rfl, rfl⟩
  concatBatches _ _ _ _ joined := by
    cases joined
    exact ⟨rfl, List.flatMap_id.symm⟩

private theorem marked_flatMap (batch rest : Bytes) :
    marked (batch.flatMap (fun byte => [1, byte]) ++ rest) = (marked rest).map (batch ++ ·) := by
  induction batch with
  | nil => exact Option.map_id'.symm
  | cons byte batch ih =>
      change (marked (batch.flatMap (fun byte => [1, byte]) ++ rest)).map (byte :: ·) = _
      rw [ih, Option.map_map]
      rfl

private theorem markWriter_read : markWriter.ReadBy byteBatches id readMarks := by
  intro _ batches buf _ wrote
  have written (batches : List Bytes) (vec : Bytes) :
      Encoder.intoVec (batches.foldlM markWriter.write () >>= markWriter.finish).run vec =
        (.ok (), vec ++ batches.flatMap (fun batch => batch.flatMap fun byte => [1, byte]) ++ [0]) := by
    induction batches generalizing vec with
    | nil =>
        rw [List.flatMap_nil, List.append_nil]
        rfl
    | cons batch rest ih =>
        rw [List.flatMap_cons, ← List.append_assoc vec]
        exact ih _
  have whole := wrote.symm.trans (written batches [255])
  cases whole
  have marks (batches : List Bytes) :
      marked (batches.flatMap (fun batch => batch.flatMap fun byte => [1, byte]) ++ [0]) =
        some (batches.flatMap id) := by
    induction batches with
    | nil => rfl
    | cons batch rest ih =>
        rw [List.flatMap_cons, List.append_assoc, marked_flatMap, ih]
        rfl
  exact congrArg (Option.map fun bytes => ((), bytes)) (marks batches)

/-- A page of two batches, which the buffered answer joins. -/
theorem streamArrowBatches_eq_queryArrow_mark : ∃ s : State ArrowIpcItem Unit,
    ([[7], [8, 9]].length ≤ 1 ∨ (∀ batch ∈ [[7], [8, 9]], byteBatches.numRows batch = 0) →
      (∀ buf, queryArrow markWriter byteBatches () [[7], [8, 9]] = .ok buf →
        ∃ chunks : List Bytes, s.received = chunks.map .ok ∧ chunks.flatten = buf) ∧
      ∀ err, queryArrow markWriter byteBatches () [[7], [8, 9]] = .error err →
        ∃ chunks : List Bytes, s.received = chunks.map .ok ++ [.error err]) ∧
    ∀ buf, queryArrow markWriter byteBatches () [[7], [8, 9]] = .ok buf →
      (∀ err, .error err ∉ s.received) →
      ∃ chunks : List Bytes, s.received = chunks.map .ok ∧
        readMarks chunks.flatten = some (schemaOf byteBatches () [[7], [8, 9]],
          [[7], [8, 9]].flatMap id) ∧
        readMarks buf = some (schemaOf byteBatches () [[7], [8, 9]], [[7], [8, 9]].flatMap id) := by
  have run : Machine.Run (step 8) Machine.Anything
      (initial (streamArrowBatches markWriter byteBatches () [[7], [8, 9]])) [.send, .receive]
      { sender := .done (), queue := [], closed := false
        received := [.ok [255, 1, 7, 1, 8, 1, 9, 0]] } :=
    Machine.run_of_exec rfl
  refine ⟨_, streamArrowBatches_eq_queryArrow byteBatches_lawful markWriter_read (fun _ _ => rfl)
    (by decide) rfl run fun e flows => ?_⟩
  cases e with
  | send | receive => rfl
  | close => exact absurd rfl flows

end Runs
end DataFusion
end Datapress
