import Datapress.DataFusion.Materialize
import Datapress.Library.Fallible
import Datapress.Library.Lists

/-! The build of a query dataset of residency `auto`: it keeps the batches in memory up to a
threshold, and then writes them and the rest of the stream to the files of a generation. -/
namespace Datapress.DataFusion.Spill
open Datapress.Storage

structure RecordBatch (Row : Type) where
  rows : List Row
  /-- The memory of its buffers. -/
  bytes : Nat
deriving Repr, DecidableEq

/-- What the query engine sends, in order. -/
abbrev BatchStream (Row : Type) := List (Except String (RecordBatch Row))

/-- The files of a generation with the rows that a reader finds in them. -/
abbrev DataFiles (Row : Type) := AList fun _ : String => List Row

/-- `AsyncArrowWriter`: a file is written from its batches, in this order, or not at all. Its
answer is the compressed size. -/
abbrev ParquetWriter (Row : Type) := String → List (RecordBatch Row) → Except AppError Nat

structure SpillManifest extends GenerationManifest where
  rowCount : Nat
  byteSize : Nat
  files : List String
deriving Repr, DecidableEq

/-- The files that a writer has added, with their rows and bytes. -/
structure Written (Row : Type) where
  data : DataFiles Row
  files : List String := []
  rows : Nat := 0
  bytes : Nat := 0

inductive Built (Row : Type) where
  | resident (rows : List Row)
  | stored (data : DataFiles Row) (manifest : SpillManifest)

section
variable {Row : Type}

def RecordBatch.isEmpty (batch : RecordBatch Row) : Bool := batch.rows.isEmpty

def rowsOf (batches : List (RecordBatch Row)) : List Row := batches.flatMap (·.rows)

def bytesOf (batches : List (RecordBatch Row)) : Nat := (batches.map (·.bytes)).sum

def streamError (name message : String) : AppError :=
  .internal s!"dataset '{name}': stream error: {message}"

/-- The first loop of `build_query_auto`: the buffer, with what the stream has left when the
buffer has grown over the threshold. -/
def accumulate (name : String) (threshold : Nat) (buffer : List (RecordBatch Row))
    (bufferedBytes : Nat) : BatchStream Row →
    Except AppError (List (RecordBatch Row) × Option (BatchStream Row))
  | [] => .ok (buffer, none)
  | .error message :: _ => .error (streamError name message)
  | .ok batch :: rest =>
    if batch.isEmpty then accumulate name threshold buffer bufferedBytes rest
    else
      let bufferedBytes := bufferedBytes + batch.bytes
      let buffer := buffer ++ [batch]
      if threshold < bufferedBytes then .ok (buffer, some rest)
      else accumulate name threshold buffer bufferedBytes rest

/-- The batches of the rest of the stream that have rows. -/
def drain (name : String) : BatchStream Row → Except AppError (List (RecordBatch Row))
  | [] => .ok []
  | .error message :: _ => .error (streamError name message)
  | .ok batch :: rest =>
    if batch.isEmpty then drain name rest else (batch :: ·) <$> drain name rest

/-- One file more. -/
def writeFile (parquet : ParquetWriter Row) (file : String) (batches : List (RecordBatch Row))
    (w : Written Row) : Except AppError (Written Row) := do
  let bytes ← parquet file batches
  .ok {
    data := w.data.insert file (rowsOf batches)
    files := w.files ++ [file]
    rows := w.rows + (rowsOf batches).length
    bytes := w.bytes + bytes }

/-- `write_buffer_to_storage` -/
def writeBufferToStorage (parquet : ParquetWriter Row) (buffer : List (RecordBatch Row))
    (w : Written Row) : Except AppError (Written Row) :=
  if buffer.isEmpty then .ok w else writeFile parquet "data-0.parquet" buffer w

/-- `write_batches_to_storage` -/
def writeBatchesToStorage (name : String) (parquet : ParquetWriter Row)
    (first : RecordBatch Row) (stream : BatchStream Row) (w : Written Row) :
    Except AppError (Written Row) := do
  let rest ← drain name stream
  writeFile parquet "data-main.parquet" (first :: rest) w

/-- `build_query_auto` up to the manifest. The schema is that of the batches. -/
def buildQueryAuto (d : QueryDataset) (sql fingerprint : String) (threshold : Nat)
    (parquet : ParquetWriter Row) (stream : BatchStream Row) : Except AppError (Built Row) := do
  match ← accumulate d.name threshold [] 0 stream with
  | ([], _) => .error (.emptyDataset s!"dataset '{d.name}': query source produced no rows")
  | (buffer, none) => .ok (.resident (rowsOf buffer))
  | (first :: buffer, some rest) =>
    let written ← writeBufferToStorage parquet buffer { data := ∅ }
    let written ← writeBatchesToStorage d.name parquet first rest written
    .ok (.stored written.data {
      sqlHash := fnv1aHash sql
      schemaHash := fnv1aHash fingerprint
      rowCount := written.rows
      byteSize := written.bytes
      files := written.files })

/-! ### What is read back -/

/-- A listing of the directory is sorted by the names of the files. -/
def rowsByName (data : DataFiles Row) : List Row :=
  (data.entries.insertionSort fun a b => a.1 ≤ b.1).flatMap (·.2)

def rowsByManifest (data : DataFiles Row) (manifest : SpillManifest) : List Row :=
  manifest.files.flatMap fun file => (data.lookup file).getD []

/-- The batches with rows that the stream sends. -/
def batchesOf (stream : BatchStream Row) : List (RecordBatch Row) :=
  (stream.filterMap Except.toOption).filter (!·.isEmpty)

/-- The rows of the stream are served in the order of the stream. -/
def Built.Preserves (stream : BatchStream Row) : Built Row → Prop
  | .resident rows => rows = rowsOf (batchesOf stream)
  | .stored data manifest =>
    rowsByName data = rowsOf (batchesOf stream) ∧
    rowsByManifest data manifest = rowsOf (batchesOf stream) ∧
    manifest.rowCount = (rowsOf (batchesOf stream)).length

/-- The batches up to the one with which their bytes get over the threshold. -/
structure Crosses (threshold : Nat) (batches : List (RecordBatch Row)) (first : RecordBatch Row)
    (others : List (RecordBatch Row)) : Prop where
  starts : first :: others <+: batches
  above : threshold < bytesOf (first :: others)
  before : bytesOf (first :: others).dropLast ≤ threshold

/-- The rows of the first batch may change places with those of the others that are buffered. -/
def Interchangeable (threshold : Nat) (stream : BatchStream Row) : Prop :=
  ∀ first others, Crosses threshold (batchesOf stream) first others →
    ∃ word m n, first.rows = (List.replicate m word).flatten ∧
      rowsOf others = (List.replicate n word).flatten

/-! ### The buffer -/

variable {name : String} {threshold bufferedBytes : Nat} {stream : BatchStream Row}
  {batches buffer : List (RecordBatch Row)}

@[simp] theorem rowsOf_nil : rowsOf ([] : List (RecordBatch Row)) = [] := rfl

@[simp] theorem rowsOf_cons {batch : RecordBatch Row} :
    rowsOf (batch :: batches) = batch.rows ++ rowsOf batches := rfl

@[simp] theorem rowsOf_append {others : List (RecordBatch Row)} :
    rowsOf (batches ++ others) = rowsOf batches ++ rowsOf others := List.flatMap_append

@[simp] theorem bytesOf_append {others : List (RecordBatch Row)} :
    bytesOf (batches ++ others) = bytesOf batches + bytesOf others := by
  rw [bytesOf, List.map_append, List.sum_append]
  rfl

@[simp] theorem bytesOf_singleton {batch : RecordBatch Row} : bytesOf [batch] = batch.bytes := by
  rw [bytesOf, List.map_singleton, List.sum_singleton]

theorem batchesOf_cons_ok {batch : RecordBatch Row} {rest : BatchStream Row} :
    batchesOf (.ok batch :: rest) =
      if batch.isEmpty then batchesOf rest else batch :: batchesOf rest := by
  rw [batchesOf, List.filterMap_cons]
  simp only [Except.toOption, List.filter_cons]
  cases batch.isEmpty <;> rfl

/-- The buffer has the batches of the stream, up to the one that gets it over the threshold. -/
theorem accumulate_ok {kept : List (RecordBatch Row)} {left : Option (BatchStream Row)}
    (low : bytesOf buffer ≤ threshold)
    (ran : accumulate name threshold buffer (bytesOf buffer) stream = .ok (kept, left)) :
    ∃ more, kept = buffer ++ more ∧
      (left = none ∧ more = batchesOf stream ∧ bytesOf kept ≤ threshold ∨
        ∃ rest, left = some rest ∧ batchesOf stream = more ++ batchesOf rest ∧
          threshold < bytesOf kept ∧ bytesOf kept.dropLast ≤ threshold) := by
  induction stream generalizing buffer with
  | nil =>
      cases ran
      exact ⟨[], (List.append_nil _).symm, .inl ⟨rfl, rfl, low⟩⟩
  | cons item rest ih =>
      cases item with
      | error message => cases ran
      | ok batch =>
          rw [accumulate] at ran
          rw [batchesOf_cons_ok]
          by_cases empty : batch.isEmpty = true
          · rw [if_pos empty] at ran ⊢
            exact ih low ran
          · rw [if_neg empty] at ran ⊢
            have bytes : bytesOf buffer + batch.bytes = bytesOf (buffer ++ [batch]) := by
              rw [bytesOf_append, bytesOf_singleton]
            rw [bytes] at ran
            by_cases above : threshold < bytesOf (buffer ++ [batch])
            · rw [if_pos above] at ran
              cases ran
              refine ⟨[batch], rfl, .inr ⟨rest, rfl, rfl, above, ?_⟩⟩
              rw [List.dropLast_concat]
              exact low
            · rw [if_neg above] at ran
              obtain ⟨more, rfl, ends⟩ := ih (Nat.not_lt.mp above) ran
              refine ⟨batch :: more, List.append_assoc .., ?_⟩
              obtain ⟨none, rfl, small⟩ | ⟨after, some, same, big, before⟩ := ends
              · exact .inl ⟨none, rfl, small⟩
              · exact .inr ⟨after, some, congrArg (batch :: ·) same, big, before⟩

theorem drain_ok (ran : drain name stream = .ok batches) : batches = batchesOf stream := by
  induction stream generalizing batches with
  | nil => exact (Except.ok.inj ran).symm
  | cons item rest ih =>
      cases item with
      | error message => cases ran
      | ok batch =>
          rw [drain] at ran
          rw [batchesOf_cons_ok]
          by_cases empty : batch.isEmpty = true
          · rw [if_pos empty] at ran ⊢
            exact ih ran
          · rw [if_neg empty] at ran ⊢
            obtain ⟨others, drained, rfl⟩ := Fallible.map_ok_iff.mp ran
            rw [ih drained]

/-- The batches that cross the threshold are the first ones that do. -/
theorem Crosses.not_longer {xs ys : List (RecordBatch Row)} (starts : xs <+: ys)
    (above : threshold < bytesOf xs) (before : bytesOf ys.dropLast ≤ threshold) : xs = ys := by
  obtain ⟨rest, rfl⟩ := starts
  by_cases nothing : rest = []
  · rw [nothing, List.append_nil]
  · rw [List.dropLast_append_of_ne_nil nothing, bytesOf_append] at before
    omega

theorem Crosses.unique {first first' : RecordBatch Row} {others others' : List (RecordBatch Row)}
    (one : Crosses threshold batches first others) (two : Crosses threshold batches first' others') :
    first = first' ∧ others = others' := by
  obtain shorter | longer := List.prefix_or_prefix_of_prefix one.starts two.starts
  · exact List.cons.inj (not_longer shorter one.above two.before)
  · exact (List.cons.inj (not_longer longer two.above one.before)).imp Eq.symm Eq.symm

theorem interchangeable_iff {first : RecordBatch Row}
    (crosses : Crosses threshold (batchesOf stream) first buffer) :
    Interchangeable threshold stream ↔ first.rows ++ rowsOf buffer = rowsOf buffer ++ first.rows := by
  rw [Lists.append_comm_iff]
  constructor
  · intro may
    exact may first buffer crosses
  · intro repeated first' others' crosses'
    obtain ⟨rfl, rfl⟩ := crosses.unique crosses'
    exact repeated

/-! ### The files -/

theorem writeFile_ok {parquet : ParquetWriter Row} {file : String} {w t : Written Row}
    (ran : writeFile parquet file batches w = .ok t) :
    ∃ bytes, t = ⟨w.data.insert file (rowsOf batches), w.files ++ [file],
      w.rows + (rowsOf batches).length, bytes⟩ := by
  obtain ⟨bytes, _, made⟩ := Fallible.bind_ok_iff.mp ran
  exact ⟨_, (Except.ok.inj made).symm⟩

/-- What the files of a demoted build hold: the first batch comes after the rest of the buffer. -/
structure Layout (buffered main : List Row) (data : DataFiles Row) (manifest : SpillManifest) :
    Prop where
  byName : rowsByName data = buffered ++ main
  byManifest : rowsByManifest data manifest = buffered ++ main
  count : manifest.rowCount = (buffered ++ main).length

theorem rowsByName_single (file : String) (rows : List Row) :
    rowsByName (AList.insert file rows ∅) = rows := by
  rw [rowsByName, AList.entries_insert_of_notMem (AList.notMem_empty _)]
  simp

theorem rowsByName_pair (buffered main : List Row) :
    rowsByName (AList.insert "data-main.parquet" main (AList.insert "data-0.parquet" buffered ∅)) =
      buffered ++ main := by
  have fresh : "data-main.parquet" ∉ (AList.insert "data-0.parquet" buffered ∅ : DataFiles Row) := by
    rw [AList.mem_insert]
    exact not_or.mpr ⟨by decide, AList.notMem_empty _⟩
  have sorted : ¬ "data-main.parquet" ≤ "data-0.parquet" := by decide
  rw [rowsByName, AList.entries_insert_of_notMem fresh,
    AList.entries_insert_of_notMem (AList.notMem_empty _)]
  simp [sorted]

theorem layout {parquet : ParquetWriter Row} {first : RecordBatch Row} {rest : BatchStream Row}
    {written all : Written Row} {manifest : SpillManifest}
    (buffered : writeBufferToStorage parquet buffer { data := ∅ } = .ok written)
    (main : writeBatchesToStorage name parquet first rest written = .ok all)
    (files : manifest.files = all.files) (rows : manifest.rowCount = all.rows) :
    Layout (rowsOf buffer) (first.rows ++ rowsOf (batchesOf rest)) all.data manifest := by
  obtain ⟨others, drained, ran⟩ := Fallible.bind_ok_iff.mp main
  obtain rfl := drain_ok drained
  obtain ⟨_, rfl⟩ := writeFile_ok ran
  rw [writeBufferToStorage] at buffered
  by_cases empty : buffer.isEmpty = true
  · rw [if_pos empty] at buffered
    cases buffered
    obtain rfl := List.isEmpty_iff.mp empty
    constructor
    · exact rowsByName_single _ _
    · rw [rowsByManifest, files, List.nil_append, List.flatMap_singleton, AList.lookup_insert]
      rfl
    · rw [rows, Nat.zero_add]
      rfl
  · rw [if_neg empty] at buffered
    obtain ⟨_, rfl⟩ := writeFile_ok buffered
    constructor
    · exact rowsByName_pair _ _
    · rw [rowsByManifest, files]
      simp only [List.nil_append, List.singleton_append, List.flatMap_cons, List.flatMap_nil,
        List.append_nil]
      rw [AList.lookup_insert_ne (by decide), AList.lookup_insert, AList.lookup_insert]
      rfl
    · rw [rows, Nat.zero_add, List.length_append]
      rfl

variable {d : QueryDataset} {sql fingerprint : String} {parquet : ParquetWriter Row}

theorem Layout.preserves_iff {first : RecordBatch Row}
    {others : List (RecordBatch Row)} {data : DataFiles Row} {manifest : SpillManifest}
    (layout : Layout (rowsOf buffer) (first.rows ++ rowsOf others) data manifest)
    (whole : batchesOf stream = first :: buffer ++ others) :
    (Built.stored data manifest).Preserves stream ↔
      first.rows ++ rowsOf buffer = rowsOf buffer ++ first.rows := by
  have rows : rowsOf (batchesOf stream) = first.rows ++ rowsOf buffer ++ rowsOf others := by
    rw [whole, rowsOf_append, rowsOf_cons]
  rw [Built.Preserves, layout.byName, layout.byManifest, layout.count, rows, ← List.append_assoc]
  constructor
  · rintro ⟨same, _⟩
    exact (List.append_cancel_right same).symm
  · intro same
    rw [same]
    exact ⟨rfl, rfl, rfl⟩

/-- The rows come back in the order of the stream unless the build is demoted with rows in the
buffer that may not change places with those of the first batch. -/
theorem build_query_auto_preserves_iff {result : Built Row}
    (built : buildQueryAuto d sql fingerprint threshold parquet stream = .ok result) :
    result.Preserves stream ↔ Interchangeable threshold stream := by
  obtain ⟨⟨kept, left⟩, ran, rest⟩ := Fallible.bind_ok_iff.mp built
  obtain ⟨more, same, ends⟩ := @accumulate_ok _ _ threshold _ [] _ _ (Nat.zero_le _) ran
  rw [List.nil_append] at same
  subst same
  cases kept with
  | nil => cases rest
  | cons first buffer =>
      obtain ⟨rfl, whole, small⟩ | ⟨stream', rfl, whole, above, before⟩ := ends
      · cases rest
        rw [Built.Preserves, whole]
        apply iff_of_true rfl
        intro first' others crosses
        obtain ⟨later, split⟩ := crosses.starts
        have above := crosses.above
        rw [whole, ← split, bytesOf_append] at small
        omega
      · obtain ⟨written, buffered, rest⟩ := Fallible.bind_ok_iff.mp rest
        obtain ⟨all, main, rest⟩ := Fallible.bind_ok_iff.mp rest
        cases rest
        have crosses : Crosses threshold (batchesOf stream) first buffer :=
          ⟨⟨_, whole.symm⟩, above, before⟩
        rw [interchangeable_iff crosses]
        exact (layout buffered main rfl rfl).preserves_iff whole

end

section Runs

private def daily : QueryDataset := { name := "daily", sql := some "SELECT id FROM orders" }

private def numbers : BatchStream Nat := [.ok ⟨[1], 8⟩, .ok ⟨[2], 8⟩]

/-- The first batch gets over the threshold. -/
theorem build_query_auto_preserves_first : ∃ result,
    buildQueryAuto daily "SELECT id FROM orders" "id" 0 (fun _ _ => .ok 4) numbers = .ok result ∧
    (result.Preserves numbers ↔ Interchangeable 0 numbers) := by
  have built : buildQueryAuto daily "SELECT id FROM orders" "id" 0 (fun _ _ => .ok 4) numbers =
      .ok _ := rfl
  exact ⟨_, built, build_query_auto_preserves_iff built⟩

/-- The second batch gets over the threshold, and comes before the first. -/
theorem build_query_auto_reorders : ¬ ∀ (d : QueryDataset) (sql fingerprint : String)
    (threshold : Nat) (parquet : ParquetWriter Nat) (stream : BatchStream Nat) (result : Built Nat),
    buildQueryAuto d sql fingerprint threshold parquet stream = .ok result →
      result.Preserves stream := by
  intro preserves
  obtain ⟨byName, _⟩ := preserves daily "SELECT id FROM orders" "id" 10 (fun _ _ => .ok 4) numbers _ rfl
  have reordered : [2, 1] = [1, 2] := byName
  cases reordered

end Runs
end Datapress.DataFusion.Spill
