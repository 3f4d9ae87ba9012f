import Datapress.DataFusion.Spill
import Datapress.DuckDB.Course

/-!
Where the result of a query dataset goes, memory or storage: the documented rule beside the
decisions of both backends.
-/
namespace Datapress.DataFusion.Spill
open Datapress.Storage
open Datapress.DataFusion.Materialize (effectiveResidency)

section
variable {Row : Type}

def emptyDataset (name : String) : AppError :=
  .emptyDataset s!"dataset '{name}': query source produced no rows"

/-- `DataFrame::collect`. -/
def collect (name : String) : BatchStream Row → Except AppError (List (RecordBatch Row))
  | [] => .ok []
  | .error message :: _ => .error (.internal s!"dataset '{name}': SQL execute: {message}")
  | .ok batch :: rest => (batch :: ·) <$> collect name rest

/-- The branch of residency `memory`, with its flag for a result over the threshold. -/
def buildInMemory (d : QueryDataset) (storage : Option MaterializationStorage)
    (stream : BatchStream Row) : Except AppError (Built Row × Bool) := do
  let batches ← collect d.name stream
  if batches.all (·.isEmpty) then .error (emptyDataset d.name)
  else
    .ok (.resident (rowsOf batches),
      storage.any fun storage => decide (storage.threshold < bytesOf batches))

/-- The first batch with rows, and what follows it. -/
def firstBatch (name : String) :
    BatchStream Row → Except AppError (RecordBatch Row × BatchStream Row)
  | [] => .error (emptyDataset name)
  | .error message :: _ => .error (streamError name message)
  | .ok batch :: rest => if batch.isEmpty then firstBatch name rest else .ok (batch, rest)

/-- `build_query_to_storage` up to the manifest. -/
def buildQueryToStorage (d : QueryDataset) (sql fingerprint : String)
    (parquet : ParquetWriter Row) (stream : BatchStream Row) : Except AppError (Built Row) := do
  let (first, rest) ← firstBatch d.name stream
  let written ← writeBatchesToStorage d.name parquet first rest { data := ∅ }
  .ok (.stored written.data {
    sqlHash := fnv1aHash sql
    schemaHash := fnv1aHash fingerprint
    rowCount := written.rows
    byteSize := written.bytes
    files := written.files })

/-- `build_query_dataset` of a dataset that adopts no generation. -/
def buildQueryDataset (d : QueryDataset) (storage : Option MaterializationStorage)
    (sql fingerprint : String) (parquet : ParquetWriter Row) (stream : BatchStream Row) :
    Except AppError (Built Row × Bool) :=
  match effectiveResidency d storage, storage with
  | .memory, storage => buildInMemory d storage stream
  | .lazy, some _ => (·, false) <$> buildQueryToStorage d sql fingerprint parquet stream
  | .lazy, none =>
    .error (.internal s!"dataset '{d.name}': residency = lazy requires [server.storage]")
  | .auto, some storage =>
    (·, false) <$> buildQueryAuto d sql fingerprint storage.threshold parquet stream
  | .auto, none =>
    .error (.internal s!"dataset '{d.name}': internal: auto residency without storage")

def Built.Stored : Built Row → Prop
  | .resident _ => False
  | .stored _ _ => True

end
end Datapress.DataFusion.Spill

namespace Datapress.Demotion
open Datapress.Storage

/-! ### The rule -/

/-- The documented rule, in which a threshold of zero disables the demotion. -/
def GoesToStorage (residency : MaterializeResidency) (storage : Option MaterializationStorage)
    (measured : Nat) : Prop :=
  residency = .lazy ∨ residency = .auto ∧ ∃ s, storage = some s ∧
    0 < s.forceLazyAboveMb.toNat ∧ s.forceLazyAboveMb.toNat * (1024 * 1024) < measured

/-- What both backends decide. -/
def demotes (residency : MaterializeResidency) (storage : Option MaterializationStorage)
    (measured : Nat) : Bool :=
  match residency, storage with
  | .lazy, _ => true
  | .auto, some s => decide (s.threshold < measured)
  | _, _ => false

/-- Where residency is `auto`, nothing is measured against a threshold of zero, and a size
that is no machine word is above the threshold. -/
def Measurable (residency : MaterializeResidency) (storage : Option MaterializationStorage)
    (measured : Nat) : Prop :=
  residency = .auto → ∀ s, storage = some s →
    (s.forceLazyAboveMb.toNat = 0 → measured = 0) ∧
      (2 ^ 64 ≤ measured → s.forceLazyAboveMb.toNat * (1024 * 1024) < measured)

theorem demotes_iff (residency : MaterializeResidency) (storage : Option MaterializationStorage)
    (measured : Nat) :
    (demotes residency storage measured = true ↔ GoesToStorage residency storage measured) ↔
      Measurable residency storage measured := by
  cases residency with
  | «lazy» => simp [demotes, GoesToStorage, Measurable]
  | memory => simp [demotes, GoesToStorage, Measurable]
  | auto =>
    cases storage with
    | none => simp [demotes, GoesToStorage, Measurable]
    | some s =>
      rw [demotes, decide_eq_true_eq]
      simp only [GoesToStorage, Measurable, reduceCtorEq, false_or, true_and,
        Option.some.injEq, exists_eq_left', forall_eq', forall_const,
        MaterializationStorage.threshold]
      omega

theorem demotes_of_storage {residency : MaterializeResidency} {s : MaterializationStorage}
    {measured : Nat} (away : residency ≠ .memory) :
    demotes residency (some s) measured =
      (residency == .lazy || decide (s.threshold < measured)) := by
  cases residency with
  | memory => exact absurd rfl away
  | «lazy» => rfl
  | auto => exact (Bool.false_or _).symm

/-! ### The stream of the DataFusion build -/

namespace DataFusion
open Datapress.DataFusion.Spill
open Datapress.DataFusion.Materialize (effectiveResidency)

variable {Row : Type} {d : QueryDataset} {storage : Option MaterializationStorage}
  {sql fingerprint : String} {parquet : ParquetWriter Row} {stream : BatchStream Row}

theorem buildInMemory_resident {result : Built Row} {exceeded : Bool}
    (built : buildInMemory d storage stream = .ok (result, exceeded)) : ¬ result.Stored := by
  obtain ⟨batches, collected, built⟩ := Fallible.bind_ok_iff.mp built
  split at built
  · cases built
  · cases built
    exact id

theorem buildQueryToStorage_stored {result : Built Row}
    (built : buildQueryToStorage d sql fingerprint parquet stream = .ok result) :
    result.Stored := by
  obtain ⟨⟨first, rest⟩, found, built⟩ := Fallible.bind_ok_iff.mp built
  obtain ⟨written, main, built⟩ := Fallible.bind_ok_iff.mp built
  cases built
  exact trivial

/-- The loop stops over the threshold exactly when the whole stream is over it. -/
theorem buildQueryAuto_stored_iff {threshold : Nat} {result : Built Row}
    (built : buildQueryAuto d sql fingerprint threshold parquet stream = .ok result) :
    result.Stored ↔ threshold < bytesOf (batchesOf stream) := by
  obtain ⟨⟨kept, left⟩, ran, built⟩ := Fallible.bind_ok_iff.mp built
  obtain ⟨more, same, ends⟩ := @accumulate_ok _ _ threshold _ [] _ _ (Nat.zero_le _) ran
  rw [List.nil_append] at same
  subst same
  cases kept with
  | nil => cases built
  | cons first buffer =>
    obtain ⟨rfl, whole, small⟩ | ⟨rest, rfl, whole, above, -⟩ := ends
    · cases built
      rw [← whole]
      exact iff_of_false id (Nat.not_lt.mpr small)
    · obtain ⟨written, buffered, built⟩ := Fallible.bind_ok_iff.mp built
      obtain ⟨all, main, built⟩ := Fallible.bind_ok_iff.mp built
      cases built
      rw [whole, bytesOf_append]
      exact iff_of_true trivial (by omega)

theorem stored_iff {result : Built Row} {exceeded : Bool}
    (built : buildQueryDataset d storage sql fingerprint parquet stream = .ok (result, exceeded)) :
    result.Stored ↔ demotes d.residency storage (bytesOf (batchesOf stream)) = true := by
  unfold buildQueryDataset effectiveResidency at built
  cases resides : d.residency with
  | memory =>
    rw [resides] at built
    exact iff_of_false (buildInMemory_resident built) Bool.false_ne_true
  | «lazy» =>
    rw [resides] at built
    cases storage with
    | none => cases built
    | some s =>
      obtain ⟨whole, ran, same⟩ := Fallible.map_ok_iff.mp built
      cases same
      exact iff_of_true (buildQueryToStorage_stored ran) rfl
  | auto =>
    rw [resides] at built
    cases storage with
    | none => exact iff_of_false (buildInMemory_resident built) Bool.false_ne_true
    | some s =>
      obtain ⟨whole, ran, same⟩ := Fallible.map_ok_iff.mp built
      cases same
      rw [demotes, decide_eq_true_eq]
      exact buildQueryAuto_stored_iff ran

end DataFusion

/-! ### The temporary table of the DuckDB build -/

namespace DuckDB
open Datapress.DuckDB

variable [ToLowercase] {Rows : Type} {engine : Engine Rows}
  {storage : Option MaterializationStorage} {outside : Outside} {d : BuildConfig} {db : Db Rows}
  {rows : Rows} {sql : String}

/-- The dataset is served from the generation of this build. -/
def Stored (outside : Outside) (d : BuildConfig) (t : Db Rows) : Prop :=
  t.relations.lookup d.name = some (.view (.generation outside.genId))

theorem keepInMemory_wp_stored :
    (keepInMemory engine outside d (tempName d.name outside.genId)).wp
      (fun _ t => ¬ Stored outside d t) (fun _ _ => True) (db.withTemp outside d rows) := by
  have apart := tempName_ne d.name outside.genId
  have found : (db.withTemp outside d rows).relations.lookup (tempName d.name outside.genId) =
      some (.table rows) := Db.lookup_put
  obtain ⟨t, u, _, _, served, _, runs⟩ := keepInMemory_wp engine outside apart found
  rw [runs]
  split
  · split
    · rw [Stored, served]
      exact nofun
    · trivial
  · trivial

theorem spillToStorage_wp_stored {s : MaterializationStorage} :
    (spillToStorage engine outside d s sql (tempName d.name outside.genId)).wp
      (fun _ t => Stored outside d t) (fun _ _ => True) (db.withTemp outside d rows) := by
  have apart := tempName_ne d.name outside.genId
  have found : (db.withTemp outside d rows).relations.lookup (tempName d.name outside.genId) =
      some (.table rows) := Db.lookup_put
  obtain ⟨t, manifest, _, _, _, runs⟩ := spillToStorage_wp engine outside s sql apart found
  rw [runs]
  repeat' split
  all_goals try trivial
  rw [Stored, gcStorage_relations]
  exact Db.lookup_put

omit [ToLowercase] in
/-- What a build comes to is what is decided on the estimate of its rows. -/
theorem course_demotes (storage : Option MaterializationStorage) (query : d.kind = .query) (given : d.sql = some sql)
    (evaluated : engine.execute (sql ++ d.orderByClause) db = .ok rows) :
    match course engine storage d db with
    | .stops => True
    | .replaces _ relation =>
      demotes d.residency storage (engine.estimatedSize rows) = false ∧ relation = .table rows
    | .renames served =>
      demotes d.residency storage (engine.estimatedSize rows) = false ∧ served = rows
    | .spills _ _ served =>
      demotes d.residency storage (engine.estimatedSize rows) = true ∧ served = rows := by
  by_cases stays : StaysInMemory storage d
  · rw [course_of_staysInMemory query given stays, evaluated]
    refine ⟨?_, rfl⟩
    obtain resides | ⟨resides, rfl⟩ := stays <;> rw [resides] <;> rfl
  · have away : d.residency ≠ .memory := fun resides => stays (.inl resides)
    cases storage with
    | none =>
      cases resides : d.residency with
      | memory => exact absurd resides away
      | auto => exact absurd (.inr ⟨resides, rfl⟩) stays
      | «lazy» =>
        rw [course, if_pos query, given]
        dsimp only
        rw [evaluated, resides]
        trivial
    | some s =>
      rw [course_of_storage query given away, evaluated, demotes_of_storage away]
      dsimp only
      cases d.residency == .lazy || decide (s.threshold < engine.estimatedSize rows) with
      | true => exact ⟨rfl, rfl⟩
      | false => exact ⟨rfl, rfl⟩

omit [ToLowercase] in
theorem not_stored_of_table {relation : Relation Rows} (table : relation = .table rows) :
    ¬ Stored outside d (db.put d.name relation) := by
  rw [Stored, Db.lookup_put, table]
  exact nofun

/-- A reload. -/
theorem replaceTable_wp_stored (query : d.kind = .query) (given : d.sql = some sql)
    (evaluated : engine.execute (sql ++ d.orderByClause) db = .ok rows) :
    (replaceTable engine storage outside d).wp
      (fun _ t => Stored outside d t ↔
        demotes d.residency storage (engine.estimatedSize rows) = true) (fun _ _ => True) db := by
  have decided := course_demotes storage query given evaluated
  rw [replaceTable_wp]
  cases taken : course engine storage d db with
  | stops => trivial
  | replaces _ relation =>
    rw [taken] at decided
    obtain ⟨stays, table⟩ := decided
    dsimp only
    rw [stays]
    split
    · exact iff_of_false (not_stored_of_table table) Bool.false_ne_true
    · trivial
  | renames served =>
    rw [taken] at decided
    obtain ⟨stays, rfl⟩ := decided
    dsimp only
    rw [stays]
    split
    · exact Attempt.wp_mono keepInMemory_wp_stored (fun _ _ out => iff_of_false out Bool.false_ne_true)
        fun _ _ => id
    · trivial
  | spills s sql served =>
    rw [taken] at decided
    obtain ⟨goes, rfl⟩ := decided
    dsimp only
    rw [goes]
    split
    · exact Attempt.wp_mono spillToStorage_wp_stored (fun _ _ out => iff_of_true out rfl)
        fun _ _ => id
    · trivial

/-- The build at startup or of a registration. -/
theorem registerDataset_wp_stored (query : d.kind = .query) (given : d.sql = some sql)
    (evaluated : engine.execute (sql ++ d.orderByClause) db = .ok rows) :
    (registerDataset engine storage outside d).wp
      (fun _ t => Stored outside d t ↔
        demotes d.residency storage (engine.estimatedSize rows) = true) (fun _ _ => True) db := by
  have decided := course_demotes storage query given evaluated
  rw [registerDataset_wp]
  cases taken : course engine storage d db with
  | stops => trivial
  | replaces _ relation =>
    rw [taken] at decided
    obtain ⟨stays, table⟩ := decided
    dsimp only
    rw [stays]
    repeat' split
    · exact iff_of_false (not_stored_of_table table) Bool.false_ne_true
    · trivial
    · trivial
  | renames served =>
    rw [taken] at decided
    obtain ⟨stays, rfl⟩ := decided
    dsimp only
    rw [stays]
    split
    · exact Attempt.wp_mono keepInMemory_wp_stored (fun _ _ out => iff_of_false out Bool.false_ne_true)
        fun _ _ => id
    · trivial
  | spills s sql served =>
    rw [taken] at decided
    obtain ⟨goes, rfl⟩ := decided
    dsimp only
    rw [goes]
    split
    · exact Attempt.wp_mono spillToStorage_wp_stored (fun _ _ out => iff_of_true out rfl)
        fun _ _ => id
    · trivial

/-- A build that succeeds, by a reload or by `register_dataset`. -/
def Builds (engine : Engine Rows) (storage : Option MaterializationStorage) (outside : Outside)
    (d : BuildConfig) (db t : Db Rows) : Prop :=
  (∃ flags, replaceTable engine storage outside d db = (.ok flags, t)) ∨
    ∃ schema, registerDataset engine storage outside d db = (.ok schema, t)

theorem stored_iff {t : Db Rows} (query : d.kind = .query) (given : d.sql = some sql)
    (evaluated : engine.execute (sql ++ d.orderByClause) db = .ok rows)
    (built : Builds engine storage outside d db t) :
    Stored outside d t ↔ demotes d.residency storage (engine.estimatedSize rows) = true := by
  rcases built with ⟨flags, ran⟩ | ⟨schema, ran⟩
  · exact (Attempt.wp_iff.mp (replaceTable_wp_stored query given evaluated)).1 flags t ran
  · exact (Attempt.wp_iff.mp (registerDataset_wp_stored query given evaluated)).1 schema t ran

end DuckDB

section
open Datapress.DataFusion.Spill Datapress.DuckDB
variable [ToLowercase]

/-- Each backend follows the documented rule exactly where nothing is measured against a
threshold of zero, and on equal sizes they decide alike. -/
theorem demotion_policy_iff :
    (∀ {Row : Type} (d : QueryDataset) (storage : Option MaterializationStorage)
        (sql fingerprint : String) (parquet : ParquetWriter Row) (stream : BatchStream Row)
        (result : Built Row) (exceeded : Bool),
      buildQueryDataset d storage sql fingerprint parquet stream = .ok (result, exceeded) →
        ((result.Stored ↔ GoesToStorage d.residency storage (bytesOf (batchesOf stream))) ↔
          Measurable d.residency storage (bytesOf (batchesOf stream)))) ∧
    (∀ {Rows : Type} (engine : Engine Rows) (storage : Option MaterializationStorage)
        (outside : Outside) (d : BuildConfig) (sql : String) (db t : Db Rows) (rows : Rows),
      d.kind = .query → d.sql = some sql →
      engine.execute (sql ++ d.orderByClause) db = .ok rows →
      DuckDB.Builds engine storage outside d db t →
        ((DuckDB.Stored outside d t ↔
            GoesToStorage d.residency storage (engine.estimatedSize rows)) ↔
          Measurable d.residency storage (engine.estimatedSize rows))) ∧
    (∀ {Row Rows : Type} (d : QueryDataset) (storage : Option MaterializationStorage)
        (sql fingerprint : String) (parquet : ParquetWriter Row) (stream : BatchStream Row)
        (result : Built Row) (exceeded : Bool) (engine : Engine Rows) (outside : Outside)
        (c : BuildConfig) (duckSql : String) (db t : Db Rows) (rows : Rows),
      buildQueryDataset d storage sql fingerprint parquet stream = .ok (result, exceeded) →
      c.kind = .query → c.sql = some duckSql →
      engine.execute (duckSql ++ c.orderByClause) db = .ok rows →
      DuckDB.Builds engine storage outside c db t →
      d.residency = c.residency → bytesOf (batchesOf stream) = engine.estimatedSize rows →
        (result.Stored ↔ DuckDB.Stored outside c t)) := by
  refine ⟨?_, ?_, ?_⟩
  · intro Row d storage sql fingerprint parquet stream result exceeded built
    rw [DataFusion.stored_iff built]
    exact demotes_iff _ _ _
  · intro Rows engine storage outside d sql db t rows query given evaluated built
    rw [DuckDB.stored_iff query given evaluated built]
    exact demotes_iff _ _ _
  · intro Row Rows d storage sql fingerprint parquet stream result exceeded engine outside c duckSql
      db t rows built query given evaluated duckBuilt residency measured
    rw [DataFusion.stored_iff built, DuckDB.stored_iff query given evaluated duckBuilt, residency,
      measured]

end

open Datapress.DataFusion.Spill in
/-- A threshold of zero demotes every result that has bytes. -/
theorem zero_threshold_demotes :
    ∃ (d : QueryDataset) (storage : MaterializationStorage) (stream : BatchStream Nat)
      (result : Built Nat),
      buildQueryDataset d (some storage) "SELECT id FROM orders" "id" (fun _ _ => .ok 4) stream =
          .ok (result, false) ∧
        storage.forceLazyAboveMb = 0 ∧ result.Stored ∧
        ¬ GoesToStorage d.residency (some storage) (bytesOf (batchesOf stream)) := by
  have zero : (⟨.local, 0⟩ : MaterializationStorage).threshold = 0 := by
    simp [MaterializationStorage.threshold]
  have built : buildQueryDataset { name := "daily", sql := some "SELECT id FROM orders" }
      (some ⟨.local, 0⟩) "SELECT id FROM orders" "id" (fun _ _ => .ok 4)
      [.ok ⟨[1], 8⟩] = (·, false) <$> @buildQueryAuto Nat
        { name := "daily", sql := some "SELECT id FROM orders" } "SELECT id FROM orders" "id"
        (⟨.local, 0⟩ : MaterializationStorage).threshold (fun _ _ => .ok 4) [.ok ⟨[1], 8⟩] := rfl
  rw [zero] at built
  refine ⟨{ name := "daily", sql := some "SELECT id FROM orders" }, ⟨.local, 0⟩, [.ok ⟨[1], 8⟩],
    _, built, rfl, trivial, ?_⟩
  rintro (eager | ⟨-, s, same, positive, -⟩)
  · cases eager
  · cases same
    exact absurd positive (by decide)

end Datapress.Demotion
