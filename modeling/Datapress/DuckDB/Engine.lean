import Mathlib.Data.List.AList
import Datapress.Library.Attempt
import Datapress.Refresh.Dependencies
import Datapress.Schema
import Datapress.Storage

/-! The relations of the DuckDB engine, and the statements that the builds of a dataset
execute. A statement happens whole or not at all, and a batch stops at its first failing
statement. -/
namespace Datapress.DuckDB
open Datapress.Storage
open Datapress.Refresh (SourceKind)

/-- What a view selects from. -/
inductive Source where
  | scan (clause : String)
  | generation (id : String)
deriving Repr, DecidableEq

inductive Relation (Rows : Type) where
  | table (rows : Rows)
  | view (source : Source)
deriving Repr, DecidableEq

abbrev Relations (Rows : Type) := AList fun _ : String => Relation Rows

/-- The relations, and the generations of the dataset on storage. -/
structure Db (Rows : Type) where
  relations : Relations Rows
  dir : DatasetDir Rows

/-- What the engine makes of a query over its relations and of the files of a source, and
the error of a statement that names a missing relation or one of the other kind. -/
structure Engine (Rows : Type) where
  execute : String → Db Rows → Except AppError Rows
  scan : String → Except AppError Rows
  columns : Rows → List ColumnInfo
  count : Rows → Int
  estimatedSize : Rows → Nat
  refused : AppError

variable {Rows : Type}

def Relation.isTable : Relation Rows → Bool
  | .table _ => true
  | .view _ => false

namespace Engine
variable (engine : Engine Rows)

def readSource (db : Db Rows) : Source → Except AppError Rows
  | .scan clause => engine.scan clause
  | .generation id =>
    match db.dir.lookup id with
    | some generation => .ok generation.rows
    | none => .error engine.refused

def read (db : Db Rows) : Relation Rows → Except AppError Rows
  | .table rows => .ok rows
  | .view source => engine.readSource db source

/-- The rows of a relation by its name. -/
def rows (db : Db Rows) (name : String) : Except AppError Rows :=
  match db.relations.lookup name with
  | some relation => engine.read db relation
  | none => .error engine.refused

end Engine

/-- A relation can be put in the place of one of its kind or of none. -/
def Relations.fits (relations : Relations Rows) (name : String) (isTable : Bool) : Bool :=
  match relations.lookup name with
  | some relation => relation.isTable == isTable
  | none => true

def Db.put (db : Db Rows) (name : String) (relation : Relation Rows) : Db Rows :=
  { db with relations := db.relations.insert name relation }

def Db.drop (db : Db Rows) (name : String) : Db Rows :=
  { db with relations := db.relations.erase name }

/-- The statements of a build that something outside of the engine's relations can make fail. -/
inductive Point where
  | replace
  | createTemp
  | dropTable
  | dropView
  | rename
  | copy
  | dropTemp
  | createView
  | describe
  | manifest
  | describeAgain
  | countRows
deriving Repr, DecidableEq

abbrev Faults := Point → Option AppError

abbrev Build (Rows α : Type) := Attempt (Db Rows) AppError α

/-- A statement that fails for a reason of its own or as the fault says. -/
def runStatement (fault : Option AppError) (run : Db Rows → Except AppError (Db Rows)) :
    Build Rows Unit :=
  Attempt.atomic fun db =>
    match fault with
    | some e => .error e
    | none => run db

section
variable (engine : Engine Rows) (faults : Faults)

/-- `CREATE TABLE name AS query`. -/
def createTable (point : Point) (name : String) (query : Db Rows → Except AppError Rows) :
    Build Rows Unit :=
  runStatement (faults point) fun db =>
    if name ∈ db.relations then .error engine.refused
    else (fun rows => db.put name (.table rows)) <$> query db

/-- `CREATE OR REPLACE TABLE name AS query`. -/
def createOrReplaceTable (name : String) (query : Db Rows → Except AppError Rows) :
    Build Rows Unit :=
  runStatement (faults .replace) fun db =>
    if db.relations.fits name true then (fun rows => db.put name (.table rows)) <$> query db
    else .error engine.refused

/-- `CREATE VIEW name AS SELECT * FROM source`, which binds the columns of the source. -/
def createView (point : Point) (name : String) (source : Source) : Build Rows Unit :=
  runStatement (faults point) fun db =>
    if name ∈ db.relations then .error engine.refused
    else (fun _ => db.put name (.view source)) <$> engine.readSource db source

/-- `CREATE OR REPLACE VIEW name AS SELECT * FROM source`. -/
def createOrReplaceView (point : Point) (name : String) (source : Source) : Build Rows Unit :=
  runStatement (faults point) fun db =>
    if db.relations.fits name false then
      (fun _ => db.put name (.view source)) <$> engine.readSource db source
    else .error engine.refused

/-- `DROP TABLE IF EXISTS name` or `DROP VIEW IF EXISTS name`. -/
def dropIfExists (point : Point) (name : String) (isTable : Bool) : Build Rows Unit :=
  runStatement (faults point) fun db =>
    if db.relations.fits name isTable then .ok (db.drop name) else .error engine.refused

/-- `ALTER TABLE old RENAME TO new`. -/
def renameTable (old new : String) : Build Rows Unit :=
  runStatement (faults .rename) fun db =>
    match db.relations.lookup old, db.relations.lookup new with
    | some (.table rows), none => .ok ((db.drop old).put new (.table rows))
    | _, _ => .error engine.refused

/-- `COPY name TO` the file of a generation. -/
def copyTo (name id : String) : Build Rows Unit :=
  runStatement (faults .copy) fun db =>
    (fun rows => { db with dir := db.dir.insert id { rows } }) <$> engine.rows db name

/-- `estimated_table_bytes`. A name that no table has counts nothing. -/
def estimatedTableBytes (db : Db Rows) (name : String) : Nat :=
  match db.relations.lookup name with
  | some (.table rows) => engine.estimatedSize rows
  | _ => 0

end

/-! ### Lookups -/

section
variable {db : Db Rows} {name other : String} {relation : Relation Rows}

@[simp] theorem Db.put_dir : (db.put name relation).dir = db.dir := rfl

@[simp] theorem Db.drop_dir : (db.drop name).dir = db.dir := rfl

@[simp] theorem Db.lookup_put : (db.put name relation).relations.lookup name = some relation :=
  AList.lookup_insert db.relations

theorem Db.lookup_put_ne (apart : other ≠ name) :
    (db.put name relation).relations.lookup other = db.relations.lookup other :=
  AList.lookup_insert_ne apart

@[simp] theorem Db.lookup_drop : (db.drop name).relations.lookup name = none :=
  AList.lookup_erase name db.relations

theorem Db.lookup_drop_ne (apart : other ≠ name) :
    (db.drop name).relations.lookup other = db.relations.lookup other :=
  AList.lookup_erase_ne apart

theorem fits_iff {isTable : Bool} : db.relations.fits name isTable = true ↔
    ∀ relation, db.relations.lookup name = some relation → relation.isTable = isTable := by
  rw [Relations.fits]
  cases db.relations.lookup name with
  | none => exact iff_of_true rfl nofun
  | some relation => simp

theorem fits_of_none {isTable : Bool} (absent : db.relations.lookup name = none) :
    db.relations.fits name isTable = true := by
  rw [Relations.fits, absent]

theorem Engine.rows_of_table {engine : Engine Rows} {rows : Rows}
    (found : db.relations.lookup name = some (.table rows)) : engine.rows db name = .ok rows := by
  rw [Engine.rows, found]
  rfl

theorem Engine.rows_of_view {engine : Engine Rows} {source : Source}
    (found : db.relations.lookup name = some (.view source)) :
    engine.rows db name = engine.readSource db source := by
  rw [Engine.rows, found]
  rfl

end

/-! ### What a statement leaves -/

section
variable {fault : Option AppError} {run : Db Rows → Except AppError (Db Rows)} {db t : Db Rows}
variable {ok : Unit → Db Rows → Prop} {bad : AppError → Db Rows → Prop}

theorem statement_wp : (runStatement fault run).wp ok bad db ↔
    match fault with
    | some e => bad e db
    | none =>
      match run db with
      | .ok t => ok () t
      | .error e => bad e db := by
  rw [runStatement, Attempt.wp_atomic]
  cases fault with
  | some e => exact Iff.rfl
  | none => cases run db <;> exact Iff.rfl

theorem statement_wp_of_error {e : AppError} {bad : Db Rows → Prop} (ran : run db = .error e) :
    (runStatement fault run).wp ok (fun _ => bad) db ↔ bad db := by
  rw [statement_wp, ran]
  cases fault <;> exact Iff.rfl

end

section
variable {engine : Engine Rows} {faults : Faults} {point : Point} {name : String} {rows : Rows}
variable {query : Db Rows → Except AppError Rows} {source : Source} {db : Db Rows} {e : AppError}
variable {ok : Unit → Db Rows → Prop} {bad : Db Rows → Prop}

theorem createTable_wp (evaluated : query db = .ok rows) :
    (createTable engine faults point name query).wp ok (fun _ => bad) db ↔
      if faults point = none ∧ name ∉ db.relations then ok () (db.put name (.table rows))
      else bad db := by
  rw [createTable, statement_wp, evaluated]
  cases faults point with
  | some e => simp
  | none => by_cases taken : name ∈ db.relations <;> simp [taken]

theorem createTable_wp_of_error (evaluated : query db = .error e) :
    (createTable engine faults point name query).wp ok (fun _ => bad) db ↔ bad db := by
  by_cases taken : name ∈ db.relations
  · exact statement_wp_of_error (by rw [if_pos taken])
  · exact statement_wp_of_error (by rw [if_neg taken, evaluated]; rfl)

theorem createOrReplaceTable_wp (evaluated : query db = .ok rows) :
    (createOrReplaceTable engine faults name query).wp ok (fun _ => bad) db ↔
      if faults .replace = none ∧ db.relations.fits name true then
        ok () (db.put name (.table rows))
      else bad db := by
  rw [createOrReplaceTable, statement_wp, evaluated]
  cases faults .replace with
  | some e => simp
  | none => by_cases fitting : db.relations.fits name true <;> simp [fitting]

theorem createOrReplaceTable_wp_of_error (evaluated : query db = .error e) :
    (createOrReplaceTable engine faults name query).wp ok (fun _ => bad) db ↔ bad db := by
  by_cases fitting : db.relations.fits name true
  · exact statement_wp_of_error (by rw [if_pos fitting, evaluated]; rfl)
  · exact statement_wp_of_error (by rw [if_neg fitting])

theorem createView_wp (readable : engine.readSource db source = .ok rows) :
    (createView engine faults point name source).wp ok (fun _ => bad) db ↔
      if faults point = none ∧ name ∉ db.relations then ok () (db.put name (.view source))
      else bad db := by
  rw [createView, statement_wp, readable]
  cases faults point with
  | some e => simp
  | none => by_cases taken : name ∈ db.relations <;> simp [taken]

theorem createView_wp_of_error (readable : engine.readSource db source = .error e) :
    (createView engine faults point name source).wp ok (fun _ => bad) db ↔ bad db := by
  by_cases taken : name ∈ db.relations
  · exact statement_wp_of_error (by rw [if_pos taken])
  · exact statement_wp_of_error (by rw [if_neg taken, readable]; rfl)

theorem createOrReplaceView_wp (readable : engine.readSource db source = .ok rows) :
    (createOrReplaceView engine faults point name source).wp ok (fun _ => bad) db ↔
      if faults point = none ∧ db.relations.fits name false then
        ok () (db.put name (.view source))
      else bad db := by
  rw [createOrReplaceView, statement_wp, readable]
  cases faults point with
  | some e => simp
  | none => by_cases fitting : db.relations.fits name false <;> simp [fitting]

theorem createOrReplaceView_wp_of_error (readable : engine.readSource db source = .error e) :
    (createOrReplaceView engine faults point name source).wp ok (fun _ => bad) db ↔ bad db := by
  by_cases fitting : db.relations.fits name false
  · exact statement_wp_of_error (by rw [if_pos fitting, readable]; rfl)
  · exact statement_wp_of_error (by rw [if_neg fitting])

theorem copyTo_wp {id : String} (readable : engine.rows db name = .ok rows) :
    (copyTo engine faults name id).wp ok (fun _ => bad) db ↔
      if faults .copy = none then ok () { db with dir := db.dir.insert id { rows } }
      else bad db := by
  rw [copyTo, statement_wp, readable]
  cases faults .copy with
  | some e => simp
  | none => exact Iff.rfl

end
end Datapress.DuckDB
