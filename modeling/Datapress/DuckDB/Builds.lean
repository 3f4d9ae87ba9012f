import Datapress.DuckDB.Engine
import Datapress.Lifecycle

/-! The builds of a dataset in the DuckDB registry: `register_dataset` and `replace_table`
with the storage path they share, and the reload and the registration around them. -/
namespace Datapress.DuckDB
open Datapress.Storage
open Datapress.Refresh (SourceKind)

/-- What a build reads of the configuration of a dataset. -/
structure BuildConfig extends QueryDataset where
  kind : SourceKind
  lazy : Bool := false
  managed : Bool := false
  /-- `validate_for_register`. -/
  validated : Except AppError Unit := .ok ()
  /-- `build_scan_clause` of a file source. -/
  scanClause : Except AppError String
  predicateFilter : ColumnFilter := {}
  projectionFilter : ColumnFilter := {}

/-- What a build takes from outside: the id of its generation, the faults of its
statements, and the directories that the collector cannot remove. -/
structure Outside where
  genId : String
  faults : Faults := fun _ => none
  stuck : List String := []

variable {Rows : Type}

def BuildConfig.orderByClause (d : BuildConfig) : String :=
  if d.sortBy.isEmpty then ""
  else
    let cols := ", ".intercalate (d.sortBy.map DatasetSchema.quoteIdent)
    s!" ORDER BY {cols}"

def BuildConfig.sqlOrError (d : BuildConfig) : Except AppError String :=
  match d.sql with
  | some sql => .ok sql
  | none => .error (.internal s!"dataset '{d.name}': source.sql missing for kind = query")

def generationManifest (schema : DatasetSchema) (sql : String) : GenerationManifest :=
  let fingerprint := schema.columns.map fun c => s!"{c.name}:{c.sqlType}"
  { sqlHash := fnv1aHash sql, schemaHash := fnv1aHash (",".intercalate fingerprint) }

/-- The name of the table that a build writes first. -/
def tempName (name genId : String) : String :=
  "__dp_tmp_" ++ String.ofList (name.toList.map fun c => if c.isAlphanum then c else '_') ++ "_" ++
    String.ofList (genId.toList.take 8)

section
variable [ToLowercase] (engine : Engine Rows) (storage : Option MaterializationStorage)
  (outside : Outside) (d : BuildConfig)

/-- `DESCRIBE` and the column filters. -/
def introspectSchema (point : Point) : Build Rows DatasetSchema :=
  Attempt.inspect fun db =>
    match outside.faults point with
    | some e => .error e
    | none => do
      let rows ← engine.rows db d.name
      (DatasetSchema.new d.name (engine.columns rows)).withFilters d.predicateFilter
        d.projectionFilter

omit [ToLowercase] in
def countRows : Build Rows Int :=
  Attempt.inspect fun db =>
    match outside.faults .countRows with
    | some e => .error e
    | none => (engine.rows db d.name).map engine.count

/-- The statement's name is quoted, so no table has the name that the estimate looks up. -/
def checkMemoryOverride (db : Db Rows) : Bool :=
  match storage with
  | some storage => d.residency == .memory &&
      storage.threshold < estimatedTableBytes engine db (DatasetSchema.quoteIdent d.name)
  | none => false

omit [ToLowercase] in
def writeManifestForStorage (manifest : GenerationManifest) : Build Rows Unit :=
  runStatement (outside.faults .manifest) fun db =>
    match db.dir.lookup outside.genId with
    | some generation =>
      .ok { db with dir := db.dir.insert outside.genId { generation with manifest := some manifest } }
    | none => .error engine.refused

/-- The collector keeps the newest two. On S3 it runs as a task of its own. -/
def gcStorage (storage : MaterializationStorage) (stuck : List String) (db : Db Rows) : Db Rows :=
  match storage.backend with
  | .local => { db with dir := db.dir.gcGenerations db.dir.newestTwo stuck }
  | .s3 => db

omit [ToLowercase] in
/-- The batch that drops the relation, as a table first. Its error is ignored. -/
def dropRelation (name : String) : Build Rows Unit :=
  Attempt.ignore do
    dropIfExists engine outside.faults .dropTable name true
    dropIfExists engine outside.faults .dropView name false

/-- What follows the temporary table that stays in memory. -/
def keepInMemory (temp : String) : Build Rows DatasetSchema := do
  dropRelation engine outside d.name
  renameTable engine outside.faults temp d.name
  introspectSchema engine outside d .describe

/-- What follows a temporary table that is written to storage. -/
def spillToStorage (storage : MaterializationStorage) (sql temp : String) :
    Build Rows DatasetSchema := do
  copyTo engine outside.faults temp outside.genId
  Attempt.ignore (dropIfExists engine outside.faults .dropTemp temp true)
  createOrReplaceView engine outside.faults .createView d.name (.generation outside.genId)
  let schema ← introspectSchema engine outside d .describe
  writeManifestForStorage engine outside (generationManifest schema sql)
  Attempt.modify (gcStorage storage outside.stuck)
  pure schema

/-- The schema when the storage path was taken, and whether the result was demoted. -/
def registerQueryWithStorage (sql : String) : Build Rows (Option DatasetSchema × Bool) :=
  match d.residency, storage with
  | .lazy, none => Attempt.lift
      (.error (.internal s!"dataset '{d.name}': residency = lazy requires [server.storage]"))
  | .memory, _ | .auto, none => pure (none, false)
  | residency, some storage => do
    let temp := tempName d.name outside.genId
    createTable engine outside.faults .createTemp temp (engine.execute (sql ++ d.orderByClause))
    let useStorage ← Attempt.inspect fun db => .ok (residency == .lazy ||
      decide (storage.threshold < estimatedTableBytes engine db temp))
    if useStorage then
      (fun schema => (some schema, true)) <$> spillToStorage engine outside d storage sql temp
    else
      (fun schema => (some schema, false)) <$> keepInMemory engine outside d temp

/-- Whether the result was demoted, and whether it exceeds the threshold in memory. -/
def replaceTable : Build Rows (Bool × Bool) :=
  if d.kind = .query then do
    let sql ← Attempt.lift d.sqlOrError
    let (schema, demoted) ← registerQueryWithStorage engine storage outside d sql
    match schema with
    | some _ => pure (demoted, false)
    | none => do
      createOrReplaceTable engine outside.faults d.name
        (engine.execute (sql ++ d.orderByClause))
      Attempt.inspect fun db => .ok (false, checkMemoryOverride engine storage d db)
  else do
    let scan ← Attempt.lift d.scanClause
    if d.lazy then
      createOrReplaceView engine outside.faults .replace d.name (.scan scan)
    else
      createOrReplaceTable engine outside.faults d.name fun _ => engine.scan scan
    pure (false, false)

/-- The build of a dataset whose name is new. -/
def registerDataset : Build Rows DatasetSchema :=
  if d.kind = .query then do
    let sql ← Attempt.lift d.sqlOrError
    let (schema, _) ← registerQueryWithStorage engine storage outside d sql
    match schema with
    | some schema => pure schema
    | none => do
      createTable engine outside.faults .replace d.name
        (engine.execute (sql ++ d.orderByClause))
      introspectSchema engine outside d .describe
  else do
    let scan ← Attempt.lift d.scanClause
    if d.lazy then createView engine outside.faults .replace d.name (.scan scan)
    else createTable engine outside.faults .replace d.name fun _ => engine.scan scan
    introspectSchema engine outside d .describe

/-- What a reload runs on a blocking thread. -/
def rebuild : Build Rows (DatasetSchema × Int × Bool × Bool) := do
  let (demoted, memoryOverride) ← replaceTable engine storage outside d
  let schema ← introspectSchema engine outside d .describeAgain
  let rows ← countRows engine outside d
  pure (schema, rows, demoted, memoryOverride)

end

structure ReloadStats where
  rows : Int
  demotedToStorage : Bool
  memoryOverrideExceeded : Bool
deriving Repr, DecidableEq

/-- The engine with what the registry caches of one dataset. -/
structure Registry (Rows : Type) where
  db : Db Rows
  schema : Option DatasetSchema := none
  rowCount : Option Int := none
  status : Option DatasetStatus := none

section
variable [ToLowercase] (engine : Engine Rows) (storage : Option MaterializationStorage)

/-- `reload_inner`. -/
def reloadInner (outside : Outside) (d : BuildConfig) (s : Registry Rows) :
    Except AppError ReloadStats × Registry Rows :=
  match rebuild engine storage outside d s.db with
  | (.ok (schema, rows, demotedToStorage, memoryOverrideExceeded), db) =>
    (.ok { rows, demotedToStorage, memoryOverrideExceeded },
      { db, schema := some schema, rowCount := some rows, status := some .published })
  | (.error e, db) =>
    (.error e, { s with
      db, status := some (if s.schema.isSome then .published else .failed) })

end
end Datapress.DuckDB
