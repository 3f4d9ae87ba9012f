import Datapress.DataFusion.Resident
import Datapress.Refresh.Dependencies
import Datapress.Sql.Gate
import Datapress.Storage

/-! The datasets of a configuration with all their settings, and the two validators: that of
the loader, which sees the whole configuration, and that of the runtime registrations. -/
namespace Datapress.Config
open DataFusion.Resident (IndexConfig IndexMode)
open Refresh (RefreshConfig SourceKind)
open Storage (MaterializeConfig StorageBackendKind)

structure SourceConfig where
  kind : SourceKind
  /-- A local path or an `s3://bucket/key` URL. -/
  location : String := ""
  sql : Option String := none
  dependsOn : List String := []
deriving Repr, DecidableEq

inductive AddressingStyle where
  | virtual | path
deriving Repr, DecidableEq

inductive Partitioning where
  | auto | hive | none
deriving Repr, DecidableEq

inductive BucketInHost where
  | auto | true | false
deriving Repr, DecidableEq

structure S3Config where
  region : Option String := none
  endpoint : Option String := none
  addressingStyle : AddressingStyle := .virtual
  allowHttp : Bool := false
  accessKeyId : Option String := none
  secretAccessKey : Option String := none
  sessionToken : Option String := none
  partitioning : Partitioning := .auto
  endpointBucketInHost : BucketInHost := .auto
deriving Repr, DecidableEq

structure DatasetConfig where
  name : String
  source : SourceConfig
  s3 : Option S3Config := none
  index : IndexConfig := {}
  columns : List String := []
  dictEncode : Bool := true
  lazy : Bool := false
  predicateFilter : ColumnFilter := {}
  projectionFilter : ColumnFilter := {}
  onStart : OnStart := .eager
  refresh : Option RefreshConfig := none
  materialize : Option MaterializeConfig := none
  managed : Bool := false
  temp : Bool := false
deriving Repr

/-- `[server.storage]`. -/
structure StorageConfig where
  backend : StorageBackendKind := .local
  root : String := ""
  forceLazyAboveMb : Nat := 512
  materializationMemoryMb : Option Nat := none
  materializationSortSpillReservationMb : Option Nat := none
deriving Repr, DecidableEq

/-- The parser of the statements, what the validators ask of the files, and the cycle that an
error names. `parquetFiles` is `resolve_local_parquet_files` as far as it fails. -/
structure Surroundings where
  parse : Sql.Parser
  cycle : List Refresh.DatasetConfig → List String
  parquetFiles : DatasetConfig → Except AppError Unit
  pathExists : String → Bool

namespace SourceConfig

def isS3 (source : SourceConfig) : Bool := startsWith "s3://" source.location

def s3Bucket (source : SourceConfig) : Except AppError (String × String) :=
  if !source.isS3 then .error (.internal s!"not an s3:// URL: {source.location}")
  else
    let rest := String.ofList (source.location.toList.drop 5)
    let (bucket, key) := (splitOnce '/' rest).getD (rest, "")
    if bucket.isEmpty then .error (.internal s!"s3 URL missing bucket: {source.location}")
    else .ok (bucket, key)

end SourceConfig

namespace DatasetConfig

/-- What the dependencies and the refreshes are derived from. -/
def refreshView (d : DatasetConfig) : Refresh.DatasetConfig where
  name := d.name
  kind := d.source.kind
  sql := d.source.sql
  dependsOn := d.source.dependsOn
  refresh := d.refresh
  managed := d.managed
  temp := d.temp

def checkIndex (error : String → AppError) (d : DatasetConfig) : Except AppError Unit :=
  if d.index.mode = .list ∧ d.index.columns.isEmpty then
    .error (error s!"dataset '{d.name}': index.mode = 'list' requires non-empty index.columns")
  else .ok ()

def checkLocation (around : Surroundings) (d : DatasetConfig) : Except AppError Unit :=
  match d.source.kind with
  | .query => .ok ()
  | .parquet =>
    if d.source.isS3 then (fun _ => ()) <$> d.source.s3Bucket else around.parquetFiles d
  | .delta =>
    if d.source.isS3 then (fun _ => ()) <$> d.source.s3Bucket
    else if around.pathExists d.source.location then .ok ()
    else .error (.internal
      s!"dataset '{d.name}': delta location does not exist: {d.source.location}")

/-- `[dataset.materialize]` belongs to query datasets. Lazy residency needs a storage and has
no index. -/
def checkMaterialize (storage : Option StorageConfig) (d : DatasetConfig) : Except AppError Unit :=
  match d.materialize with
  | none => .ok ()
  | some mc =>
    if d.source.kind ≠ .query then .error (.internal
      s!"dataset '{d.name}': [dataset.materialize] is only valid for kind = \"query\" datasets")
    else if mc.residency = .lazy ∧ storage.isNone then .error (.internal
      (s!"dataset '{d.name}': materialize.residency = \"lazy\" requires " ++
        "[server.storage] to be configured"))
    else if mc.residency = .lazy ∧ d.index.mode ≠ .auto then .error (.internal
      (s!"dataset '{d.name}': [dataset.index] with mode != \"auto\" is incompatible " ++
        "with materialize.residency = \"lazy\" (lazy datasets have no eq-index)"))
    else .ok ()

/-- One turn of the loader's loop over the datasets, with the names seen before. -/
def check (around : Surroundings) (storage : Option StorageConfig) (seen : List String)
    (d : DatasetConfig) : Except AppError Unit :=
  if seen.contains d.name then .error (.internal s!"duplicate dataset name: {d.name}")
  else do
    Refresh.checkName .internal d.name
    d.checkIndex .internal
    d.checkLocation around
    d.refreshView.checkRefresh
    d.checkMaterialize storage

def validateForRegister (d : DatasetConfig) : Except AppError Unit := do
  Refresh.checkName .invalidValue d.name
  d.checkIndex .invalidValue
  d.predicateFilter.validate d.name "predicate_filter"
  d.projectionFilter.validate d.name "projection_filter"
  if d.source.isS3 then (fun _ => ()) <$> d.source.s3Bucket else .ok ()

end DatasetConfig

def checkEach (around : Surroundings) (storage : Option StorageConfig) :
    List String → List DatasetConfig → Except AppError Unit
  | _, [] => .ok ()
  | seen, d :: rest => do
    d.check around storage seen
    checkEach around storage (d.name :: seen) rest

namespace StorageConfig

def checkRoot (sc : StorageConfig) : Except AppError Unit :=
  match sc.backend, startsWith "s3://" sc.root with
  | .s3, false => .error (.internal
      s!"server.storage.root must start with s3:// when backend = \"s3\" (got '{sc.root}')")
  | .local, true => .error (.internal
      (s!"server.storage.root looks like an S3 URL but backend = \"local\" (got '{sc.root}'); " ++
        "set backend = \"s3\" if you mean S3"))
  | _, _ => .ok ()

/-- The sort reservation is carved out of the memory of a build. -/
def checkReservation (sc : StorageConfig) : Except AppError Unit :=
  match sc.materializationMemoryMb, sc.materializationSortSpillReservationMb with
  | some pool, some reservation =>
    if pool ≤ reservation then .error (.internal
      (s!"server.storage.materialization_sort_spill_reservation_mb ({reservation}) " ++
        s!"must be smaller than materialization_memory_mb ({pool}) — the reservation " ++
        "is headroom carved out of the build pool, not a separate budget. Use a small " ++
        "fraction (e.g. 64) or omit it to auto-size."))
    else .ok ()
  | _, _ => .ok ()

def check (sc : StorageConfig) : Except AppError Unit := do
  if (trim sc.root).isEmpty then .error (.internal
    "server.storage.root must not be empty when [server.storage] is configured")
  sc.checkReservation
  sc.checkRoot

end StorageConfig

/-- What a loaded file says of the datasets. `others` stands for the checks of the sections
that have nothing to do with them. -/
structure AppConfig where
  storage : Option StorageConfig := none
  datasets : List DatasetConfig
  others : Except AppError Unit := .ok ()

/-- The configuration with other datasets. -/
def AppConfig.withDatasets (cfg : AppConfig) (datasets : List DatasetConfig) : AppConfig :=
  { cfg with datasets }

/-- `usize::MAX`. -/
def usizeMax : Nat := 2 ^ 64 - 1

namespace AppConfig
variable [ToLowercase]

/-- `sql::validate` without a limit on the datasets of a statement. -/
def environment (around : Surroundings) : Refresh.Environment where
  source _ := .ok ()
  tables sql allowed := (·.datasets) <$> Sql.validate around.parse sql allowed usizeMax
  cycle := around.cycle

def views (cfg : AppConfig) : List Refresh.DatasetConfig := cfg.datasets.map (·.refreshView)

/-- `all_names`. -/
def allNames (cfg : AppConfig) : List String := cfg.datasets.map fun d => toLowercase d.name

def validate (around : Surroundings) (cfg : AppConfig) : Except AppError Unit := do
  if cfg.datasets.isEmpty then .error (.internal
    "no datasets configured (add at least one [[dataset]] entry in datasets.toml or datasets.d/)")
  cfg.others
  checkEach around cfg.storage [] cfg.datasets
  (cfg.storage.map StorageConfig.check).getD (.ok ())
  let env := environment around
  Fallible.checkAll (Refresh.DatasetConfig.checkQuery env cfg.allNames) cfg.views
  match Refresh.topologicalDatasetOrder env cfg.views with
  | .ok _ => .ok ()
  | .error e =>
    let reason := e.display
    .error (.internal s!"dataset dependency error: {reason}")

end AppConfig
end Datapress.Config
