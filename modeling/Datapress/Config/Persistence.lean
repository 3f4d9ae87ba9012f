import Datapress.Config.Dataset
import Datapress.Config.Durations
import Datapress.Library.Toml

/-! How the datasets are written into TOML tables, and what a restart reads back. -/
namespace Datapress.Config
open DataFusion.Resident (IndexConfig IndexMode)
open Refresh (RefreshConfig SourceKind)
open Storage (MaterializeConfig MaterializeResidency)
open Toml

/-! ### The variants -/

def SourceKind.asStr : SourceKind → String
  | .parquet => "parquet"
  | .delta => "delta"
  | .query => "query"

def AddressingStyle.asStr : AddressingStyle → String
  | .virtual => "virtual"
  | .path => "path"

def Partitioning.asStr : Partitioning → String
  | .auto => "auto"
  | .hive => "hive"
  | .none => "none"

def BucketInHost.asStr : BucketInHost → String
  | .auto => "auto"
  | .true => "true"
  | .false => "false"

def IndexMode.asStr : IndexMode → String
  | .auto => "auto"
  | .none => "none"
  | .list => "list"

def OnStart.asStr : OnStart → String
  | .eager => "eager"
  | .lazy => "lazy"
  | .skip => "skip"

def MaterializeResidency.asStr : MaterializeResidency → String
  | .auto => "auto"
  | .memory => "memory"
  | .lazy => "lazy"

/-! ### The records -/

namespace SourceConfig

def serialize (source : SourceConfig) : Table := entries [
  ("kind", some (.string (SourceKind.asStr source.kind))),
  ("location", some (.string source.location)),
  ("sql", source.sql.map .string),
  ("depends_on", some (strings source.dependsOn))]

def deserialize (table : Table) : Option SourceConfig := do
  let kind ← field "kind" (readVariant SourceKind.asStr [.parquet, .delta, .query]) table
  let location ← fieldOr "location" readString "" table
  let sql ← fieldOption "sql" readString table
  let dependsOn ← fieldOr "depends_on" (readArray readString) [] table
  return { kind, location, sql, dependsOn }

theorem deserialize_serialize (source : SourceConfig) :
    deserialize source.serialize = some source := by
  have found (key : String) : source.serialize.lookup key = _ :=
    lookup_entries (show ["kind", "location", "sql", "depends_on"].Nodup by decide)
  have kind : field "kind" (readVariant SourceKind.asStr [.parquet, .delta, .query])
      source.serialize = some source.kind :=
    field_eq (found "kind") (by cases source.kind <;> rfl)
  have location : fieldOr "location" readString "" source.serialize = some source.location :=
    fieldOr_eq (found "location") rfl
  have sql : fieldOption "sql" readString source.serialize = some (source.sql.map id) :=
    fieldOption_eq (found "sql") fun _ => rfl
  have dependsOn : fieldOr "depends_on" (readArray readString) [] source.serialize =
      some source.dependsOn :=
    fieldOr_eq (found "depends_on") (read_strings source.dependsOn)
  rw [Option.map_id] at sql
  simp only [deserialize, kind, location, sql, dependsOn]
  rfl

end SourceConfig
namespace S3Config

def serialize (s3 : S3Config) : Table := entries [
  ("region", s3.region.map .string),
  ("endpoint", s3.endpoint.map .string),
  ("addressing_style", some (.string (AddressingStyle.asStr s3.addressingStyle))),
  ("allow_http", some (.boolean s3.allowHttp)),
  ("access_key_id", s3.accessKeyId.map .string),
  ("secret_access_key", s3.secretAccessKey.map .string),
  ("session_token", s3.sessionToken.map .string),
  ("partitioning", some (.string (Partitioning.asStr s3.partitioning))),
  ("endpoint_bucket_in_host", some (.string (BucketInHost.asStr s3.endpointBucketInHost)))]

def deserialize (table : Table) : Option S3Config := do
  let region ← fieldOption "region" readString table
  let endpoint ← fieldOption "endpoint" readString table
  let addressingStyle ← fieldOr "addressing_style"
    (readVariant AddressingStyle.asStr [.virtual, .path]) .virtual table
  let allowHttp ← fieldOr "allow_http" readBool false table
  let accessKeyId ← fieldOption "access_key_id" readString table
  let secretAccessKey ← fieldOption "secret_access_key" readString table
  let sessionToken ← fieldOption "session_token" readString table
  let partitioning ← fieldOr "partitioning"
    (readVariant Partitioning.asStr [.auto, .hive, .none]) .auto table
  let endpointBucketInHost ← fieldOr "endpoint_bucket_in_host"
    (readVariant BucketInHost.asStr [.auto, .true, .false]) .auto table
  return { region, endpoint, addressingStyle, allowHttp, accessKeyId, secretAccessKey, sessionToken,
           partitioning, endpointBucketInHost }

theorem deserialize_serialize (s3 : S3Config) : deserialize s3.serialize = some s3 := by
  have found (key : String) : s3.serialize.lookup key = _ :=
    lookup_entries (show ["region", "endpoint", "addressing_style", "allow_http", "access_key_id",
      "secret_access_key", "session_token", "partitioning", "endpoint_bucket_in_host"].Nodup by decide)
  have region : fieldOption "region" readString s3.serialize = some (s3.region.map id) :=
    fieldOption_eq (found "region") fun _ => rfl
  have endpoint : fieldOption "endpoint" readString s3.serialize = some (s3.endpoint.map id) :=
    fieldOption_eq (found "endpoint") fun _ => rfl
  have style : fieldOr "addressing_style" (readVariant AddressingStyle.asStr [.virtual, .path])
      .virtual s3.serialize = some s3.addressingStyle :=
    fieldOr_eq (found "addressing_style") (by cases s3.addressingStyle <;> rfl)
  have http : fieldOr "allow_http" readBool false s3.serialize = some s3.allowHttp :=
    fieldOr_eq (found "allow_http") rfl
  have key : fieldOption "access_key_id" readString s3.serialize =
      some (s3.accessKeyId.map id) :=
    fieldOption_eq (found "access_key_id") fun _ => rfl
  have secret : fieldOption "secret_access_key" readString s3.serialize =
      some (s3.secretAccessKey.map id) :=
    fieldOption_eq (found "secret_access_key") fun _ => rfl
  have token : fieldOption "session_token" readString s3.serialize =
      some (s3.sessionToken.map id) :=
    fieldOption_eq (found "session_token") fun _ => rfl
  have partitioning : fieldOr "partitioning" (readVariant Partitioning.asStr [.auto, .hive, .none])
      .auto s3.serialize = some s3.partitioning :=
    fieldOr_eq (found "partitioning") (by cases s3.partitioning <;> rfl)
  have bucket : fieldOr "endpoint_bucket_in_host"
      (readVariant BucketInHost.asStr [.auto, .true, .false]) .auto s3.serialize =
      some s3.endpointBucketInHost :=
    fieldOr_eq (found "endpoint_bucket_in_host") (by cases s3.endpointBucketInHost <;> rfl)
  rw [Option.map_id] at region endpoint key secret token
  simp only [deserialize, region, endpoint, style, http, key, secret, token, partitioning, bucket]
  rfl

end S3Config

def IndexConfig.serialize (index : IndexConfig) : Table := entries [
  ("mode", some (.string (IndexMode.asStr index.mode))),
  ("columns", some (strings index.columns)),
  ("max_cardinality", some (.integer index.maxCardinality))]

def IndexConfig.deserialize (table : Table) : Option IndexConfig := do
  let mode ← fieldOr "mode" (readVariant IndexMode.asStr [.auto, .none, .list]) .auto table
  let columns ← fieldOr "columns" (readArray readString) [] table
  let maxCardinality ← fieldOr "max_cardinality" readNat 100000 table
  return { mode, columns, maxCardinality }

theorem IndexConfig.deserialize_serialize (index : IndexConfig) :
    deserialize (serialize index) = some index := by
  have found (key : String) : (serialize index).lookup key = _ :=
    lookup_entries (show ["mode", "columns", "max_cardinality"].Nodup by decide)
  have mode : fieldOr "mode" (readVariant IndexMode.asStr [.auto, .none, .list]) .auto
      (serialize index) = some index.mode :=
    fieldOr_eq (found "mode") (by cases index.mode <;> rfl)
  have columns : fieldOr "columns" (readArray readString) [] (serialize index) =
      some index.columns :=
    fieldOr_eq (found "columns") (read_strings index.columns)
  have cardinality : fieldOr "max_cardinality" readNat 100000 (serialize index) =
      some index.maxCardinality :=
    fieldOr_eq (found "max_cardinality") (readNat_integer index.maxCardinality)
  simp only [deserialize, mode, columns, cardinality]
  rfl

def IndexConfig.isDefault (index : IndexConfig) : Bool :=
  index.mode = .auto && index.columns.isEmpty && index.maxCardinality = 100000

theorem IndexConfig.eq_of_isDefault {index : IndexConfig} (default : isDefault index = true) :
    index = {} := by
  obtain ⟨mode, columns, maxCardinality⟩ := index
  simp only [isDefault, Bool.and_eq_true, decide_eq_true_eq, List.isEmpty_iff] at default
  obtain ⟨⟨rfl, rfl⟩, rfl⟩ := default
  rfl

/-! #### Records that know all their keys -/

def ColumnFilter.serialize (filter : ColumnFilter) : Table := entries [
  ("include", some (strings filter.included)),
  ("exclude", some (strings filter.excluded))]

def ColumnFilter.deserialize (table : Table) : Option ColumnFilter := do
  guard (knows ["include", "exclude"] table)
  let included ← fieldOr "include" (readArray readString) [] table
  let excluded ← fieldOr "exclude" (readArray readString) [] table
  return { included, excluded }

theorem ColumnFilter.deserialize_serialize (filter : ColumnFilter) :
    deserialize (serialize filter) = some filter := by
  have found (key : String) : (serialize filter).lookup key = _ :=
    lookup_entries (show ["include", "exclude"].Nodup by decide)
  have known : knows ["include", "exclude"] (serialize filter) = true := knows_entries rfl
  have included : fieldOr "include" (readArray readString) [] (serialize filter) =
      some filter.included :=
    fieldOr_eq (found "include") (read_strings filter.included)
  have excluded : fieldOr "exclude" (readArray readString) [] (serialize filter) =
      some filter.excluded :=
    fieldOr_eq (found "exclude") (read_strings filter.excluded)
  simp only [deserialize, known, included, excluded]
  rfl

def readDuration (value : Value) : Option Nat :=
  (readString value).bind fun text => (parseDuration text).toOption

theorem readDuration_format (d : Nat) :
    readDuration (.string (formatDuration d)) = some (d % 2 ^ 64) := by
  simp only [readDuration, readString, Option.bind_some, parseDuration_format]
  rfl

def RefreshConfig.serialize (refresh : RefreshConfig) : Table := entries [
  ("interval", refresh.interval.map fun d => .string (formatDuration d)),
  ("on_upstream_reload", some (.boolean refresh.onUpstreamReload)),
  ("timeout", some (.string (formatDuration refresh.timeout))),
  ("jitter", some (.boolean refresh.jitter)),
  ("debounce", some (.string (formatDuration refresh.debounce)))]

def RefreshConfig.deserialize (table : Table) : Option RefreshConfig := do
  guard (knows ["interval", "on_upstream_reload", "timeout", "jitter", "debounce"] table)
  let interval ← fieldOption "interval" readDuration table
  let onUpstreamReload ← fieldOr "on_upstream_reload" readBool false table
  let timeout ← fieldOr "timeout" readDuration 600000 table
  let jitter ← fieldOr "jitter" readBool true table
  let debounce ← fieldOr "debounce" readDuration 5000 table
  return { interval, onUpstreamReload, timeout, jitter, debounce }

/-- The refreshes with what is written of their durations. -/
def RefreshConfig.written (refresh : RefreshConfig) : RefreshConfig where
  interval := refresh.interval.map (· % 2 ^ 64)
  onUpstreamReload := refresh.onUpstreamReload
  timeout := refresh.timeout % 2 ^ 64
  jitter := refresh.jitter
  debounce := refresh.debounce % 2 ^ 64

theorem RefreshConfig.deserialize_serialize (refresh : RefreshConfig) :
    deserialize (serialize refresh) = some (written refresh) := by
  have found (key : String) : (serialize refresh).lookup key = _ :=
    lookup_entries
      (show ["interval", "on_upstream_reload", "timeout", "jitter", "debounce"].Nodup by decide)
  have known : knows ["interval", "on_upstream_reload", "timeout", "jitter", "debounce"]
      (serialize refresh) = true := knows_entries rfl
  have interval : fieldOption "interval" readDuration (serialize refresh) =
      some (refresh.interval.map (· % 2 ^ 64)) :=
    fieldOption_eq (found "interval") readDuration_format
  have upstream : fieldOr "on_upstream_reload" readBool false (serialize refresh) =
      some refresh.onUpstreamReload :=
    fieldOr_eq (found "on_upstream_reload") rfl
  have timeout : fieldOr "timeout" readDuration 600000 (serialize refresh) =
      some (refresh.timeout % 2 ^ 64) :=
    fieldOr_eq (found "timeout") (readDuration_format refresh.timeout)
  have jitter : fieldOr "jitter" readBool true (serialize refresh) = some refresh.jitter :=
    fieldOr_eq (found "jitter") rfl
  have debounce : fieldOr "debounce" readDuration 5000 (serialize refresh) =
      some (refresh.debounce % 2 ^ 64) :=
    fieldOr_eq (found "debounce") (readDuration_format refresh.debounce)
  simp only [deserialize, known, interval, upstream, timeout, jitter, debounce]
  rfl

def MaterializeConfig.serialize (materialize : MaterializeConfig) : Table := entries [
  ("residency", some (.string (MaterializeResidency.asStr materialize.residency))),
  ("sort_by", some (strings materialize.sortBy)),
  ("reuse_on_start", some (.boolean materialize.reuseOnStart))]

def MaterializeConfig.deserialize (table : Table) : Option MaterializeConfig := do
  guard (knows ["residency", "sort_by", "reuse_on_start"] table)
  let residency ← fieldOr "residency"
    (readVariant MaterializeResidency.asStr [.auto, .memory, .lazy]) .auto table
  let sortBy ← fieldOr "sort_by" (readArray readString) [] table
  let reuseOnStart ← fieldOr "reuse_on_start" readBool false table
  return { residency, sortBy, reuseOnStart }

theorem MaterializeConfig.deserialize_serialize (materialize : MaterializeConfig) :
    deserialize (serialize materialize) = some materialize := by
  have found (key : String) : (serialize materialize).lookup key = _ :=
    lookup_entries (show ["residency", "sort_by", "reuse_on_start"].Nodup by decide)
  have known : knows ["residency", "sort_by", "reuse_on_start"] (serialize materialize) = true :=
    knows_entries rfl
  have residency : fieldOr "residency"
      (readVariant MaterializeResidency.asStr [.auto, .memory, .lazy]) .auto
      (serialize materialize) = some materialize.residency :=
    fieldOr_eq (found "residency") (by cases materialize.residency <;> rfl)
  have sortBy : fieldOr "sort_by" (readArray readString) [] (serialize materialize) =
      some materialize.sortBy :=
    fieldOr_eq (found "sort_by") (read_strings materialize.sortBy)
  have reuse : fieldOr "reuse_on_start" readBool false (serialize materialize) =
      some materialize.reuseOnStart :=
    fieldOr_eq (found "reuse_on_start") rfl
  simp only [deserialize, known, residency, sortBy, reuse]
  rfl

/-! ### The datasets -/

namespace DatasetConfig

def deserialize (table : Table) : Option DatasetConfig := do
  let name ← field "name" readString table
  let source ← field "source" (readTable SourceConfig.deserialize) table
  let s3 ← fieldOption "s3" (readTable S3Config.deserialize) table
  let index ← fieldOr "index" (readTable IndexConfig.deserialize) {} table
  let columns ← fieldOr "columns" (readArray readString) [] table
  let dictEncode ← fieldOr "dict_encode" readBool true table
  let lazy ← fieldOr "lazy" readBool false table
  let predicateFilter ← fieldOr "predicate_filter" (readTable ColumnFilter.deserialize) {} table
  let projectionFilter ← fieldOr "projection_filter" (readTable ColumnFilter.deserialize) {} table
  let onStart ← fieldOr "on_start" (readVariant OnStart.asStr [.eager, .lazy, .skip]) .eager table
  let refresh ← fieldOption "refresh" (readTable RefreshConfig.deserialize) table
  let materialize ← fieldOption "materialize" (readTable MaterializeConfig.deserialize) table
  let managed ← fieldOr "managed" readBool false table
  let temp ← fieldOr "temp" readBool false table
  return { name, source, s3, index, columns, dictEncode, lazy, predicateFilter, projectionFilter,
           onStart, refresh, materialize, managed, temp }

/-- `Vec::is_empty` -/
def writtenColumns (d : DatasetConfig) : Option Value :=
  if d.columns = [] then none else some (strings d.columns)

def writtenIndex (d : DatasetConfig) : Option Value :=
  if IndexConfig.isDefault d.index then none else some (.table (IndexConfig.serialize d.index))

def writtenFilter (filter : ColumnFilter) : Option Value :=
  if ¬ filter.isActive then none else some (.table (ColumnFilter.serialize filter))

/-- The table of `to_toml_block`. -/
def block (d : DatasetConfig) : Table := entries [
  ("name", some (.string d.name)),
  ("columns", d.writtenColumns),
  ("dict_encode", some (.boolean d.dictEncode)),
  ("lazy", some (.boolean d.lazy)),
  ("source", some (.table d.source.serialize)),
  ("s3", d.s3.map fun s3 => .table s3.serialize),
  ("index", d.writtenIndex),
  ("predicate_filter", writtenFilter d.predicateFilter),
  ("projection_filter", writtenFilter d.projectionFilter)]

/-- The table of `to_managed_toml`. -/
def managedBlock (d : DatasetConfig) : Table := entries [
  ("name", some (.string d.name)),
  ("managed", some (.boolean true)),
  ("columns", d.writtenColumns),
  ("dict_encode", some (.boolean d.dictEncode)),
  ("lazy", some (.boolean d.lazy)),
  ("on_start", some (.string (OnStart.asStr d.onStart))),
  ("source", some (.table d.source.serialize)),
  ("refresh", d.refresh.map fun refresh => .table (RefreshConfig.serialize refresh)),
  ("materialize", d.materialize.map fun mc => .table (MaterializeConfig.serialize mc)),
  ("index", d.writtenIndex)]

/-- What `to_toml_block` says of a dataset. -/
def persisted (d : DatasetConfig) : DatasetConfig :=
  { d with onStart := .eager, refresh := none, materialize := none, managed := false, temp := false }

/-- What `to_managed_toml` says of a dataset. -/
def managedAs (d : DatasetConfig) : DatasetConfig :=
  { d with
    s3 := none, predicateFilter := {}, projectionFilter := {},
    refresh := d.refresh.map RefreshConfig.written, managed := true, temp := false }

section
variable {d : DatasetConfig} {table : Table}

theorem read_columns (found : table.lookup "columns" = d.writtenColumns) :
    fieldOr "columns" (readArray readString) [] table = some d.columns :=
  fieldOr_skipped found id (read_strings d.columns)

theorem read_index (found : table.lookup "index" = d.writtenIndex) :
    fieldOr "index" (readTable IndexConfig.deserialize) {} table = some d.index :=
  fieldOr_skipped found IndexConfig.eq_of_isDefault (IndexConfig.deserialize_serialize d.index)

theorem read_filter {key : String} {filter : ColumnFilter}
    (found : table.lookup key = writtenFilter filter) :
    fieldOr key (readTable ColumnFilter.deserialize) {} table = some filter := by
  refine fieldOr_skipped found (fun inactive => ?_) (ColumnFilter.deserialize_serialize filter)
  obtain ⟨included, excluded⟩ := filter
  simp only [ColumnFilter.isActive, Bool.not_eq_true, Bool.or_eq_false_iff, Bool.not_eq_false',
    List.isEmpty_iff] at inactive
  obtain ⟨rfl, rfl⟩ := inactive
  rfl

end

theorem deserialize_block (d : DatasetConfig) : deserialize d.block = some d.persisted := by
  have found (key : String) : d.block.lookup key = _ :=
    lookup_entries (show ["name", "columns", "dict_encode", "lazy", "source", "s3", "index",
      "predicate_filter", "projection_filter"].Nodup by decide)
  have name : field "name" readString d.block = some d.name := field_eq (found "name") rfl
  have source : field "source" (readTable SourceConfig.deserialize) d.block = some d.source :=
    field_eq (found "source") d.source.deserialize_serialize
  have s3 : fieldOption "s3" (readTable S3Config.deserialize) d.block = some (d.s3.map id) :=
    fieldOption_eq (found "s3") S3Config.deserialize_serialize
  have dictEncode : fieldOr "dict_encode" readBool true d.block = some d.dictEncode :=
    fieldOr_eq (found "dict_encode") rfl
  have lazy : fieldOr "lazy" readBool false d.block = some d.lazy := fieldOr_eq (found "lazy") rfl
  have onStart : fieldOr "on_start" (readVariant OnStart.asStr [.eager, .lazy, .skip]) .eager
      d.block = some .eager := fieldOr_missing (found "on_start")
  have refresh : fieldOption "refresh" (readTable RefreshConfig.deserialize) d.block = some none :=
    fieldOr_missing (found "refresh")
  have materialize : fieldOption "materialize" (readTable MaterializeConfig.deserialize) d.block =
      some none := fieldOr_missing (found "materialize")
  have managed : fieldOr "managed" readBool false d.block = some false :=
    fieldOr_missing (found "managed")
  have temp : fieldOr "temp" readBool false d.block = some false := fieldOr_missing (found "temp")
  rw [Option.map_id] at s3
  simp only [deserialize, name, source, s3, read_index (found "index"),
    read_columns (found "columns"), dictEncode, lazy, read_filter (found "predicate_filter"),
    read_filter (found "projection_filter"), onStart, refresh, materialize, managed, temp]
  rfl

theorem deserialize_managedBlock (d : DatasetConfig) :
    deserialize d.managedBlock = some d.managedAs := by
  have found (key : String) : d.managedBlock.lookup key = _ :=
    lookup_entries (show ["name", "managed", "columns", "dict_encode", "lazy", "on_start", "source",
      "refresh", "materialize", "index"].Nodup by decide)
  have name : field "name" readString d.managedBlock = some d.name := field_eq (found "name") rfl
  have source : field "source" (readTable SourceConfig.deserialize) d.managedBlock =
      some d.source :=
    field_eq (found "source") d.source.deserialize_serialize
  have s3 : fieldOption "s3" (readTable S3Config.deserialize) d.managedBlock = some none :=
    fieldOr_missing (found "s3")
  have dictEncode : fieldOr "dict_encode" readBool true d.managedBlock = some d.dictEncode :=
    fieldOr_eq (found "dict_encode") rfl
  have lazy : fieldOr "lazy" readBool false d.managedBlock = some d.lazy :=
    fieldOr_eq (found "lazy") rfl
  have filter (key : String) (absent : d.managedBlock.lookup key = none) :
      fieldOr key (readTable ColumnFilter.deserialize) {} d.managedBlock = some {} :=
    fieldOr_missing absent
  have onStart : fieldOr "on_start" (readVariant OnStart.asStr [.eager, .lazy, .skip]) .eager
      d.managedBlock = some d.onStart :=
    fieldOr_eq (found "on_start") (by cases d.onStart <;> rfl)
  have refresh : fieldOption "refresh" (readTable RefreshConfig.deserialize) d.managedBlock =
      some (d.refresh.map RefreshConfig.written) :=
    fieldOption_eq (found "refresh") RefreshConfig.deserialize_serialize
  have materialize : fieldOption "materialize" (readTable MaterializeConfig.deserialize)
      d.managedBlock = some (d.materialize.map id) :=
    fieldOption_eq (found "materialize") MaterializeConfig.deserialize_serialize
  have managed : fieldOr "managed" readBool false d.managedBlock = some true :=
    fieldOr_eq (found "managed") rfl
  have temp : fieldOr "temp" readBool false d.managedBlock = some false :=
    fieldOr_missing (found "temp")
  rw [Option.map_id] at materialize
  simp only [deserialize, name, source, s3, read_index (found "index"),
    read_columns (found "columns"), dictEncode, lazy,
    filter "predicate_filter" (found "predicate_filter"),
    filter "projection_filter" (found "projection_filter"), onStart, refresh, materialize, managed,
    temp]
  rfl

end DatasetConfig
end Datapress.Config
