import Datapress.Auth
import Datapress.Backend

/-! The handlers of the versioned API and the probes. Each calls its own guard. -/
namespace Datapress

structure SqlSettings where
  enabled : Bool := false
  /-- At least one in a running server. -/
  maxRows : UInt64 := 100000
deriving DecidableEq, Repr

/-- The work of the administrative routes behind their guards. -/
structure AdminActions (Data : Type) where
  persistToSourceConfig : DatasetBlock → Except AppError String
  /-- `source_config_path` and, when there is one, `AppConfig::load`. -/
  loadSourceConfig : Option (Except AppError (List DatasetBlock))
  reloadAll : List String × List String
  createQuery : Except AppError (Nat × SavedQueryEntry)
  deleteQuery : String → Except AppError String

/-- What the handlers of the API share. -/
structure Api (Data : Type) where
  auth : AuthState
  backend : BackendData Data
  parse : Sql.Parser
  sql : SqlSettings
  maxPageSize : UInt64
  /-- The Parquet exports built so far; absent without the cache. -/
  parquetCache : String → Option Data
  /-- `parse_byte_range` against the length of a body. -/
  parseByteRange : String → Data → Except Unit (Option ByteRange)
  queriesEnabled : Bool
  admin : AdminActions Data

namespace Handlers

variable [ToLowercase] {Data : Type}

def listDatasets (api : Api Data) (principal : Option Principal) :
    Except AppError (Response Data) := do
  api.auth.requireRead principal
  let entries := api.backend.datasetStatuses.map fun entry =>
    if entry.status = .published then
      match api.backend.schema entry.name with
      | .ok schema =>
          if schema.projectionFilter.isActive then
            { entry with columns := schema.visibleColumns.length }
          else entry
      | .error _ => entry
    else entry
  .ok (.ok (.listing entries))

/-- Removes the hidden keys of a row sample. A text that is no JSON object is left unchanged. -/
def stripHiddenSample [JsonParse] (sample : String) (schema : DatasetSchema) : Sample :=
  match JsonParse.parse sample with
  | some (.object map) => .written (.object (map.filter fun (k, _) => schema.isVisible k))
  | _ => .raw sample

def getSchema [JsonParse] (api : Api Data) (principal : Option Principal) (name : String) :
    Except AppError (Response Data) := do
  api.auth.requireRead principal
  let schema ← api.backend.schema name
  let summary ← api.backend.summary name
  let indexed ← api.backend.indexedColumns name
  let sample ← api.backend.sample name
  let hides := schema.projectionFilter.isActive
  let indexed := if hides then indexed.filter schema.isVisible else indexed
  let sample := if hides then stripHiddenSample sample schema else .raw sample
  .ok (.ok (.schema schema.name summary.rows schema.visibleColumns indexed sample))

def getDatasetStatus (api : Api Data) (principal : Option Principal) (name : String) :
    Except AppError (Response Data) := do
  api.auth.requireRead principal
  match api.backend.datasetStatuses.find? (·.name == name) with
  | some entry => .ok (.ok (.status entry))
  | none => .error (.notFound s!"dataset '{name}' not found")

def queryDataset (api : Api Data) (principal : Option Principal) (arrow : Bool) (name : String)
    (request : QueryRequest) : Except AppError (Response Data) := do
  api.auth.requireRead principal
  let clamped := request.clampPage api.maxPageSize
  let asked := if arrow then Call.queryArrowStream request else .query request
  let call ← asked.enforce api.maxPageSize (api.backend.schema name)
  let data ← api.backend.answer name call
  .ok (.ok (if arrow then .stream data else .page data clamped.page clamped.pageSize))

/-- The row cap of the server, which a request may lower. -/
def SqlSettings.cap (settings : SqlSettings) (asked : Option UInt64) : UInt64 :=
  match asked with
  | some cap => min (max cap 1) settings.maxRows
  | none => settings.maxRows

def sqlQuery (api : Api Data) (principal : Option Principal) (arrow : Bool) (sql : String)
    (maxRows : Option UInt64) : Except AppError (Response Data) :=
  if !api.sql.enabled then .error (.notFound "sql endpoint")
  else do
    api.auth.requireRead principal
    let validated ← Sql.validateAndAuthorize api.parse api.backend.registry sql
    let cap := SqlSettings.cap api.sql maxRows
    if arrow then
      let data ← api.backend.querySqlArrowStream validated.sql validated.datasets cap
      .ok (.ok (.stream data))
    else
      let data ← api.backend.querySql validated.sql validated.datasets cap
      .ok (.ok (.sqlRows data cap))

def streamDataset (api : Api Data) (principal : Option Principal) (name : String)
    (request : QueryRequest) : Except AppError (Response Data) := do
  api.auth.requireRead principal
  let call ← (Call.queryArrowStreamAll request).enforce api.maxPageSize (api.backend.schema name)
  let data ← api.backend.answer name call
  .ok (.ok (.stream data))

/-- A request without a body counts every row. -/
def countDataset (api : Api Data) (principal : Option Principal) (name : String)
    (body : Option CountRequest) : Except AppError (Response Data) := do
  api.auth.requireRead principal
  let request := body.getD {}
  let call ← (Call.count request).enforce api.maxPageSize (api.backend.schema name)
  let n ← api.backend.answer name call
  .ok (.ok (.count n))

def serveBytesWithRange (api : Api Data) (range : Option String) (bytes : Data) :
    Response Data :=
  match range.map (api.parseByteRange · bytes) with
  | some (.error ()) => .empty 416
  | some (.ok (some range)) => { status := 206, body := .parquet bytes (some range) }
  | _ => .ok (.parquet bytes none)

/-- The export streams the raw source: it is refused for a dataset that hides columns. -/
def parquetDataset (api : Api Data) (principal : Option Principal) (range : Option String)
    (name : String) : Except AppError (Response Data) := do
  api.auth.requireRead principal
  let schema ← api.backend.schema name
  if schema.projectionFilter.isActive then
    .error (.forbidden
      s!"parquet export is disabled for dataset '{name}' because it hides columns")
  else
    match api.parquetCache name with
    | some cached => .ok (serveBytesWithRange api range cached)
    | none =>
        let bytes ← api.backend.parquet name
        .ok (serveBytesWithRange api range bytes)

/-! ### Administration -/

def registerDataset (api : Api Data) (request : HttpRequest) (principal : Option Principal)
    (block : DatasetBlock) : Except AppError (Response Data) := do
  api.auth.requireReload request principal
  let summary ← api.backend.register block
  .ok (.ok (.registered summary))

def persistDataset (api : Api Data) (request : HttpRequest) (principal : Option Principal)
    (block : DatasetBlock) : Except AppError (Response Data) := do
  api.auth.requireReload request principal
  let path ← api.admin.persistToSourceConfig block
  .ok (.ok (.persisted path))

def reloadDataset (api : Api Data) (request : HttpRequest) (principal : Option Principal)
    (name : String) : Except AppError (Response Data) := do
  api.auth.requireReload request principal
  let stats ← api.backend.reload name
  .ok (.ok (.reloaded name stats))

/-- The builds run later; the response names what was enqueued. -/
def reloadAllDatasets (api : Api Data) (request : HttpRequest) (principal : Option Principal) :
    Except AppError (Response Data) := do
  api.auth.requireReload request principal
  let (enqueued, skipped) := api.admin.reloadAll
  .ok { status := 202, body := .reloadWave enqueued skipped }

/-- Registers the datasets that are new in the file; a bad one does not stop the others. -/
def reloadConfig (api : Api Data) (request : HttpRequest) (principal : Option Principal) :
    Except AppError (Response Data) := do
  api.auth.requireReload request principal
  match api.admin.loadSourceConfig with
  | none => .error (.invalidValue "server has no on-disk config file to reload")
  | some loaded =>
      let blocks ← loaded
      let known := blocks.filter fun block => api.backend.names.contains block.name
      let fresh := blocks.filter fun block => !api.backend.names.contains block.name
      let registered := fresh.filter fun block => (api.backend.register block).isOk
      let errors := fresh.filterMap fun block =>
        match api.backend.register block with
        | .ok _ => none
        | .error e => some (block.name, e)
      .ok (.ok (.configReloaded (registered.map (·.name)) (known.map (·.name)) errors))

/-! ### Saved queries -/

def queriesDisabled : String :=
  "queries API is disabled — set ADMIN_TOKEN or configure auth"

/-- The guard of the three routes: they do not exist without a way to authorise them. -/
def guardQueries (api : Api Data) (request : HttpRequest) (principal : Option Principal)
    (work : Except AppError (Response Data)) : Except AppError (Response Data) :=
  if !api.queriesEnabled then .ok (.text 404 queriesDisabled)
  else do
    api.auth.requireManage request principal
    work

def createQuery (api : Api Data) (request : HttpRequest) (principal : Option Principal) :
    Except AppError (Response Data) :=
  guardQueries api request principal do
    let (status, entry) ← api.admin.createQuery
    .ok { status, body := .savedQuery entry }

def listQueries (api : Api Data) (request : HttpRequest) (principal : Option Principal) :
    Except AppError (Response Data) :=
  guardQueries api request principal do
    let managed := api.backend.datasetStatuses.filter fun s => api.backend.isManaged s.name
    let entries := managed.map fun s =>
      { name := s.name
        kind := if api.backend.isTemp s.name then .temp else .query
        dependsOn := s.dependsOn
        state := s.status.text : SavedQueryEntry }
    .ok (.ok (.savedQueries entries))

def deleteQuery (api : Api Data) (request : HttpRequest) (principal : Option Principal)
    (name : String) : Except AppError (Response Data) :=
  guardQueries api request principal do
    let name ← api.admin.deleteQuery name
    .ok (.ok (.deleted name))

/-! ### Probes -/

inductive ReadinessMode where
  | all | any
deriving DecidableEq, Repr

/-- Only eager datasets gate readiness; without any, one published dataset is enough. -/
def isReady (mode : ReadinessMode) (statuses : List DatasetStatusEntry) : Bool :=
  let gating := statuses.filter (·.onStart == .eager)
  if gating.isEmpty then statuses.any (·.status == .published)
  else
    match mode with
    | .all => gating.all (·.status == .published)
    | .any => gating.any (·.status == .published)

def readyz (mode : ReadinessMode) (statuses : List DatasetStatusEntry) : Response Data :=
  if isReady mode statuses then
    .ok (.readiness (.ok (statuses.filter (·.status == .published)).length))
  else
    let failed := (statuses.filter fun s => s.onStart == .eager && s.status == .failed).map (·.name)
    let reason :=
      if failed.isEmpty then "datasets are loading"
      else
        let names := ", ".intercalate (failed.map fun name => "\"" ++ name ++ "\"")
        s!"failed datasets: [{names}]"
    { status := 503, body := .readiness (.error reason) }

end Handlers
end Datapress
