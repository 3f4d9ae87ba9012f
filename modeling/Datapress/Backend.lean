import Datapress.Lifecycle
import Datapress.Sql.Gate

/-!
What the handlers ask of a backend, and the bodies they answer with.

`Data` is what a backend encodes an answer as: rows, a count or a Parquet file.
-/
namespace Datapress

inductive RefreshSource where
  | startup | manual | schedule | cascade
deriving DecidableEq, Repr

structure DatasetStatusEntry where
  name : String
  status : DatasetStatus
  onStart : OnStart := .eager
  kind : String
  residency : String := "memory"
  storageBytes : Option UInt64 := none
  generationId : Option String := none
  lastRefreshAt : Option String := none
  lastRefreshDurationMs : Option Nat := none
  nextRefreshAt : Option String := none
  refreshSource : Option RefreshSource := none
  consecutiveFailures : UInt32 := 0
  lastError : Option String := none
  columns : Nat := 0
  rows : Nat := 0
  lazy : Bool := false
  dependsOn : List String := []
deriving DecidableEq, Repr

structure DatasetSummary where
  name : String
  columns : Nat
  rows : Nat
  lazy : Bool
deriving DecidableEq, Repr

structure ReloadStats where
  rows : Nat
  elapsedMs : Nat
  demotedToStorage : Bool := false
  memoryOverrideExceeded : Bool := false
deriving DecidableEq, Repr

/-- The block of one dataset in the configuration file. -/
structure DatasetBlock extends DatasetConfig where
  kind : String
  location : String
  columns : List String := []
  indexMode : String := "auto"
  indexColumns : List String := []
  dictEncode : Bool := true
  lazy : Bool := false
deriving Repr

/-- The methods of a backend, as they answer the calls of one request. -/
structure BackendData (Data : Type) where
  names : List String
  datasetStatuses : List DatasetStatusEntry
  schema : String → Except AppError DatasetSchema
  summary : String → Except AppError DatasetSummary
  indexedColumns : String → Except AppError (List String)
  sample : String → Except AppError String
  /-- `query`, `query_arrow_stream`, `query_arrow_stream_all` and `count`. -/
  answer : String → Call → Except AppError Data
  querySql : String → List String → UInt64 → Except AppError Data
  querySqlArrowStream : String → List String → UInt64 → Except AppError Data
  parquet : String → Except AppError Data
  register : DatasetBlock → Except AppError DatasetSummary
  reload : String → Except AppError ReloadStats
  unregister : String → Except AppError Unit
  isManaged : String → Bool
  isTemp : String → Bool

/-- What the SQL gate asks. -/
def BackendData.registry (backend : BackendData Data) : Sql.Registry where
  datasets := backend.datasetStatuses.map (·.name)
  names := backend.names
  schema := backend.schema

/-- `serde_json::from_str`, which belongs to `serde_json`. -/
class JsonParse where
  parse : String → Option JsonValue

/-- A parser for runs that read no JSON text. -/
@[reducible] def unusedJsonParse : JsonParse where
  parse _ := none

/-- The number of rows in a JSON answer; zero when it is no array. -/
class Encoded (Data : Type) where
  returned : Data → Nat

/-- Answers for runs that return none. -/
@[reducible] def unusedRows : Encoded Unit where
  returned _ := 0

/-- A byte range of a body, with an inclusive end. -/
structure ByteRange where
  start : Nat
  last : Nat
deriving DecidableEq, Repr

/-- A row sample in a response: the text of the backend, or a JSON value written out. -/
inductive Sample where
  | raw (text : String)
  | written (value : JsonValue)
deriving Repr

inductive SavedQueryKind where
  | temp | query
deriving DecidableEq, Repr

structure SavedQueryEntry where
  name : String
  kind : SavedQueryKind
  dependsOn : List String
  state : String
  managedFile : Option String := none
deriving DecidableEq, Repr

/-- The text of a successful MCP tool call, or its error text. -/
inductive ToolResult (Data : Type) where
  | listDatasets (datasets : List DatasetStatusEntry)
  | describeDataset (name : String) (rows : Nat) (columns : List ColumnInfo) (sample : JsonValue)
  | describeAllDatasets (datasets : List (String × Except AppError (List ColumnInfo)))
  | queryDataset (data : Data) (page pageSize : UInt64) (returned : Nat)
  | countRows (n : Data)
  | sql (data : Data) (maxRows : UInt64)
  | failed (message : String)

structure RpcError where
  code : Int
  message : String
deriving DecidableEq, Repr

namespace RpcError

def invalidRequest (message : String) : RpcError := ⟨-32600, message⟩
def methodNotFound (method : String) : RpcError := ⟨-32601, s!"method not found: {method}"⟩
def invalidParams (message : String) : RpcError := ⟨-32602, message⟩

end RpcError

/-- The `result` of a JSON-RPC response. -/
inductive RpcResult (Data : Type) where
  | initialized
  | pong
  | tools (names : List String)
  | call (result : ToolResult Data)

structure ColumnView where
  name : String
  logical : LogicalType
  sqlType : String
  nullable : Bool
  indexed : Bool
deriving DecidableEq, Repr

/-- The explorer's page of one dataset. -/
structure DatasetPage where
  name : String
  rows : Nat
  columnCount : Nat
  indexedCount : Nat
  nullableCount : Nat
  sourceKind : String
  sourceLocation : String
  indexMode : String
  indexColumns : List String
  /-- `none` reads "all columns". -/
  projection : Option (List String)
  dictEncode : Bool
  lazy : Bool
  columns : List ColumnView
  /-- `none` is shown as a dash. -/
  samplePretty : Option Sample
  isManaged : Bool
  managedFile : String
deriving Repr

structure DatasetListItem where
  name : String
  rows : Nat
  columns : Nat
  kind : String
  state : String
  lastError : String
  isManaged : Bool
deriving DecidableEq, Repr

inductive Body (Data : Type) where
  | empty
  /-- A fixed text, an embedded file or an alert. -/
  | text (content : String)
  | error (e : AppError)
  /-- The number of published datasets, or why the server is not ready. -/
  | readiness (verdict : Except String Nat)
  | listing (datasets : List DatasetStatusEntry)
  | status (entry : DatasetStatusEntry)
  | schema (name : String) (rows : Nat) (columns : List ColumnInfo) (indexed : List String)
      (sample : Sample)
  | page (data : Data) (page pageSize : UInt64)
  | sqlRows (data : Data) (maxRows : UInt64)
  | stream (data : Data)
  | count (n : Data)
  | parquet (bytes : Data) (range : Option ByteRange)
  | registered (summary : DatasetSummary)
  | persisted (path : String)
  | reloaded (dataset : String) (stats : ReloadStats)
  | reloadWave (enqueued skipped : List String)
  | configReloaded (registered skipped : List String) (errors : List (String × AppError))
  | savedQuery (entry : SavedQueryEntry)
  | savedQueries (entries : List SavedQueryEntry)
  | deleted (name : String)
  | rpc (outcome : Except RpcError (RpcResult Data))
  | explorerIndex (datasets : List DatasetListItem)
  | explorerDataset (page : DatasetPage)

structure Response (Data : Type) where
  status : Nat
  body : Body Data

namespace Response

def ok (body : Body Data) : Response Data := { status := 200, body }

def text (status : Nat) (content : String) : Response Data := { status, body := .text content }

def empty (status : Nat) : Response Data := { status, body := .empty }

/-- `AppError::error_response`. -/
def failure (e : AppError) : Response Data := { status := e.statusCode, body := .error e }

end Response

/-- A handler that returns early ends with the response of the error. -/
def respond (outcome : Except AppError (Response Data)) : Response Data :=
  match outcome with
  | .ok response => response
  | .error e => .failure e

end Datapress
