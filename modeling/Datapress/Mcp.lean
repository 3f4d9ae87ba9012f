import Datapress.Handlers

/-!
The MCP endpoint: one route, whose JSON-RPC methods call the tools.

`none` as a response means that the handler panicked, and the connection is closed.
-/
namespace Datapress.Mcp

open Datapress

structure Settings where
  enabled : Bool := false
  exposeSql : Bool := false
  pageSize : UInt64 := 100
  maxPageSize : UInt64 := 100000
  sqlEnabled : Bool := false
  sqlMaxRows : UInt64 := 100000
  /-- Zero disables the timer of a tool call. -/
  requestTimeoutMs : UInt64 := 0
deriving DecidableEq, Repr

/-- `Ord::clamp`, which panics when the bounds cross. -/
def clamp (value low high : UInt64) : Option UInt64 :=
  if low ≤ high then some (min (max value low) high) else none

/-- The derived deserialisers of the requests, which belong to `serde`. -/
structure Decoders where
  initializeParams : JsonValue → Except String Unit
  /-- From the arguments of a call without the name of the dataset. -/
  queryRequest : List (String × JsonValue) → Except String QueryRequest
  /-- From the predicates of a call. -/
  countRequest : JsonValue → Except String CountRequest

/-! ### Tools -/

def field (key : String) : JsonValue → Option JsonValue
  | .object fields => fields.lookup key
  | _ => none

def stringField (key : String) (args : JsonValue) : Option String :=
  match field key args with
  | some (.string text) => some text
  | _ => none

def u64Field (key : String) (args : JsonValue) : Option UInt64 :=
  match field key args with
  | some (.number n) => n.asU64
  | _ => none

variable [ToLowercase] {Data : Type}

/-- What a tool reads: the backend, the SQL parser, the settings and the decoders. -/
structure ToolContext (Data : Type) where
  backend : BackendData Data
  parse : Sql.Parser
  settings : Settings
  decode : Decoders

def toolNames (settings : Settings) : List String :=
  ["list_datasets", "describe_dataset", "describe_all_datasets", "query_dataset", "count_rows"] ++
    if settings.exposeSql && settings.sqlEnabled then ["sql"] else []

def callListDatasets (context : ToolContext Data) : ToolResult Data :=
  .listDatasets context.backend.datasetStatuses

/-- The sample is the row as the backend sees it. -/
def callDescribeDataset [JsonParse] (context : ToolContext Data) (args : JsonValue) :
    ToolResult Data :=
  match stringField "name" args with
  | none => .failed "missing required parameter: name"
  | some name =>
    match context.backend.schema name with
    | .error e => let text := e.display; .failed s!"dataset '{name}': {text}"
    | .ok schema =>
      match context.backend.summary name with
      | .error e => let text := e.display; .failed s!"dataset '{name}' summary: {text}"
      | .ok summary =>
        match context.backend.sample name with
        | .error e => let text := e.display; .failed s!"dataset '{name}' sample: {text}"
        | .ok sample =>
          .describeDataset schema.name summary.rows schema.visibleColumns
            ((JsonParse.parse sample).getD .null)

def callDescribeAllDatasets (context : ToolContext Data) : ToolResult Data :=
  .describeAllDatasets (context.backend.names.map fun name =>
    (name, (·.visibleColumns) <$> context.backend.schema name))

/-- The arguments of a query without the dataset's name, and with the default page size where
the caller names none. -/
def queryArguments (defaultPageSize : UInt64) (fields : List (String × JsonValue)) :
    List (String × JsonValue) :=
  let others := fields.filter fun (key, _) => key != "name"
  if others.any fun (key, _) => key == "page_size" then others
  else others ++ [("page_size", .number (.posInt defaultPageSize))]

def callQueryDataset [Encoded Data] (context : ToolContext Data) (defaultPageSize : UInt64)
    (args : JsonValue) : Option (ToolResult Data) :=
  match stringField "name" args, args with
  | none, _ => some (.failed "missing required parameter: name")
  | some name, .object fields =>
    match context.decode.queryRequest (queryArguments defaultPageSize fields) with
    | .error e => some (.failed s!"invalid query parameters: {e}")
    | .ok request => do
      let pageSize ← clamp request.pageSize 1 context.settings.maxPageSize
      let request := { request with page := max request.page 1, pageSize }
      let checked :=
        match context.backend.schema name with
        | .ok schema => request.enforceColumnFilters schema
        | .error _ => .ok request
      match checked with
      | .error e => some (.failed e.display)
      | .ok request =>
        match context.backend.answer name (.query request) with
        | .error e => some (.failed e.display)
        | .ok data =>
          some (.queryDataset data request.page pageSize (Encoded.returned data))
  | some _, _ => some (.failed "arguments must be an object")

def callCountRows (context : ToolContext Data) (args : JsonValue) : ToolResult Data :=
  match stringField "name" args with
  | none => .failed "missing required parameter: name"
  | some name =>
    match context.decode.countRequest ((field "predicates" args).getD (.array [])) with
    | .error e => .failed s!"invalid predicates: {e}"
    | .ok request =>
      match context.backend.answer name (.count request) with
      | .error e => .failed e.display
      | .ok n => .countRows n

def callSql (context : ToolContext Data) (args : JsonValue) : Option (ToolResult Data) :=
  match stringField "sql" args with
  | none => some (.failed "missing required parameter: sql")
  | some sql => do
    let maxRows ←
      match u64Field "max_rows" args with
      | some asked => clamp asked 1 context.settings.sqlMaxRows
      | none => some context.settings.sqlMaxRows
    match Sql.validateAndAuthorize context.parse context.backend.registry sql with
    | .error e => some (.failed e.display)
    | .ok validated =>
      match context.backend.querySql validated.sql validated.datasets maxRows with
      | .error e => some (.failed e.display)
      | .ok data => some (.sql data maxRows)

def dispatch [JsonParse] [Encoded Data] (context : ToolContext Data) (defaultPageSize : UInt64)
    (name : String) (args : JsonValue) : Option (Except RpcError (ToolResult Data)) :=
  match name with
  | "list_datasets" => some (.ok (callListDatasets context))
  | "describe_dataset" => some (.ok (callDescribeDataset context args))
  | "describe_all_datasets" => some (.ok (callDescribeAllDatasets context))
  | "query_dataset" => .ok <$> callQueryDataset context defaultPageSize args
  | "count_rows" => some (.ok (callCountRows context args))
  | "sql" =>
      if context.settings.exposeSql && context.settings.sqlEnabled then
        .ok <$> callSql context args
      else some (.error (.invalidParams "unknown tool: sql (not enabled on this server)"))
  | other => some (.error (.invalidParams s!"unknown tool: {other}"))

/-! ### The route -/

/-- A parsed message; a notification has no id. -/
structure RpcMessage where
  isNotification : Bool
  method : Option String
  params : JsonValue

/-- What a POST reads: the verdict of the origin check, two headers, and the parsed body. -/
structure Post where
  originAllowed : Bool := true
  protocolVersion : Option String := none
  accept : Option String := none
  message : Except RpcError RpcMessage
  /-- Whether the timer of a tool call runs out before its result. -/
  timedOut : Bool := false

def protocolVersion : String := "2025-11-25"

def acceptHeaderAllowsJson (accept : String) : Bool :=
  (accept.toList.splitOn ',').any fun part =>
    let kind := trim (String.ofList (part.takeWhile (· != ';')))
    kind == "application/json" || kind == "*/*" || kind == "text/event-stream"

def handleToolsCall [JsonParse] [Encoded Data] (context : ToolContext Data) (timedOut : Bool)
    (params : JsonValue) : Option (Except RpcError (RpcResult Data)) :=
  match stringField "name" params with
  | none => some (.error (.invalidParams "tools/call requires params.name"))
  | some name => do
    let args := (field "arguments" params).getD .null
    let pageSize ← clamp context.settings.pageSize 1 context.settings.maxPageSize
    if timedOut && context.settings.requestTimeoutMs > 0 then
      let ms := context.settings.requestTimeoutMs
      some (.ok (.call (.failed (s!"query timed out after {ms}ms; add predicates, " ++
        "reduce page_size, or use count_rows first"))))
    else
      let result ← dispatch context pageSize name args
      some (.call <$> result)

def dispatchMethod [JsonParse] [Encoded Data] (context : ToolContext Data) (timedOut : Bool)
    (method : String) (params : JsonValue) : Option (Except RpcError (RpcResult Data)) :=
  match method with
  | "initialize" => some
      (match context.decode.initializeParams params with
      | .ok _ => .ok .initialized
      | .error e => .error (.invalidParams s!"invalid initialize params: {e}"))
  | "ping" => some (.ok .pong)
  | "tools/list" => some (.ok (.tools (toolNames context.settings)))
  | "tools/call" => handleToolsCall context timedOut params
  | other => some (.error (.methodNotFound other))

def rpc (outcome : Except RpcError (RpcResult Data)) : Response Data := .ok (.rpc outcome)

/-- A refusal of the guard ends the request as an HTTP error, before any dispatch. -/
def handlePost [JsonParse] [Encoded Data] (auth : AuthState) (context : ToolContext Data)
    (principal : Option Principal) (post : Post) : Option (Response Data) :=
  if !context.settings.enabled then some (.empty 404)
  else if !post.originAllowed then some (.text 403 "Origin not allowed for MCP endpoint")
  else if post.protocolVersion.any (· != protocolVersion) then
    let version := post.protocolVersion.getD ""
    let error := RpcError.invalidRequest
      s!"unsupported MCP protocol version: {version}; server supports {protocolVersion}"
    some { status := 400, body := .rpc (.error error) }
  else if post.accept.any (!acceptHeaderAllowsJson ·) then
    some (.text 406 "only application/json responses are supported")
  else
    match post.message with
    | .error e => some (rpc (.error e))
    | .ok message =>
      if message.isNotification then some (.empty 202)
      else
        match message.method with
        | none => some (rpc (.error (.invalidRequest "missing method field")))
        | some method =>
          match auth.checkAuth method principal with
          | .error e => some (.failure e)
          | .ok () => rpc <$> dispatchMethod context post.timedOut method message.params

def handleGet (settings : Settings) : Response Data :=
  if !settings.enabled then .empty 404 else .empty 405

def handleDelete (settings : Settings) (sessionId : Bool) : Response Data :=
  if !settings.enabled then .empty 404 else if sessionId then .empty 200 else .empty 405

def handleOptions (settings : Settings) : Response Data :=
  if !settings.enabled then .empty 404 else .empty 200

end Datapress.Mcp
