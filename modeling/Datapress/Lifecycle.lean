import Mathlib.Logic.Relation
import Datapress.ColumnAccess

/-!
The life of one configured dataset under requests.

A dataset is built at startup, by a first query or by a reload, and serves its last generation in
the meantime. A request looks its schema up in the handler, has its columns checked, and is answered
by the backend later: builds and other requests may come in between.
-/

namespace Datapress

inductive DatasetStatus where
  | pending
  | building
  | published
  | failed
deriving DecidableEq, Repr

/-- The lowercased debug text of a status. -/
def DatasetStatus.text : DatasetStatus → String
  | pending => "pending"
  | building => "building"
  | published => "published"
  | failed => "failed"

inductive OnStart where
  | eager
  | lazy
  | skip
deriving DecidableEq, Repr

/-- What the configuration of a dataset says about its columns and its first build. -/
structure DatasetConfig where
  name : String
  predicateFilter : ColumnFilter := {}
  projectionFilter : ColumnFilter := {}
  onStart : OnStart := .eager
deriving Repr

/-- A built generation. A lazy one leaves its rows in the source. -/
structure DatasetState where
  schema : DatasetSchema
  lazy : Bool
deriving Repr

/-- The entries of one dataset in the maps of a backend, and the builds under way. -/
structure Lifecycle where
  status : DatasetStatus := .pending
  live : Option DatasetState := none
  builds : Nat := 0

inductive Backend where
  | dataFusion
  | duckdb
deriving DecidableEq, Repr

section
variable [ToLowercase]

/-- A build introspects the columns of its source and attaches the configured filters. -/
def DatasetConfig.build (config : DatasetConfig) (columns : List ColumnInfo) (lazy : Bool) :
    Except AppError DatasetState := do
  let schema ← (DatasetSchema.new config.name columns).withFilters
    config.predicateFilter config.projectionFilter
  .ok { schema, lazy }

/-- The changes of a dataset. A generation is put into place before its status is set. -/
inductive Change (config : DatasetConfig) (before : Lifecycle) : Lifecycle → Prop where
  | start : Change config before
      { before with status := .building, builds := before.builds + 1 }
  | swap : before.builds = n + 1 → config.build columns lazy = .ok built →
      Change config before { before with live := some built }
  | publish : before.builds = n + 1 → before.live = some built →
      Change config before { before with status := .published, builds := n }
  /-- A failed reload keeps the last good generation. -/
  | failReload : before.builds = n + 1 →
      Change config before
        { before with
          status := if before.live.isSome then .published else .failed
          builds := n }
  /-- A failed first build, at startup or on a first query. -/
  | failFirst : before.builds = n + 1 →
      Change config before { before with status := .failed, builds := n }
  /-- At startup, a dataset whose upstream failed is not built. -/
  | unavailable : Change config before { before with status := .failed }

end

namespace Lifecycle

/-- `Store::dataset` and `Registry::get`. -/
def dataset (config : DatasetConfig) (state : Lifecycle) : Except AppError DatasetState :=
  match state.live with
  | some live => .ok live
  | none =>
      let name := config.name
      .error (.notFound s!"dataset: {name}")

end Lifecycle

/-- What `ensure_ready` of the DataFusion store does. -/
inductive Readiness where
  | ready
  | firstTouchBuild
  | refused (e : AppError)
deriving DecidableEq

def DataFusion.ensureReady (config : DatasetConfig) (state : Lifecycle) : Readiness :=
  match state.status, config.onStart with
  | .published, _ => .ready
  | .pending, .lazy => .firstTouchBuild
  | status, _ => .refused (.notReady config.name status.text)

def DuckDB.ensureReadySync (config : DatasetConfig) (state : Lifecycle) : Except AppError Unit :=
  match state.status with
  | .published => .ok ()
  | status => .error (.notReady config.name status.text)

/-- `Backend::schema`. -/
def Backend.schema (backend : Backend) (config : DatasetConfig) (state : Lifecycle) :
    Except AppError DatasetSchema :=
  match backend with
  | dataFusion => (·.schema) <$> state.dataset config
  | duckdb => do
      DuckDB.ensureReadySync config state
      (·.schema) <$> state.dataset config

/-! ### Requests -/

/-- The calls of the structured endpoints: `/query` in JSON and Arrow form, `/query/stream` and
`/count`. -/
inductive Call where
  | query (request : QueryRequest)
  | queryArrowStream (request : QueryRequest)
  | queryArrowStreamAll (request : QueryRequest)
  | count (request : CountRequest)

/-- `query_dataset` raises the page to one and clamps the page size. -/
def QueryRequest.clampPage (request : QueryRequest) (maxPageSize : UInt64) : QueryRequest :=
  { request with
    page := max request.page 1
    pageSize := min (max request.pageSize 1) (max maxPageSize 1) }

variable [ToLowercase]

/-- The check of `query_dataset`, given its schema lookup. -/
def QueryRequest.enforce (request : QueryRequest) (lookup : Except AppError DatasetSchema) :
    Except AppError QueryRequest :=
  match lookup with
  | .ok schema => request.enforceColumnFilters schema
  | .error (.notReady _ _) => .ok request
  | .error (.notFound _) => .ok request
  | .error e => .error e

/-- The checks of the handlers. `stream_dataset` and `count_dataset` pass on any failed lookup. -/
def Call.enforce (call : Call) (maxPageSize : UInt64) (lookup : Except AppError DatasetSchema) :
    Except AppError Call :=
  match call with
  | query request => query <$> (request.clampPage maxPageSize).enforce lookup
  | queryArrowStream request =>
      queryArrowStream <$> (request.clampPage maxPageSize).enforce lookup
  | queryArrowStreamAll request =>
      match lookup with
      | .ok schema => queryArrowStreamAll <$> request.enforceColumnFilters schema
      | .error _ => .ok (queryArrowStreamAll request)
  | count request =>
      match lookup with
      | .ok schema => (fun _ => count request) <$> request.enforceColumnFilters schema
      | .error _ => .ok (count request)

/-! ### Answers -/

/-- The columns a page of resident rows has. -/
def DataFusion.project (schema : DatasetSchema) (columns : List String) :
    Except AppError (List String) :=
  if columns.isEmpty then .ok (schema.columns.map (·.name))
  else columns.mapM fun c => (·.name) <$> schema.find c

/-- Whether `query_batches_inner` may answer from resident batches. -/
def DataFusion.canFastPath (state : DatasetState) (request : QueryRequest) (paged : Bool) : Bool :=
  !state.lazy && request.orderBy.isEmpty && (!paged || request.limit.isNone) &&
    request.groupBy.isEmpty && !request.distinct

def CountStatement.columnUse (statement : CountStatement) : ColumnUse :=
  let filtered := statement.conditions.flatMap (·.lhs.columns)
  { named := filtered, filtered }

/-- The columns predicates name, when they are resolved without a statement. -/
def residentUse (columns : List String) (predicates : List Predicate) : ColumnUse where
  named := columns ++ predicates.map (·.col)
  filtered := predicates.map (·.col)

/-- The request behind a call that returns rows, and whether it returns one page of them. -/
def Call.rows : Call → Option (QueryRequest × Bool)
  | query request => some (request, true)
  | queryArrowStream request => some (request, true)
  | queryArrowStreamAll request => some (request, false)
  | count _ => none

/-- The column uses of the answers of the DataFusion store, planned against one generation. The
resident paths need no predicates, or predicates that the equality indexes resolve. -/
inductive DataFusion.Answers (state : DatasetState) : Call → ColumnUse → Prop where
  | resident : call.rows = some (request, paged) → canFastPath state request paged = true →
      project state.schema request.columns = .ok columns →
      Answers state call (residentUse columns request.predicates)
  | sql : call.rows = some (request, paged) →
      buildQuerySqlWithSuffix state.schema request suffix = .ok (statement, params) →
      Answers state call (statement.columnUse state.schema)
  | countResident : state.lazy = false →
      Answers state (.count request) (residentUse [] request.predicates)
  | countSql : buildCountSql state.schema request.predicates = .ok (statement, params) →
      Answers state (.count request) statement.columnUse

inductive DuckDB.Answers [JsonText] (repository : DatasetRepository) : Call → ColumnUse → Prop where
  | query : repository.query request = .ok (statement, values) →
      Answers repository (.query request) (statement.columnUse repository.schema)
  | queryArrowStream : repository.queryArrowWriteInner request true = .ok (statement, values) →
      Answers repository (.queryArrowStream request) (statement.columnUse repository.schema)
  | queryArrowStreamAll : repository.queryArrowWriteInner request false = .ok (statement, values) →
      Answers repository (.queryArrowStreamAll request) (statement.columnUse repository.schema)
  | count : repository.count request.predicates = .ok (statement, values) →
      Answers repository (.count request) statement.columnUse

/-- The answers of a backend of a page size cap. -/
def Backend.Answers [JsonText] (backend : Backend) (maxPageSize : UInt64) (state : DatasetState)
    (call : Call) (used : ColumnUse) : Prop :=
  match backend with
  | dataFusion => DataFusion.Answers state call used
  | duckdb => DuckDB.Answers (DuckDB.DatasetRepository.new state.schema maxPageSize) call used

/-- Whether a backend checks the status of the dataset before it answers a call. -/
def Backend.checksReady : Backend → Call → Bool
  | dataFusion, _ => true
  | duckdb, .query _ => true
  | duckdb, _ => false

/-! ### Runs -/

inductive Phase where
  | admitted
  /-- Waiting for the first build of a lazy dataset, its own or that of another request. -/
  | touching
  | ready
deriving DecidableEq

/-- A request between its handler's check and its answer. -/
structure InFlight where
  asked : Call
  lookup : Except AppError DatasetSchema
  call : Call
  phase : Phase := .admitted

structure Answer where
  flight : InFlight
  used : ColumnUse

structure System where
  dataset : Lifecycle := {}
  inFlight : List InFlight := []
  answered : List Answer := []

/-- The readiness checks of the backends. -/
inductive Advances (config : DatasetConfig) (dataset : Lifecycle) :
    Backend → Phase → Phase → Prop where
  | ready : DataFusion.ensureReady config dataset = .ready →
      Advances config dataset .dataFusion .admitted .ready
  | touch : DataFusion.ensureReady config dataset = .firstTouchBuild →
      Advances config dataset .dataFusion .admitted .touching
  | touched : dataset.status = .published →
      Advances config dataset .dataFusion .touching .ready
  | readySync : DuckDB.ensureReadySync config dataset = .ok () →
      Advances config dataset .duckdb .admitted .ready

inductive Step [JsonText] (backend : Backend) (config : DatasetConfig) (maxPageSize : UInt64)
    (s : System) : System → Prop where
  | change : Change config s.dataset dataset →
      Step backend config maxPageSize s { s with dataset }
  | receive : asked.enforce maxPageSize (backend.schema config s.dataset) = .ok call →
      Step backend config maxPageSize s { s with
        inFlight := ⟨asked, backend.schema config s.dataset, call, .admitted⟩ :: s.inFlight }
  | advance : s.inFlight = before ++ flight :: after →
      Advances config s.dataset backend flight.phase phase →
      Step backend config maxPageSize s
        { s with inFlight := before ++ { flight with phase } :: after }
  | answer : s.inFlight = before ++ flight :: after →
      (backend.checksReady flight.call = true → flight.phase = .ready) →
      s.dataset.dataset config = .ok state →
      backend.Answers maxPageSize state flight.call used →
      Step backend config maxPageSize s
        { s with inFlight := before ++ after, answered := ⟨flight, used⟩ :: s.answered }
  /-- A request that fails leaves no answer. -/
  | drop : s.inFlight = before ++ flight :: after →
      Step backend config maxPageSize s { s with inFlight := before ++ after }

/-- A state some run reaches from the start of the server. -/
def Reachable [JsonText] (backend : Backend) (config : DatasetConfig) (maxPageSize : UInt64)
    (s : System) : Prop :=
  Relation.ReflTransGen (Step backend config maxPageSize) {} s

end Datapress
