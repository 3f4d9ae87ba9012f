import Datapress.ColumnAccess

/-! Renaming a hidden column to a name no column has: how a request is rewritten, and
when two outcomes are the same up to the echoed name. -/
namespace Datapress
variable [ToLowercase]

/-- The statement a backend plans, with its bound values. -/
inductive PlannedQuery where
  | dataFusion (statement : SelectStatement) (params : DataFusion.Params)
  | duckdbJson (query : DuckDB.JsonQuery) (values : List DuckDB.ParamVal)
  | duckdbArrow (statement : SelectStatement) (values : List DuckDB.ParamVal)
deriving Repr, DecidableEq

/-- The query paths of the two backends with the page size cap of the server. -/
inductive Planner where
  | dataFusionPage (maxPageSize : UInt64) (clampable : 1 ≤ maxPageSize)
  | dataFusionStream
  | duckdbJson (maxPageSize : UInt64)
  | duckdbArrow (maxPageSize : UInt64) (paged : Bool)

variable [JsonText]

def Planner.plan (schema : DatasetSchema) (request : QueryRequest) :
    Planner → Except AppError PlannedQuery
  | dataFusionPage maxPageSize clampable => do
    let (statement, params) ← DataFusion.buildQuerySql schema request maxPageSize clampable
    .ok (.dataFusion statement params)
  | dataFusionStream => do
    let (statement, params) ← DataFusion.buildQueryStreamSql schema request
    .ok (.dataFusion statement params)
  | duckdbJson maxPageSize => do
    let (query, values) ← (DuckDB.DatasetRepository.new schema maxPageSize).query request
    .ok (.duckdbJson query values)
  | duckdbArrow maxPageSize paged => do
    let (statement, values) ←
      (DuckDB.DatasetRepository.new schema maxPageSize).queryArrowWriteInner request paged
    .ok (.duckdbArrow statement values)

/-- Filter enforcement followed by the planning of a backend. -/
def Planner.answer (planner : Planner) (schema : DatasetSchema) (request : QueryRequest) :
    Except AppError PlannedQuery := do
  let enforced ← request.enforceColumnFilters schema
  planner.plan schema enforced

def CountRequest.dataFusionAnswer (request : CountRequest) (schema : DatasetSchema) :
    Except AppError (CountStatement × DataFusion.Params) := do
  request.enforceColumnFilters schema
  DataFusion.buildCountSql schema request.predicates

def CountRequest.duckdbAnswer (request : CountRequest) (schema : DatasetSchema)
    (maxPageSize : UInt64) : Except AppError (CountStatement × List DuckDB.ParamVal) := do
  request.enforceColumnFilters schema
  (DuckDB.DatasetRepository.new schema maxPageSize).count request.predicates

omit [JsonText]

/-- Replaces one column name, in whatever case it is written. -/
def replaceName (hidden absent name : String) : String :=
  if toLowercase name = toLowercase hidden then absent else name

def Predicate.replace (hidden absent : String) (p : Predicate) : Predicate :=
  { p with col := replaceName hidden absent p.col }

def OrderBy.replace (hidden absent : String) (o : OrderBy) : OrderBy :=
  { o with col := replaceName hidden absent o.col }

def Aggregation.replace (hidden absent : String) (a : Aggregation) : Aggregation :=
  { a with col := a.col.map (replaceName hidden absent) }

/-- Replaces a column name in every column position of the request. -/
def QueryRequest.replace (hidden absent : String) (request : QueryRequest) : QueryRequest :=
  { request with
    columns := request.columns.map (replaceName hidden absent)
    predicates := request.predicates.map (Predicate.replace hidden absent)
    groupBy := request.groupBy.map (replaceName hidden absent)
    aggregations := request.aggregations.map (Aggregation.replace hidden absent)
    having := request.having.map (Predicate.replace hidden absent)
    orderBy := request.orderBy.map (OrderBy.replace hidden absent) }

def CountRequest.replace (hidden absent : String) (request : CountRequest) : CountRequest :=
  { predicates := request.predicates.map (Predicate.replace hidden absent) }

/-- Two errors are the same, or both report an unknown column and echo the two names. -/
inductive SameError (hidden absent : String) : AppError → AppError → Prop where
  | same (e : AppError) : SameError hidden absent e e
  | echoed : toLowercase name = toLowercase hidden →
      SameError hidden absent (.unknownColumn (name ++ suffix)) (.unknownColumn (absent ++ suffix))

/-- Two outcomes are the same: the same plan, or the same error up to the echoed name. -/
def SameOutcome {α : Type} (hidden absent : String) : Except AppError α → Except AppError α → Prop :=
  Fallible.Agree (· = ·) (SameError hidden absent)

/-- A hidden column of the schema, and a name that is no column of it. -/
structure HiddenAndAbsent (schema : DatasetSchema) (hidden absent : String) : Prop where
  column : ∃ c ∈ schema.columns, toLowercase c.name = toLowercase hidden
  denied : schema.projectionFilter.allows hidden = false
  missing : ∀ c ∈ schema.columns, toLowercase c.name ≠ toLowercase absent

/-- No aggregation is returned under the name, ignoring case. -/
def QueryRequest.NoOutput (request : QueryRequest) (name : String) : Prop :=
  ∀ a ∈ request.rawAggs, toLowercase a.outputName ≠ toLowercase name

/-- A `having` or `order_by` entry mentions the name. -/
def QueryRequest.MentionsOutput (request : QueryRequest) (name : String) : Prop :=
  (∃ p ∈ request.having, toLowercase p.col = toLowercase name) ∨
    ∃ o ∈ request.orderBy, toLowercase o.col = toLowercase name

/-- Where a grouped request mentions the hidden column next to its outputs, neither name is an
output. A request without groups has none. -/
def QueryRequest.OutputsApart (request : QueryRequest) (hidden absent : String) : Prop :=
  request.groupBy ≠ [] → request.MentionsOutput hidden →
    request.NoOutput hidden ∧ request.NoOutput absent

end Datapress
