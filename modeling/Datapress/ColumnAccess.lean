import Datapress.DataFusion.Builder
import Datapress.DuckDB.Repository

/-! Which columns an emitted statement names and which ones it filters on, and what
it means for a statement to respect the column filters of its dataset. -/
namespace Datapress

/-- The physical columns an expression reads. -/
def SqlExpr.columns : SqlExpr → List String
  | column name => [name]
  | countAll => []
  | aggregate _ col => [col]

namespace SelectItem

def output : SelectItem → String
  | column name => name
  | aliased _ name => name

def columns : SelectItem → List String
  | column name => [name]
  | aliased expr _ => expr.columns

end SelectItem

namespace SelectList

/-- `*` names every physical column of the dataset. -/
def columns (schema : DatasetSchema) : SelectList → List String
  | all => schema.columns.map (·.name)
  | list items => items.flatMap SelectItem.columns
  | jsonObject pairs => pairs.map (·.column)

/-- The columns behind a name used next to the select list: an output of the list stands
for its expression, any other name for a physical column. -/
def behind (select : SelectList) (name : String) : List String :=
  match select with
  | list items =>
    match items.find? fun item => item.output == name with
    | some item => item.columns
    | none => [name]
  | _ => [name]

end SelectList

/-- The columns a query names in any clause, and those it applies a condition to. -/
structure ColumnUse where
  named : List String
  filtered : List String
deriving Repr, DecidableEq

namespace SelectStatement

def filtered (statement : SelectStatement) : List String :=
  (statement.conditions ++ statement.having).flatMap (·.lhs.columns)

def columnUse (schema : DatasetSchema) (statement : SelectStatement) : ColumnUse where
  named := statement.select.columns schema ++ statement.filtered ++ statement.groupBy ++
    statement.orderBy.flatMap fun key => statement.select.behind key.name
  filtered := statement.filtered

end SelectStatement

/-- The pairs around a wrapped query name the outputs of that query. -/
def DuckDB.JsonQuery.columnUse (schema : DatasetSchema) : DuckDB.JsonQuery → ColumnUse
  | row statement => statement.columnUse schema
  | wrapped pairs inner =>
    let used := inner.columnUse schema
    { used with named := pairs.flatMap (fun pair => inner.select.behind pair.column) ++ used.named }

variable [ToLowercase]

structure RespectsFilters (schema : DatasetSchema) (used : ColumnUse) : Prop where
  visible : ∀ c ∈ used.named, schema.projectionFilter.allows c = true
  permitted : ∀ c ∈ used.filtered, schema.predicateFilter.allows c = true

/-- The column uses of the statements the backends emit for a request: DataFusion with the
suffix of a page or of a stream, DuckDB with JSON rows or for Arrow. -/
inductive Emits [JsonText] (schema : DatasetSchema) (request : QueryRequest) : ColumnUse → Prop where
  | dataFusion : DataFusion.buildQuerySqlWithSuffix schema request suffix = .ok (statement, params) →
      Emits schema request (statement.columnUse schema)
  | duckdbJson (repository : DuckDB.DatasetRepository) : repository.schema = schema →
      repository.query request = .ok (query, values) →
      Emits schema request (query.columnUse schema)
  | duckdbArrow (repository : DuckDB.DatasetRepository) : repository.schema = schema →
      repository.queryArrowWriteInner request paged = .ok (statement, values) →
      Emits schema request (statement.columnUse schema)

/-- The name under which an aggregation of a request is returned. -/
def Aggregation.outputName (a : Aggregation) : String :=
  a.outputAlias.getD (a.col.elim "count" fun c => s!"{toAsciiLowercase a.op}_{toLowercase c}")

/-- The column a `having` name stands for: a group column, or the column of the aggregation
returned under that name. -/
def QueryRequest.havingColumn (request : QueryRequest) (name : String) : Option String :=
  match request.groupBy.find? fun c => toLowercase c == toLowercase name with
  | some g => some g
  | none => (request.rawAggs.find? fun a =>
      toLowercase a.outputName == toLowercase name).bind (·.col)

/-- When the checks on a request suffice: a request that lists no columns is about a dataset
with something to show, and no `having` entry is about a predicate-denied column. -/
structure FiltersSuffice (schema : DatasetSchema) (request : QueryRequest) : Prop where
  shows : request.groupBy = [] → request.columns = [] → schema.columns ≠ [] →
    ∃ c ∈ schema.columns, schema.projectionFilter.allows c.name = true
  having : ∀ p ∈ request.having, ∀ c, request.havingColumn p.col = some c →
    schema.predicateFilter.allows c = true

end Datapress
