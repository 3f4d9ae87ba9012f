import Datapress.Statement

/-! The parameterised SQL of the DuckDB backend: JSON rows through `json_object`,
and plain columns for Arrow. -/
namespace Datapress.DuckDB

inductive ParamVal where
  | text (value : String)
  | int (value : Int64)
  | float (value : F64)
  | bool (value : Bool)
deriving Repr, DecidableEq

def jsonToParam [JsonText] : JsonValue → Except AppError ParamVal
  | .string s => .ok (.text s)
  | .number n =>
    match n.asI64, n.asF64 with
    | some i, _ => .ok (.int i)
    | none, some f => .ok (.float f)
    | none, none => .error (.invalidValue (JsonText.display (.number n)))
  | .bool b => .ok (.bool b)
  | other => .error (.invalidValue s!"unsupported type: {JsonText.display other}")

/-- Renders a predicate and appends its values to those bound so far. `label` names the
column in errors. -/
def predicateToCondition [JsonText] (lhs : SqlExpr) (label : String) (pred : Predicate)
    (bindVals : List ParamVal) : Except AppError (Condition × List ParamVal) :=
  match pred.op with
  | "is_null" => .ok (⟨lhs, .isNull⟩, bindVals)
  | "is_not_null" => .ok (⟨lhs, .isNotNull⟩, bindVals)
  | "in" =>
    match pred.val.bind JsonValue.asArray with
    | some (item :: items) => do
      let values ← (item :: items).mapM jsonToParam
      .ok (⟨lhs, .oneOf ((item :: items).map fun _ => "?")⟩, bindVals ++ values)
    | _ => .error (.invalidValue s!"'in' requires a non-empty array for column {label}")
  | op => do
    let operator ← comparisonOperator "<>" op
    match pred.val with
    | none => .error (.invalidValue s!"operator '{op}' requires a value for column {label}")
    | some val =>
      let value ← jsonToParam val
      .ok (⟨lhs, .compare operator "?"⟩, bindVals ++ [value])

def jsonObjPairs (cols : List ColumnInfo) : List JsonPair :=
  cols.map fun c => ⟨c.name, c.name, c.logical.needsCast⟩

variable [ToLowercase]

/-- The pairs over the outputs of the inner aggregation; group columns keep their cast. -/
def groupJsonObjPairs (schema : DatasetSchema) (plan : AggPlan) : List JsonPair :=
  plan.groupCols.map (fun name =>
      ⟨name, name, ((schema.find name).toOption.map (·.logical.needsCast)).getD false⟩) ++
    plan.aggs.map fun a => ⟨a.outputAlias, a.outputAlias, false⟩

/-- A JSON query is a plain statement, or wraps one whose outputs the pairs name. -/
inductive JsonQuery where
  | row (statement : SelectStatement)
  | wrapped (pairs : List JsonPair) (inner : SelectStatement)
deriving Repr, DecidableEq

def JsonQuery.sql : JsonQuery → String
  | row statement => statement.sql
  | wrapped pairs inner =>
    let listed := ", ".intercalate (pairs.map JsonPair.sql)
    s!"SELECT json_object({listed}) FROM ({inner.sql}) sub"

/-- The statement of a query, which is the inner one of a wrapped query. -/
def JsonQuery.statement : JsonQuery → SelectStatement
  | row statement => statement
  | wrapped _ inner => inner

/-- The repository of one dataset; `new` raises a page size cap of zero to one. -/
structure DatasetRepository where
  schema : DatasetSchema
  maxPageSize : UInt64
  clampable : 1 ≤ maxPageSize

namespace DatasetRepository

def new (schema : DatasetSchema) (maxPageSize : UInt64) : DatasetRepository where
  schema
  maxPageSize := max maxPageSize 1
  clampable := by
    change 1 ≤ if maxPageSize ≤ 1 then 1 else maxPageSize
    split
    · exact UInt64.le_refl 1
    · rename_i above
      exact UInt64.le_of_lt (UInt64.not_le.mp above)

def limitClause (repository : DatasetRepository) (request : QueryRequest) : String :=
  let (limit, offset) :=
    request.effectiveLimitOffset repository.maxPageSize repository.clampable
  s!" LIMIT {limit} OFFSET {offset}"

variable [JsonText]

def applyPredicate (repository : DatasetRepository) (pred : Predicate)
    (bindVals : List ParamVal) : Except AppError (Condition × List ParamVal) := do
  let col ← repository.schema.find pred.col
  predicateToCondition (.column col.name) col.name pred bindVals

def havingClause (request : QueryRequest) (plan : Option AggPlan) (bindVals : List ParamVal) :
    Except AppError (List Condition × List ParamVal) := do
  let resolved ← request.havingPlan plan
  Fallible.mapState (fun (lhs, p) => predicateToCondition lhs p.col p) resolved bindVals

def rowJsonObjPairs (repository : DatasetRepository) (request : QueryRequest) :
    Except AppError (List JsonPair) :=
  if request.columns.isEmpty then .ok (jsonObjPairs repository.schema.columns)
  else jsonObjPairs <$> request.projected repository.schema

/-- The select list of plain columns, `*` when the request names none. -/
def projection (repository : DatasetRepository) (request : QueryRequest) :
    Except AppError SelectList :=
  if request.columns.isEmpty then .ok .all
  else do
    let infos ← request.projected repository.schema
    .ok (.list (infos.map fun info => .column info.name))

def selectList (repository : DatasetRepository) (request : QueryRequest) :
    Option AggPlan → Except AppError SelectList
  | some plan => SelectList.list <$> plan.selectItems
  | none => repository.projection request

/-- The statement behind `query`, whose rows are JSON objects. -/
def query (repository : DatasetRepository) (request : QueryRequest) :
    Except AppError (JsonQuery × List ParamVal) := do
  let schema := repository.schema
  let plan ← request.aggPlan schema
  let suffix := repository.limitClause request
  let (conditions, bindVals) ← Fallible.mapState repository.applyPredicate request.predicates []
  let (having, bindVals) ← havingClause request plan bindVals
  let orderBy ← request.orderBySql schema plan
  let table := schema.name
  match plan with
  | some plan => do
    let items ← plan.selectItems
    .ok (.wrapped (groupJsonObjPairs schema plan) {
      distinct := false, select := .list items, table, conditions
      groupBy := plan.groupCols, having, orderBy, suffix }, bindVals)
  | none =>
    if request.distinct then do
      let pairs ← repository.rowJsonObjPairs request
      let select ← repository.projection request
      .ok (.wrapped pairs {
        distinct := true, select, table, conditions
        groupBy := [], having := [], orderBy, suffix }, bindVals)
    else do
      let pairs ← repository.rowJsonObjPairs request
      .ok (.row {
        distinct := false, select := .jsonObject pairs, table, conditions
        groupBy := [], having := [], orderBy, suffix }, bindVals)

/-- The statement behind the Arrow paths, with a page or with the request's own limit. -/
def queryArrowWriteInner (repository : DatasetRepository) (request : QueryRequest)
    (paged : Bool) : Except AppError (SelectStatement × List ParamVal) := do
  let schema := repository.schema
  let plan ← request.aggPlan schema
  let select ← repository.selectList request plan
  let suffix :=
    if paged then repository.limitClause request
    else request.limit.elim "" fun limit => s!" LIMIT {limit}"
  let (conditions, bindVals) ← Fallible.mapState repository.applyPredicate request.predicates []
  let (having, bindVals) ← havingClause request plan bindVals
  let orderBy ← request.orderBySql schema plan
  .ok ({
    distinct := request.distinct && plan.isNone
    select, table := schema.name, conditions
    groupBy := plan.elim [] (·.groupCols)
    having, orderBy, suffix }, bindVals)

def count (repository : DatasetRepository) (predicates : List Predicate) :
    Except AppError (CountStatement × List ParamVal) := do
  let (conditions, bindVals) ← Fallible.mapState repository.applyPredicate predicates []
  .ok ({ table := repository.schema.name, conditions }, bindVals)

end DatasetRepository
end Datapress.DuckDB
