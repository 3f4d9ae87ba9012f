import Datapress.Statement

/-! The parameterised SQL of the DataFusion backend. -/
namespace Datapress.DataFusion

inductive ScalarValue where
  | utf8 (value : String)
  | boolean (value : Bool)
  | null
  | int64 (value : Int64)
  | uint64 (value : UInt64)
  | float64 (value : F64)
deriving Repr, DecidableEq

/-- The values bound so far; the `N`th is written `$N`. -/
abbrev Params := List ScalarValue

def Params.bind (params : Params) (value : ScalarValue) : String × Params :=
  (s!"${params.length + 1}", params ++ [value])

def jsonToScalar : JsonValue → Except AppError ScalarValue
  | .string s => .ok (.utf8 s)
  | .bool b => .ok (.boolean b)
  | .null => .ok .null
  | .number n =>
    match n.asI64, n.asU64, n.asF64 with
    | some i, _, _ => .ok (.int64 i)
    | none, some u, _ => .ok (.uint64 u)
    | none, none, some f => .ok (.float64 f)
    | none, none, none => .error (.invalidValue "unsupported numeric literal in predicate")
  | _ => .error (.invalidValue "unsupported literal type in predicate")

def bindJson (value : JsonValue) (params : Params) : Except AppError (String × Params) := do
  let scalar ← jsonToScalar value
  .ok (params.bind scalar)

def predToSqlWithLhs (lhs : SqlExpr) (pred : Predicate) (params : Params) :
    Except AppError (Condition × Params) :=
  if pred.op = "is_null" then .ok (⟨lhs, .isNull⟩, params)
  else if pred.op = "is_not_null" then .ok (⟨lhs, .isNotNull⟩, params)
  else
    match pred.val with
    | none => .error (.invalidValue s!"'{pred.op}' requires a value")
    | some val =>
      if pred.op = "in" then
        match val.asArray with
        | some (item :: items) => do
          let (placeholders, params) ← Fallible.mapState bindJson (item :: items) params
          .ok (⟨lhs, .oneOf placeholders⟩, params)
        | _ => .error (.invalidValue "'in' needs a non-empty array")
      else do
        let operator ← comparisonOperator "!=" pred.op
        let (placeholder, params) ← bindJson val params
        .ok (⟨lhs, .compare operator placeholder⟩, params)

variable [ToLowercase]

def predToSql (schema : DatasetSchema) (pred : Predicate) (params : Params) :
    Except AppError (Condition × Params) := do
  let info ← schema.find pred.col
  predToSqlWithLhs (.column info.name) pred params

/-- The select list, with `*` for an ungrouped request that names no columns. -/
def selectList (schema : DatasetSchema) (request : QueryRequest) :
    Option AggPlan → Except AppError SelectList
  | some plan => SelectList.list <$> plan.selectItems
  | none =>
    if request.columns.isEmpty then .ok .all
    else do
      let infos ← request.projected schema
      .ok (.list (infos.map fun info => .column info.name))

def buildQuerySqlWithSuffix (schema : DatasetSchema) (request : QueryRequest) (suffix : String) :
    Except AppError (SelectStatement × Params) := do
  let plan ← request.aggPlan schema
  let select ← selectList schema request plan
  let (conditions, params) ← Fallible.mapState (predToSql schema) request.predicates []
  let resolved ← request.havingPlan plan
  let (having, params) ←
    Fallible.mapState (fun (lhs, p) => predToSqlWithLhs lhs p) resolved params
  let orderBy ← request.orderBySql schema plan
  .ok ({
    distinct := plan.isNone && request.distinct
    select, table := schema.name, conditions
    groupBy := plan.elim [] (·.groupCols)
    having, orderBy, suffix }, params)

def buildQuerySql (schema : DatasetSchema) (request : QueryRequest) (maxPageSize : UInt64)
    (clampable : 1 ≤ maxPageSize) : Except AppError (SelectStatement × Params) :=
  let (limit, offset) := request.effectiveLimitOffset maxPageSize clampable
  buildQuerySqlWithSuffix schema request s!" LIMIT {limit} OFFSET {offset}"

def buildQueryStreamSql (schema : DatasetSchema) (request : QueryRequest) :
    Except AppError (SelectStatement × Params) :=
  buildQuerySqlWithSuffix schema request (request.limit.elim "" fun limit => s!" LIMIT {limit}")

def buildCountSql (schema : DatasetSchema) (predicates : List Predicate) :
    Except AppError (CountStatement × Params) := do
  let (conditions, params) ← Fallible.mapState (predToSql schema) predicates []
  .ok ({ table := schema.name, conditions }, params)

end Datapress.DataFusion
