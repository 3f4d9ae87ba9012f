import Datapress.Models

/-! The `SELECT` statements the two query builders emit, and their SQL text. -/
namespace Datapress
open DatasetSchema (quoteIdent)

/-- What a condition asks of its left-hand side; values occur as placeholders only. -/
inductive Test where
  | isNull
  | isNotNull
  | oneOf (placeholders : List String)
  | compare (operator placeholder : String)
deriving Repr, DecidableEq

structure Condition where
  lhs : SqlExpr
  test : Test
deriving Repr, DecidableEq

def Condition.sql (condition : Condition) : String :=
  match condition.test with
  | .isNull => s!"{condition.lhs.sql} IS NULL"
  | .isNotNull => s!"{condition.lhs.sql} IS NOT NULL"
  | .oneOf placeholders =>
    let listed := ", ".intercalate placeholders
    s!"{condition.lhs.sql} IN ({listed})"
  | .compare operator placeholder => s!"{condition.lhs.sql} {operator} {placeholder}"

/-- A `'key', value` pair of a `json_object` call; temporal columns are cast to text. -/
structure JsonPair where
  key : String
  column : String
  cast : Bool
deriving Repr, DecidableEq

def JsonPair.sql (pair : JsonPair) : String :=
  let key := replaceChar '\'' "''" pair.key
  if pair.cast then s!"'{key}', CAST({quoteIdent pair.column} AS VARCHAR)"
  else s!"'{key}', {quoteIdent pair.column}"

/-- An entry of a select list, with the alias of an aggregate. -/
inductive SelectItem where
  | column (name : String)
  | aliased (expr : SqlExpr) (name : String)
deriving Repr, DecidableEq

def SelectItem.sql : SelectItem → String
  | column name => quoteIdent name
  | aliased expr name => s!"{expr.sql} AS {quoteIdent name}"

inductive SelectList where
  | all
  | list (items : List SelectItem)
  | jsonObject (pairs : List JsonPair)
deriving Repr, DecidableEq

def SelectList.sql : SelectList → String
  | all => "*"
  | list items => ", ".intercalate (items.map SelectItem.sql)
  | jsonObject pairs =>
    let listed := ", ".intercalate (pairs.map JsonPair.sql)
    s!"json_object({listed})"

structure SelectStatement where
  distinct : Bool
  select : SelectList
  table : String
  conditions : List Condition
  groupBy : List String
  having : List Condition
  orderBy : List SortKey
  suffix : String
deriving Repr, DecidableEq

namespace SelectStatement

def clause (keyword separator : String) (parts : List String) : String :=
  if parts.isEmpty then "" else s!" {keyword} {separator.intercalate parts}"

def sql (statement : SelectStatement) : String :=
  let distinct := if statement.distinct then "DISTINCT " else ""
  s!"SELECT {distinct}{statement.select.sql} FROM {quoteIdent statement.table}" ++
    clause "WHERE" " AND " (statement.conditions.map Condition.sql) ++
    clause "GROUP BY" ", " (statement.groupBy.map quoteIdent) ++
    clause "HAVING" " AND " (statement.having.map Condition.sql) ++
    clause "ORDER BY" ", " (statement.orderBy.map SortKey.sql) ++ statement.suffix

end SelectStatement

/-- `SELECT COUNT(*)` over the rows that meet the conditions. -/
structure CountStatement where
  table : String
  conditions : List Condition
deriving Repr, DecidableEq

def CountStatement.sql (statement : CountStatement) : String :=
  s!"SELECT COUNT(*) FROM {quoteIdent statement.table}" ++
    SelectStatement.clause "WHERE" " AND " (statement.conditions.map Condition.sql)

/-- The aggregation select list: group columns, then each aggregate under its alias. -/
def AggPlan.selectItems (plan : AggPlan) : Except AppError (List SelectItem) := do
  let aggs ← plan.aggs.mapM fun a => do
    let expr ← a.sqlExpr
    .ok (SelectItem.aliased expr a.outputAlias)
  .ok (plan.groupCols.map SelectItem.column ++ aggs)

/-- The explicit `columns` of a request under their canonical names. -/
def QueryRequest.projected [ToLowercase] (request : QueryRequest) (schema : DatasetSchema) :
    Except AppError (List ColumnInfo) :=
  request.columns.mapM schema.find

/-- The comparison operators; the backends spell inequality differently. -/
def comparisonOperator (neq op : String) : Except AppError String :=
  match op with
  | "eq" => .ok "="
  | "neq" => .ok neq
  | "gt" => .ok ">"
  | "gte" => .ok ">="
  | "lt" => .ok "<"
  | "lte" => .ok "<="
  | "like" => .ok "LIKE"
  | "ilike" => .ok "ILIKE"
  | other => .error (.unknownOperator other)

end Datapress
