import Datapress.Json
import Datapress.Schema

/-! The structured query and count requests: their aggregation plan, the
expressions `having` and `order_by` resolve to, paging, and the enforcement of the
column filters. -/
namespace Datapress
open DatasetSchema (quoteIdent)

structure Predicate where
  col : String
  op : String
  val : Option JsonValue
deriving Repr

structure OrderBy where
  col : String
  dir : Option String := none
deriving Repr, DecidableEq

structure Aggregation where
  col : Option String := none
  op : String
  outputAlias : Option String := none
deriving Repr, DecidableEq

structure QueryRequest where
  columns : List String := []
  predicates : List Predicate := []
  groupBy : List String := []
  aggregations : List Aggregation := []
  having : List Predicate := []
  distinct : Bool := false
  orderBy : List OrderBy := []
  limit : Option UInt64 := none
  page : UInt64 := 1
  pageSize : UInt64 := 1000
deriving Repr

structure CountRequest where
  predicates : List Predicate := []
deriving Repr

inductive AggOp where
  | count | sum | avg | min | max
deriving Repr, DecidableEq

namespace AggOp

def asSql : AggOp → String
  | count => "COUNT"
  | sum => "SUM"
  | avg => "AVG"
  | min => "MIN"
  | max => "MAX"

def name : AggOp → String
  | count => "count"
  | sum => "sum"
  | avg => "avg"
  | min => "min"
  | max => "max"

end AggOp

/-- An SQL expression the builders emit, before it is written out. -/
inductive SqlExpr where
  | column (name : String)
  | countAll
  | aggregate (op : AggOp) (col : String)
deriving Repr, DecidableEq

def SqlExpr.sql : SqlExpr → String
  | column name => quoteIdent name
  | countAll => "COUNT(*)"
  | aggregate op col => s!"{op.asSql}({quoteIdent col})"

/-- A resolved aggregation: `col` is a canonical name, or absent for `COUNT(*)`. -/
structure AggSpec where
  col : Option String
  op : AggOp
  outputAlias : String
deriving Repr, DecidableEq

def AggSpec.sqlExpr (spec : AggSpec) : Except AppError SqlExpr :=
  match spec.op, spec.col with
  | .count, none => .ok .countAll
  | op, some c => .ok (.aggregate op c)
  | op, none => .error (.internal
      s!"aggregation '{op.name}' resolved without a column (planner invariant violated)")

/-- The validated grouping: canonical group columns and resolved aggregations. -/
structure AggPlan where
  groupCols : List String
  aggs : List AggSpec
deriving Repr, DecidableEq

namespace AggPlan
variable [ToLowercase]

/-- The output names in `SELECT` order: group columns, then aliases. -/
def outputNames (plan : AggPlan) : List String :=
  plan.groupCols ++ plan.aggs.map (·.outputAlias)

/-- The expression a `having` name stands for: a group column, or the aggregate an
alias names. -/
def havingLhs (plan : AggPlan) (name : String) : Except AppError SqlExpr :=
  let lc := toLowercase name
  match plan.groupCols.find? fun c => toLowercase c == lc with
  | some g => .ok (.column g)
  | none =>
    match plan.aggs.find? fun a => toLowercase a.outputAlias == lc with
    | some a => a.sqlExpr
    | none => .error (.unknownColumn s!"{name} (must be a group_by column or aggregation alias)")

end AggPlan

/-- A sort key: the name whose quoted form is emitted, and `ASC` or `DESC`. -/
structure SortKey where
  name : String
  dir : String
deriving Repr, DecidableEq

def SortKey.sql (key : SortKey) : String := s!"{quoteIdent key.name} {key.dir}"

namespace QueryRequest
variable [ToLowercase]

def parseAggOp (op : String) : Except AppError AggOp :=
  match toAsciiLowercase op with
  | "count" => .ok .count
  | "sum" => .ok .sum
  | "avg" => .ok .avg
  | "min" => .ok .min
  | "max" => .ok .max
  | other => .error (.invalidValue
      s!"unknown aggregation op '{other}' (expected count|sum|avg|min|max)")

def resolveAggCol (schema : DatasetSchema) (op : AggOp) :
    Option String → Except AppError (Option String)
  | none =>
    if op = .count then .ok none
    else .error (.invalidValue s!"aggregation '{op.name}' requires a 'col'")
  | some c => do
    let info ← schema.find c
    .ok (some info.name)

/-- The alias an aggregation gets when the request names none. -/
def defaultAlias (op : AggOp) : Option String → String
  | some c => s!"{op.name}_{toLowercase c}"
  | none => "count"

def resolveAgg (schema : DatasetSchema) (a : Aggregation) : Except AppError AggSpec := do
  let op ← parseAggOp a.op
  let col ← resolveAggCol schema op a.col
  .ok { col, op, outputAlias := a.outputAlias.getD (defaultAlias op col) }

/-- The aggregations to compute; grouping without any gets an implicit count. -/
def rawAggs (request : QueryRequest) : List Aggregation :=
  if request.aggregations.isEmpty then [{ op := "count" }] else request.aggregations

def aggPlan (request : QueryRequest) (schema : DatasetSchema) :
    Except AppError (Option AggPlan) :=
  if request.distinct && (!request.groupBy.isEmpty || !request.aggregations.isEmpty) then
    .error (.invalidValue "distinct is mutually exclusive with group_by / aggregations")
  else if request.groupBy.isEmpty then
    if !request.aggregations.isEmpty then
      .error (.invalidValue "aggregations require a non-empty group_by")
    else .ok none
  else do
    let groupCols ← request.groupBy.mapM fun name => (·.name) <$> schema.find name
    let aggs ← request.rawAggs.mapM (resolveAgg schema)
    .ok (some { groupCols, aggs })

def havingPlan (request : QueryRequest) (plan : Option AggPlan) :
    Except AppError (List (SqlExpr × Predicate)) :=
  if request.having.isEmpty then .ok []
  else
    match plan with
    | none => .error (.invalidValue "having requires a non-empty group_by")
    | some plan => request.having.mapM fun p => do
        let lhs ← plan.havingLhs p.col
        .ok (lhs, p)

def sortDirection (dir : Option String) : Except AppError String :=
  match toAsciiLowercase (dir.getD "asc") with
  | "asc" => .ok "ASC"
  | "desc" => .ok "DESC"
  | other => .error (.invalidValue s!"order_by direction must be 'asc' or 'desc' (got '{other}')")

/-- The name a sort key is emitted under: an output name of the plan when grouping, else
a column of the schema. -/
def sortName (schema : DatasetSchema) (plan : Option AggPlan) (col : String) :
    Except AppError String :=
  match plan with
  | some p =>
    let lc := toLowercase col
    match p.outputNames.find? fun n => toLowercase n == lc with
    | some n => .ok n
    | none => .error (.unknownColumn s!"{col} (must be a group_by column or aggregation alias)")
  | none => (·.name) <$> schema.find col

/-- The sort keys of `order_by_sql`, which joins their texts with commas. -/
def orderBySql (request : QueryRequest) (schema : DatasetSchema) (plan : Option AggPlan) :
    Except AppError (List SortKey) :=
  request.orderBy.mapM fun o => do
    let dir ← sortDirection o.dir
    let name ← sortName schema plan o.col
    .ok { name, dir }

/-- The `LIMIT` and `OFFSET` of a page. `clamp` panics when its lower bound exceeds the
upper one, hence the precondition; the product wraps as it does in a release build. -/
def effectiveLimitOffset (request : QueryRequest) (pageSizeCap : UInt64)
    (_clampable : 1 ≤ pageSizeCap) : UInt64 × UInt64 :=
  let page := max request.page 1
  let pageSize := min (max request.pageSize 1) pageSizeCap
  let offset := (page - 1) * pageSize
  let limit :=
    match request.limit with
    | some cap => if offset ≥ cap then 0 else min pageSize (cap - offset)
    | none => pageSize
  (limit, offset)

/-- The columns step of the enforcement: an empty list of an ungrouped request becomes
the visible columns, the entries of any other list must be visible. -/
def enforceColumns (request : QueryRequest) (schema : DatasetSchema) :
    Except AppError QueryRequest :=
  if request.columns.isEmpty then
    if request.groupBy.isEmpty && schema.projectionFilter.isActive then
      .ok { request with columns := schema.visibleColumns.map (·.name) }
    else .ok request
  else do
    Fallible.checkAll schema.findVisible request.columns
    .ok request

/-- Rejects every use of a hidden or predicate-restricted column and narrows an empty
`columns`. In grouped mode `order_by` names outputs, which `orderBySql` checks. -/
def enforceColumnFilters (request : QueryRequest) (schema : DatasetSchema) :
    Except AppError QueryRequest :=
  if !schema.hasColumnFilters then .ok request
  else do
    Fallible.checkAll (fun p => schema.findForPredicate p.col) request.predicates
    Fallible.checkAll schema.findVisible request.groupBy
    Fallible.checkAll schema.findVisible (request.aggregations.filterMap (·.col))
    Fallible.checkAll (fun o => schema.findVisible o.col)
      (if request.groupBy.isEmpty then request.orderBy else [])
    request.enforceColumns schema

end QueryRequest

def CountRequest.enforceColumnFilters [ToLowercase] (request : CountRequest)
    (schema : DatasetSchema) : Except AppError Unit :=
  if !schema.hasColumnFilters then .ok ()
  else Fallible.checkAll (fun p => schema.findForPredicate p.col) request.predicates

end Datapress
