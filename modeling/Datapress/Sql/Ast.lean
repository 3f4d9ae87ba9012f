import Datapress.Text

/-!
The syntax tree of `sqlparser` as far as a query can reach it.

Identifiers are their unquoted values. Constructors whose children the derived visitor treats alike
share one constructor, so that a traversal has one case for each way of holding a child.
-/

namespace Datapress.Sql

open Datapress

/-- A possibly qualified name, `schema.table` as `["schema", "table"]`. -/
abbrev ObjectName := List String

/-- The table part of a name, lowercased. An empty name has the empty table part. -/
def ObjectName.last [ToLowercase] (name : ObjectName) : String :=
  toLowercase (name.getLast?.getD "")

structure TableAlias where
  name : String
  columns : List String := []
  deriving DecidableEq, Repr

inductive SelectFlavor where
  | standard
  /-- `FROM t SELECT a` -/
  | fromFirst
  /-- `FROM t` -/
  | fromFirstNoSelect
  deriving DecidableEq, Repr

inductive SetOperator where
  | union
  | except
  | intersect
  | minus
  deriving DecidableEq, Repr

inductive JoinConstraint where
  /-- `ON`, no constraint, or `MATCH_CONDITION`: what there is to check are expressions. -/
  | conditions
  | usingColumns (columns : List ObjectName)
  | natural
  deriving DecidableEq, Repr

mutual

inductive Expr where
  | identifier (ident : String)
  | compoundIdentifier (idents : List String)
  | value (literal : String)
  /-- The constructors whose children are expressions: operators, `CASE`, `CAST`, tuples, … An
  option of a clause, such as `DISTINCT`, a sort direction or `EXCLUDE`, is an operator as well;
  a visitor that has no business with operators passes both. -/
  | operator (symbol : String) (operands : List Expr)
  /-- Scalar subqueries, `EXISTS (…)` and `e IN (…)`. -/
  | subquery (symbol : String) (operands : List Expr) (query : Query)
  /-- The modifiers are `FILTER`, `OVER`, `WITHIN GROUP` and the argument clauses. -/
  | function (name : ObjectName) (args : List FunctionArg) (modifiers : List Expr)
  /-- `MATCH (columns) AGAINST (…)` -/
  | matchAgainst (columns : List ObjectName)

inductive FunctionArg where
  | expr (value : Expr)
  | wildcard
  | qualifiedWildcard (name : ObjectName)
  | query (query : Query)

inductive Query where
  | mk (recursive : Bool) (ctes : List Cte) (body : SetExpr) (orderBy : List Expr)
      (limit : List Expr) (pipeOperators : List PipeOperator)

/-- The source is the name of a `FROM` behind the query, `WITH a AS (…) FROM t SELECT …`: the
parser takes it as a part of the common table expression. -/
inductive Cte where
  | mk (tableAlias : TableAlias) (query : Query) (source : Option String)

inductive SetExpr where
  /-- `DISTINCT`, its `ON` and `TOP` come before the projection. -/
  | select (flavor : SelectFlavor) (distinct : List Expr) (projection : List SelectItem)
      (sources : List TableWithJoins) (selection groupBy having windows : List Expr)
  | query (query : Query)
  | setOperation (operator : SetOperator) (quantifier : String) (left right : SetExpr)
  /-- A row is the tuple of its cells. -/
  | values (rows : List Expr)
  /-- `TABLE name` -/
  | table (name : ObjectName)
  /-- `WITH … INSERT`, `UPDATE`, `DELETE` or `MERGE`. -/
  | dml (keyword : String) (targets : List ObjectName) (sources : List TableWithJoins)
      (queries : List Query) (exprs : List Expr)

inductive SelectItem where
  | expr (value : Expr) (outputAlias : Option String)
  /-- The options hold the expressions of `REPLACE`. -/
  | wildcard (options : List Expr)
  | qualifiedWildcard (name : ObjectName) (options : List Expr)

inductive TableWithJoins where
  | mk (relation : TableFactor) (joins : List Join)

inductive Join where
  | mk (operator : String) (relation : TableFactor) (constraint : JoinConstraint)
      (conditions : List Expr)

inductive TableFactor where
  /-- A name in table position; with `call` it is a table function, `name(args)`. -/
  | table (name : ObjectName) (tableAlias : Option TableAlias) (call : Bool)
      (args : List FunctionArg) (hints : List Expr)
  | derived (lateral : Bool) (subquery : Query) (tableAlias : Option TableAlias)
  /-- `TABLE(expr)` -/
  | tableFunction (expr : Expr) (tableAlias : Option TableAlias)
  /-- `LATERAL name(args)` -/
  | function (name : ObjectName) (args : List FunctionArg) (tableAlias : Option TableAlias)
  /-- `UNNEST(…)`, `JSON_TABLE(…)` and the like. -/
  | tabular (keyword : String) (exprs : List Expr) (tableAlias : Option TableAlias)
  | nestedJoin (tables : TableWithJoins) (tableAlias : Option TableAlias)
  /-- `PIVOT`, `UNPIVOT` and `MATCH_RECOGNIZE` of a table. -/
  | reshape (keyword : String) (table : TableFactor) (exprs : List Expr) (queries : List Query)
      (tableAlias : Option TableAlias)

inductive PipeOperator where
  /-- `|> WHERE`, `LIMIT`, `ORDER BY`, `SET`, `AGGREGATE`, `PIVOT`, `DROP`, `RENAME`, … -/
  | exprs (keyword : String) (names : List String) (exprs : List Expr)
  /-- `|> SELECT` and `|> EXTEND` -/
  | items (keyword : String) (items : List SelectItem)
  /-- `|> UNION`, `INTERSECT` and `EXCEPT` -/
  | queries (keyword : String) (queries : List Query)
  | call (name : ObjectName) (args : List FunctionArg) (modifiers : List Expr)
  | join (join : Join)

end

inductive DescribeAlias where
  | describe
  | desc
  | explain
  deriving DecidableEq, Repr

inductive Statement where
  | query (query : Query)
  | explainTable (describeAlias : DescribeAlias) (name : ObjectName)
  /-- Every other statement. -/
  | other (keyword : String)

/-- The name a common table expression declares. -/
def Cte.name : Cte → String
  | .mk tableAlias _ _ => tableAlias.name

def Cte.source : Cte → Option String
  | .mk _ _ source => source

/-- The tables that a `WITH` names behind its queries: the body reads them before its own. -/
def leading (ctes : List Cte) : List ObjectName :=
  (ctes.filterMap Cte.source).map ([·])

end Datapress.Sql
