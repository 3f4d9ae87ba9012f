import Datapress.Sql.Ast

/-!
The walk of a visitor derived by `sqlparser` over a statement.

A statement is listed as its positions, in the order in which the derived visitor reaches them. A
visitor has callbacks for queries, relations and expressions; the name of a `TABLE` command, that of
a `FROM` in a `WITH` clause and that of a call outside an expression are positions it passes without
a callback.
-/

namespace Datapress.Sql

/-- A position of a statement. The scope, the names of the common table expressions a reference
may stand for, belongs to the meaning of the statement: no callback receives it. -/
inductive Position where
  /-- `pre_visit_query`, with the names its `WITH` clause declares. -/
  | query (declared : List String)
  /-- `pre_visit_relation` -/
  | relation (scope : List String) (name : ObjectName) (call : Bool)
  /-- `pre_visit_expr` -/
  | expr (expr : Expr)
  /-- A table that is read without being a relation of the tree: `TABLE`, and `FROM` in a `WITH`. -/
  | tableCommand (scope : List String) (name : ObjectName)
  | call (name : ObjectName)

/-- The names in scope after a `WITH` clause. -/
def inner (scope : List String) (ctes : List Cte) : List String :=
  ctes.map Cte.name ++ scope

mutual

def Expr.positions (scope : List String) : Expr → List Position
  | .identifier ident => [.expr (.identifier ident)]
  | .compoundIdentifier idents => [.expr (.compoundIdentifier idents)]
  | .value literal => [.expr (.value literal)]
  | .operator symbol operands =>
      .expr (.operator symbol operands) :: Expr.positionsList scope operands
  | .subquery symbol operands query =>
      .expr (.subquery symbol operands query) ::
        (Expr.positionsList scope operands ++ query.positions scope)
  | .function name args modifiers =>
      .expr (.function name args modifiers) ::
        (FunctionArg.positionsList scope args ++ Expr.positionsList scope modifiers)
  | .matchAgainst columns => [.expr (.matchAgainst columns)]

def Expr.positionsList (scope : List String) : List Expr → List Position
  | [] => []
  | expr :: exprs => expr.positions scope ++ Expr.positionsList scope exprs

def FunctionArg.positions (scope : List String) : FunctionArg → List Position
  | .expr value => value.positions scope
  | .wildcard => []
  | .qualifiedWildcard _ => []
  | .query query => query.positions scope

def FunctionArg.positionsList (scope : List String) : List FunctionArg → List Position
  | [] => []
  | arg :: args => arg.positions scope ++ FunctionArg.positionsList scope args

def Query.positions (scope : List String) : Query → List Position
  | .mk recursive ctes body orderBy limit pipeOperators =>
      .query (ctes.map Cte.name) ::
        (Cte.positionsList (if recursive then inner scope ctes else scope) ctes ++
          (leading ctes).map (.tableCommand (inner scope ctes)) ++
          body.positions (inner scope ctes) ++
          Expr.positionsList (inner scope ctes) orderBy ++
          Expr.positionsList (inner scope ctes) limit ++
          PipeOperator.positionsList (inner scope ctes) pipeOperators)

def Query.positionsList (scope : List String) : List Query → List Position
  | [] => []
  | query :: queries => query.positions scope ++ Query.positionsList scope queries

def Cte.positions (scope : List String) : Cte → List Position
  | .mk _ query _ => query.positions scope

/-- A common table expression sees its earlier siblings. -/
def Cte.positionsList (scope : List String) : List Cte → List Position
  | [] => []
  | cte :: ctes => cte.positions scope ++ Cte.positionsList (cte.name :: scope) ctes

def SetExpr.positions (scope : List String) : SetExpr → List Position
  | .select _ distinct projection sources selection groupBy having windows =>
      Expr.positionsList scope distinct ++ SelectItem.positionsList scope projection ++
        TableWithJoins.positionsList scope sources ++ Expr.positionsList scope selection ++
        Expr.positionsList scope groupBy ++ Expr.positionsList scope having ++
        Expr.positionsList scope windows
  | .query query => query.positions scope
  | .setOperation _ _ left right => left.positions scope ++ right.positions scope
  | .values rows => Expr.positionsList scope rows
  | .table name => [.tableCommand scope name]
  | .dml _ targets sources queries exprs =>
      targets.map (.relation scope · false) ++ TableWithJoins.positionsList scope sources ++
        Query.positionsList scope queries ++ Expr.positionsList scope exprs

def SelectItem.positions (scope : List String) : SelectItem → List Position
  | .expr value _ => value.positions scope
  | .wildcard options => Expr.positionsList scope options
  | .qualifiedWildcard _ options => Expr.positionsList scope options

def SelectItem.positionsList (scope : List String) : List SelectItem → List Position
  | [] => []
  | item :: items => item.positions scope ++ SelectItem.positionsList scope items

def TableWithJoins.positions (scope : List String) : TableWithJoins → List Position
  | .mk relation joins => relation.positions scope ++ Join.positionsList scope joins

def TableWithJoins.positionsList (scope : List String) : List TableWithJoins → List Position
  | [] => []
  | tables :: sources => tables.positions scope ++ TableWithJoins.positionsList scope sources

def Join.positions (scope : List String) : Join → List Position
  | .mk _ relation _ conditions =>
      relation.positions scope ++ Expr.positionsList scope conditions

def Join.positionsList (scope : List String) : List Join → List Position
  | [] => []
  | join :: joins => join.positions scope ++ Join.positionsList scope joins

def TableFactor.positions (scope : List String) : TableFactor → List Position
  | .table name _ call args hints =>
      .relation scope name call ::
        (FunctionArg.positionsList scope args ++ Expr.positionsList scope hints)
  | .derived _ subquery _ => subquery.positions scope
  | .tableFunction expr _ => expr.positions scope
  | .function name args _ => .call name :: FunctionArg.positionsList scope args
  | .tabular _ exprs _ => Expr.positionsList scope exprs
  | .nestedJoin tables _ => tables.positions scope
  | .reshape _ table exprs queries _ =>
      table.positions scope ++ Expr.positionsList scope exprs ++ Query.positionsList scope queries

def PipeOperator.positions (scope : List String) : PipeOperator → List Position
  | .exprs _ _ exprs => Expr.positionsList scope exprs
  | .items _ items => SelectItem.positionsList scope items
  | .queries _ queries => Query.positionsList scope queries
  | .call name args modifiers =>
      .call name :: (FunctionArg.positionsList scope args ++ Expr.positionsList scope modifiers)
  | .join join => join.positions scope

def PipeOperator.positionsList (scope : List String) : List PipeOperator → List Position
  | [] => []
  | operator :: operators =>
      operator.positions scope ++ PipeOperator.positionsList scope operators

end

/-- The positions of a statement; the target of `DESCRIBE` is a relation. -/
def Statement.positions : Statement → List Position
  | .query body => body.positions []
  | .explainTable _ name => [.relation [] name false]
  | .other _ => []

end Datapress.Sql
