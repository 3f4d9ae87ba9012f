import Datapress.Library.Relation
import Datapress.Schema
import Datapress.Sql.Ast

/-!
The meaning of a statement.

Names, scopes, wildcards, aliases and joins by column names are fixed here, as the language has
them. What an engine computes from the values it is handed (operators, functions, grouping,
windows, which rows a condition keeps or pairs, sorting, set operations) is a parameter. It sees
the values the expressions name, row by row, and never a whole row unless a wildcard asks for it.
-/

namespace Datapress.Sql

open Datapress Relational

/-- The data an expression hands to the engine, in the shape of the expression. -/
inductive Bound (Value : Type) where
  /-- A literal, or a name that is no column in scope, such as an output alias. -/
  | absent
  | value (value : Value)
  | cells (row : Row Value)
  | table (table : Table Value)
  | node (children : List (Bound Value))

/-- Which sides of a join stay in scope; semijoins and antijoins keep one. -/
inductive Sides where
  | both
  | left
  | right
  deriving DecidableEq, Repr

/-- What is left to the engine. Every operation is given the syntax it stands for. -/
structure Engine (Value : Type) where
  null : Value
  /-- The value of a column shared by two sides of a join. -/
  coalesce : Value → Value → Value
  /-- The column a name refers to: the scope, innermost first, and the column in it. -/
  resolve : List (List Column) → List String → Option (Nat × Nat)
  /-- A table that is neither a dataset nor a common table expression. -/
  table : ObjectName → Table Value
  tableFunction : TableFactor → List (Bound Value) → Table Value
  /-- The rows a table keeps under its hints and sampling clauses, by their indices. -/
  sample : TableFactor → List (Bound Value) → Nat → List Nat
  sides : String → Sides
  /-- The rows a join pairs, from what its condition says of each pair and the number of rows to
  the right. -/
  pairs : String → JoinConstraint → List Expr → List (List (Bound Value)) → Nat →
    List (Option Nat × Option Nat)
  reshape : TableFactor → List Column → List (Bound Value) → List (Table Value) → Table Value
  /-- A `SELECT` with the sort keys of its query, from the header of its sources and what its
  clauses say of each row. -/
  select : SetExpr → List Expr → List Column → List (Bound Value) → Table Value
  /-- A body without `SELECT` behind the tables of a `WITH`, from their rows. -/
  lead : SetExpr → List (Bound Value) → Table Value → Table Value
  values : SetExpr → List (Bound Value) → Table Value
  setOperation : SetOperator → String → Table Value → Table Value → Table Value
  order : List Expr → Table Value → List (Bound Value) → Table Value
  /-- The tables of a recursive `WITH`, from what one more round makes of them. -/
  recurse : (List (Table Value) → List (Table Value)) → List (Table Value)
  pipe : PipeOperator → Table Value → List (Bound Value) → List (Table Value) → Table Value
  dml : SetExpr → List (Bound Value) → List (Table Value) → Table Value
  describe : ObjectName → Table Value

/-- The schemas of the published datasets, by lowered name. -/
abbrev Catalog := String → Option DatasetSchema

/-- The rows of the datasets; a row gives each column by its position a value. -/
abbrev Content (Value : Type) := String → List (Nat → Value)

/-- The common table expressions in scope, innermost first. -/
abbrev Tables (Value : Type) := List (String × Table Value)

section Names

variable [ToLowercase]

/-- The columns of a dataset, the hidden ones marked. -/
def datasetHeader (schema : DatasetSchema) (qualifier : String) : List Column :=
  schema.columns.map fun column =>
    { qualifier
      name := column.name
      hidden := !schema.projectionFilter.allows column.name }

/-- Whether a name stands for one of these common table expressions. -/
def inScope (ctes : List String) : ObjectName → Bool
  | [name] => ctes.any fun cte => toLowercase cte == toLowercase name
  | _ => false

def isExists (symbol : String) : Bool := symbol == "EXISTS" || symbol == "NOT EXISTS"

/-- The names two sides are joined by. -/
def JoinConstraint.names (left right : List Column) : JoinConstraint → List String
  | .conditions => []
  | .usingColumns columns => columns.map ObjectName.last
  | .natural =>
      (left.map (toLowercase ·.name)).filter fun name =>
        right.any fun column => toLowercase column.name == name

end Names

section Meaning

variable [ToLowercase] {Value : Type} (engine : Engine Value) (catalog : Catalog)
  (content : Content Value)

/-- The value a name has in a stack of rows. -/
def Engine.lookup (scopes : List (Row Value)) (idents : List String) : Bound Value :=
  match engine.resolve (scopes.map Row.columns) idents with
  | some (scope, index) =>
      match scopes[scope]?.bind (·[index]?) with
      | some cell => .value cell.value
      | none => .absent
  | none => .absent

/-- The cells `name.*` stands for, in the nearest scope that knows the qualifier. -/
def qualified (scopes : List (Row Value)) (name : ObjectName) : Row Value :=
  let known := scopes.find? fun row => row.any (·.column.qualifier == name.last)
  (known.getD []).filter (·.column.qualifier == name.last)

def datasetSource (schema : DatasetSchema) (qualifier dataset : String) : Source Value where
  header := datasetHeader schema qualifier
  rows := (content dataset).map fun row =>
    (datasetHeader schema qualifier).mapIdx fun index column => ⟨column, row index⟩

/-- A name in table position. A name of one part is a common table expression first. -/
def tableSource (tables : Tables Value) (name : ObjectName) : Source Value :=
  match tables.find? fun (cte, _) => inScope [cte] name with
  | some (_, table) => table.source name.last
  | none =>
      match catalog name.last with
      | some schema => datasetSource content schema name.last name.last
      | none => (engine.table name).source name.last

/-- What is to the left, crossed with each of the tables. -/
def tableSources (tables : Tables Value) (left : Source Value) (names : List ObjectName) :
    Source Value :=
  names.foldl (fun source name =>
    source.cross engine.null fun _ => tableSource engine catalog content tables name) left

/-- A body that does not begin with `SELECT`, behind the tables of a `WITH`. -/
def Engine.ledBy (lead : Source Value) (body : SetExpr) (table : Table Value) : Table Value :=
  if lead.header.isEmpty then table else engine.lead body (lead.rows.map .cells) table

def withAlias (tableAlias : Option TableAlias) (source : Source Value) : Source Value :=
  match tableAlias with
  | some tableAlias => source.rename (toLowercase tableAlias.name) tableAlias.columns
  | none => source

/-- The sort keys and limits of a query: a `SELECT` computes them next to its own clauses. -/
structure Tail (Value : Type) where
  syntaxes : List Expr := []
  bind : List (Row Value) → List (Bound Value) := fun _ => []

/-- Sorts and limits a finished table. -/
def Engine.finish (scopes : List (Row Value)) (tail : Tail Value) (table : Table Value) :
    Table Value :=
  engine.order tail.syntaxes table
    ((table.source "").rows.map fun row => .node (tail.bind (row :: scopes)))

/-- What a join condition is handed for two rows: its expressions and the cells of the shared
columns. -/
def Engine.joined (operator : String) (constraint : JoinConstraint) (conditions : List Expr)
    (left : Source Value) (right : Row Value → Source Value)
    (bind : Row Value → List (Bound Value)) : Source Value :=
  let base := right (Row.nulls engine.null left.header)
  let names := constraint.names left.header base.header
  let shared (row : Row Value) := names.filterMap (Row.named toLowercase row)
  let bound (l r : Row Value) : Bound Value :=
    .node [.node (bind (l ++ r)), .cells (shared l), .cells (shared r)]
  let matched := left.rows.map fun l => (right l).rows.map (bound l)
  let merge (l r : Row Value) :=
    match engine.sides operator with
    | .both => Row.merge toLowercase engine.coalesce names l r
    | .left => l
    | .right => r
  left.join engine.null right merge
    (engine.pairs operator constraint conditions matched base.rows.length)

/-- The names of a `WITH` with the tables of a round. -/
def withTables (names : List String) (current : List (Table Value)) : Tables Value :=
  names.mapIdx fun index name => (name, current[index]?.getD {})

mutual

def Expr.bind (tables : Tables Value) (scopes : List (Row Value)) : Expr → Bound Value
  | .identifier ident => engine.lookup scopes [ident]
  | .compoundIdentifier idents => engine.lookup scopes idents
  | .value _ => .absent
  | .operator _ operands => .node (Expr.bindList tables scopes operands)
  | .subquery symbol operands query =>
      .node [.node (Expr.bindList tables scopes operands),
        .table (query.eval (isExists symbol) tables scopes)]
  | .function name args modifiers =>
      .node [.node (FunctionArg.bindList (ObjectName.last name == "count") tables scopes args),
        .node (Expr.bindList tables scopes modifiers)]
  | .matchAgainst columns => .node (columns.map (engine.lookup scopes))

def Expr.bindList (tables : Tables Value) (scopes : List (Row Value)) :
    List Expr → List (Bound Value)
  | [] => []
  | expr :: exprs => expr.bind tables scopes :: Expr.bindList tables scopes exprs

/-- The wildcard of `count(*)` stands for no column. -/
def FunctionArg.bind (count : Bool) (tables : Tables Value) (scopes : List (Row Value)) :
    FunctionArg → Bound Value
  | .expr value => value.bind tables scopes
  | .wildcard => if count then .absent else .cells (scopes.headD [])
  | .qualifiedWildcard name => .cells (qualified scopes name)
  | .query query => .table (query.eval false tables scopes)

def FunctionArg.bindList (count : Bool) (tables : Tables Value) (scopes : List (Row Value)) :
    List FunctionArg → List (Bound Value)
  | [] => []
  | arg :: args => arg.bind count tables scopes :: FunctionArg.bindList count tables scopes args

/-- Under `EXISTS` a wildcard in the select list stands for a literal. -/
def Query.eval (literalStar : Bool) (tables : Tables Value) (scopes : List (Row Value)) :
    Query → Table Value
  | .mk recursive ctes body orderBy limit pipeOperators =>
      let names := ctes.map Cte.name
      let inner :=
        if recursive then
          withTables names (engine.recurse fun current =>
            Cte.evalList (withTables names current ++ tables) scopes ctes) ++ tables
        else Cte.declare tables scopes ctes
      let tail : Tail Value :=
        { syntaxes := orderBy ++ limit
          bind := fun scopes =>
            Expr.bindList inner scopes orderBy ++ Expr.bindList inner scopes limit }
      let lead := tableSources engine catalog content inner Source.unit (leading ctes)
      PipeOperator.evalList inner scopes (body.eval literalStar inner scopes lead tail)
        pipeOperators

def Query.evalList (tables : Tables Value) (scopes : List (Row Value)) :
    List Query → List (Table Value)
  | [] => []
  | query :: queries => query.eval false tables scopes :: Query.evalList tables scopes queries

/-- A common table expression renames the columns of its query. -/
def Cte.eval (tables : Tables Value) (scopes : List (Row Value)) : Cte → Table Value
  | .mk tableAlias query _ => (query.eval false tables scopes).rename tableAlias.columns

def Cte.evalList (tables : Tables Value) (scopes : List (Row Value)) :
    List Cte → List (Table Value)
  | [] => []
  | cte :: ctes => cte.eval tables scopes :: Cte.evalList tables scopes ctes

/-- Each common table expression sees those before it. -/
def Cte.declare (tables : Tables Value) (scopes : List (Row Value)) : List Cte → Tables Value
  | [] => tables
  | cte :: ctes => Cte.declare ((cte.name, cte.eval tables scopes) :: tables) scopes ctes

/-- The tables of the `WITH` come before those of the first `SELECT`. -/
def SetExpr.eval (literalStar : Bool) (tables : Tables Value) (scopes : List (Row Value))
    (lead : Source Value) (tail : Tail Value) : SetExpr → Table Value
  | .select flavor distinct projection sources selection groupBy having windows =>
      let source := TableWithJoins.sources tables scopes lead sources
      engine.select (.select flavor distinct projection sources selection groupBy having windows)
        tail.syntaxes source.header (source.rows.map fun row =>
          .node [.node (Expr.bindList tables (row :: scopes) distinct),
            .node (SelectItem.bindList literalStar tables (row :: scopes) projection),
            if flavor = .fromFirstNoSelect then .cells row else .absent,
            .node (Expr.bindList tables (row :: scopes) selection),
            .node (Expr.bindList tables (row :: scopes) groupBy),
            .node (Expr.bindList tables (row :: scopes) having),
            .node (Expr.bindList tables (row :: scopes) windows),
            .node (tail.bind (row :: scopes))])
  | .query query =>
      engine.finish scopes tail
        (engine.ledBy lead (.query query) (query.eval false tables scopes))
  | .setOperation operator quantifier left right =>
      engine.finish scopes tail (engine.setOperation operator quantifier
        (left.eval false tables scopes lead {}) (right.eval false tables scopes Source.unit {}))
  | .values rows =>
      engine.finish scopes tail (engine.ledBy lead (.values rows)
        (engine.values (.values rows) (Expr.bindList tables scopes rows)))
  | .table name =>
      engine.finish scopes tail
        (engine.ledBy lead (.table name) (tableSource engine catalog content tables name).table)
  | .dml keyword targets sources queries exprs =>
      let start := tableSources engine catalog content tables lead targets
      let source := TableWithJoins.sources tables scopes start sources
      engine.finish scopes tail (engine.dml (.dml keyword targets sources queries exprs)
        (source.rows.map fun row => .node (Expr.bindList tables (row :: scopes) exprs))
        (Query.evalList tables scopes queries))

def SelectItem.bind (literalStar : Bool) (tables : Tables Value) (scopes : List (Row Value)) :
    SelectItem → Bound Value
  | .expr value _ => value.bind tables scopes
  | .wildcard options =>
      .node [if literalStar then .absent else .cells (scopes.headD []),
        .node (Expr.bindList tables scopes options)]
  | .qualifiedWildcard name options =>
      .node [if literalStar then .absent else .cells (qualified scopes name),
        .node (Expr.bindList tables scopes options)]

def SelectItem.bindList (literalStar : Bool) (tables : Tables Value) (scopes : List (Row Value)) :
    List SelectItem → List (Bound Value)
  | [] => []
  | item :: items =>
      item.bind literalStar tables scopes :: SelectItem.bindList literalStar tables scopes items

/-- The row to the left is what a lateral source may refer to. -/
def TableWithJoins.source (tables : Tables Value) (scopes : List (Row Value)) (left : Row Value) :
    TableWithJoins → Source Value
  | .mk relation joins =>
      Join.sources tables scopes left (relation.source tables scopes left) joins

/-- Extends what is to the left by each source in turn. -/
def TableWithJoins.sources (tables : Tables Value) (scopes : List (Row Value))
    (left : Source Value) : List TableWithJoins → Source Value
  | [] => left
  | source :: sources =>
      TableWithJoins.sources tables scopes
        (left.cross engine.null fun row => source.source tables scopes row) sources

def Join.source (tables : Tables Value) (scopes : List (Row Value)) (outer : Row Value)
    (left : Source Value) : Join → Source Value
  | .mk operator relation constraint conditions =>
      engine.joined operator constraint conditions left
        (fun row => relation.source tables scopes (outer ++ row))
        fun row => Expr.bindList tables ((outer ++ row) :: scopes) conditions

def Join.sources (tables : Tables Value) (scopes : List (Row Value)) (outer : Row Value)
    (left : Source Value) : List Join → Source Value
  | [] => left
  | join :: joins =>
      Join.sources tables scopes outer (join.source tables scopes outer left) joins

def TableFactor.source (tables : Tables Value) (scopes : List (Row Value)) (left : Row Value) :
    TableFactor → Source Value
  | .table name tableAlias call args hints =>
      withAlias tableAlias
        (if call then
          (engine.tableFunction (.table name tableAlias call args hints)
            (FunctionArg.bindList false tables (left :: scopes) args)).source name.last
        else
          let source := tableSource engine catalog content tables name
          if hints.isEmpty then source
          else source.pick (engine.sample (.table name tableAlias call args hints)
            (Expr.bindList tables (left :: scopes) hints) source.rows.length))
  | .derived lateral subquery tableAlias =>
      withAlias tableAlias
        ((subquery.eval false tables (if lateral then left :: scopes else scopes)).source "")
  | .tableFunction expr tableAlias =>
      withAlias tableAlias ((engine.tableFunction (.tableFunction expr tableAlias)
        [expr.bind tables (left :: scopes)]).source "")
  | .function name args tableAlias =>
      withAlias tableAlias ((engine.tableFunction (.function name args tableAlias)
        (FunctionArg.bindList false tables (left :: scopes) args)).source name.last)
  | .tabular keyword exprs tableAlias =>
      withAlias tableAlias ((engine.tableFunction (.tabular keyword exprs tableAlias)
        (Expr.bindList tables (left :: scopes) exprs)).source "")
  | .nestedJoin tables' tableAlias =>
      withAlias tableAlias (tables'.source tables scopes left)
  | .reshape keyword table exprs queries tableAlias =>
      let source := table.source tables scopes left
      withAlias tableAlias ((engine.reshape (.reshape keyword table exprs queries tableAlias)
        source.header
        (source.rows.map fun row =>
          .node [.cells row, .node (Expr.bindList tables (row :: left :: scopes) exprs)])
        (Query.evalList tables (left :: scopes) queries)).source "")

/-- A pipe operator works on the table before it. -/
def PipeOperator.eval (tables : Tables Value) (scopes : List (Row Value)) (table : Table Value) :
    PipeOperator → Table Value
  | .exprs keyword names exprs =>
      engine.pipe (.exprs keyword names exprs) table
        ((table.source "").rows.map fun row =>
          .node (Expr.bindList tables (row :: scopes) exprs)) []
  | .items keyword items =>
      engine.pipe (.items keyword items) table
        ((table.source "").rows.map fun row =>
          .node (SelectItem.bindList false tables (row :: scopes) items)) []
  | .queries keyword queries =>
      engine.pipe (.queries keyword queries) table [] (Query.evalList tables scopes queries)
  | .call name args modifiers =>
      engine.pipe (.call name args modifiers) table
        ((table.source "").rows.map fun row =>
          .node [.node (FunctionArg.bindList false tables (row :: scopes) args),
            .node (Expr.bindList tables (row :: scopes) modifiers)]) []
  | .join join => (join.source tables scopes [] (table.source "")).table

def PipeOperator.evalList (tables : Tables Value) (scopes : List (Row Value))
    (table : Table Value) : List PipeOperator → Table Value
  | [] => table
  | operator :: operators =>
      PipeOperator.evalList tables scopes (operator.eval tables scopes table) operators

end

/-- The result of a statement. `DESCRIBE` reads no rows. -/
def Statement.eval : Statement → Table Value
  | .query body => body.eval engine catalog content false [] []
  | .explainTable _ name => engine.describe name
  | .other _ => {}

end Meaning

end Datapress.Sql
