import Datapress.Sql.Semantics

/-!
Where a statement takes columns of its sources without naming them in column position.

The gate checks the names in column position, and wildcards in part of the statement. A statement
can also reach a column by other ways: wildcards elsewhere, `TABLE`, a `FROM` in a `WITH` clause, a
select list left out, renamed columns, joins by column names, names with fields, and operators on
whole rows. What they expose depends on the hidden columns of the sources they stand over.
-/

namespace Datapress.Sql

open Datapress Relational

/-- What is known of a source without running it: the columns that may be hidden, and the lowered
names of all columns where they are known. -/
structure Shape where
  hidden : List Column := []
  names : Option (List String) := some []

namespace Shape

def append (left right : Shape) : Shape where
  hidden := left.hidden ++ right.hidden
  names := do
    let l ← left.names
    let r ← right.names
    some (l ++ r)

/-- A source without hidden columns whose names are not known. -/
def unknown : Shape := { hidden := [], names := none }

def mayHave (shape : Shape) (name : String) : Bool :=
  match shape.names with
  | some names => names.contains name
  | none => true

end Shape

/-- The names a `WITH` leaves in scope. -/
def withNames (recursive : Bool) (names : List String) (ctes : List Cte) : List String :=
  if recursive then ctes.map Cte.name ++ names
  else ctes.foldl (fun names cte => cte.name :: names) names

section

variable [ToLowercase] (catalog : Catalog)

def tableShape (ctes : List String) (name : ObjectName) : Shape :=
  if inScope ctes name then .unknown
  else
    match catalog name.last with
    | some schema =>
        { hidden := (datasetHeader schema name.last).filter (·.hidden)
          names := some (schema.columns.map (toLowercase ·.name)) }
    | none => .unknown

/-- What is to the left, beside each of the tables. -/
def tableShapes (ctes : List String) (left : Shape) (names : List ObjectName) : Shape :=
  names.foldl (fun shape name => shape.append (tableShape catalog ctes name)) left

def aliasShape (tableAlias : Option TableAlias) (shape : Shape) : Shape :=
  match tableAlias with
  | some tableAlias =>
      { hidden := shape.hidden.map fun column =>
          { column with qualifier := toLowercase tableAlias.name }
        names := if tableAlias.columns.isEmpty then shape.names else none }
  | none => shape

/-- New names for the columns of a source with hidden ones. -/
def aliasExposes (tableAlias : Option TableAlias) (shape : Shape) : Bool :=
  tableAlias.any fun tableAlias => !tableAlias.columns.isEmpty && !shape.hidden.isEmpty

mutual

def TableFactor.shape (ctes : List String) : TableFactor → Shape
  | .table name tableAlias call _ _ =>
      if call then .unknown else aliasShape tableAlias (tableShape catalog ctes name)
  | .nestedJoin tables tableAlias => aliasShape tableAlias (tables.shape ctes)
  | _ => .unknown

def TableWithJoins.shape (ctes : List String) : TableWithJoins → Shape
  | .mk relation joins => Join.shapes ctes (relation.shape ctes) joins

def Join.shapes (ctes : List String) (left : Shape) : List Join → Shape
  | [] => left
  | .mk _ relation _ _ :: joins => Join.shapes ctes (left.append (relation.shape ctes)) joins

end

def TableWithJoins.shapes (ctes : List String) (left : Shape) : List TableWithJoins → Shape
  | [] => left
  | source :: sources =>
      TableWithJoins.shapes ctes (left.append (source.shape catalog ctes)) sources

/-- A shared column that may be hidden. -/
def JoinConstraint.exposes (left right : Shape) : JoinConstraint → Bool
  | .conditions => false
  | .usingColumns columns =>
      columns.any fun name =>
        (left.hidden ++ right.hidden).any fun column => toLowercase column.name == name.last
  | .natural =>
      left.hidden.any (fun column => right.mayHave (toLowercase column.name)) ||
        right.hidden.any (fun column => left.mayHave (toLowercase column.name))

/-- A hidden column among those a name may be a field of. -/
def fieldExposes (context : List (List Column)) (parts : List String) : Bool :=
  context.flatten.any fun column =>
    parts.any fun part => toLowercase part == toLowercase column.name

def qualifiedExposes (context : List (List Column)) (name : ObjectName) : Bool :=
  context.flatten.any fun column => column.qualifier == name.last

/-! The context lists, for each row in scope, the columns that may be hidden. In a checked position
the gate refuses wildcards over them. -/

mutual

def Expr.exposes (ctes : List String) (context : List (List Column)) : Expr → Bool
  | .identifier _ => false
  | .compoundIdentifier idents => fieldExposes context idents.dropLast
  | .value _ => false
  | .operator _ operands => Expr.exposesList ctes context operands
  | .subquery symbol operands query =>
      Expr.exposesList ctes context operands ||
        query.exposes false (isExists symbol) ctes context
  | .function name args modifiers =>
      FunctionArg.exposesList (ObjectName.last name == "count") ctes context args ||
        Expr.exposesList ctes context modifiers
  | .matchAgainst columns => columns.any (fieldExposes context)

def Expr.exposesList (ctes : List String) (context : List (List Column)) : List Expr → Bool
  | [] => false
  | expr :: exprs => expr.exposes ctes context || Expr.exposesList ctes context exprs

def FunctionArg.exposes (count : Bool) (ctes : List String) (context : List (List Column)) :
    FunctionArg → Bool
  | .expr value => value.exposes ctes context
  | .wildcard => !count && !(context.headD []).isEmpty
  | .qualifiedWildcard name => qualifiedExposes context name
  | .query query => query.exposes false false ctes context

def FunctionArg.exposesList (count : Bool) (ctes : List String) (context : List (List Column)) :
    List FunctionArg → Bool
  | [] => false
  | arg :: args =>
      arg.exposes count ctes context || FunctionArg.exposesList count ctes context args

def Query.exposes (checked literalStar : Bool) (ctes : List String)
    (context : List (List Column)) : Query → Bool
  | .mk recursive withs body orderBy limit pipeOperators =>
      let inner := withNames recursive ctes withs
      let lead := tableShapes catalog inner {} (leading withs)
      (if recursive then Cte.exposesList checked inner context withs
        else Cte.exposesInOrder checked ctes context withs) || !lead.hidden.isEmpty ||
      body.exposes checked literalStar inner context lead (fun context =>
        Expr.exposesList inner context orderBy || Expr.exposesList inner context limit) ||
      PipeOperator.exposesList inner context pipeOperators

def Query.exposesList (ctes : List String) (context : List (List Column)) : List Query → Bool
  | [] => false
  | query :: queries =>
      query.exposes false false ctes context || Query.exposesList ctes context queries

def Cte.exposes (checked : Bool) (ctes : List String) (context : List (List Column)) :
    Cte → Bool
  | .mk _ query _ => query.exposes checked false ctes context

def Cte.exposesList (checked : Bool) (ctes : List String) (context : List (List Column)) :
    List Cte → Bool
  | [] => false
  | cte :: withs =>
      cte.exposes checked ctes context || Cte.exposesList checked ctes context withs

def Cte.exposesInOrder (checked : Bool) (ctes : List String) (context : List (List Column)) :
    List Cte → Bool
  | [] => false
  | cte :: withs =>
      cte.exposes checked ctes context ||
        Cte.exposesInOrder checked (cte.name :: ctes) context withs

/-- The lead is the shape of the tables before the first `SELECT`, which hide nothing; the tail says
whether the sort keys of the query expose something over a row. -/
def SetExpr.exposes (checked literalStar : Bool) (ctes : List String)
    (context : List (List Column)) (lead : Shape) (tail : List (List Column) → Bool) :
    SetExpr → Bool
  | .select flavor distinct projection sources selection groupBy having windows =>
      let hidden := (TableWithJoins.shapes catalog ctes lead sources).hidden
      TableWithJoins.exposesList checked ctes context lead sources ||
        (decide (flavor = .fromFirstNoSelect) && !hidden.isEmpty) ||
        Expr.exposesList ctes (hidden :: context) distinct ||
        SelectItem.exposesList (checked || literalStar) ctes (hidden :: context) projection ||
        Expr.exposesList ctes (hidden :: context) selection ||
        Expr.exposesList ctes (hidden :: context) groupBy ||
        Expr.exposesList ctes (hidden :: context) having ||
        Expr.exposesList ctes (hidden :: context) windows ||
        tail (hidden :: context)
  | .query query => query.exposes checked false ctes context || tail ([] :: context)
  | .setOperation _ _ left right =>
      left.exposes checked false ctes context lead (fun _ => false) ||
        right.exposes checked false ctes context {} (fun _ => false) || tail ([] :: context)
  | .values rows => Expr.exposesList ctes context rows || tail ([] :: context)
  | .table name => !(tableShape catalog ctes name).hidden.isEmpty || tail ([] :: context)
  | .dml _ targets sources queries exprs =>
      let start := tableShapes catalog ctes lead targets
      let hidden := (TableWithJoins.shapes catalog ctes start sources).hidden
      TableWithJoins.exposesList false ctes context start sources ||
        Expr.exposesList ctes (hidden :: context) exprs ||
        Query.exposesList ctes context queries || tail ([] :: context)

/-- Where wildcards are excused, they are checked or stand for a literal. -/
def SelectItem.exposes (excused : Bool) (ctes : List String) (context : List (List Column)) :
    SelectItem → Bool
  | .expr value _ => value.exposes ctes context
  | .wildcard options =>
      (!excused && !(context.headD []).isEmpty) || Expr.exposesList ctes context options
  | .qualifiedWildcard name options =>
      (!excused && qualifiedExposes context name) || Expr.exposesList ctes context options

def SelectItem.exposesList (excused : Bool) (ctes : List String) (context : List (List Column)) :
    List SelectItem → Bool
  | [] => false
  | item :: items =>
      item.exposes excused ctes context || SelectItem.exposesList excused ctes context items

def TableWithJoins.exposes (checked : Bool) (ctes : List String) (context : List (List Column))
    (left : List Column) : TableWithJoins → Bool
  | .mk relation joins =>
      relation.exposes checked ctes context left ||
        Join.exposesList ctes context left (relation.shape catalog ctes) joins

def TableWithJoins.exposesList (checked : Bool) (ctes : List String)
    (context : List (List Column)) (left : Shape) : List TableWithJoins → Bool
  | [] => false
  | source :: sources =>
      source.exposes checked ctes context left.hidden ||
        TableWithJoins.exposesList checked ctes context (left.append (source.shape catalog ctes))
          sources

def Join.exposes (ctes : List String) (context : List (List Column)) (outer : List Column)
    (left : Shape) : Join → Bool
  | .mk _ relation constraint conditions =>
      relation.exposes false ctes context (outer ++ left.hidden) ||
        constraint.exposes left (relation.shape catalog ctes) ||
        Expr.exposesList ctes
          ((outer ++ (left.hidden ++ (relation.shape catalog ctes).hidden)) :: context) conditions

def Join.exposesList (ctes : List String) (context : List (List Column)) (outer : List Column)
    (left : Shape) : List Join → Bool
  | [] => false
  | join :: joins =>
      join.exposes ctes context outer left ||
        Join.exposesList ctes context outer (Join.shapes catalog ctes left [join]) joins

def TableFactor.exposes (checked : Bool) (ctes : List String) (context : List (List Column))
    (left : List Column) : TableFactor → Bool
  | .table name tableAlias call args hints =>
      if call then FunctionArg.exposesList false ctes (left :: context) args
      else
        aliasExposes tableAlias (tableShape catalog ctes name) ||
          Expr.exposesList ctes (left :: context) hints
  | .derived lateral subquery _ =>
      subquery.exposes checked false ctes (if lateral then left :: context else context)
  | .tableFunction expr _ => expr.exposes ctes (left :: context)
  | .function _ args _ => FunctionArg.exposesList false ctes (left :: context) args
  | .tabular _ exprs _ => Expr.exposesList ctes (left :: context) exprs
  | .nestedJoin tables tableAlias =>
      tables.exposes checked ctes context left ||
        aliasExposes tableAlias (tables.shape catalog ctes)
  | .reshape _ table exprs queries _ =>
      table.exposes false ctes context left || !(table.shape catalog ctes).hidden.isEmpty ||
        Expr.exposesList ctes ((table.shape catalog ctes).hidden :: left :: context) exprs ||
        Query.exposesList ctes (left :: context) queries

def PipeOperator.exposes (ctes : List String) (context : List (List Column)) :
    PipeOperator → Bool
  | .exprs _ _ exprs => Expr.exposesList ctes ([] :: context) exprs
  | .items _ items => SelectItem.exposesList false ctes ([] :: context) items
  | .queries _ queries => Query.exposesList ctes context queries
  | .call _ args modifiers =>
      FunctionArg.exposesList false ctes ([] :: context) args ||
        Expr.exposesList ctes ([] :: context) modifiers
  | .join join =>
      join.exposes ctes context [] .unknown ||
        !(Join.shapes catalog ctes .unknown [join]).hidden.isEmpty

def PipeOperator.exposesList (ctes : List String) (context : List (List Column)) :
    List PipeOperator → Bool
  | [] => false
  | operator :: operators =>
      operator.exposes ctes context || PipeOperator.exposesList ctes context operators

end

/-- Whether a statement reaches a hidden column in a way the gate does not look at. -/
def Statement.exposes : Statement → Bool
  | .query body => body.exposes catalog true false [] []
  | _ => false

end

end Datapress.Sql
