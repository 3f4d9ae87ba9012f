import Datapress.Sql.Ast

/-!
The syntax tree of `sqlparser` with its identifiers as they are spelled, quotes included.

The gate looks at unquoted names, an engine does not. Here every identifier that names or declares
a table or a column is kept, and of the rest only what it is made of. A renaming reaches the
identifiers for which a mutating visitor has callbacks.
-/

namespace Datapress.Sql.Spelled

structure Ident where
  value : String
  quoteStyle : Option Char := none
  deriving DecidableEq, Repr

abbrev ObjectName := List Ident

structure TableAlias where
  name : Ident
  columns : List Ident := []
  deriving DecidableEq, Repr

inductive JoinConstraint where
  /-- `ON`, or no constraint -/
  | conditions
  | usingColumns (columns : List ObjectName)
  | natural
  deriving DecidableEq, Repr

/-- The columns that the options of a wildcard name. -/
structure WildcardColumns where
  /-- `EXCLUDE` and `EXCEPT` -/
  excluded : List Ident := []
  /-- `REPLACE` and `RENAME` -/
  replaced : List Ident := []
  deriving DecidableEq, Repr

mutual

inductive Expr where
  | identifier (ident : Ident)
  | compoundIdentifier (idents : List Ident)
  /-- `t.*`, also as the argument of a function -/
  | qualifiedWildcard (name : ObjectName)
  /-- `MATCH (columns) AGAINST (…)` -/
  | matchAgainst (columns : List ObjectName)
  /-- Any other expression: the expressions and the queries in it. -/
  | other (symbol : String) (operands : List Expr) (queries : List Query)

inductive Query where
  | mk (recursive : Bool) (ctes : List Cte) (body : SetExpr) (orderBy : List Expr)
      (limit : List Expr) (pipeOperators : List PipeOperator)

inductive Cte where
  | mk (tableAlias : TableAlias) (query : Query)

inductive SetExpr where
  /-- The clauses are the expressions of `WHERE`, `GROUP BY`, `HAVING`, … in their order. -/
  | select (flavor : SelectFlavor) (distinct : List Expr) (projection : List SelectItem)
      (sources : List TableWithJoins) (selection clauses : List Expr)
  | query (query : Query)
  | setOperation (operator : String) (left right : SetExpr)
  | values (rows : List Expr)
  /-- `TABLE name` -/
  | table (name : ObjectName)
  /-- `WITH … INSERT`, `UPDATE`, `DELETE` or `MERGE`. -/
  | dml (keyword : String) (targets : List ObjectName) (sources : List TableWithJoins)
      (queries : List Query) (exprs : List Expr)

inductive SelectItem where
  | expr (value : Expr) (outputAlias : Option Ident)
  | wildcard (columns : WildcardColumns) (exprs : List Expr)
  | qualifiedWildcard (name : ObjectName) (columns : WildcardColumns) (exprs : List Expr)

inductive TableWithJoins where
  | mk (relation : TableFactor) (joins : List Join)

inductive Join where
  | mk (operator : String) (relation : TableFactor) (constraint : JoinConstraint)
      (conditions : List Expr)

inductive TableFactor where
  /-- A name in table position; with `call` it is a table function. The expressions are its
  arguments and hints. -/
  | table (name : ObjectName) (tableAlias : Option TableAlias) (call : Bool) (exprs : List Expr)
  | derived (lateral : Bool) (subquery : Query) (tableAlias : Option TableAlias)
  /-- `TABLE(…)`, `LATERAL f(…)`, `UNNEST(…)` and the like. -/
  | tabular (keyword : String) (exprs : List Expr) (tableAlias : Option TableAlias)
  | nestedJoin (tables : TableWithJoins) (tableAlias : Option TableAlias)
  /-- `PIVOT`, `UNPIVOT` and `MATCH_RECOGNIZE` of a table, and the columns they name. -/
  | reshape (keyword : String) (table : TableFactor) (columns : List Ident) (exprs : List Expr)
      (queries : List Query) (tableAlias : Option TableAlias)

inductive PipeOperator where
  /-- `|> WHERE`, `AGGREGATE`, `DROP`, `RENAME`, `CALL`, … -/
  | exprs (keyword : String) (names : List Ident) (exprs : List Expr)
  /-- `|> SELECT` and `|> EXTEND` -/
  | items (keyword : String) (items : List SelectItem)
  /-- `|> UNION`, `INTERSECT` and `EXCEPT` -/
  | queries (keyword : String) (queries : List Query)
  | join (join : Join)

end

inductive Statement where
  | query (query : Query)
  | explainTable (describeAlias : DescribeAlias) (name : ObjectName)
  /-- Every other statement. -/
  | other (keyword : String)

/-! ### Renamings -/

/-- What happens to an identifier that names a column, and to one that names a table. -/
structure Renaming where
  column : Ident → Ident
  table : Ident → Ident

/-- The last part of a qualified reference is the column. -/
def Renaming.compound (r : Renaming) : List Ident → List Ident
  | [] => []
  | [column] => [r.column column]
  | qualifier :: part :: parts => r.table qualifier :: r.compound (part :: parts)

def Renaming.comp (after before : Renaming) : Renaming where
  column := after.column ∘ before.column
  table := after.table ∘ before.table

mutual

def Expr.rename (r : Renaming) : Expr → Expr
  | .identifier ident => .identifier (r.column ident)
  | .compoundIdentifier idents => .compoundIdentifier (r.compound idents)
  -- No callback is called for the names of these two.
  | .qualifiedWildcard name => .qualifiedWildcard name
  | .matchAgainst columns => .matchAgainst columns
  | .other symbol operands queries =>
      .other symbol (Expr.renameList r operands) (Query.renameList r queries)

def Expr.renameList (r : Renaming) : List Expr → List Expr
  | [] => []
  | expr :: exprs => expr.rename r :: Expr.renameList r exprs

def Query.rename (r : Renaming) : Query → Query
  | .mk recursive ctes body orderBy limit pipeOperators =>
      .mk recursive (Cte.renameList r ctes) (body.rename r)
        (Expr.renameList r orderBy) (Expr.renameList r limit)
        (PipeOperator.renameList r pipeOperators)

def Query.renameList (r : Renaming) : List Query → List Query
  | [] => []
  | query :: queries => query.rename r :: Query.renameList r queries

def Cte.rename (r : Renaming) : Cte → Cte
  | .mk tableAlias query => .mk tableAlias (query.rename r)

def Cte.renameList (r : Renaming) : List Cte → List Cte
  | [] => []
  | cte :: ctes => cte.rename r :: Cte.renameList r ctes

def SetExpr.rename (r : Renaming) : SetExpr → SetExpr
  | .select flavor distinct projection sources selection clauses =>
      .select flavor (Expr.renameList r distinct)
        (SelectItem.renameList r projection) (TableWithJoins.renameList r sources)
        (Expr.renameList r selection) (Expr.renameList r clauses)
  | .query body => .query (body.rename r)
  | .setOperation operator left right =>
      .setOperation operator (left.rename r) (right.rename r)
  | .values rows => .values (Expr.renameList r rows)
  | .table name => .table name
  | .dml keyword targets sources queries exprs =>
      .dml keyword (targets.map (·.map r.table))
        (TableWithJoins.renameList r sources) (Query.renameList r queries)
        (Expr.renameList r exprs)

def SelectItem.rename (r : Renaming) : SelectItem → SelectItem
  | .expr value outputAlias => .expr (value.rename r) outputAlias
  | .wildcard columns exprs => .wildcard columns (Expr.renameList r exprs)
  | .qualifiedWildcard name columns exprs =>
      .qualifiedWildcard name columns (Expr.renameList r exprs)

def SelectItem.renameList (r : Renaming) : List SelectItem → List SelectItem
  | [] => []
  | item :: items => item.rename r :: SelectItem.renameList r items

def TableWithJoins.rename (r : Renaming) : TableWithJoins → TableWithJoins
  | .mk relation joins => .mk (relation.rename r) (Join.renameList r joins)

def TableWithJoins.renameList (r : Renaming) : List TableWithJoins → List TableWithJoins
  | [] => []
  | tables :: sources => tables.rename r :: TableWithJoins.renameList r sources

def Join.rename (r : Renaming) : Join → Join
  | .mk operator relation constraint conditions =>
      .mk operator (relation.rename r) constraint (Expr.renameList r conditions)

def Join.renameList (r : Renaming) : List Join → List Join
  | [] => []
  | join :: joins => join.rename r :: Join.renameList r joins

def TableFactor.rename (r : Renaming) : TableFactor → TableFactor
  | .table name tableAlias call exprs =>
      .table (name.map r.table) tableAlias call (Expr.renameList r exprs)
  | .derived lateral subquery tableAlias => .derived lateral (subquery.rename r) tableAlias
  | .tabular keyword exprs tableAlias =>
      .tabular keyword (Expr.renameList r exprs) tableAlias
  | .nestedJoin tables tableAlias => .nestedJoin (tables.rename r) tableAlias
  | .reshape keyword table columns exprs queries tableAlias =>
      .reshape keyword (table.rename r) columns (Expr.renameList r exprs)
        (Query.renameList r queries) tableAlias

def PipeOperator.rename (r : Renaming) : PipeOperator → PipeOperator
  | .exprs keyword names exprs => .exprs keyword names (Expr.renameList r exprs)
  | .items keyword items => .items keyword (SelectItem.renameList r items)
  | .queries keyword queries => .queries keyword (Query.renameList r queries)
  | .join join => .join (join.rename r)

def PipeOperator.renameList (r : Renaming) : List PipeOperator → List PipeOperator
  | [] => []
  | operator :: operators =>
      operator.rename r :: PipeOperator.renameList r operators

end

/-- The target of `DESCRIBE` is a relation. -/
def Statement.rename (r : Renaming) : Statement → Statement
  | .query body => .query (body.rename r)
  | .explainTable describeAlias name => .explainTable describeAlias (name.map r.table)
  | .other keyword => .other keyword

/-! Renaming twice is one renaming. -/

@[simp] theorem Renaming.compound_comp (after before : Renaming) (idents : List Ident) :
    after.compound (before.compound idents) = (after.comp before).compound idents := by
  fun_induction before.compound idents with
  | case1 => rfl
  | case2 column => rfl
  | case3 qualifier part parts ih =>
      cases parts <;> simp_all [compound, comp]

mutual

theorem Expr.rename_rename (after before : Renaming) (e : Expr) :
    (e.rename before).rename after = e.rename (after.comp before) := by
  cases e with
  | identifier ident => rfl
  | compoundIdentifier idents => simp only [Expr.rename, Renaming.compound_comp]
  | qualifiedWildcard name => rfl
  | matchAgainst columns => rfl
  | other symbol operands queries =>
      simp only [Expr.rename, Expr.renameList_renameList, Query.renameList_renameList]

theorem Expr.renameList_renameList (after before : Renaming) (es : List Expr) :
    Expr.renameList after (Expr.renameList before es) =
      Expr.renameList (after.comp before) es := by
  cases es with
  | nil => rfl
  | cons e es => simp only [Expr.renameList, e.rename_rename, Expr.renameList_renameList]

theorem Query.rename_rename (after before : Renaming) (q : Query) :
    (q.rename before).rename after = q.rename (after.comp before) := by
  cases q with
  | mk recursive ctes body orderBy limit pipeOperators =>
      simp only [Query.rename, Cte.renameList_renameList, body.rename_rename,
        Expr.renameList_renameList, PipeOperator.renameList_renameList]

theorem Query.renameList_renameList (after before : Renaming) (qs : List Query) :
    Query.renameList after (Query.renameList before qs) =
      Query.renameList (after.comp before) qs := by
  cases qs with
  | nil => rfl
  | cons q qs => simp only [Query.renameList, q.rename_rename, Query.renameList_renameList]

theorem Cte.renameList_renameList (after before : Renaming) (ctes : List Cte) :
    Cte.renameList after (Cte.renameList before ctes) =
      Cte.renameList (after.comp before) ctes := by
  cases ctes with
  | nil => rfl
  | cons cte ctes =>
      cases cte with
      | mk tableAlias query =>
          simp only [Cte.renameList, Cte.rename, query.rename_rename,
            Cte.renameList_renameList]

theorem SetExpr.rename_rename (after before : Renaming) (body : SetExpr) :
    (body.rename before).rename after = body.rename (after.comp before) := by
  cases body with
  | select flavor distinct projection sources selection clauses =>
      simp only [SetExpr.rename, Expr.renameList_renameList, SelectItem.renameList_renameList,
        TableWithJoins.renameList_renameList]
  | query query => simp only [SetExpr.rename, query.rename_rename]
  | setOperation operator left right =>
      simp only [SetExpr.rename, left.rename_rename, right.rename_rename]
  | values rows => simp only [SetExpr.rename, Expr.renameList_renameList]
  | table name => rfl
  | dml keyword targets sources queries exprs =>
      simp only [SetExpr.rename, List.map_map, Function.comp_def,
        TableWithJoins.renameList_renameList, Query.renameList_renameList,
        Expr.renameList_renameList, Renaming.comp]

theorem SelectItem.renameList_renameList (after before : Renaming) (items : List SelectItem) :
    SelectItem.renameList after (SelectItem.renameList before items) =
      SelectItem.renameList (after.comp before) items := by
  cases items with
  | nil => rfl
  | cons item items =>
      cases item with
      | expr value outputAlias =>
          simp only [SelectItem.renameList, SelectItem.rename, value.rename_rename,
            SelectItem.renameList_renameList]
      | wildcard columns exprs =>
          simp only [SelectItem.renameList, SelectItem.rename, Expr.renameList_renameList,
            SelectItem.renameList_renameList]
      | qualifiedWildcard name columns exprs =>
          simp only [SelectItem.renameList, SelectItem.rename, Expr.renameList_renameList,
            SelectItem.renameList_renameList]

theorem TableWithJoins.rename_rename (after before : Renaming) (tables : TableWithJoins) :
    (tables.rename before).rename after = tables.rename (after.comp before) := by
  cases tables with
  | mk relation joins =>
      simp only [TableWithJoins.rename, relation.rename_rename, Join.renameList_renameList]

theorem TableWithJoins.renameList_renameList (after before : Renaming)
    (sources : List TableWithJoins) :
    TableWithJoins.renameList after (TableWithJoins.renameList before sources) =
      TableWithJoins.renameList (after.comp before) sources := by
  cases sources with
  | nil => rfl
  | cons tables sources =>
      simp only [TableWithJoins.renameList, tables.rename_rename,
        TableWithJoins.renameList_renameList]

theorem Join.rename_rename (after before : Renaming) (join : Join) :
    (join.rename before).rename after = join.rename (after.comp before) := by
  cases join with
  | mk operator relation constraint conditions =>
      simp only [Join.rename, relation.rename_rename, Expr.renameList_renameList]

theorem Join.renameList_renameList (after before : Renaming) (joins : List Join) :
    Join.renameList after (Join.renameList before joins) =
      Join.renameList (after.comp before) joins := by
  cases joins with
  | nil => rfl
  | cons join joins => simp only [Join.renameList, join.rename_rename, Join.renameList_renameList]

theorem TableFactor.rename_rename (after before : Renaming) (factor : TableFactor) :
    (factor.rename before).rename after = factor.rename (after.comp before) := by
  cases factor with
  | table name tableAlias call exprs =>
      simp only [TableFactor.rename, List.map_map, Expr.renameList_renameList, Renaming.comp]
  | derived lateral subquery tableAlias => simp only [TableFactor.rename, subquery.rename_rename]
  | tabular keyword exprs tableAlias => simp only [TableFactor.rename, Expr.renameList_renameList]
  | nestedJoin tables tableAlias => simp only [TableFactor.rename, tables.rename_rename]
  | reshape keyword table columns exprs queries tableAlias =>
      simp only [TableFactor.rename, table.rename_rename, Expr.renameList_renameList,
        Query.renameList_renameList]

theorem PipeOperator.renameList_renameList (after before : Renaming)
    (operators : List PipeOperator) :
    PipeOperator.renameList after (PipeOperator.renameList before operators) =
      PipeOperator.renameList (after.comp before) operators := by
  cases operators with
  | nil => rfl
  | cons operator operators =>
      cases operator with
      | exprs keyword names exprs =>
          simp only [PipeOperator.renameList, PipeOperator.rename, Expr.renameList_renameList,
            PipeOperator.renameList_renameList]
      | items keyword items =>
          simp only [PipeOperator.renameList, PipeOperator.rename, SelectItem.renameList_renameList,
            PipeOperator.renameList_renameList]
      | queries keyword queries =>
          simp only [PipeOperator.renameList, PipeOperator.rename, Query.renameList_renameList,
            PipeOperator.renameList_renameList]
      | join join =>
          simp only [PipeOperator.renameList, PipeOperator.rename, join.rename_rename,
            PipeOperator.renameList_renameList]

end

theorem Statement.rename_rename (after before : Renaming) (stmt : Statement) :
    (stmt.rename before).rename after = stmt.rename (after.comp before) := by
  cases stmt with
  | query body => simp only [rename, body.rename_rename]
  | explainTable describeAlias name => simp only [rename, List.map_map, Renaming.comp]
  | other keyword => rfl

/-! ### What a renaming reaches -/

/-- An identifier that a renaming reaches. -/
inductive Use where
  | column (ident : Ident)
  | table (ident : Ident)
  deriving DecidableEq, Repr

def Renaming.apply (r : Renaming) : Use → Ident
  | .column ident => r.column ident
  | .table ident => r.table ident

def compoundUses : List Ident → List Use
  | [] => []
  | [column] => [.column column]
  | qualifier :: part :: parts => .table qualifier :: compoundUses (part :: parts)

mutual

def Expr.uses : Expr → List Use
  | .identifier ident => [.column ident]
  | .compoundIdentifier idents => compoundUses idents
  | .qualifiedWildcard _ => []
  | .matchAgainst _ => []
  | .other _ operands queries => Expr.usesList operands ++ Query.usesList queries

def Expr.usesList : List Expr → List Use
  | [] => []
  | expr :: exprs => expr.uses ++ Expr.usesList exprs

def Query.uses : Query → List Use
  | .mk _ ctes body orderBy limit pipeOperators =>
      Cte.usesList ctes ++ body.uses ++ Expr.usesList orderBy ++ Expr.usesList limit ++
        PipeOperator.usesList pipeOperators

def Query.usesList : List Query → List Use
  | [] => []
  | query :: queries => query.uses ++ Query.usesList queries

def Cte.uses : Cte → List Use
  | .mk _ query => query.uses

def Cte.usesList : List Cte → List Use
  | [] => []
  | cte :: ctes => cte.uses ++ Cte.usesList ctes

def SetExpr.uses : SetExpr → List Use
  | .select _ distinct projection sources selection clauses =>
      Expr.usesList distinct ++ SelectItem.usesList projection ++
        TableWithJoins.usesList sources ++ Expr.usesList selection ++ Expr.usesList clauses
  | .query query => query.uses
  | .setOperation _ left right => left.uses ++ right.uses
  | .values rows => Expr.usesList rows
  | .table _ => []
  | .dml _ targets sources queries exprs =>
      targets.flatMap (·.map .table) ++ TableWithJoins.usesList sources ++
        Query.usesList queries ++ Expr.usesList exprs

def SelectItem.uses : SelectItem → List Use
  | .expr value _ => value.uses
  | .wildcard _ exprs => Expr.usesList exprs
  | .qualifiedWildcard _ _ exprs => Expr.usesList exprs

def SelectItem.usesList : List SelectItem → List Use
  | [] => []
  | item :: items => item.uses ++ SelectItem.usesList items

def TableWithJoins.uses : TableWithJoins → List Use
  | .mk relation joins => relation.uses ++ Join.usesList joins

def TableWithJoins.usesList : List TableWithJoins → List Use
  | [] => []
  | tables :: sources => tables.uses ++ TableWithJoins.usesList sources

def Join.uses : Join → List Use
  | .mk _ relation _ conditions => relation.uses ++ Expr.usesList conditions

def Join.usesList : List Join → List Use
  | [] => []
  | join :: joins => join.uses ++ Join.usesList joins

def TableFactor.uses : TableFactor → List Use
  | .table name _ _ exprs => name.map .table ++ Expr.usesList exprs
  | .derived _ subquery _ => subquery.uses
  | .tabular _ exprs _ => Expr.usesList exprs
  | .nestedJoin tables _ => tables.uses
  | .reshape _ table _ exprs queries _ =>
      table.uses ++ Expr.usesList exprs ++ Query.usesList queries

def PipeOperator.uses : PipeOperator → List Use
  | .exprs _ _ exprs => Expr.usesList exprs
  | .items _ items => SelectItem.usesList items
  | .queries _ queries => Query.usesList queries
  | .join join => join.uses

def PipeOperator.usesList : List PipeOperator → List Use
  | [] => []
  | operator :: operators => operator.uses ++ PipeOperator.usesList operators

end

def Statement.uses : Statement → List Use
  | .query body => body.uses
  | .explainTable _ name => name.map .table
  | .other _ => []

/-! Two renamings of a statement are one when they do the same to each identifier they reach. -/

/-- Two renamings do the same to these identifiers. -/
def Renaming.Agree (r r' : Renaming) (uses : List Use) : Prop :=
  ∀ use ∈ uses, r.apply use = r'.apply use

@[simp] theorem Renaming.agree_nil (r r' : Renaming) : r.Agree r' [] ↔ True :=
  iff_true_intro (List.forall_mem_nil _)

@[simp] theorem Renaming.agree_append (r r' : Renaming) (uses others : List Use) :
    r.Agree r' (uses ++ others) ↔ r.Agree r' uses ∧ r.Agree r' others :=
  List.forall_mem_append

theorem Renaming.agree_column (r r' : Renaming) (ident : Ident) :
    r.Agree r' [.column ident] ↔ r.column ident = r'.column ident :=
  List.forall_mem_singleton

theorem Renaming.agree_name (r r' : Renaming) (name : ObjectName) :
    r.Agree r' (name.map .table) ↔ name.map r.table = name.map r'.table := by
  rw [Agree, List.forall_mem_map, List.map_inj_left]
  exact Iff.rfl

theorem Renaming.agree_names (r r' : Renaming) (names : List ObjectName) :
    r.Agree r' (names.flatMap (·.map .table)) ↔
      names.map (·.map r.table) = names.map (·.map r'.table) := by
  induction names with
  | nil => exact iff_of_true (List.forall_mem_nil _) rfl
  | cons name names ih =>
      simp only [List.flatMap_cons, agree_append, agree_name, ih, List.map_cons, List.cons.injEq]

theorem Renaming.agree_compound (r r' : Renaming) (idents : List Ident) :
    r.Agree r' (compoundUses idents) ↔ r.compound idents = r'.compound idents := by
  fun_induction r.compound idents with
  | case1 => exact iff_of_true (List.forall_mem_nil _) rfl
  | case2 column => simp only [compoundUses, agree_column, compound, List.cons.injEq, and_true]
  | case3 qualifier part parts ih =>
      simp only [compoundUses, compound, List.cons.injEq, ← ih]
      exact List.forall_mem_cons

mutual

theorem Expr.rename_eq_iff (r r' : Renaming) (e : Expr) :
    e.rename r = e.rename r' ↔ r.Agree r' e.uses := by
  cases e with
  | identifier ident => simp only [Expr.rename, Expr.uses, Expr.identifier.injEq,
      Renaming.agree_column]
  | compoundIdentifier idents =>
      simp only [Expr.rename, Expr.uses, Expr.compoundIdentifier.injEq, Renaming.agree_compound]
  | qualifiedWildcard name => simp only [Expr.rename, Expr.uses, Renaming.agree_nil]
  | matchAgainst columns => simp only [Expr.rename, Expr.uses, Renaming.agree_nil]
  | other symbol operands queries =>
      simp only [Expr.rename, Expr.uses, Expr.other.injEq, true_and, Renaming.agree_append,
        Expr.renameList_eq_iff r r' operands, Query.renameList_eq_iff r r' queries]

theorem Expr.renameList_eq_iff (r r' : Renaming) (es : List Expr) :
    Expr.renameList r es = Expr.renameList r' es ↔ r.Agree r' (Expr.usesList es) := by
  cases es with
  | nil => exact iff_of_true rfl (List.forall_mem_nil _)
  | cons e es =>
      simp only [Expr.renameList, Expr.usesList, List.cons.injEq, Renaming.agree_append,
        e.rename_eq_iff r r', Expr.renameList_eq_iff r r' es]

theorem Query.rename_eq_iff (r r' : Renaming) (q : Query) :
    q.rename r = q.rename r' ↔ r.Agree r' q.uses := by
  cases q with
  | mk recursive ctes body orderBy limit pipeOperators =>
      simp only [Query.rename, Query.uses, Query.mk.injEq, true_and, Renaming.agree_append,
        and_assoc, Cte.renameList_eq_iff r r' ctes, body.rename_eq_iff r r',
        Expr.renameList_eq_iff r r' orderBy, Expr.renameList_eq_iff r r' limit,
        PipeOperator.renameList_eq_iff r r' pipeOperators]

theorem Query.renameList_eq_iff (r r' : Renaming) (qs : List Query) :
    Query.renameList r qs = Query.renameList r' qs ↔ r.Agree r' (Query.usesList qs) := by
  cases qs with
  | nil => exact iff_of_true rfl (List.forall_mem_nil _)
  | cons q qs =>
      simp only [Query.renameList, Query.usesList, List.cons.injEq, Renaming.agree_append,
        q.rename_eq_iff r r', Query.renameList_eq_iff r r' qs]

theorem Cte.renameList_eq_iff (r r' : Renaming) (ctes : List Cte) :
    Cte.renameList r ctes = Cte.renameList r' ctes ↔ r.Agree r' (Cte.usesList ctes) := by
  cases ctes with
  | nil => exact iff_of_true rfl (List.forall_mem_nil _)
  | cons cte ctes =>
      cases cte with
      | mk tableAlias query =>
          simp only [Cte.renameList, Cte.rename, Cte.usesList, Cte.uses, List.cons.injEq,
            Renaming.agree_append, Cte.mk.injEq, true_and, query.rename_eq_iff r r',
            Cte.renameList_eq_iff r r' ctes]

theorem SetExpr.rename_eq_iff (r r' : Renaming) (body : SetExpr) :
    body.rename r = body.rename r' ↔ r.Agree r' body.uses := by
  cases body with
  | select flavor distinct projection sources selection clauses =>
      simp only [SetExpr.rename, SetExpr.uses, SetExpr.select.injEq, true_and,
        Renaming.agree_append, and_assoc, Expr.renameList_eq_iff r r' distinct,
        SelectItem.renameList_eq_iff r r' projection, TableWithJoins.renameList_eq_iff r r' sources,
        Expr.renameList_eq_iff r r' selection, Expr.renameList_eq_iff r r' clauses]
  | query query =>
      simp only [SetExpr.rename, SetExpr.uses, SetExpr.query.injEq, query.rename_eq_iff r r']
  | setOperation operator left right =>
      simp only [SetExpr.rename, SetExpr.uses, SetExpr.setOperation.injEq, true_and,
        Renaming.agree_append, left.rename_eq_iff r r', right.rename_eq_iff r r']
  | values rows =>
      simp only [SetExpr.rename, SetExpr.uses, SetExpr.values.injEq,
        Expr.renameList_eq_iff r r' rows]
  | table name => simp only [SetExpr.rename, SetExpr.uses, Renaming.agree_nil]
  | dml keyword targets sources queries exprs =>
      simp only [SetExpr.rename, SetExpr.uses, SetExpr.dml.injEq, true_and, Renaming.agree_append,
        and_assoc, Renaming.agree_names, TableWithJoins.renameList_eq_iff r r' sources,
        Query.renameList_eq_iff r r' queries, Expr.renameList_eq_iff r r' exprs]

theorem SelectItem.renameList_eq_iff (r r' : Renaming) (items : List SelectItem) :
    SelectItem.renameList r items = SelectItem.renameList r' items ↔
      r.Agree r' (SelectItem.usesList items) := by
  cases items with
  | nil => exact iff_of_true rfl (List.forall_mem_nil _)
  | cons item items =>
      cases item with
      | expr value outputAlias =>
          simp only [SelectItem.renameList, SelectItem.rename, SelectItem.usesList, SelectItem.uses,
            List.cons.injEq, Renaming.agree_append, SelectItem.expr.injEq, and_true,
            value.rename_eq_iff r r', SelectItem.renameList_eq_iff r r' items]
      | wildcard columns exprs =>
          simp only [SelectItem.renameList, SelectItem.rename, SelectItem.usesList, SelectItem.uses,
            List.cons.injEq, Renaming.agree_append, SelectItem.wildcard.injEq, true_and,
            Expr.renameList_eq_iff r r' exprs, SelectItem.renameList_eq_iff r r' items]
      | qualifiedWildcard name columns exprs =>
          simp only [SelectItem.renameList, SelectItem.rename, SelectItem.usesList, SelectItem.uses,
            List.cons.injEq, Renaming.agree_append, SelectItem.qualifiedWildcard.injEq, true_and,
            Expr.renameList_eq_iff r r' exprs, SelectItem.renameList_eq_iff r r' items]

theorem TableWithJoins.rename_eq_iff (r r' : Renaming) (tables : TableWithJoins) :
    tables.rename r = tables.rename r' ↔ r.Agree r' tables.uses := by
  cases tables with
  | mk relation joins =>
      simp only [TableWithJoins.rename, TableWithJoins.uses, TableWithJoins.mk.injEq,
        Renaming.agree_append, relation.rename_eq_iff r r', Join.renameList_eq_iff r r' joins]

theorem TableWithJoins.renameList_eq_iff (r r' : Renaming) (sources : List TableWithJoins) :
    TableWithJoins.renameList r sources = TableWithJoins.renameList r' sources ↔
      r.Agree r' (TableWithJoins.usesList sources) := by
  cases sources with
  | nil => exact iff_of_true rfl (List.forall_mem_nil _)
  | cons tables sources =>
      simp only [TableWithJoins.renameList, TableWithJoins.usesList, List.cons.injEq,
        Renaming.agree_append, tables.rename_eq_iff r r',
        TableWithJoins.renameList_eq_iff r r' sources]

theorem Join.rename_eq_iff (r r' : Renaming) (join : Join) :
    join.rename r = join.rename r' ↔ r.Agree r' join.uses := by
  cases join with
  | mk operator relation constraint conditions =>
      simp only [Join.rename, Join.uses, Join.mk.injEq, true_and, Renaming.agree_append,
        relation.rename_eq_iff r r', Expr.renameList_eq_iff r r' conditions]

theorem Join.renameList_eq_iff (r r' : Renaming) (joins : List Join) :
    Join.renameList r joins = Join.renameList r' joins ↔ r.Agree r' (Join.usesList joins) := by
  cases joins with
  | nil => exact iff_of_true rfl (List.forall_mem_nil _)
  | cons join joins =>
      simp only [Join.renameList, Join.usesList, List.cons.injEq, Renaming.agree_append,
        join.rename_eq_iff r r', Join.renameList_eq_iff r r' joins]

theorem TableFactor.rename_eq_iff (r r' : Renaming) (factor : TableFactor) :
    factor.rename r = factor.rename r' ↔ r.Agree r' factor.uses := by
  cases factor with
  | table name tableAlias call exprs =>
      simp only [TableFactor.rename, TableFactor.uses, TableFactor.table.injEq, true_and,
        Renaming.agree_append, Renaming.agree_name, Expr.renameList_eq_iff r r' exprs]
  | derived lateral subquery tableAlias =>
      simp only [TableFactor.rename, TableFactor.uses, TableFactor.derived.injEq, true_and,
        and_true, subquery.rename_eq_iff r r']
  | tabular keyword exprs tableAlias =>
      simp only [TableFactor.rename, TableFactor.uses, TableFactor.tabular.injEq, true_and,
        and_true, Expr.renameList_eq_iff r r' exprs]
  | nestedJoin tables tableAlias =>
      simp only [TableFactor.rename, TableFactor.uses, TableFactor.nestedJoin.injEq, and_true,
        tables.rename_eq_iff r r']
  | reshape keyword table columns exprs queries tableAlias =>
      simp only [TableFactor.rename, TableFactor.uses, TableFactor.reshape.injEq, true_and,
        Renaming.agree_append, and_assoc, and_true, table.rename_eq_iff r r',
        Expr.renameList_eq_iff r r' exprs, Query.renameList_eq_iff r r' queries]

theorem PipeOperator.renameList_eq_iff (r r' : Renaming) (operators : List PipeOperator) :
    PipeOperator.renameList r operators = PipeOperator.renameList r' operators ↔
      r.Agree r' (PipeOperator.usesList operators) := by
  cases operators with
  | nil => exact iff_of_true rfl (List.forall_mem_nil _)
  | cons operator operators =>
      cases operator with
      | exprs keyword names exprs =>
          simp only [PipeOperator.renameList, PipeOperator.rename, PipeOperator.usesList,
            PipeOperator.uses, List.cons.injEq, Renaming.agree_append, PipeOperator.exprs.injEq,
            true_and, Expr.renameList_eq_iff r r' exprs,
            PipeOperator.renameList_eq_iff r r' operators]
      | items keyword items =>
          simp only [PipeOperator.renameList, PipeOperator.rename, PipeOperator.usesList,
            PipeOperator.uses, List.cons.injEq, Renaming.agree_append, PipeOperator.items.injEq,
            true_and, SelectItem.renameList_eq_iff r r' items,
            PipeOperator.renameList_eq_iff r r' operators]
      | queries keyword queries =>
          simp only [PipeOperator.renameList, PipeOperator.rename, PipeOperator.usesList,
            PipeOperator.uses, List.cons.injEq, Renaming.agree_append, PipeOperator.queries.injEq,
            true_and, Query.renameList_eq_iff r r' queries,
            PipeOperator.renameList_eq_iff r r' operators]
      | join join =>
          simp only [PipeOperator.renameList, PipeOperator.rename, PipeOperator.usesList,
            PipeOperator.uses, List.cons.injEq, Renaming.agree_append, PipeOperator.join.injEq,
            join.rename_eq_iff r r', PipeOperator.renameList_eq_iff r r' operators]

end

theorem Statement.rename_eq_iff (r r' : Renaming) (stmt : Statement) :
    stmt.rename r = stmt.rename r' ↔ r.Agree r' stmt.uses := by
  cases stmt with
  | query body => simp only [rename, uses, Statement.query.injEq, body.rename_eq_iff r r']
  | explainTable describeAlias name =>
      simp only [rename, uses, Statement.explainTable.injEq, true_and, Renaming.agree_name]
  | other keyword => exact iff_of_true rfl (List.forall_mem_nil _)

end Datapress.Sql.Spelled
