import Mathlib.Data.List.AList
import Datapress.Library.Questions
import Datapress.Schema
import Datapress.Sql.Spelled

/-!
How an engine looks up the names of a statement.

A reference is looked up among candidates, which are the tables or columns that are in scope where
it stands; the answer says which of them it names. The rules by which a statement is searched see
names in no other way, and so they do not notice when its references are renamed.
-/

namespace Datapress.Sql.Spelled

open Interleaving

/-- How a table or column is spelled where it is declared. -/
inductive Spelling where
  /-- An alias, a common table expression, or a name that no callback reaches. -/
  | declared (ident : Ident)
  /-- A dataset or a column of it. -/
  | stored (name : String)
  deriving DecidableEq, Repr

/-- A part of a reference. -/
inductive Name where
  | used (use : Use)
  | fixed (spelling : Spelling)
  deriving DecidableEq, Repr

/-- A column with its qualifiers; a computed column without an alias has no name. -/
abbrev Column := List Spelling

structure Lookup where
  reference : List Name
  candidates : List Column
  deriving DecidableEq, Repr

abbrev Search (ρ : Type) := Prog (fun _ : Lookup => List Bool) ρ

/-- The loaded datasets, in the order in which the registry map holds them. -/
abbrev Snapshot := AList fun _ : String => DatasetSchema

def ask (reference : List Name) (candidates : List Column) : Search (List Bool) :=
  Prog.perform ⟨reference, candidates⟩

def pick {α : Type} (found : List Bool) (candidates : List α) : List α :=
  (candidates.zip found).filterMap fun (candidate, named) => if named then some candidate else none

/-- The nearest column a reference names. -/
def findColumn (reference : List Name) : List (List Column) → Search Column
  | [] => pure []
  | scope :: outer => do
      match pick (← ask reference scope) scope with
      | column :: _ => pure column
      | [] => findColumn reference outer

/-- The names of tables in scope, with the columns of each. -/
abbrev Tables := List (Ident × List Column)

def requalify (qualifier : Spelling) (column : Column) : Column :=
  (column.getLast?.map fun name => [qualifier, name]).getD []

/-- A common table expression, or else a dataset. -/
def findTable (snap : Snapshot) (tables : Tables) (reference : List Name) :
    Search (List Column) := do
  match pick (← ask reference (tables.map fun (name, _) => [.declared name])) tables with
  | (name, columns) :: _ => pure (columns.map (requalify (.declared name)))
  | [] =>
      let datasets := snap.entries.map fun ⟨name, _⟩ =>
        [.stored "datafusion", .stored "public", .stored name]
      match pick (← ask reference datasets) snap.entries with
      | ⟨name, schema⟩ :: _ =>
          pure (schema.columns.map fun column => [.stored name, .stored column.name])
      | [] => pure []

/-- Looks up names that no callback reaches. -/
def askEach (scope : List Column) : List ObjectName → Search Unit
  | [] => pure ()
  | name :: names => do
      let _ ← ask (name.map fun ident => .fixed (.declared ident)) scope
      askEach scope names

/-- Every column to the left is looked up to the right. -/
def askNatural (right : List Column) : List Column → Search Unit
  | [] => pure ()
  | column :: left => do
      let _ ← ask (column.getLast?.toList.map .fixed) right
      askNatural right left

def JoinConstraint.search (left right : List Column) : JoinConstraint → Search Unit
  | .conditions => pure ()
  | .usingColumns columns => do
      askEach left columns
      askEach right columns
  | .natural => askNatural right left

/-- The sides of a join that stay in scope. -/
def joined (operator : String) (left right : List Column) : List Column :=
  if operator ∈ ["SEMI JOIN", "ANTI JOIN", "LEFT SEMI JOIN", "LEFT ANTI JOIN"] then left
  else if operator ∈ ["RIGHT SEMI JOIN", "RIGHT ANTI JOIN"] then right
  else left ++ right

/-- An alias renames the first columns; an engine makes the columns of a table function, whose
names are known by the alias only. -/
def TableAlias.rename (tableAlias : TableAlias) (columns : List Column) : List Column :=
  tableAlias.columns.map (fun column => [.declared tableAlias.name, .declared column]) ++
    (columns.drop tableAlias.columns.length).map (requalify (.declared tableAlias.name))

def withAlias (tableAlias : Option TableAlias) (columns : List Column) : List Column :=
  match tableAlias with
  | some tableAlias => tableAlias.rename columns
  | none => columns

/-- The columns a wildcard leaves. -/
def wildcardColumns (columns : WildcardColumns) (scope : List Column) : Search (List Column) := do
  askEach scope (columns.replaced.map fun ident => [ident])
  excluding scope columns.excluded
where
  excluding (left : List Column) : List Ident → Search (List Column)
    | [] => pure left
    | ident :: idents => do
        let found ← ask [.fixed (.declared ident)] left
        excluding (pick (found.map (!·)) left) idents

/-- The columns of a table that a qualified wildcard names. -/
def qualifiedColumns (name : ObjectName) (scope : List Column) : Search (List Column) := do
  let found ← ask (name.map fun ident => .fixed (.declared ident)) (scope.map List.dropLast)
  pure (pick found scope)

/-- `|> AS t` gives the table a name. -/
def pipedAlias (keyword : String) (names : List Ident) (columns : List Column) : List Column :=
  match keyword, names with
  | "AS", [name] => columns.map (requalify (.declared name))
  | _, _ => columns

section
variable (snap : Snapshot)

/-- The tables that a statement changes. -/
def searchTargets (tables : Tables) : List ObjectName → Search (List Column)
  | [] => pure []
  | name :: names => do
      let columns ← findTable snap tables (name.map fun ident => .used (.table ident))
      let others ← searchTargets tables names
      pure (columns ++ others)

mutual

/-- The column of a bare reference. -/
def Expr.search (tables : Tables) (scopes : List (List Column)) : Expr → Search Column
  | .identifier ident => findColumn [.used (.column ident)] scopes
  | .compoundIdentifier idents => findColumn ((compoundUses idents).map .used) scopes
  | .qualifiedWildcard name => do
      let _ ← qualifiedColumns name (scopes.headD [])
      pure []
  | .matchAgainst columns => do
      askEach (scopes.headD []) columns
      pure []
  | .other _ operands queries => do
      let _ ← Expr.searchList tables scopes operands
      let _ ← Query.searchList tables scopes queries
      pure []

def Expr.searchList (tables : Tables) (scopes : List (List Column)) : List Expr → Search Unit
  | [] => pure ()
  | expr :: exprs => do
      let _ ← expr.search tables scopes
      Expr.searchList tables scopes exprs

/-- The columns of a query. The query of a recursive common table expression is given its alias. -/
def Query.search (self : Option TableAlias) (tables : Tables) (scopes : List (List Column)) :
    Query → Search (List Column)
  | .mk recursive ctes body orderBy limit pipeOperators => do
      let inner ← Cte.searchList recursive tables scopes ctes
      let (outputs, source) ← body.search self inner scopes
      let _ ← Expr.searchList inner (outputs :: source :: scopes) orderBy
      let _ ← Expr.searchList inner scopes limit
      PipeOperator.searchList inner scopes outputs pipeOperators

def Query.searchList (tables : Tables) (scopes : List (List Column)) :
    List Query → Search Unit
  | [] => pure ()
  | query :: queries => do
      let _ ← query.search none tables scopes
      Query.searchList tables scopes queries

def Cte.search (recursive : Bool) (tables : Tables) (scopes : List (List Column)) :
    Cte → Search (Ident × List Column)
  | .mk tableAlias query => do
      let columns ← query.search (if recursive then some tableAlias else none) tables scopes
      pure (tableAlias.name, tableAlias.rename columns)

/-- The tables in scope after a `WITH` clause. -/
def Cte.searchList (recursive : Bool) (tables : Tables) (scopes : List (List Column)) :
    List Cte → Search Tables
  | [] => pure tables
  | cte :: ctes => do
      let table ← cte.search recursive tables scopes
      Cte.searchList recursive (table :: tables) scopes ctes

/-- The columns of the body, and those that its sort keys may name besides. The second side of a
recursive query sees the columns of the first. -/
def SetExpr.search (self : Option TableAlias) (tables : Tables) (scopes : List (List Column)) :
    SetExpr → Search (List Column × List Column)
  | .select flavor distinct projection sources selection clauses => do
      let source ← TableWithJoins.searchList tables scopes [] sources
      let _ ← Expr.searchList tables (source :: scopes) distinct
      let items ← SelectItem.searchList tables (source :: scopes) projection
      let outputs := if flavor = .fromFirstNoSelect then source else items
      let _ ← Expr.searchList tables (source :: scopes) selection
      let _ ← Expr.searchList tables (source :: outputs :: scopes) clauses
      pure (outputs, source)
  | .query query => do
      let outputs ← query.search self tables scopes
      pure (outputs, [])
  | .setOperation _ left right => do
      let (outputs, _) ← left.search none tables scopes
      let inner := (self.map fun tableAlias => (tableAlias.name, tableAlias.rename outputs)).toList
      let _ ← right.search none (inner ++ tables) scopes
      pure (outputs, [])
  | .values rows => do
      let _ ← Expr.searchList tables scopes rows
      pure ([], [])
  | .table name => do
      let columns ← findTable snap tables (name.map fun ident => .fixed (.declared ident))
      pure (columns, [])
  | .dml _ targets sources queries exprs => do
      let start ← searchTargets snap tables targets
      let source ← TableWithJoins.searchList tables scopes start sources
      let _ ← Query.searchList tables scopes queries
      let _ ← Expr.searchList tables (source :: scopes) exprs
      pure ([], [])

def SelectItem.search (tables : Tables) (scopes : List (List Column)) :
    SelectItem → Search (List Column)
  | .expr value outputAlias => do
      let column ← value.search tables scopes
      pure [(outputAlias.map fun ident => [.declared ident]).getD column]
  | .wildcard columns exprs => do
      let _ ← Expr.searchList tables scopes exprs
      wildcardColumns columns (scopes.headD [])
  | .qualifiedWildcard name columns exprs => do
      let _ ← Expr.searchList tables scopes exprs
      let named ← qualifiedColumns name (scopes.headD [])
      wildcardColumns columns named

def SelectItem.searchList (tables : Tables) (scopes : List (List Column)) :
    List SelectItem → Search (List Column)
  | [] => pure []
  | item :: items => do
      let columns ← item.search tables scopes
      let others ← SelectItem.searchList tables scopes items
      pure (columns ++ others)

/-- A lateral source may refer to what is to the left. -/
def TableWithJoins.search (tables : Tables) (scopes : List (List Column)) (outer : List Column) :
    TableWithJoins → Search (List Column)
  | .mk relation joins => do
      let left ← relation.search tables scopes outer
      Join.searchList tables scopes outer left joins

def TableWithJoins.searchList (tables : Tables) (scopes : List (List Column))
    (left : List Column) : List TableWithJoins → Search (List Column)
  | [] => pure left
  | source :: sources => do
      let columns ← source.search tables scopes left
      TableWithJoins.searchList tables scopes (left ++ columns) sources

def Join.search (tables : Tables) (scopes : List (List Column)) (outer left : List Column) :
    Join → Search (List Column)
  | .mk operator relation constraint conditions => do
      let right ← relation.search tables scopes (outer ++ left)
      constraint.search left right
      let _ ← Expr.searchList tables ((outer ++ left ++ right) :: scopes) conditions
      pure (joined operator left right)

def Join.searchList (tables : Tables) (scopes : List (List Column)) (outer left : List Column) :
    List Join → Search (List Column)
  | [] => pure left
  | join :: joins => do
      let columns ← join.search tables scopes outer left
      Join.searchList tables scopes outer columns joins

def TableFactor.search (tables : Tables) (scopes : List (List Column)) (left : List Column) :
    TableFactor → Search (List Column)
  | .table name tableAlias call exprs => do
      let _ ← Expr.searchList tables (left :: scopes) exprs
      if call then pure (withAlias tableAlias [])
      else
        let columns ← findTable snap tables (name.map fun ident => .used (.table ident))
        pure (withAlias tableAlias columns)
  | .derived lateral subquery tableAlias => do
      let columns ← subquery.search none tables (if lateral then left :: scopes else scopes)
      pure (withAlias tableAlias columns)
  | .tabular _ exprs tableAlias => do
      let _ ← Expr.searchList tables (left :: scopes) exprs
      pure (withAlias tableAlias [])
  | .nestedJoin inner tableAlias => do
      let columns ← inner.search tables scopes left
      pure (withAlias tableAlias columns)
  | .reshape _ table columns exprs queries tableAlias => do
      let source ← table.search tables scopes left
      askEach source (columns.map fun ident => [ident])
      let _ ← Expr.searchList tables (source :: left :: scopes) exprs
      let _ ← Query.searchList tables (left :: scopes) queries
      pure (withAlias tableAlias source)

def PipeOperator.search (tables : Tables) (scopes : List (List Column)) (columns : List Column) :
    PipeOperator → Search (List Column)
  | .exprs keyword names exprs => do
      let _ ← Expr.searchList tables (columns :: scopes) exprs
      pure (pipedAlias keyword names columns)
  | .items keyword items => do
      let outputs ← SelectItem.searchList tables (columns :: scopes) items
      pure (if keyword = "SELECT" then outputs else columns ++ outputs)
  | .queries _ queries => do
      let _ ← Query.searchList tables scopes queries
      pure columns
  | .join join => join.search tables scopes [] columns

def PipeOperator.searchList (tables : Tables) (scopes : List (List Column))
    (columns : List Column) : List PipeOperator → Search (List Column)
  | [] => pure columns
  | operator :: operators => do
      let outputs ← operator.search tables scopes columns
      PipeOperator.searchList tables scopes outputs operators

end

def Statement.search : Statement → Search Unit
  | .query body => do
      let _ ← body.search snap none [] []
      pure ()
  | .explainTable _ name => do
      let _ ← findTable snap [] (name.map fun ident => .used (.table ident))
      pure ()
  | .other _ => pure ()

end

/-! ### Renaming what is looked up -/

def Use.rename (r : Renaming) : Use → Use
  | .column ident => .column (r.column ident)
  | .table ident => .table (r.table ident)

def Name.rename (r : Renaming) : Name → Name
  | .used use => .used (use.rename r)
  | .fixed spelling => .fixed spelling

def Lookup.rename (r : Renaming) (lookup : Lookup) : Lookup :=
  { lookup with reference := lookup.reference.map (Name.rename r) }

section
variable (r : Renaming)

theorem compoundUses_rename (idents : List Ident) :
    compoundUses (r.compound idents) = (compoundUses idents).map (Use.rename r) := by
  fun_induction r.compound idents with
  | case1 => rfl
  | case2 column => rfl
  | case3 qualifier part parts ih =>
      cases parts <;> simp_all only [Renaming.compound, compoundUses, Use.rename, List.map_cons]

theorem ask_rename (reference : List Name) (candidates : List Column) :
    (ask reference candidates).rephrase (Lookup.rename r) =
      ask (reference.map (Name.rename r)) candidates := rfl

theorem ask_fixed (spellings : List Spelling) (candidates : List Column) :
    (ask (spellings.map .fixed) candidates).rephrase (Lookup.rename r) =
      ask (spellings.map .fixed) candidates := by
  rw [ask_rename, List.map_map]
  rfl

theorem ask_name (name : ObjectName) (candidates : List Column) :
    (ask (name.map fun ident => .fixed (.declared ident)) candidates).rephrase (Lookup.rename r) =
      ask (name.map fun ident => .fixed (.declared ident)) candidates := by
  rw [ask_rename, List.map_map]
  rfl

theorem findColumn_rename (reference : List Name) (scopes : List (List Column)) :
    (findColumn reference scopes).rephrase (Lookup.rename r) =
      findColumn (reference.map (Name.rename r)) scopes := by
  induction scopes with
  | nil => rfl
  | cons scope outer ih =>
      simp only [findColumn, Prog.rephrase_bind, ask_rename]
      congr 1
      funext found
      cases pick found scope with
      | nil => exact ih
      | cons column columns => rfl

theorem findTable_rename (snap : Snapshot) (tables : Tables) (reference : List Name) :
    (findTable snap tables reference).rephrase (Lookup.rename r) =
      findTable snap tables (reference.map (Name.rename r)) := by
  simp only [findTable, Prog.rephrase_bind, ask_rename]
  congr 1
  funext found
  cases pick found tables with
  | cons table others => rfl
  | nil =>
      simp only [Prog.rephrase_bind, ask_rename]
      congr 1
      funext found
      cases pick found snap.entries <;> rfl

@[simp] theorem askEach_rename (scope : List Column) (names : List ObjectName) :
    (askEach scope names).rephrase (Lookup.rename r) = askEach scope names := by
  induction names with
  | nil => rfl
  | cons name names ih => simp only [askEach, Prog.rephrase_bind, ask_name, ih]

@[simp] theorem askNatural_rename (left right : List Column) :
    (askNatural right left).rephrase (Lookup.rename r) = askNatural right left := by
  induction left with
  | nil => rfl
  | cons column left ih => simp only [askNatural, Prog.rephrase_bind, ask_fixed, ih]

@[simp] theorem JoinConstraint.search_rename (left right : List Column)
    (constraint : JoinConstraint) :
    (constraint.search left right).rephrase (Lookup.rename r) = constraint.search left right := by
  cases constraint with
  | conditions => rfl
  | usingColumns columns => simp only [search, Prog.rephrase_bind, askEach_rename]
  | natural => exact askNatural_rename r left right

theorem wildcardColumns.excluding_rename (left : List Column) (idents : List Ident) :
    (excluding left idents).rephrase (Lookup.rename r) = excluding left idents := by
  induction idents generalizing left with
  | nil => rfl
  | cons ident idents ih =>
      simp only [excluding, Prog.rephrase_bind, ih]
      rfl

@[simp] theorem wildcardColumns_rename (columns : WildcardColumns) (scope : List Column) :
    (wildcardColumns columns scope).rephrase (Lookup.rename r) = wildcardColumns columns scope := by
  simp only [wildcardColumns, Prog.rephrase_bind, askEach_rename,
    wildcardColumns.excluding_rename]

@[simp] theorem qualifiedColumns_rename (name : ObjectName) (scope : List Column) :
    (qualifiedColumns name scope).rephrase (Lookup.rename r) = qualifiedColumns name scope := by
  simp only [qualifiedColumns, Prog.rephrase_bind, ask_name, Prog.rephrase_pure]

theorem findTable_fixed (snap : Snapshot) (tables : Tables) (name : ObjectName) :
    (findTable snap tables (name.map fun ident => .fixed (.declared ident))).rephrase
        (Lookup.rename r) =
      findTable snap tables (name.map fun ident => .fixed (.declared ident)) := by
  rw [findTable_rename, List.map_map]
  rfl

theorem findTable_used (snap : Snapshot) (tables : Tables) (name : ObjectName) :
    (findTable snap tables (name.map fun ident => .used (.table ident))).rephrase
        (Lookup.rename r) =
      findTable snap tables ((name.map r.table).map fun ident => .used (.table ident)) := by
  rw [findTable_rename, List.map_map, List.map_map]
  rfl

variable (snap : Snapshot)

theorem searchTargets_rename (tables : Tables) (names : List ObjectName) :
    searchTargets snap tables (names.map (·.map r.table)) =
      (searchTargets snap tables names).rephrase (Lookup.rename r) := by
  induction names with
  | nil => rfl
  | cons name names ih =>
      simp only [List.map_cons, searchTargets, Prog.rephrase_bind, Prog.rephrase_pure,
        findTable_used, ih]

mutual

theorem Expr.search_rename (e : Expr) (tables : Tables) (scopes : List (List Column)) :
    (e.rename r).search snap tables scopes =
      (e.search snap tables scopes).rephrase (Lookup.rename r) := by
  cases e with
  | identifier ident =>
      simp only [Expr.rename, Expr.search, findColumn_rename]
      rfl
  | compoundIdentifier idents =>
      simp only [Expr.rename, Expr.search, findColumn_rename, compoundUses_rename, List.map_map]
      rfl
  | qualifiedWildcard name =>
      simp only [Expr.rename, Expr.search, Prog.rephrase_bind, qualifiedColumns_rename,
        Prog.rephrase_pure]
  | matchAgainst columns =>
      simp only [Expr.rename, Expr.search, Prog.rephrase_bind, askEach_rename, Prog.rephrase_pure]
  | other symbol operands queries =>
      simp only [Expr.rename, Expr.search, Prog.rephrase_bind, Prog.rephrase_pure,
        Expr.searchList_rename operands, Query.searchList_rename queries]

theorem Expr.searchList_rename (es : List Expr) (tables : Tables)
    (scopes : List (List Column)) :
    Expr.searchList snap tables scopes (Expr.renameList r es) =
      (Expr.searchList snap tables scopes es).rephrase (Lookup.rename r) := by
  cases es with
  | nil => rfl
  | cons e es =>
      simp only [Expr.renameList, Expr.searchList, Prog.rephrase_bind, e.search_rename,
        Expr.searchList_rename es]

theorem Query.search_rename (q : Query) (self : Option TableAlias) (tables : Tables)
    (scopes : List (List Column)) :
    (q.rename r).search snap self tables scopes =
      (q.search snap self tables scopes).rephrase (Lookup.rename r) := by
  cases q with
  | mk recursive ctes body orderBy limit pipeOperators =>
      simp only [Query.rename, Query.search, Prog.rephrase_bind, Cte.searchList_rename ctes,
        body.search_rename, Expr.searchList_rename orderBy, Expr.searchList_rename limit,
        PipeOperator.searchList_rename pipeOperators]

theorem Query.searchList_rename (qs : List Query) (tables : Tables)
    (scopes : List (List Column)) :
    Query.searchList snap tables scopes (Query.renameList r qs) =
      (Query.searchList snap tables scopes qs).rephrase (Lookup.rename r) := by
  cases qs with
  | nil => rfl
  | cons q qs =>
      simp only [Query.renameList, Query.searchList, Prog.rephrase_bind, q.search_rename,
        Query.searchList_rename qs]

theorem Cte.searchList_rename (ctes : List Cte) (recursive : Bool) (tables : Tables)
    (scopes : List (List Column)) :
    Cte.searchList snap recursive tables scopes (Cte.renameList r ctes) =
      (Cte.searchList snap recursive tables scopes ctes).rephrase (Lookup.rename r) := by
  cases ctes with
  | nil => rfl
  | cons cte ctes =>
      cases cte with
      | mk tableAlias query =>
          simp only [Cte.renameList, Cte.rename, Cte.searchList, Cte.search, Prog.rephrase_bind,
            Prog.rephrase_pure, query.search_rename, Cte.searchList_rename ctes]

theorem SetExpr.search_rename (body : SetExpr) (self : Option TableAlias) (tables : Tables)
    (scopes : List (List Column)) :
    (body.rename r).search snap self tables scopes =
      (body.search snap self tables scopes).rephrase (Lookup.rename r) := by
  cases body with
  | select flavor distinct projection sources selection clauses =>
      simp only [SetExpr.rename, SetExpr.search, Prog.rephrase_bind, Prog.rephrase_pure,
        TableWithJoins.searchList_rename sources, Expr.searchList_rename distinct,
        SelectItem.searchList_rename projection, Expr.searchList_rename selection,
        Expr.searchList_rename clauses]
  | query query =>
      simp only [SetExpr.rename, SetExpr.search, Prog.rephrase_bind, Prog.rephrase_pure,
        query.search_rename]
  | setOperation operator left right =>
      simp only [SetExpr.rename, SetExpr.search, Prog.rephrase_bind, Prog.rephrase_pure,
        left.search_rename, right.search_rename]
  | values rows =>
      simp only [SetExpr.rename, SetExpr.search, Prog.rephrase_bind, Prog.rephrase_pure,
        Expr.searchList_rename rows]
  | table name =>
      simp only [SetExpr.rename, SetExpr.search, Prog.rephrase_bind, Prog.rephrase_pure,
        findTable_fixed]
  | dml keyword targets sources queries exprs =>
      simp only [SetExpr.rename, SetExpr.search, Prog.rephrase_bind, Prog.rephrase_pure,
        searchTargets_rename, TableWithJoins.searchList_rename sources,
        Query.searchList_rename queries, Expr.searchList_rename exprs]

theorem SelectItem.search_rename (item : SelectItem) (tables : Tables)
    (scopes : List (List Column)) :
    (item.rename r).search snap tables scopes =
      (item.search snap tables scopes).rephrase (Lookup.rename r) := by
  cases item with
  | expr value outputAlias =>
      simp only [SelectItem.rename, SelectItem.search, Prog.rephrase_bind, Prog.rephrase_pure,
        value.search_rename]
  | wildcard columns exprs =>
      simp only [SelectItem.rename, SelectItem.search, Prog.rephrase_bind,
        Expr.searchList_rename exprs, wildcardColumns_rename]
  | qualifiedWildcard name columns exprs =>
      simp only [SelectItem.rename, SelectItem.search, Prog.rephrase_bind,
        Expr.searchList_rename exprs, qualifiedColumns_rename, wildcardColumns_rename]

theorem SelectItem.searchList_rename (items : List SelectItem) (tables : Tables)
    (scopes : List (List Column)) :
    SelectItem.searchList snap tables scopes (SelectItem.renameList r items) =
      (SelectItem.searchList snap tables scopes items).rephrase (Lookup.rename r) := by
  cases items with
  | nil => rfl
  | cons item items =>
      simp only [SelectItem.renameList, SelectItem.searchList, Prog.rephrase_bind,
        Prog.rephrase_pure, item.search_rename, SelectItem.searchList_rename items]

theorem TableWithJoins.search_rename (source : TableWithJoins) (tables : Tables)
    (scopes : List (List Column)) (outer : List Column) :
    (source.rename r).search snap tables scopes outer =
      (source.search snap tables scopes outer).rephrase (Lookup.rename r) := by
  cases source with
  | mk relation joins =>
      simp only [TableWithJoins.rename, TableWithJoins.search, Prog.rephrase_bind,
        relation.search_rename, Join.searchList_rename joins]

theorem TableWithJoins.searchList_rename (sources : List TableWithJoins) (tables : Tables)
    (scopes : List (List Column)) (left : List Column) :
    TableWithJoins.searchList snap tables scopes left (TableWithJoins.renameList r sources) =
      (TableWithJoins.searchList snap tables scopes left sources).rephrase (Lookup.rename r) := by
  cases sources with
  | nil => rfl
  | cons source sources =>
      simp only [TableWithJoins.renameList, TableWithJoins.searchList, Prog.rephrase_bind,
        source.search_rename, TableWithJoins.searchList_rename sources]

theorem Join.search_rename (join : Join) (tables : Tables) (scopes : List (List Column))
    (outer left : List Column) :
    (join.rename r).search snap tables scopes outer left =
      (join.search snap tables scopes outer left).rephrase (Lookup.rename r) := by
  cases join with
  | mk operator relation constraint conditions =>
      simp only [Join.rename, Join.search, Prog.rephrase_bind, Prog.rephrase_pure,
        relation.search_rename, JoinConstraint.search_rename,
        Expr.searchList_rename conditions]

theorem Join.searchList_rename (joins : List Join) (tables : Tables)
    (scopes : List (List Column)) (outer left : List Column) :
    Join.searchList snap tables scopes outer left (Join.renameList r joins) =
      (Join.searchList snap tables scopes outer left joins).rephrase (Lookup.rename r) := by
  cases joins with
  | nil => rfl
  | cons join joins =>
      simp only [Join.renameList, Join.searchList, Prog.rephrase_bind, join.search_rename,
        Join.searchList_rename joins]

theorem TableFactor.search_rename (factor : TableFactor) (tables : Tables)
    (scopes : List (List Column)) (left : List Column) :
    (factor.rename r).search snap tables scopes left =
      (factor.search snap tables scopes left).rephrase (Lookup.rename r) := by
  cases factor with
  | table name tableAlias call exprs =>
      cases call <;>
        simp only [TableFactor.rename, TableFactor.search, Prog.rephrase_bind,
          Prog.rephrase_pure, Expr.searchList_rename exprs, findTable_used, Bool.false_eq_true,
          if_true, if_false]
  | derived lateral subquery tableAlias =>
      simp only [TableFactor.rename, TableFactor.search, Prog.rephrase_bind, Prog.rephrase_pure,
        subquery.search_rename]
  | tabular keyword exprs tableAlias =>
      simp only [TableFactor.rename, TableFactor.search, Prog.rephrase_bind, Prog.rephrase_pure,
        Expr.searchList_rename exprs]
  | nestedJoin inner tableAlias =>
      simp only [TableFactor.rename, TableFactor.search, Prog.rephrase_bind, Prog.rephrase_pure,
        inner.search_rename]
  | reshape keyword table columns exprs queries tableAlias =>
      simp only [TableFactor.rename, TableFactor.search, Prog.rephrase_bind, Prog.rephrase_pure,
        table.search_rename, askEach_rename, Expr.searchList_rename exprs,
        Query.searchList_rename queries]

theorem PipeOperator.search_rename (operator : PipeOperator) (tables : Tables)
    (scopes : List (List Column)) (columns : List Column) :
    (operator.rename r).search snap tables scopes columns =
      (operator.search snap tables scopes columns).rephrase (Lookup.rename r) := by
  cases operator with
  | exprs keyword names exprs =>
      simp only [PipeOperator.rename, PipeOperator.search, Prog.rephrase_bind,
        Prog.rephrase_pure, Expr.searchList_rename exprs]
  | items keyword items =>
      simp only [PipeOperator.rename, PipeOperator.search, Prog.rephrase_bind,
        Prog.rephrase_pure, SelectItem.searchList_rename items]
  | queries keyword queries =>
      simp only [PipeOperator.rename, PipeOperator.search, Prog.rephrase_bind,
        Prog.rephrase_pure, Query.searchList_rename queries]
  | join join => simp only [PipeOperator.rename, PipeOperator.search, join.search_rename]

theorem PipeOperator.searchList_rename (operators : List PipeOperator) (tables : Tables)
    (scopes : List (List Column)) (columns : List Column) :
    PipeOperator.searchList snap tables scopes columns (PipeOperator.renameList r operators) =
      (PipeOperator.searchList snap tables scopes columns operators).rephrase
        (Lookup.rename r) := by
  cases operators with
  | nil => rfl
  | cons operator operators =>
      simp only [PipeOperator.renameList, PipeOperator.searchList, Prog.rephrase_bind,
        operator.search_rename, PipeOperator.searchList_rename operators]

end

/-- Renamed references are looked up in the same way. -/
theorem Statement.search_rename (stmt : Statement) :
    (stmt.rename r).search snap = (stmt.search snap).rephrase (Lookup.rename r) := by
  cases stmt with
  | query body =>
      simp only [rename, search, Prog.rephrase_bind, Prog.rephrase_pure, body.search_rename]
  | explainTable describeAlias name =>
      simp only [rename, search, Prog.rephrase_bind, Prog.rephrase_pure, findTable_used]
  | other keyword => rfl

end

/-! ### What a reference names -/

/-- What an identifier is read as; quotes keep it as it is. -/
def Ident.normal (normalize : String → String) (ident : Ident) : String :=
  if ident.quoteStyle.isSome then ident.value else normalize ident.value

def Use.ident : Use → Ident
  | .column ident => ident
  | .table ident => ident

def Spelling.value : Spelling → String
  | .declared ident => ident.value
  | .stored name => name

def Spelling.normal (normalize : String → String) : Spelling → String
  | .declared ident => ident.normal normalize
  | .stored name => name

def Name.value : Name → String
  | .used use => use.ident.value
  | .fixed spelling => spelling.value

def Name.normal (normalize : String → String) : Name → String
  | .used use => use.ident.normal normalize
  | .fixed spelling => spelling.normal normalize

/-- A reference may leave out the first qualifiers of what it names. -/
def Lookup.answer (key : Name → String) (lookup : Lookup) : List Bool :=
  lookup.candidates.map fun candidate =>
    (lookup.reference.map key).isSuffixOf ((candidate.map .fixed).map key)

variable [ToLowercase]

/-- The name regardless of case. -/
def Name.folded (name : Name) : String := toLowercase name.value

/-- What a rewriting relies on in the engine that gets the statement. -/
structure Resolver where
  /-- What an unquoted identifier is read as. -/
  normalize : String → String
  /-- Only the case changes. -/
  folds : ∀ text, toLowercase (normalize text) = toLowercase text
  search : Snapshot → Statement → Search Unit
  natural : ∀ (snap : Snapshot) (r : Renaming) (stmt : Statement),
    search snap (stmt.rename r) = (search snap stmt).rephrase (Lookup.rename r)

/-- The resolver that searches a statement by the rules above. -/
def Resolver.standard : Resolver where
  normalize := toLowercase
  folds := ToLowercase.idempotent
  search snap stmt := stmt.search snap
  natural snap r stmt := stmt.search_rename r snap

namespace Resolver
variable (resolver : Resolver) (snap : Snapshot) (stmt : Statement)

/-- What the engine finds for each lookup. -/
def answers : List (List Bool) :=
  (resolver.search snap stmt).answers (Lookup.answer (Name.normal resolver.normalize))

/-- What the statement means regardless of case. -/
def foldedAnswers : List (List Bool) :=
  (resolver.search snap stmt).answers (Lookup.answer Name.folded)

/-- The lookups of a statement that is read regardless of case. -/
def foldedLookups : List Lookup :=
  (resolver.search snap stmt).asked (Lookup.answer Name.folded)

end Resolver

end Datapress.Sql.Spelled
