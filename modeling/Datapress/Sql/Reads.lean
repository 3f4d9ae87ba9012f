import Datapress.Sql.Gate

/-!
What a statement reads and calls, by the scoping of the language, and which of it the gate leaves
unchecked.
-/

namespace Datapress.Sql

variable [ToLowercase]

/-- A table read: its name, and the common table expressions in scope where it stands. -/
structure Read where
  scope : List String
  name : ObjectName
deriving DecidableEq

/-- Only a name of one part can refer to a common table expression. -/
def Read.inScope (read : Read) : Bool :=
  match read.name with
  | [name] => (read.scope.map toLowercase).contains (toLowercase name)
  | _ => false

/-- The table part of a name, up to case, is one of these datasets; a qualifier only says in which
catalog or schema to look for it. -/
def Read.ofDataset (datasets : List String) (read : Read) : Bool :=
  datasets.any fun dataset => toLowercase dataset == read.name.last

/-- What the allowlist promises of a read. -/
def Read.permitted (allowed : List String) (read : Read) : Bool :=
  read.inScope || read.ofDataset allowed

def Position.read : Position → Option Read
  | .relation scope name false => some ⟨scope, name⟩
  | .tableCommand scope name => some ⟨scope, name⟩
  | _ => none

/-- The tables a statement reads: in `FROM` and `JOIN` at any depth, in `TABLE` commands, in the
`FROM` of a `WITH` clause, and as the target of `DESCRIBE`. -/
def Statement.reads (stmt : Statement) : List Read :=
  stmt.positions.filterMap Position.read

/-- The tables a statement reads that are no common table expressions, lowercased. -/
def Statement.baseTables (stmt : Statement) : List String :=
  (stmt.reads.filter (!·.inScope)).map (·.name.last)

/-- The tables that a text reads. -/
def baseTables (parse : Parser) (sql : String) : List String :=
  match parse (clean sql) with
  | .ok [stmt] => stmt.baseTables
  | _ => []

def Position.called : Position → Option ObjectName
  | .expr (.function name _ _) => some name
  | .relation _ name true => some name
  | .call name => some name
  | _ => none

/-- The functions a statement calls, in expressions and in table position. -/
def Statement.calls (stmt : Statement) : List ObjectName :=
  stmt.positions.filterMap Position.called

/-! ### What the gate has recorded on its way -/

/-- The names a position declares, lowercased. -/
def Position.declares : Position → List String
  | .query declared => declared.map toLowercase
  | _ => []

/-- Each position with the names declared before it, whether they are visible there or not. -/
def trace (declared : List String) : List Position → List (List String × Position)
  | [] => []
  | position :: rest => (declared, position) :: trace (position.declares ++ declared) rest

def Statement.trace (stmt : Statement) : List (List String × Position) :=
  Sql.trace [] stmt.positions

/-- The relation at a position, unless a name declared before masks it. -/
def unmasked : List String × Position → Option String
  | (declared, .relation _ name _) => if name.last ∈ declared then none else some name.last
  | _ => none

/-- The relations the gate compares with the allowlist. -/
def Statement.checkedRelations (stmt : Statement) : List String :=
  stmt.trace.filterMap unmasked

/-- The tables of a text that the gate looks at. -/
def checkedTables (parse : Parser) (sql : String) : List String :=
  match parse (clean sql) with
  | .ok [stmt] => stmt.checkedRelations
  | _ => []

/-- Each table that a text reads stands somewhere where the gate looks at it. -/
def Compared (parse : Parser) (sql : String) : Prop :=
  baseTables parse sql ⊆ checkedTables parse sql

instance (parse : Parser) (sql : String) : Decidable (Compared parse sql) :=
  inferInstanceAs (Decidable (∀ table ∈ baseTables parse sql, table ∈ checkedTables parse sql))

def uncheckedRead : List String × Position → Option Read
  | (declared, .relation scope name false) =>
      if name.last ∈ declared then some ⟨scope, name⟩ else none
  | (_, .tableCommand scope name) => some ⟨scope, name⟩
  | _ => none

/-- The reads the gate does not compare with the allowlist: relations that bear the name of a
common table expression declared anywhere before, and tables without a callback. -/
def Statement.uncheckedReads (stmt : Statement) : List Read :=
  stmt.trace.filterMap uncheckedRead

def uncheckedCall (allowed : List String) : List String × Position → Option ObjectName
  | (declared, .relation _ name true) =>
      if name.last ∈ declared ∨ name.last ∈ allowed then some name else none
  | (_, .call name) => some name
  | _ => none

/-- The calls the gate does not compare with the deny list: table functions that bear the name of
a common table expression declared before or of an allowed dataset, and calls without a callback. -/
def Statement.uncheckedCalls (allowed : List String) (stmt : Statement) : List ObjectName :=
  stmt.trace.filterMap (uncheckedCall allowed)

/-- No name in column position, and no wildcard, reaches a column the filters deny. -/
structure Statement.Respects (stmt : Statement) (schema : DatasetSchema) : Prop where
  wildcards : schema.projectionFilter.isActive = true → stmt.hasWildcard = false
  columns : ∀ name ∈ stmt.columnRefs, ∀ column, schema.byName name = some column →
    schema.projectionFilter.allows column.name = true ∧
      schema.predicateFilter.allows column.name = true

end Datapress.Sql
