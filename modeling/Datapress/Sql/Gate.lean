import Mathlib.Data.List.Sort
import Datapress.Schema
import Datapress.Sql.Visit

/-!
The gate every raw SQL text passes before a backend sees it.

The parser is a parameter; the gate itself is what the server computes on the parsed statements.
-/

namespace Datapress.Sql

open Datapress

variable [ToLowercase]

/-- What `Parser::parse_sql` answers: the statements, or the text of its error. -/
abbrev Parser := String → Except String (List Statement)

/-- Functions that read files or the network. -/
def deniedFunctions : List String :=
  ["read_text", "read_blob", "read_csv", "read_csv_auto", "read_parquet", "parquet_scan",
   "read_json", "read_json_auto", "read_json_objects", "read_ndjson", "read_ndjson_auto",
   "read_ndjson_objects", "sniff_csv", "glob"]

/-- The visitor that checks relations and function names. `referenced` is a set. -/
structure ScopeCheck where
  allowed : List String
  cteNames : List String := []
  referenced : List String := []

namespace ScopeCheck

/-- The callbacks, in the error case the violation they break with. -/
def visit (checker : ScopeCheck) : Position → Except String ScopeCheck
  | .query declared =>
      .ok { checker with cteNames := declared.map toLowercase ++ checker.cteNames }
  | .relation _ name _ =>
      let ident := name.last
      if ident ∈ checker.cteNames then .ok checker
      else if ident ∈ checker.allowed then
        .ok { checker with referenced := checker.referenced.insert ident }
      else .error s!"table '{ident}' is not a registered dataset accessible from the SQL endpoint"
  | .expr (.function name _ _) =>
      let fname := name.last
      if fname ∈ deniedFunctions then
        .error s!"function '{fname}' is not allowed in the SQL endpoint"
      else .ok checker
  | .expr _ => .ok checker
  -- No callback is called here.
  | .tableCommand _ _ => .ok checker
  | .call _ => .ok checker

def run (checker : ScopeCheck) : List Position → Except String ScopeCheck
  | [] => .ok checker
  | position :: rest => checker.visit position >>= fun next => next.run rest

end ScopeCheck

structure ValidatedSql where
  sql : String
  /-- The lowercased names of the datasets, sorted. -/
  datasets : List String
deriving DecidableEq, Repr

/-- The text without surrounding blanks and final semicolons. -/
def clean (sql : String) : String :=
  trim (trimEndMatches (· == ';') (trim sql))

def Statement.readOnly : Statement → Bool
  | .query _ => true
  | .explainTable .describe _ => true
  | .explainTable .desc _ => true
  | _ => false

def validate (parse : Parser) (sql : String) (allowed : List String) (maxDatasets : Nat) :
    Except AppError ValidatedSql :=
  let trimmed := clean sql
  if trimmed.isEmpty then .error (.invalidValue "sql must not be empty")
  else match parse trimmed with
  | .error e => .error (.invalidValue s!"could not parse SQL: {e}")
  | .ok [stmt] =>
      if !stmt.readOnly then
        .error (.invalidValue "only read-only SELECT and DESCRIBE statements are allowed")
      else match (ScopeCheck.mk allowed [] []).run stmt.positions with
      | .error err => .error (.invalidValue err)
      | .ok checker =>
          let datasets := checker.referenced.insertionSort (· ≤ ·)
          let found := datasets.length
          if maxDatasets < found then
            .error (.invalidValue
              (s!"this endpoint allows at most {maxDatasets} dataset(s) per query; " ++
                s!"the statement references {found}"))
          else .ok { sql := trimmed, datasets }
  | .ok _ => .error (.invalidValue "exactly one SQL statement is allowed")

/-! ### Wildcards

The walk over the positions whose columns a statement returns. -/

def SelectItem.isWildcard : SelectItem → Bool
  | .expr _ _ => false
  | .wildcard _ => true
  | .qualifiedWildcard _ _ => true

mutual

def queryHasWildcard : Query → Bool
  | .mk _ ctes body _ _ _ => ctesHaveWildcard ctes || setExprHasWildcard body

def ctesHaveWildcard : List Cte → Bool
  | [] => false
  | .mk _ query _ :: ctes => queryHasWildcard query || ctesHaveWildcard ctes

def setExprHasWildcard : SetExpr → Bool
  | .select _ _ projection sources _ _ _ _ =>
      projection.any SelectItem.isWildcard || sourcesHaveWildcard sources
  | .query query => queryHasWildcard query
  | .setOperation _ _ left right => setExprHasWildcard left || setExprHasWildcard right
  | _ => false

/-- Of each table with joins only the first relation is looked at. -/
def sourcesHaveWildcard : List TableWithJoins → Bool
  | [] => false
  | .mk relation _ :: sources => tableFactorHasWildcard relation || sourcesHaveWildcard sources

def tableFactorHasWildcard : TableFactor → Bool
  | .derived _ subquery _ => queryHasWildcard subquery
  | .nestedJoin (.mk relation _) _ => tableFactorHasWildcard relation
  | _ => false

end

def Statement.hasWildcard : Statement → Bool
  | .query body => queryHasWildcard body
  | _ => false

/-! ### Column access -/

/-- The names `ColumnRefCollector` takes from a position. -/
def Position.columnRef : Position → Option String
  | .expr (.identifier ident) => some (toLowercase ident)
  | .expr (.compoundIdentifier idents) => idents.getLast?.map toLowercase
  | _ => none

/-- The lowered names in column position, in the order of the visit. The server keeps them in a
hash set and may reach another one first when several are refused. -/
def Statement.columnRefs (stmt : Statement) : List String :=
  stmt.positions.filterMap Position.columnRef

/-- The check of one name in column position; a name no column has is left to the engine. -/
def checkColumnRef (schema : DatasetSchema) (lc : String) : Except AppError Unit :=
  match schema.byName lc with
  | none => .ok ()
  | some col =>
      let column := col.name
      let dataset := schema.name
      if !schema.projectionFilter.allows column then .error (.unknownColumn column)
      else if !schema.predicateFilter.allows column then
        .error (.forbidden
          s!"column '{column}' may not be used on the SQL endpoint for dataset '{dataset}'")
      else .ok ()

/-- `enforce_column_access` on the parsed statement. -/
def Statement.checkColumns (stmt : Statement) (schema : DatasetSchema) : Except AppError Unit := do
  let dataset := schema.name
  if schema.projectionFilter.isActive && stmt.hasWildcard then
    .error (.forbidden
      (s!"SELECT * is not allowed on dataset '{dataset}' because it hides columns; " ++
        "list the columns explicitly"))
  Fallible.checkAll (checkColumnRef schema) stmt.columnRefs

def enforceColumnAccess (parse : Parser) (sql : String) (schema : DatasetSchema) :
    Except AppError Unit :=
  if !schema.hasColumnFilters then .ok ()
  else match parse (clean sql) with
    | .ok [stmt] => stmt.checkColumns schema
    | _ => .ok ()

/-- What the gate asks of a backend, at one instant. -/
structure Registry where
  /-- Every configured dataset, in the spelling of the configuration. -/
  datasets : List String
  /-- The published ones. -/
  names : List String
  schema : String → Except AppError DatasetSchema

/-- Enforces the filters of one dataset the statement references; a failed lookup is skipped. -/
def Registry.enforce (registry : Registry) (parse : Parser) (sql dataset : String) :
    Except AppError Unit :=
  match registry.schema dataset with
  | .ok schema => enforceColumnAccess parse sql schema
  | .error _ => .ok ()

def validateAndAuthorize (parse : Parser) (registry : Registry) (sql : String) :
    Except AppError ValidatedSql := do
  let allowed := (registry.names.map toLowercase).dedup
  let validated ← validate parse sql allowed (max allowed.length 1)
  Fallible.checkAll (registry.enforce parse validated.sql) validated.datasets
  .ok validated

end Datapress.Sql
