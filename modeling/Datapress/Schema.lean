import Datapress.Text
import Datapress.Errors
import Datapress.Library.Fallible

/-! The schema of a registered dataset, its two column filters, and the column
lookups every request goes through. -/
namespace Datapress

/-- An include list or an exclude list of column names; empty lists restrict nothing. -/
structure ColumnFilter where
  included : List String := []
  excluded : List String := []
deriving Repr, DecidableEq

namespace ColumnFilter
variable [ToLowercase]

def isActive (filter : ColumnFilter) : Bool :=
  !filter.included.isEmpty || !filter.excluded.isEmpty

/-- Whether a column passes the filter, whatever its case. -/
def allows (filter : ColumnFilter) (col : String) : Bool :=
  let lc := toLowercase col
  if !filter.included.isEmpty then filter.included.any fun c => toLowercase c == lc
  else if !filter.excluded.isEmpty then !filter.excluded.any fun c => toLowercase c == lc
  else true

def validate (filter : ColumnFilter) (dataset ctx : String) : Except AppError Unit :=
  if !filter.included.isEmpty && !filter.excluded.isEmpty then
    .error (.invalidValue s!"dataset '{dataset}': {ctx} may set 'include' or 'exclude', not both")
  else .ok ()

def listed (filter : ColumnFilter) : List String :=
  if !filter.included.isEmpty then filter.included else filter.excluded

end ColumnFilter

inductive LogicalType where
  | bool | int | float | utf8 | temporal | other
deriving Repr, DecidableEq

/-- Whether DuckDB's `json_object` needs the column cast to text. -/
def LogicalType.needsCast : LogicalType → Bool
  | temporal => true
  | _ => false

structure ColumnInfo where
  name : String
  logical : LogicalType
  sqlType : String
  nullable : Bool
deriving Repr, DecidableEq

/-- The source also keeps the map from lowered name to index that `new` builds from
`columns`; here it is the function `byName` of the columns. -/
structure DatasetSchema where
  name : String
  columns : List ColumnInfo
  predicateFilter : ColumnFilter := {}
  projectionFilter : ColumnFilter := {}
deriving Repr, DecidableEq

namespace DatasetSchema
variable [ToLowercase]

def new (name : String) (columns : List ColumnInfo) : DatasetSchema := { name, columns }

/-- The column a lowered name is mapped to. Collecting pairs into a map keeps the last
column among those that share a lowered name. -/
def byName (schema : DatasetSchema) (lowered : String) : Option ColumnInfo :=
  schema.columns.reverse.find? fun c => toLowercase c.name == lowered

def checkListed (schema : DatasetSchema) (ctx : String) (filter : ColumnFilter) :
    Except AppError Unit := do
  filter.validate schema.name ctx
  Fallible.checkAll (fun col =>
    if (schema.byName (toLowercase col)).isSome then .ok ()
    else .error (.invalidValue
      s!"dataset '{schema.name}': {ctx} references unknown column '{col}'")) filter.listed

/-- Attaches the two filters. A name no column has is an error: a misspelt entry of an
exclude list would otherwise expose the column it was meant for. -/
def withFilters (schema : DatasetSchema) (predicateFilter projectionFilter : ColumnFilter) :
    Except AppError DatasetSchema := do
  schema.checkListed "predicate_filter" predicateFilter
  schema.checkListed "projection_filter" projectionFilter
  .ok { schema with predicateFilter, projectionFilter }

def hasColumnFilters (schema : DatasetSchema) : Bool :=
  schema.predicateFilter.isActive || schema.projectionFilter.isActive

def isVisible (schema : DatasetSchema) (name : String) : Bool :=
  schema.projectionFilter.allows name

def visibleColumns (schema : DatasetSchema) : List ColumnInfo :=
  schema.columns.filter fun c => schema.projectionFilter.allows c.name

def find (schema : DatasetSchema) (name : String) : Except AppError ColumnInfo :=
  match schema.byName (toLowercase name) with
  | some column => .ok column
  | none => .error (.unknownColumn name)

/-- A hidden column is reported as one that does not exist. -/
def findVisible (schema : DatasetSchema) (name : String) : Except AppError ColumnInfo := do
  let col ← schema.find name
  if schema.projectionFilter.allows col.name then .ok col
  else .error (.unknownColumn name)

def findForPredicate (schema : DatasetSchema) (name : String) : Except AppError ColumnInfo := do
  let col ← schema.findVisible name
  if schema.predicateFilter.allows col.name then .ok col
  else .error (.forbidden
    s!"column '{col.name}' may not be used in predicates on dataset '{schema.name}'")

/-- A quoted identifier; an embedded quote is doubled. -/
def quoteIdent (name : String) : String := "\"" ++ replaceChar '"' "\"\"" name ++ "\""

end DatasetSchema
end Datapress
