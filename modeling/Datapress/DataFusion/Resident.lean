import Mathlib.Data.List.AList
import Datapress.DataFusion.Builder
import Datapress.Lifecycle
import Datapress.Library.Positions

/-! The data of one DataFusion dataset: its resident batches with the equality index over
them, the paths on which a request is answered from them, and the SQL the others run. -/
namespace Datapress.DataFusion.Resident
open Positions

/-! ### Batches -/

/-- The Arrow types an index can be built on, and the others. -/
inductive DataType where
  | utf8 | utf8View | boolean | int8 | int16 | int32 | int64
  | dictionaryInt32Utf8
  | other (name : String) (logical : LogicalType)
deriving Repr, DecidableEq

/-- A value of a column. A dictionary holds the values that its keys stand for. -/
inductive Cell where
  | null
  | utf8 (value : String)
  | boolean (value : Bool)
  | int (value : Int)
  | other (bytes : List UInt8)
deriving Repr, DecidableEq

namespace DataType

def arrowToLogical : DataType → LogicalType
  | boolean => .bool
  | int8 | int16 | int32 | int64 => .int
  | utf8 | utf8View | dictionaryInt32Utf8 => .utf8
  | other _ logical => logical

/-- The `Debug` text of the type. -/
def debug : DataType → String
  | utf8 => "Utf8"
  | utf8View => "Utf8View"
  | boolean => "Boolean"
  | int8 => "Int8"
  | int16 => "Int16"
  | int32 => "Int32"
  | int64 => "Int64"
  | dictionaryInt32Utf8 => "Dictionary(Int32, Utf8)"
  | other name _ => name

def indexed : DataType → Bool
  | other _ _ => false
  | _ => true

def holds : DataType → Cell → Bool
  | _, .null => true
  | utf8, .utf8 _ | utf8View, .utf8 _ | dictionaryInt32Utf8, .utf8 _ => true
  | boolean, .boolean _ => true
  | int8, .int value => -2 ^ 7 ≤ value && value < 2 ^ 7
  | int16, .int value => -2 ^ 15 ≤ value && value < 2 ^ 15
  | int32, .int value => -2 ^ 31 ≤ value && value < 2 ^ 31
  | int64, .int value => -2 ^ 63 ≤ value && value < 2 ^ 63
  | other _ _, .other _ => true
  | _, _ => false

end DataType

structure Field where
  name : String
  dataType : DataType
  nullable : Bool := true
deriving Repr, DecidableEq

def Field.info (field : Field) : ColumnInfo where
  name := field.name
  logical := field.dataType.arrowToLogical
  sqlType := field.dataType.debug
  nullable := field.nullable

abbrev Row := List Cell

def cellAt (row : Row) (ci : Nat) : Cell := row.getD ci .null

/-- The rows of a batch; all batches of a dataset have its Arrow schema. -/
abbrev RecordBatch := List Row

/-! ### Arrays -/

/-- A place of a dictionary's values: the text in the buffers, and whether it is a value. -/
structure Slot where
  text : String
  valid : Bool := true
deriving Repr, DecidableEq, Inhabited

/-- A column of one batch. A dictionary array lists the slots of its rows. -/
inductive ColumnArray where
  | plain (cells : List Cell)
  | dictionary (keys : List (Option Nat)) (values : List Slot)
deriving Repr, DecidableEq

namespace ColumnArray

/-- What the build sees of a row: `is_null` and `value`. A dictionary array asks its keys alone
whether a row is null, and takes the text of the slot as it is. -/
def read : ColumnArray → Nat → Cell
  | plain cells, row => cells.getD row .null
  | dictionary keys values, row =>
    match keys.getD row none with
    | none => .null
    | some k => .utf8 (values.getD k default).text

/-- The value of a row. -/
def value : ColumnArray → Nat → Cell
  | plain cells, row => cells.getD row .null
  | dictionary keys values, row =>
    match keys.getD row none with
    | none => .null
    | some k => if (values.getD k default).valid then .utf8 (values.getD k default).text else .null

/-- An array of a type with a row for each place. -/
def Holds (dataType : DataType) (numRows : Nat) : ColumnArray → Prop
  | plain cells => dataType ≠ .dictionaryInt32Utf8 ∧ cells.length = numRows ∧
      ∀ cell ∈ cells, dataType.holds cell = true
  | dictionary keys values => dataType = .dictionaryInt32Utf8 ∧ keys.length = numRows ∧
      ∀ key ∈ keys, ∀ k ∈ key, k < values.length

end ColumnArray

/-- A batch of a schema. -/
structure ArrowBatch (fields : List Field) where
  numRows : Nat
  columns : List ColumnArray
  typed : List.Forall₂ (fun field column => column.Holds field.dataType numRows) fields columns

namespace ArrowBatch
variable {fields : List Field}

/-- The rows that the build sees. -/
def read (batch : ArrowBatch fields) : RecordBatch :=
  (List.range batch.numRows).map fun row => batch.columns.map (·.read row)

/-- The rows of the batch. -/
def rows (batch : ArrowBatch fields) : RecordBatch :=
  (List.range batch.numRows).map fun row => batch.columns.map (·.value row)

end ArrowBatch

/-- What a build has read. The engine plans no source that repeats a column, and a `usize`
counts the rows. -/
structure Batches where
  fields : List Field
  arrays : List (ArrowBatch fields)
  nonempty : arrays ≠ []
  distinct : (fields.map (·.name)).Nodup
  counted : (arrays.map (·.numRows)).sum < 2 ^ 64

def Batches.chunks (batches : Batches) : List RecordBatch := batches.arrays.map (·.rows)

/-! ### The equality index -/

/-- The rows of each value of a column, by the text of the value. Row ids are positions in
the concatenation of all batches; the source panics when `u32` cannot hold them. -/
abbrev Buckets := AList fun _ : String => List Nat

/-- The indexed columns by their lowered names. -/
abbrev EqIndex := AList fun _ : String => Buckets

inductive IndexMode where
  | auto | none | list
deriving Repr, DecidableEq

structure IndexConfig where
  mode : IndexMode := .auto
  columns : List String := []
  maxCardinality : Nat := 100000
deriving Repr

def Cell.text : Cell → Option String
  | .null => none
  | .utf8 value => some value
  | .boolean value => some (toString value)
  | .int value => some (toString value)
  | .other _ => none

/-- Adds a row to the bucket of a key. No result when the column has too many values. -/
def indexKey (maxCard : Option Nat) (map : Buckets) (key : String) (gid : Nat) : Option Buckets :=
  match map.lookup key with
  | some ids => some (map.insert key (ids ++ [gid]))
  | none =>
    if maxCard.any (· ≤ map.keys.length) then none
    else some (map.insert key [gid])

/-- Indexes the column `ci` of a batch whose first row has the id `gid`. -/
def indexBatch (maxCard : Option Nat) (ci : Nat) : RecordBatch → Nat → Buckets → Option Buckets
  | [], _, map => some map
  | row :: rest, gid, map =>
    match (cellAt row ci).text with
    | none => indexBatch maxCard ci rest (gid + 1) map
    | some key => do
      let map ← indexKey maxCard map key gid
      indexBatch maxCard ci rest (gid + 1) map

def indexColumn (maxCard : Option Nat) (ci : Nat) :
    List RecordBatch → Nat → Buckets → Option Buckets
  | [], _, map => some map
  | batch :: rest, base, map => do
    let map ← indexBatch maxCard ci batch base map
    indexColumn maxCard ci rest (base + batch.length) map

/-- The buckets of a column under its lowered name, if the policy has it indexed. -/
def indexField [ToLowercase] (config : IndexConfig) (chunks : List RecordBatch) :
    Field × Nat → Option (String × Buckets)
  | (field, ci) =>
    let colLower := toLowercase field.name
    let maxCard := if config.mode = .auto then some config.maxCardinality else none
    if config.mode = .list && !config.columns.any (toLowercase · == colLower) then none
    else if !field.dataType.indexed then none
    else (indexColumn maxCard ci chunks 0 ∅).map (colLower, ·)

/-- A later column replaces an earlier one of the same lowered name. -/
def buildEqIndexWithPolicy [ToLowercase] (fields : List Field) (chunks : List RecordBatch)
    (config : IndexConfig) : EqIndex :=
  if config.mode = .none || chunks.isEmpty then ∅
  else
    (fields.zipIdx.filterMap (indexField config chunks)).foldl
      (fun index (name, map) => index.insert name map) ∅

/-- The build of the index, over what it sees of the arrays. -/
def buildEqIndexOfArrays [ToLowercase] {fields : List Field} (batches : List (ArrowBatch fields))
    (config : IndexConfig) : EqIndex :=
  buildEqIndexWithPolicy fields (batches.map ArrowBatch.read) config

def intersectSorted : List Nat → List Nat → List Nat
  | a :: as, b :: bs =>
    if a = b then a :: intersectSorted as bs
    else if a < b then intersectSorted as (b :: bs)
    else intersectSorted (a :: as) bs
  | _, _ => []
termination_by as bs => as.length + bs.length

def unionSorted : List Nat → List Nat → List Nat
  | a :: as, b :: bs =>
    if a < b then a :: unionSorted as (b :: bs)
    else if b < a then b :: unionSorted (a :: as) bs
    else a :: unionSorted as bs
  | [], bs => bs
  | as, [] => as
termination_by as bs => as.length + bs.length

/-- The `Display` of a number. The text of a floating-point one is `serde_json`'s own. -/
def numberText [JsonText] : JsonNumber → String
  | .posInt value => toString value.toNat
  | .negInt value _ => toString value.toInt
  | .float value => JsonText.display (.number (.float value))

def jsonIndexKey [JsonText] : JsonValue → Option String
  | .string s => some s
  | .number n => some (numberText n)
  | .bool b => some (toString b)
  | _ => none

section
variable [ToLowercase] [JsonText]

/-- The rows in the buckets of the items of an `in` list. -/
def mergeBuckets (map : Buckets) : List JsonValue → List Nat → Option (List Nat)
  | [], merged => some merged
  | item :: rest, merged => do
    let key ← jsonIndexKey item
    match map.lookup key with
    | some rows => mergeBuckets map rest (unionSorted merged rows)
    | none => mergeBuckets map rest merged

/-- The rows of one predicate, when the index can tell. -/
def indexRows (index : EqIndex) (pred : Predicate) : Option (List Nat) := do
  let map ← index.lookup (toLowercase pred.col)
  if pred.op = "eq" then
    let key ← jsonIndexKey (← pred.val)
    some ((map.lookup key).getD [])
  else if pred.op = "in" then
    let items ← (← pred.val).asArray
    mergeBuckets map items []
  else none

def indexAll (index : EqIndex) : List Predicate → Option (List Nat) → Option (Option (List Nat))
  | [], result => some result
  | pred :: rest, result => do
    let rows ← indexRows index pred
    indexAll index rest <| some <|
      match result with
      | none => rows
      | some before => intersectSorted before rows

/-- The rows that meet all predicates, when the index can tell. The source looks up a single
`eq` apart, to borrow its bucket. -/
def tryIndex (index : EqIndex) (predicates : List Predicate) : Option (List Nat) :=
  if predicates.isEmpty || index.keys.isEmpty then none
  else (indexAll index predicates none).join

end

/-! ### Pages of resident rows -/

/-- The rows from `toSkip` on, at most `remaining` of them. -/
def sliceGlobal : List RecordBatch → (toSkip remaining : Nat) → RecordBatch
  | [], _, _ => []
  | batch :: rest, toSkip, remaining =>
    if remaining = 0 then []
    else if toSkip ≥ batch.length then sliceGlobal rest (toSkip - batch.length) remaining
    else
      let taken := min remaining (batch.length - toSkip)
      (batch.drop toSkip).take taken ++ sliceGlobal rest 0 (remaining - taken)

/-- The rows of a page of row ids: each batch gives its own, and they are put back into the
order of the page. -/
def takePage (chunks : List RecordBatch) (rows : List Nat) (offset limit : Nat) : RecordBatch :=
  let start := min offset rows.length
  let page := (rows.drop start).take (min limit (rows.length - start))
  if page.isEmpty || chunks.isEmpty then []
  else
    let offsets := starts 0 chunks
    let placed := page.zipIdx.map fun (gid, outPos) =>
      let bi := reached 0 chunks gid - 1
      (bi, outPos, gid - offsets.getD bi 0)
    let moved := (List.range chunks.length).flatMap fun bi =>
      (placed.filter (·.1 = bi)).map fun (_, outPos, row) =>
        (outPos, (chunks.getD bi []).getD row [])
    let stitched := moved.map (·.2)
    let inv := scatter (moved.map (·.1)) 0 (.replicate page.length 0)
    inv.map fun i => stitched.getD i []

/-- The rows of an answer, with the names of their columns. -/
abbrev Page := List (List (String × Cell))

def named (names : List String) (row : Row) : List (String × Cell) := names.zip row

/-- The cells of the fields at the given places. -/
def pick (fields : List Field) (indices : List Nat) (row : Row) : List (String × Cell) :=
  indices.map fun i => ((fields.map (·.name)).getD i "", cellAt row i)

section
variable [ToLowercase]

/-- The index `by_name` maps a lowered name to: that of the last column. -/
def byNameIndex (schema : DatasetSchema) (lowered : String) : Nat :=
  ((schema.columns.findIdxs fun c => toLowercase c.name == lowered).getLast?).getD 0

def project (schema : DatasetSchema) (fields : List Field) (batch : RecordBatch)
    (columns : List String) : Except AppError Page :=
  if columns.isEmpty then .ok (batch.map (named (fields.map (·.name))))
  else do
    let indices ← columns.mapM fun c => do
      let info ← schema.find c
      .ok (byNameIndex schema (toLowercase info.name))
    .ok (batch.map (pick fields indices))

end

/-! ### The store -/

structure DatasetState extends Datapress.DatasetState where
  data : List RecordBatch
  arrowSchema : List Field
  index : EqIndex

def DatasetState.numRows (state : DatasetState) : Nat := (state.data.map List.length).sum

/-- The table a dataset is registered as: what a scan of it reads. -/
structure Provider where
  fields : List Field
  rows : List Row

/-- The build of an eager dataset. The `MemTable` skips empty batches. -/
def materialiseBatches [ToLowercase] (d : DatasetConfig) (index : IndexConfig)
    (batches : Batches) : Except AppError (DatasetState × Provider) := do
  let schema ← (DatasetSchema.new d.name (batches.fields.map Field.info)).withFilters
    d.predicateFilter d.projectionFilter
  .ok ({
    schema, lazy := false, data := batches.chunks, arrowSchema := batches.fields
    index := buildEqIndexOfArrays batches.arrays index },
    ⟨batches.fields, batches.chunks.flatten⟩)

/-- The end of the builds of a lazy dataset, which leaves its rows in the source. -/
def buildLazy [ToLowercase] (d : DatasetConfig) (provider : Provider) :
    Except AppError (DatasetState × Provider) := do
  let schema ← (DatasetSchema.new d.name (provider.fields.map Field.info)).withFilters
    d.predicateFilter d.projectionFilter
  .ok ({ schema, lazy := true, data := [], arrowSchema := provider.fields, index := ∅ }, provider)

/-- What the engine makes of a statement is a parameter where it goes beyond `AND`, `LIMIT`
and `OFFSET`: which comparisons and select lists it accepts, the verdict of a comparison on a
cell with its coercions, and statements that group, sort or remove duplicates. -/
structure Engine where
  compare : DataType → String → ScalarValue → Except AppError (Cell → Option Bool)
  isIn : DataType → List ScalarValue → Except AppError (Cell → Option Bool)
  select : List String → Except AppError Unit
  others : SelectStatement → Params → Provider → Except AppError Page

/-- The parameter of a placeholder. -/
def bound (params : Params) (placeholder : String) : Except AppError ScalarValue :=
  match (params.zipIdx 1).find? fun (_, n) => s!"${n}" == placeholder with
  | some (value, _) => .ok value
  | none => .error (.internal s!"no value for placeholder {placeholder}")

namespace Engine

def test (engine : Engine) (params : Params) (dataType : DataType) :
    Test → Except AppError (Cell → Option Bool)
  | .isNull => .ok fun cell => some (cell == .null)
  | .isNotNull => .ok fun cell => some (cell != .null)
  | .oneOf placeholders => placeholders.mapM (bound params) >>= engine.isIn dataType
  | .compare operator placeholder => bound params placeholder >>= engine.compare dataType operator

def columnIndex (fields : List Field) (name : String) : Except AppError Nat :=
  match fields.findIdx? (·.name == name) with
  | some i => .ok i
  | none => .error (.internal s!"no field named {name}")

/-- Whether a row meets a condition; an unknown verdict does not. -/
def condition (engine : Engine) (fields : List Field) (params : Params) (condition : Condition) :
    Except AppError (Row → Bool) :=
  match condition.lhs with
  | .column name => do
    let i ← columnIndex fields name
    let verdict ← engine.test params ((fields.map (·.dataType)).getD i .utf8) condition.test
    .ok fun row => verdict (cellAt row i) == some true
  | _ => .error (.internal "aggregate in WHERE")

/-- The rows that meet all conditions. -/
def filter (engine : Engine) (provider : Provider) (conditions : List Condition)
    (params : Params) : Except AppError (List Row) := do
  let tests ← conditions.mapM (engine.condition provider.fields params)
  .ok (provider.rows.filter fun row => tests.all (· row))

def plainColumn : SelectItem → Except AppError String
  | .column name => .ok name
  | .aliased _ _ => .error (.internal "aggregate without GROUP BY")

def selectRows (engine : Engine) (fields : List Field) (rows : List Row) :
    SelectList → Except AppError Page
  | .list items => do
    let names ← items.mapM plainColumn
    engine.select names
    let indices ← names.mapM (columnIndex fields)
    .ok (rows.map (pick fields indices))
  | _ => .ok (rows.map (named (fields.map (·.name))))

/-- The result of a statement whose suffix has the given `LIMIT` and `OFFSET`. -/
def run (engine : Engine) (provider : Provider) (statement : SelectStatement) (params : Params)
    (limit : Option Nat) (offset : Nat) : Except AppError Page :=
  if statement.distinct || !statement.groupBy.isEmpty || !statement.having.isEmpty ||
      !statement.orderBy.isEmpty then
    engine.others statement params provider
  else do
    let rows ← engine.filter provider statement.conditions params
    let rows := rows.drop offset
    engine.selectRows provider.fields (limit.elim rows rows.take) statement.select

def runCount (engine : Engine) (provider : Provider) (statement : CountStatement)
    (params : Params) : Except AppError Nat :=
  List.length <$> engine.filter provider statement.conditions params

end Engine

section
variable [ToLowercase] [JsonText]

/-- The answer of the in-memory paths, when one of them takes the request. -/
def fastPath (state : DatasetState) (request : QueryRequest) (pageWindow : Option (Nat × Nat)) :
    Option (Except AppError Page) :=
  let (offset, limit) := pageWindow.getD (0, (request.limit.getD (.ofNat (2 ^ 64 - 1))).toNat)
  if canFastPath state.toDatasetState request pageWindow.isSome then
    if request.predicates.isEmpty then
      if pageWindow.isNone && request.limit.isNone then
        some (List.flatten <$>
          state.data.mapM (project state.schema state.arrowSchema · request.columns))
      else
        let start := min offset state.numRows
        let len := min limit (state.numRows - start)
        some (project state.schema state.arrowSchema (sliceGlobal state.data start len)
          request.columns)
    else (tryIndex state.index request.predicates).map fun rows =>
      project state.schema state.arrowSchema (takePage state.data rows offset limit)
        request.columns
  else none

/-- The SQL of a request, for one page or for all rows. -/
def sqlFallback (engine : Engine) (maxPageSize : UInt64) (clampable : 1 ≤ maxPageSize)
    (state : DatasetState) (provider : Provider) (request : QueryRequest) (paged : Bool) :
    Except AppError Page :=
  if paged then do
    let (statement, params) ← buildQuerySql state.schema request maxPageSize clampable
    let (limit, offset) := request.effectiveLimitOffset maxPageSize clampable
    engine.run provider statement params (some limit.toNat) offset.toNat
  else do
    let (statement, params) ← buildQueryStreamSql state.schema request
    engine.run provider statement params (request.limit.map (·.toNat)) 0

/-- `query_batches_inner` of a page or of all rows. -/
def queryBatchesInner (engine : Engine) (maxPageSize : UInt64) (clampable : 1 ≤ maxPageSize)
    (state : DatasetState) (provider : Provider) (request : QueryRequest)
    (pageWindow : Option (Nat × Nat)) : Except AppError Page :=
  match fastPath state request pageWindow with
  | some answer => answer
  | none => sqlFallback engine maxPageSize clampable state provider request pageWindow.isSome

/-- The offset and the limit of a page. -/
def pageWindow (request : QueryRequest) (maxPageSize : UInt64) : Nat × Nat :=
  let page := max request.page 1
  let pageSize := min (max request.pageSize 1) maxPageSize
  (((page - 1) * pageSize).toNat, pageSize.toNat)

def queryBatches (engine : Engine) (maxPageSize : UInt64) (clampable : 1 ≤ maxPageSize)
    (state : DatasetState) (provider : Provider) (request : QueryRequest) : Except AppError Page :=
  queryBatchesInner engine maxPageSize clampable state provider request
    (some (pageWindow request maxPageSize))

def queryBatchesAll (engine : Engine) (maxPageSize : UInt64) (clampable : 1 ≤ maxPageSize)
    (state : DatasetState) (provider : Provider) (request : QueryRequest) : Except AppError Page :=
  queryBatchesInner engine maxPageSize clampable state provider request none

def count (engine : Engine) (state : DatasetState) (provider : Provider)
    (request : CountRequest) : Except AppError Nat :=
  let resident :=
    if state.lazy then none
    else if request.predicates.isEmpty then some state.numRows
    else (tryIndex state.index request.predicates).map List.length
  match resident with
  | some n => .ok n
  | none => do
    let (statement, params) ← buildCountSql state.schema request.predicates
    engine.runCount provider statement params

end

end Datapress.DataFusion.Resident
