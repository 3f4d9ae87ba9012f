import Datapress.Config.Dataset
import Datapress.Library.Fresh
import Datapress.Library.Lists
import Datapress.Separators

/-!
The columns of a parquet dataset: those of its files and one for each level of directories named
`key=value`. A build that reads the files finds the levels in the path of each file, a lazy one in
its location or by listing directories.

The reader of parquet files and the engine's schema inference and scans are parameters.
-/
namespace Datapress.DataFusion.Discovery

open Fresh
open Resident (Cell DataType Field Provider RecordBatch Row named)

/-! ### Paths -/

/-- `Path::components`, as their texts. -/
def components (path : String) : List String :=
  match split '/' path with
  | [] => []
  | first :: rest =>
    let start := if first = "" then (if rest = [] then [] else ["/"]) else [first]
    start ++ rest.filter fun c => c ≠ "" ∧ c ≠ "."

def hasGlob (text : String) : Bool := text.toList.any fun c => c = '*' ∨ c = '?' ∨ c = '['

/-- A directory of a level, with its key. -/
def partition (name : String) : Option (String × String) :=
  (splitOnce '=' name).filter fun (key, value) => key ≠ "" ∧ value ≠ ""

def hivePair (component : String) : Option (String × String) :=
  (partition component).filter fun (_, value) => '=' ∉ value.toList

def hivePairs (path : String) : List (String × String) := (components path).filterMap hivePair

/-- The constant columns behind those of the file, which win over keys of their names. -/
def appendPartitionCols (fields : List Field) (batch : RecordBatch)
    (pairs : List (String × String)) : List Field × RecordBatch :=
  pairs.foldl (fun (fields, rows) (key, value) =>
    if fields.any (·.name = key) then (fields, rows)
    else (fields ++ [⟨key, .utf8, false⟩], rows.map (· ++ [.utf8 value]))) (fields, batch)

/-! ### Eager builds -/

/-- What the reader finds in a file: its schema, whether the columns of its first row group have a
dictionary page, and its batches under a schema and a choice of columns. -/
structure ParquetFile where
  path : String
  fields : List Field
  dictionaryPages : Option (List Bool)
  read : List Field → List Nat → Except AppError (List RecordBatch)

def isString : DataType → Bool
  | .utf8 | .utf8View => true
  | .other name .utf8 => name == "LargeUtf8"
  | _ => false

/-- A column of strings stays a dictionary when it is one in the file. -/
def forcedSchema (d : Config.DatasetConfig) (file : ParquetFile) : List Field :=
  match file.dictionaryPages with
  | some pages =>
    file.fields.zipIdx.map fun (field, i) =>
      if d.dictEncode && isString field.dataType && pages.getD i false
      then { field with dataType := .dictionaryInt32Utf8 } else field
  | none => file.fields

section
variable [ToLowercase]

def projection (d : Config.DatasetConfig) (fields : List Field) : List Nat :=
  if d.columns.isEmpty then List.range fields.length
  else
    let wanted := d.columns.map toLowercase
    (fields.zipIdx.filter fun (field, _) => wanted.contains (toLowercase field.name)).map (·.2)

/-- The batches of one file, each with its schema. -/
def readFile (d : Config.DatasetConfig) (file : ParquetFile) :
    Except AppError (List (List Field × RecordBatch)) := do
  let indices := projection d file.fields
  if !d.columns.isEmpty && indices.isEmpty then
    .error (.internal
      s!"dataset '{d.name}': no columns from `columns` match parquet schema for {file.path}")
  else do
    let forced := forcedSchema d file
    let batches ← file.read forced indices
    let projected := indices.filterMap fun i => forced[i]?
    let pairs := hivePairs file.path
    .ok (batches.map fun batch => appendPartitionCols projected batch pairs)

/-- `read_local_parquet` on the files of the location. -/
def readLocalParquet (d : Config.DatasetConfig) (files : List ParquetFile) :
    Except AppError (List (List Field × RecordBatch)) := do
  let all ← files.mapM (readFile d)
  if all.flatten.isEmpty then .error (.internal s!"dataset '{d.name}': parquet source is empty")
  else .ok all.flatten

end

/-! ### Lazy builds -/

/-- The base of a location before its first wildcard, and the keys of the directories behind. -/
def splitGlobBaseKeys (loc : String) : String × List String :=
  let parts := split '/' loc
  let firstWild := parts.findIdx hasGlob
  let base := "/".intercalate (parts.take firstWild)
  let base := if base.isEmpty then "/" else base
  let upper := parts.length - 1
  let keys := ((parts.take upper).drop (min firstWild upper)).filterMap fun c =>
    (splitOnce '=' c).map (·.1)
  (base, keys.filter fun key => key ≠ "")

/-- The key of a directory that is a level, with its path. -/
def levelKey (sub : List String) : Option (String × List String) := do
  let (key, _) ← partition (← sub.getLast?)
  some (key, sub)

/-- Follows the first directory of a level down as long as there is one. A listing gives the paths
of the directories at a place, in no certain order, or fails. -/
def followKeys (list : List String → Option (List (List String))) : Nat → List String → List String
  | 0, _ => []
  | fuel + 1, place =>
    match ((list place).getD []).findSome? levelKey with
    | some (key, sub) => key :: followKeys list fuel sub
    | none => []

/-- What the file system and the object store say of places. -/
structure Places where
  place : String → List String
  isDir : String → Bool
  /-- The entries of a directory, with whether they are directories. -/
  readDir : List String → Option (List (List String × Bool))
  /-- The common prefixes below a prefix of keys. -/
  listWithDelimiter : List String → Option (List (List String))

def Places.directories (places : Places) (place : List String) : Option (List (List String)) :=
  (places.readDir place).map fun entries => (entries.filter (·.2)).map (·.1)

def discoverHiveKeys (places : Places) : Nat → List String → List String :=
  followKeys places.directories

def discoverS3HiveKeys (places : Places) : Nat → List String → List String :=
  followKeys places.listWithDelimiter

def withSlash (path : String) : String :=
  if path.toList.getLast? = some '/' then path else path ++ "/"

/-- The directory or file that is listed, and the keys of the levels below it. -/
def lazyLocalListing (places : Places) (fuel : Nat) (d : Config.DatasetConfig) :
    String × List String :=
  let loc := d.source.location
  if hasGlob loc then
    let (base, keys) := splitGlobBaseKeys loc
    (withSlash base, keys)
  else if places.isDir loc then (withSlash loc, discoverHiveKeys places fuel (places.place loc))
  else (loc, [])

def s3Listing (places : Places) (fuel : Nat) (d : Config.DatasetConfig) : String × List String :=
  let wantPartitions := (d.s3.getD {}).partitioning ≠ .none
  let loc := d.source.location
  if hasGlob loc then
    let (base, keys) := splitGlobBaseKeys loc
    (trimEndMatches (· == '/') base ++ "/", if wantPartitions then keys else [])
  else
    let base := withSlash loc
    (base, if wantPartitions then discoverS3HiveKeys places fuel (places.place base) else [])

/-- The engine's view of the parquet files below a directory. -/
structure Listings where
  inferSchema : String → Except AppError (List Field)
  scan : String → List String → List Row

/-- The columns of the files and the levels. -/
def discoverySchema (fileSchema : List Field) (partKeys : List String) : List Field :=
  partKeys.foldl (fun fields key =>
    if fields.any (·.name = key) then fields else fields ++ [⟨key, .utf8, false⟩]) fileSchema

section
variable [ToLowercase] (listings : Listings) (d : Config.DatasetConfig)

def buildListed (located : String × List String) :
    Except AppError (Resident.DatasetState × Provider) := do
  let (url, partKeys) := located
  let fileSchema ← listings.inferSchema url
  if fileSchema.isEmpty then
    .error (.emptyDataset s!"dataset '{d.name}': no .parquet files at {d.source.location}")
  else
    Resident.buildLazy
      { name := d.name, predicateFilter := d.predicateFilter
        projectionFilter := d.projectionFilter }
      ⟨discoverySchema fileSchema partKeys, listings.scan url partKeys⟩

def buildLazyLocalParquet (places : Places) (fuel : Nat) :
    Except AppError (Resident.DatasetState × Provider) :=
  buildListed listings d (lazyLocalListing places fuel d)

def buildLazyS3Parquet (places : Places) (fuel : Nat) :
    Except AppError (Resident.DatasetState × Provider) :=
  buildListed listings d (s3Listing places fuel d)

end

/-! ### The columns of a build -/

theorem appendPartitionCols_eq (fields : List Field) (batch : RecordBatch)
    (pairs : List (String × String)) : appendPartitionCols fields batch pairs =
      (fields ++ (fresh Prod.fst (fields.map (·.name)) pairs).map (⟨·.1, .utf8, false⟩),
        batch.map (· ++ (fresh Prod.fst (fields.map (·.name)) pairs).map (.utf8 ·.2))) := by
  induction pairs generalizing fields batch with
  | nil => simp [appendPartitionCols, fresh]
  | cons pair rest ih =>
      obtain ⟨key, value⟩ := pair
      have taken : fields.any (·.name = key) = true ↔ key ∈ fields.map (·.name) := by
        simp [List.any_eq_true]
      by_cases before : key ∈ fields.map (·.name)
      · have step : appendPartitionCols fields batch ((key, value) :: rest) =
            appendPartitionCols fields batch rest := by
          simp only [appendPartitionCols, List.foldl_cons, taken.mpr before, if_true]
        rw [step, ih, fresh, if_pos before]
      · have step : appendPartitionCols fields batch ((key, value) :: rest) =
            appendPartitionCols (fields ++ [⟨key, .utf8, false⟩])
              (batch.map (· ++ [.utf8 value])) rest := by
          simp only [appendPartitionCols, List.foldl_cons, mt taken.mp before, Bool.false_eq_true,
            if_false]
        rw [step, ih, fresh, if_neg before]
        simp only [List.map_append, List.map_cons, List.map_nil, List.append_assoc,
          List.singleton_append, List.map_map, Function.comp_def]

theorem discoverySchema_eq (fields : List Field) (keys : List String) :
    discoverySchema fields keys =
      fields ++ (fresh id (fields.map (·.name)) keys).map (⟨·, .utf8, false⟩) := by
  induction keys generalizing fields with
  | nil => simp [discoverySchema, fresh]
  | cons key rest ih =>
      have taken : fields.any (·.name = key) = true ↔ key ∈ fields.map (·.name) := by
        simp [List.any_eq_true]
      by_cases before : key ∈ fields.map (·.name)
      · have step : discoverySchema fields (key :: rest) = discoverySchema fields rest := by
          simp only [discoverySchema, List.foldl_cons, taken.mpr before, if_true]
        rw [step, ih, fresh, id, if_pos before]
      · have step : discoverySchema fields (key :: rest) =
            discoverySchema (fields ++ [⟨key, .utf8, false⟩]) rest := by
          simp only [discoverySchema, List.foldl_cons, mt taken.mp before, Bool.false_eq_true,
            if_false]
        rw [step, ih, fresh, id, if_neg before]
        simp only [List.map_append, List.map_cons, List.map_nil, List.append_assoc,
          List.singleton_append]

/-- What a request sees of a column: how its strings are held is not part of it. -/
def seen (column : ColumnInfo) : String × LogicalType × Bool :=
  (column.name, column.logical, column.nullable)

def shown (field : Field) : String × LogicalType × Bool := seen field.info

theorem logical_of_isString {dataType : DataType} (text : isString dataType = true) :
    dataType.arrowToLogical = .utf8 := by
  cases dataType with
  | utf8 | utf8View => rfl
  | other name logical =>
      cases logical with
      | utf8 => rfl
      | _ => cases text
  | _ => cases text

theorem shown_forced (d : Config.DatasetConfig) (file : ParquetFile) :
    (forcedSchema d file).map shown = file.fields.map shown := by
  unfold forcedSchema
  cases file.dictionaryPages with
  | none => rfl
  | some pages =>
      have each : ∀ entry ∈ file.fields.zipIdx,
          shown (if d.dictEncode && isString entry.1.dataType && pages.getD entry.2 false
            then { entry.1 with dataType := .dictionaryInt32Utf8 } else entry.1) =
          shown entry.1 := by
        rintro ⟨field, i⟩ _
        dsimp only
        split
        case isTrue forced =>
          have text : isString field.dataType = true := by
            simp only [Bool.and_eq_true] at forced
            exact forced.1.2
          simp only [shown, seen, Field.info, logical_of_isString text]
          rfl
        case isFalse => rfl
      simp only [List.map_map]
      calc file.fields.zipIdx.map _ = file.fields.zipIdx.map fun entry => shown entry.1 :=
            List.map_congr_left each
        _ = (file.fields.zipIdx.map Prod.fst).map shown := by rw [List.map_map]; rfl
        _ = file.fields.map shown := by rw [List.zipIdx_map_fst]

theorem length_forcedSchema (d : Config.DatasetConfig) (file : ParquetFile) :
    (forcedSchema d file).length = file.fields.length := by
  unfold forcedSchema
  cases file.dictionaryPages <;> simp

theorem names_forced (d : Config.DatasetConfig) (file : ParquetFile) :
    (forcedSchema d file).map (·.name) = file.fields.map (·.name) := by
  have same := congrArg (List.map Prod.fst) (shown_forced d file)
  rwa [List.map_map, List.map_map] at same

/-- The columns that a build without a choice of columns reads are those of the file. -/
theorem projected_whole [ToLowercase] {d : Config.DatasetConfig} (whole : d.columns = [])
    (file : ParquetFile) :
    (projection d file.fields).filterMap (fun i => (forcedSchema d file)[i]?) =
      forcedSchema d file := by
  simp only [projection, whole, List.isEmpty_nil, if_true]
  rw [← length_forcedSchema d file]
  exact Lists.filterMap_getElem?_range _

end Datapress.DataFusion.Discovery
