import Datapress.DataFusion.Levels

/-!
The columns and rows of parquet datasets, however they are built and configured.
-/
namespace Datapress.DataFusion.Discovery

open Fresh
open Resident (Cell Field Provider RecordBatch Row named)

theorem lookup_append {names more : List String} {row cells : Row}
    (length : names.length = row.length) (name : String) :
    (named (names ++ more) (row ++ cells)).lookup name =
      ((named names row).lookup name).or ((named more cells).lookup name) := by
  rw [named, List.zip_append length, List.lookup_append]
  rfl

theorem lookup_isSome {names : List String} {row : Row} (length : names.length = row.length)
    {name : String} (member : name ∈ names) : ((named names row).lookup name).isSome = true := by
  induction names generalizing row with
  | nil => cases member
  | cons first rest ih =>
      cases row with
      | nil => cases length
      | cons cell cells =>
          rw [named, List.zip_cons_cons, List.lookup_cons]
          cases same : name == first with
          | true => rfl
          | false =>
              have later : name ∈ rest :=
                (List.mem_cons.mp member).resolve_left (ne_of_beq_false same)
              exact ih (Nat.succ.inj length) later

theorem lookup_isNone {names : List String} {row : Row} {name : String} (new : name ∉ names) :
    (named names row).lookup name = none := by
  rw [List.lookup_eq_none_iff]
  rintro ⟨other, cell⟩ member
  simpa using fun same : name = other => new (same ▸ (List.of_mem_zip member).1)

theorem lookup_values (pairs : List (String × String)) (name : String) :
    (named (pairs.map Prod.fst) (pairs.map (.utf8 ·.2))).lookup name =
      (pairs.lookup name).map .utf8 := by
  induction pairs with
  | nil => rfl
  | cons pair rest ih =>
      obtain ⟨key, value⟩ := pair
      rw [List.map_cons, List.map_cons, named, List.zip_cons_cons, List.lookup_cons,
        List.lookup_cons]
      cases name == key with
      | true => rfl
      | false => exact ih

section
variable [ToLowercase] {listings : Listings} {places : Places} {layout : Layout}
  {files : List (List String)} {d : Config.DatasetConfig} {fuel : Nat}

/-- The same dataset, configured by the directory of its files. -/
def rooted (d : Config.DatasetConfig) (root : String) : Config.DatasetConfig :=
  { d with source := { d.source with location := root } }

theorem buildListed_ok_iff {located : String × List String} {root : String}
    {built : Resident.DatasetState × Provider} :
    buildListed listings d located = .ok built ↔
      buildListed listings (rooted d root) located = .ok built := by
  simp only [buildListed, rooted, Fallible.bind_ok_iff]
  refine exists_congr fun schema => and_congr_right fun _ => ?_
  split <;> simp

/-- A lazy dataset is the same whether its location is a pattern of its files or their directory:
the keys in the pattern are those that listing the directory finds, in whatever order it lists. -/
theorem lazy_locations_agree (pattern : d.source.location = layout.location) (nonempty : files ≠ [])
    (each : ∀ file ∈ files, Follows layout.keys file) (enough : layout.keys.length < fuel)
    (isDir : places.isDir layout.root = true) (solid : layout.root.toList.getLast? ≠ some '/')
    (disk : Mirrors places.directories (places.place layout.root) files)
    (bucket : Mirrors places.listWithDelimiter (places.place (withSlash layout.root)) files)
    (built : Resident.DatasetState × Provider) :
    (buildLazyLocalParquet listings d places fuel = .ok built ↔
        buildLazyLocalParquet listings (rooted d layout.root) places fuel = .ok built) ∧
      (buildLazyS3Parquet listings d places fuel = .ok built ↔
        buildLazyS3Parquet listings (rooted d layout.root) places fuel = .ok built) := by
  constructor
  · have found : discoverHiveKeys places fuel (places.place layout.root) = layout.keys :=
      followKeys_eq disk nonempty each enough
    have same : lazyLocalListing places fuel (rooted d layout.root) =
        lazyLocalListing places fuel d := by
      simp only [lazyLocalListing, rooted, pattern, Layout.hasGlob_root, Layout.hasGlob_location,
        Layout.splitGlobBaseKeys_location, isDir, found, if_true, Bool.false_eq_true, if_false]
    rw [buildLazyLocalParquet, buildLazyLocalParquet, same]
    exact buildListed_ok_iff
  · have found : discoverS3HiveKeys places fuel (places.place (withSlash layout.root)) =
        layout.keys := followKeys_eq bucket nonempty each enough
    have same : s3Listing places fuel (rooted d layout.root) = s3Listing places fuel d := by
      simp only [s3Listing, rooted, pattern, Layout.hasGlob_root, Layout.hasGlob_location,
        Layout.splitGlobBaseKeys_location, found, if_true, Bool.false_eq_true, if_false,
        withSlash_root solid]
    rw [buildLazyS3Parquet, buildLazyS3Parquet, same]
    exact buildListed_ok_iff

theorem readFile_ok {file : ParquetFile} {found : List (List Field × RecordBatch)}
    (read : readFile d file = .ok found) : ∃ raws,
      file.read (forcedSchema d file) (projection d file.fields) = .ok raws ∧
        found = raws.map fun raw => appendPartitionCols
          ((projection d file.fields).filterMap fun i => (forcedSchema d file)[i]?) raw
          (hivePairs file.path) := by
  rw [readFile] at read
  split at read
  · cases read
  · obtain ⟨raws, ok, same⟩ := Fallible.bind_ok_iff.mp read
    cases same
    exact ⟨raws, ok, rfl⟩

/-- Every batch comes from a file. -/
theorem exists_file {sources : List ParquetFile} {batches : List (List Field × RecordBatch)}
    (read : readLocalParquet d sources = .ok batches) {batch : List Field × RecordBatch}
    (member : batch ∈ batches) : ∃ file ∈ sources, ∃ raws,
      file.read (forcedSchema d file) (projection d file.fields) = .ok raws ∧ ∃ raw ∈ raws,
        batch = appendPartitionCols
          ((projection d file.fields).filterMap fun i => (forcedSchema d file)[i]?) raw
          (hivePairs file.path) := by
  obtain ⟨all, each, whole⟩ := Fallible.bind_ok_iff.mp read
  split at whole
  · cases whole
  · cases whole
    obtain ⟨found, among, here⟩ := List.mem_flatten.mp member
    obtain ⟨file, source, ok⟩ := (Fallible.mem_of_mapM each _).mp among
    obtain ⟨raws, read, rfl⟩ := readFile_ok ok
    obtain ⟨raw, chosen, rfl⟩ := List.mem_map.mp here
    exact ⟨file, source, raws, read, raw, chosen, rfl⟩

theorem columns_of_buildListed {located : String × List String}
    {table : Resident.DatasetState × Provider}
    (built : buildListed listings d located = .ok table) :
    ∃ fields, listings.inferSchema located.1 = .ok fields ∧
      table.1.schema.columns = (discoverySchema fields located.2).map Field.info := by
  obtain ⟨fields, inferred, rest⟩ := Fallible.bind_ok_iff.mp built
  split at rest
  · cases rest
  · obtain ⟨schema, filtered, whole⟩ := Fallible.bind_ok_iff.mp rest
    cases whole
    obtain ⟨_, _, filtered⟩ := Fallible.bind_ok_iff.mp filtered
    obtain ⟨_, _, filtered⟩ := Fallible.bind_ok_iff.mp filtered
    cases filtered
    exact ⟨fields, inferred, rfl⟩

/-- The batches of a file conform to the columns that they are read for. -/
def ParquetFile.Conforms (d : Config.DatasetConfig) (file : ParquetFile) : Prop :=
  ∀ raws, file.read (forcedSchema d file) (projection d file.fields) = .ok raws →
    ∀ raw ∈ raws, ∀ row ∈ raw, List.Forall₂ (fun field cell => field.dataType.holds cell = true)
      ((projection d file.fields).filterMap fun i => (forcedSchema d file)[i]?) row

theorem projected_sublist (d : Config.DatasetConfig) (file : ParquetFile) :
    ((projection d file.fields).filterMap fun i => (forcedSchema d file)[i]?).Sublist
      (forcedSchema d file) := by
  have indices : (projection d file.fields).Sublist (List.range (forcedSchema d file).length) := by
    rw [length_forcedSchema, projection]
    split
    · exact List.Sublist.refl _
    · have all := (List.filter_sublist (l := file.fields.zipIdx) (p := fun entry =>
        (d.columns.map toLowercase).contains (toLowercase entry.1.name))).map Prod.snd
      rwa [List.zipIdx_map_snd, ← List.range_eq_range'] at all
  have whole := indices.filterMap fun i => (forcedSchema d file)[i]?
  rwa [Lists.filterMap_getElem?_range] at whole

/-- A row of an eager build: the cells of the file, and under the names that no column of the file
has the values of its path, the first of each key. -/
structure Located (file : ParquetFile) (fields : List Field) (raw : RecordBatch)
    (batch : List Field × RecordBatch) : Prop where
  distinct : (batch.1.map (·.name)).Nodup
  typed : ∀ row ∈ batch.2,
    List.Forall₂ (fun field cell => field.dataType.holds cell = true) batch.1 row
  rows : List.Forall₂ (fun before after => ∀ name,
    (named (batch.1.map (·.name)) after).lookup name =
      ((named (fields.map (·.name)) before).lookup name).or
        (((hivePairs file.path).lookup name).map .utf8)) raw batch.2

/-- Every batch of an eager build has columns of its own names and cells of their types. -/
theorem rows_located {sources : List ParquetFile}
    (distinct : ∀ file ∈ sources, (file.fields.map (·.name)).Nodup)
    (conforms : ∀ file ∈ sources, file.Conforms d)
    {batches : List (List Field × RecordBatch)} (read : readLocalParquet d sources = .ok batches)
    {batch : List Field × RecordBatch} (member : batch ∈ batches) :
    ∃ file ∈ sources, ∃ raws raw,
      file.read (forcedSchema d file) (projection d file.fields) = .ok raws ∧ raw ∈ raws ∧
        Located file ((projection d file.fields).filterMap fun i => (forcedSchema d file)[i]?) raw
          batch := by
  obtain ⟨file, source, raws, ok, raw, chosen, rfl⟩ := exists_file read member
  refine ⟨file, source, raws, raw, ok, chosen, ?_⟩
  have typed := conforms file source _ ok raw chosen
  have unique : (((projection d file.fields).filterMap fun i => (forcedSchema d file)[i]?).map
      (·.name)).Nodup := by
    refine ((projected_sublist d file).map _).nodup ?_
    rw [names_forced]
    exact distinct file source
  generalize (projection d file.fields).filterMap (fun i => (forcedSchema d file)[i]?) =
    projected at *
  rw [appendPartitionCols_eq]
  have names : (projected ++ (fresh Prod.fst (projected.map (·.name)) (hivePairs file.path)).map
      fun pair => (⟨pair.1, .utf8, false⟩ : Field)).map (·.name) = projected.map (·.name) ++
        (fresh Prod.fst (projected.map (·.name)) (hivePairs file.path)).map Prod.fst := by
    rw [List.map_append, List.map_map]
    rfl
  constructor
  · rw [names]
    exact nodup_fresh unique
  · intro row member
    obtain ⟨before, among, rfl⟩ := List.mem_map.mp member
    refine List.rel_append (typed before among) ?_
    rw [List.forall₂_map_left_iff, List.forall₂_map_right_iff, List.forall₂_same]
    exact fun _ _ => rfl
  · rw [List.forall₂_map_right_iff, List.forall₂_same]
    intro before among name
    have length : (projected.map (·.name)).length = before.length := by
      rw [List.length_map]
      exact (typed before among).length_eq
    rw [names, lookup_append length, lookup_values]
    by_cases own : name ∈ projected.map (·.name)
    · obtain ⟨cell, found⟩ := Option.isSome_iff_exists.mp (lookup_isSome length own)
      rw [found, Option.some_or, Option.some_or]
    · rw [lookup_isNone own, Option.none_or, Option.none_or, lookup_fresh own]

end

/-! ### A dataset of two cities -/

section
attribute [local instance] asciiToLowercase

def cities : Layout where
  base := ["", "data"]
  levels := [("city", "*")]
  files := "*.parquet"
  base_plain := by decide
  keys_plain := by decide
  patterns_plain := by decide
  wild := by decide

def people : Config.DatasetConfig :=
  { name := "people", source := { kind := .parquet, location := "/data/city=*/*.parquet" } }

def peopleFields : List Field := [⟨"id", .int64, true⟩]

def peopleFile (city : String) (id : Int) : ParquetFile where
  path := "/data/city=" ++ city ++ "/part.parquet"
  fields := peopleFields
  dictionaryPages := none
  read _ _ := .ok [[[.int id]]]

def peopleFiles : List ParquetFile := [peopleFile "NYC" 1, peopleFile "LA" 2]

def peopleListings : Listings where
  inferSchema _ := .ok peopleFields
  scan _ _ := []

def peoplePlaces : Places where
  place := split '/'
  isDir _ := true
  readDir place :=
    if place = ["", "data"] then
      some [(["", "data", "city=LA"], true), (["", "data", "city=NYC"], true)]
    else some [(place ++ ["part.parquet"], false)]
  listWithDelimiter place :=
    if place = ["", "data", ""] then
      some [["", "data", "", "city=LA"], ["", "data", "", "city=NYC"]]
    else some []

theorem cities_location : cities.location = "/data/city=*/*.parquet" := by decide

theorem rows_located_cities : ∃ file ∈ peopleFiles, ∃ raws raw,
    file.read (forcedSchema people file) (projection people file.fields) = .ok raws ∧ raw ∈ raws ∧
      Located file
        ((projection people file.fields).filterMap fun i => (forcedSchema people file)[i]?) raw
        ([⟨"id", .int64, true⟩, ⟨"city", .utf8, false⟩], [[.int 1, .utf8 "NYC"]]) := by
  have read : readLocalParquet people peopleFiles = .ok
      [([⟨"id", .int64, true⟩, ⟨"city", .utf8, false⟩], [[.int 1, .utf8 "NYC"]]),
        ([⟨"id", .int64, true⟩, ⟨"city", .utf8, false⟩], [[.int 2, .utf8 "LA"]])] := by rfl
  refine rows_located (fun file member => ?_) (fun file member => ?_) read List.mem_cons_self
  · rcases List.mem_pair.mp member with rfl | rfl <;> exact List.nodup_singleton _
  · rcases List.mem_pair.mp member with rfl | rfl <;>
    · rintro _ ⟨⟩ raw chosen row among
      obtain rfl := List.mem_singleton.mp chosen
      obtain rfl := List.mem_singleton.mp among
      exact .cons rfl .nil

/-- The paths of the two files below the directory. -/
def peoplePaths : List (List String) := [["city=NYC", "part.parquet"], ["city=LA", "part.parquet"]]

theorem mem_peoplePaths {dirs rest : List String} {name : String} :
    dirs ++ name :: rest ∈ peoplePaths ↔
      dirs = [] ∧ (name = "city=NYC" ∨ name = "city=LA") ∧ rest = ["part.parquet"] ∨
        (dirs = ["city=NYC"] ∨ dirs = ["city=LA"]) ∧ name = "part.parquet" ∧ rest = [] := by
  rw [peoplePaths, List.mem_pair]
  rcases dirs with _ | ⟨first, _ | ⟨second, more⟩⟩
  · simp; tauto
  · simp; tauto
  · simp

theorem mirrors_peoplePaths {list : List String → Option (List (List String))} {base : List String}
    (top : list base = some [base ++ ["city=LA"], base ++ ["city=NYC"]])
    (inside : ∀ dirs, dirs ≠ [] → list (base ++ dirs) = some []) :
    Mirrors list base peoplePaths := by
  constructor
  · intro dirs name rest _
    by_cases here : dirs = []
    · rw [here, List.append_nil, top]
      exact Option.some_ne_none _
    · rw [inside dirs here]
      exact Option.some_ne_none _
  · intro dirs name next rest subs file listed
    rcases mem_peoplePaths.mp file with ⟨rfl, named, _⟩ | ⟨_, _, none⟩
    · rw [List.append_nil, top, Option.some.injEq] at listed
      subst listed
      rcases named with rfl | rfl <;> simp
    · cases none
  · intro dirs subs sub listed member
    by_cases here : dirs = []
    · subst here
      rw [List.append_nil, top, Option.some.injEq] at listed
      subst listed
      rcases List.mem_pair.mp member with rfl | rfl
      · exact ⟨"city=LA", by simp, fun _ => ⟨"part.parquet", [], mem_peoplePaths.mpr (by simp)⟩⟩
      · exact ⟨"city=NYC", by simp, fun _ => ⟨"part.parquet", [], mem_peoplePaths.mpr (by simp)⟩⟩
    · rw [inside dirs here, Option.some.injEq] at listed
      subst listed
      cases member

theorem lazy_locations_agree_cities : ∃ built,
    let folder := rooted people cities.root
    (buildLazyLocalParquet peopleListings people peoplePlaces 2 = .ok built ↔
        buildLazyLocalParquet peopleListings folder peoplePlaces 2 = .ok built) ∧
      (buildLazyS3Parquet peopleListings people peoplePlaces 2 = .ok built ↔
        buildLazyS3Parquet peopleListings folder peoplePlaces 2 = .ok built) := by
  have each : ∀ file ∈ peoplePaths, Follows cities.keys file := by
    intro file member
    rcases List.mem_pair.mp member with rfl | rfl
    · exact ⟨["city=NYC"], "part.parquet", rfl, .cons ⟨"NYC", by decide⟩ .nil⟩
    · exact ⟨["city=LA"], "part.parquet", rfl, .cons ⟨"LA", by decide⟩ .nil⟩
  have disk : Mirrors peoplePlaces.directories (peoplePlaces.place cities.root) peoplePaths := by
    have place : peoplePlaces.place cities.root = ["", "data"] := by decide
    rw [place]
    refine mirrors_peoplePaths (by decide) fun dirs here => ?_
    simp [Places.directories, peoplePlaces, here]
  have bucket : Mirrors peoplePlaces.listWithDelimiter
      (peoplePlaces.place (withSlash cities.root)) peoplePaths := by
    have place : peoplePlaces.place (withSlash cities.root) = ["", "data", ""] := by decide
    rw [place]
    refine mirrors_peoplePaths (by decide) fun dirs here => ?_
    simp [peoplePlaces, here]
  obtain ⟨built, _⟩ : ∃ built,
      buildLazyLocalParquet peopleListings people peoplePlaces 2 = .ok built := ⟨_, rfl⟩
  exact ⟨built, lazy_locations_agree cities_location.symm (by decide) each (by decide) rfl
    (by decide) disk bucket built⟩

end

end Datapress.DataFusion.Discovery
