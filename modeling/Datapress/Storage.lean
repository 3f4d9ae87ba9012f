import Mathlib.Data.List.AList
import Mathlib.Data.String.Basic
import Datapress.Library.Newest

/-! The storage that materialized generations are written to: one directory for each
generation of a dataset, which is complete when it has a manifest. -/
namespace Datapress.Storage

/-- `fnv1a_hash`, over the bytes of the text. -/
def fnv1aHash (data : String) : UInt64 :=
  (data.toList.flatMap String.utf8EncodeChar).foldl
    (fun hash byte => (hash ^^^ byte.toUInt64) * 1099511628211) 14695981039346656037

inductive StorageBackendKind where
  | local
  | s3
deriving Repr, DecidableEq

structure MaterializationStorage where
  backend : StorageBackendKind
  forceLazyAboveMb : UInt64
deriving Repr, DecidableEq

/-- The bytes above which a result is written to storage. -/
def MaterializationStorage.threshold (storage : MaterializationStorage) : Nat :=
  min (storage.forceLazyAboveMb.toNat * (1024 * 1024)) (2 ^ 64 - 1)

/-- Where a generation of a query dataset resides. -/
inductive MaterializeResidency where
  | auto
  | memory
  | lazy
deriving Repr, DecidableEq

structure MaterializeConfig where
  residency : MaterializeResidency := .auto
  sortBy : List String := []
  reuseOnStart : Bool := false
deriving Repr, DecidableEq

/-- What a build reads of the configuration of a query dataset. -/
structure QueryDataset where
  name : String
  sql : Option String
  materialize : Option MaterializeConfig := none
deriving Repr, DecidableEq

namespace QueryDataset

def residency (d : QueryDataset) : MaterializeResidency :=
  (d.materialize.map (·.residency)).getD .auto

def sortBy (d : QueryDataset) : List String := (d.materialize.map (·.sortBy)).getD []

def reuses (d : QueryDataset) : Bool := d.materialize.any (·.reuseOnStart)

end QueryDataset

structure GenerationManifest where
  sqlHash : UInt64
  schemaHash : UInt64
deriving Repr, DecidableEq

/-- The directory of a generation. -/
structure Generation (Rows : Type) where
  rows : Rows
  manifest : Option GenerationManifest := none
deriving Repr

/-- The generations of one dataset by their ids. -/
abbrev DatasetDir (Rows : Type) := AList fun _ : String => Generation Rows

namespace DatasetDir
variable {Rows : Type}

/-- The generations that a manifest seals, in the order of their ids. -/
def listCompleteGenerations (dir : DatasetDir Rows) : List (String × GenerationManifest) :=
  (dir.entries.filterMap fun entry => entry.2.manifest.map (entry.1, ·)).insertionSort
    fun a b => a.1 ≤ b.1

/-- The ids of the complete generations. -/
def complete (dir : DatasetDir Rows) : List String :=
  (dir.entries.filter fun entry => entry.2.manifest.isSome).map (·.1)

def keepOnly (dir : DatasetDir Rows) (keep : String → Generation Rows → Bool) : DatasetDir Rows where
  entries := dir.entries.filter fun entry => keep entry.1 entry.2
  nodupKeys := dir.nodupKeys.sublist List.filter_sublist

/-- Deletes incomplete generations and those that are not to be kept, except where the
removal of a directory fails. -/
def gcGenerations (dir : DatasetDir Rows) (keepIds stuck : List String) : DatasetDir Rows :=
  dir.keepOnly fun id generation =>
    generation.manifest.isSome && keepIds.contains id || stuck.contains id

/-- The two complete generations with the greatest ids. -/
def newestTwo (dir : DatasetDir Rows) : List String :=
  (dir.listCompleteGenerations.reverse.take 2).map (·.1)

/-! ### Lookups -/

theorem lookup_keepOnly {dir : DatasetDir Rows} {keep : String → Generation Rows → Bool}
    {id : String} : (dir.keepOnly keep).lookup id = (dir.lookup id).filter (keep id) := by
  ext generation
  have after := List.mem_dlookup_iff (dir.keepOnly keep).nodupKeys (a := id) (b := generation)
  have before := List.mem_dlookup_iff dir.nodupKeys (a := id) (b := generation)
  rw [Option.mem_def] at after before
  rw [AList.lookup, AList.lookup, Option.filter_eq_some_iff, after, before, keepOnly,
    List.mem_filter]

theorem mem_listCompleteGenerations {dir : DatasetDir Rows} {id : String}
    {manifest : GenerationManifest} : (id, manifest) ∈ dir.listCompleteGenerations ↔
      ∃ generation, dir.lookup id = some generation ∧ generation.manifest = some manifest := by
  rw [listCompleteGenerations, (List.perm_insertionSort _ _).mem_iff, List.mem_filterMap]
  constructor
  · rintro ⟨⟨_, generation⟩, member, listed⟩
    obtain ⟨_, sealed, same⟩ := Option.map_eq_some_iff.mp listed
    cases same
    exact ⟨generation, AList.mem_lookup_iff.mpr member, sealed⟩
  · rintro ⟨generation, found, sealed⟩
    exact ⟨⟨id, generation⟩, AList.mem_lookup_iff.mp found, congrArg (Option.map _) sealed⟩

theorem mem_complete {dir : DatasetDir Rows} {id : String} : id ∈ dir.complete ↔
    ∃ generation, dir.lookup id = some generation ∧ generation.manifest.isSome := by
  simp only [complete, List.mem_map, List.mem_filter]
  constructor
  · rintro ⟨⟨_, generation⟩, ⟨member, sealed⟩, rfl⟩
    exact ⟨generation, AList.mem_lookup_iff.mpr member, sealed⟩
  · rintro ⟨generation, found, sealed⟩
    exact ⟨⟨id, generation⟩, ⟨AList.mem_lookup_iff.mp found, sealed⟩, rfl⟩

theorem mem_of_complete {dir : DatasetDir Rows} {id : String} (sealed : id ∈ dir.complete) :
    id ∈ dir := by
  obtain ⟨generation, found, _⟩ := mem_complete.mp sealed
  exact AList.lookup_isSome.mp (by rw [found]; rfl)

theorem complete_insert_ne {dir : DatasetDir Rows} {id other : String} {generation : Generation Rows}
    (apart : other ≠ id) : other ∈ complete (dir.insert id generation) ↔ other ∈ dir.complete := by
  rw [mem_complete, mem_complete, AList.lookup_insert_ne apart]

theorem nodup_complete (dir : DatasetDir Rows) : dir.complete.Nodup :=
  List.Nodup.sublist (List.filter_sublist.map _) dir.nodupKeys

/-- A generation that is not counted can be added. -/
theorem countP_complete_insert {dir : DatasetDir Rows} {id : String} {generation : Generation Rows}
    {counted : String → Bool} (uncounted : counted id = false) :
    (complete (dir.insert id generation)).countP counted = dir.complete.countP counted := by
  rw [List.countP_eq_length_filter, List.countP_eq_length_filter]
  refine List.Perm.length_eq ((List.perm_ext_iff_of_nodup ((nodup_complete _).filter _)
    ((nodup_complete _).filter _)).mpr fun other => ?_)
  rw [List.mem_filter, List.mem_filter]
  by_cases same : other = id
  · rw [same, uncounted]
    simp
  · rw [complete_insert_ne same]

theorem map_listCompleteGenerations (dir : DatasetDir Rows) :
    dir.listCompleteGenerations.map (·.1) = dir.complete.insertionSort (· ≤ ·) := by
  have ids : (dir.entries.filterMap fun entry => entry.2.manifest.map (entry.1, ·)).map (·.1) =
      dir.complete := by
    rw [complete]
    induction dir.entries with
    | nil => rfl
    | cons entry rest ih =>
        cases sealed : entry.2.manifest with
        | none => simpa [sealed] using ih
        | some manifest => simpa [sealed] using ih
  rw [listCompleteGenerations, List.map_insertionSort _ (· ≤ ·), ids]
  intro a _ b _
  exact Iff.rfl

/-- A complete generation is among the newest two when fewer than two complete ones have
greater ids. -/
theorem complete_subset {dir : DatasetDir Rows} : dir.complete ⊆ dir.keys :=
  List.Sublist.subset (List.filter_sublist.map _)

theorem newestTwo_eq (dir : DatasetDir Rows) : dir.newestTwo = Newest.newest 2 dir.complete := by
  rw [newestTwo, Newest.newest, ← map_listCompleteGenerations, List.map_take, List.map_reverse]

theorem mem_newestTwo {dir : DatasetDir Rows} {id : String} :
    id ∈ dir.newestTwo ↔ id ∈ dir.complete ∧ dir.complete.countP (id < ·) < 2 := by
  rw [newestTwo_eq, Newest.mem_newest dir.nodup_complete]

theorem mem_gcGenerations {dir : DatasetDir Rows} {keepIds stuck : List String} {id : String} :
    id ∈ dir.gcGenerations keepIds stuck ↔
      id ∈ dir ∧ (id ∈ dir.complete ∧ id ∈ keepIds ∨ id ∈ stuck) := by
  rw [← AList.lookup_isSome, ← AList.lookup_isSome, gcGenerations, lookup_keepOnly, mem_complete]
  cases dir.lookup id with
  | none => simp
  | some generation => simp [Option.filter]

/-- The collector changes no generation it leaves. -/
theorem lookup_gcGenerations {dir : DatasetDir Rows} {keepIds stuck : List String} {id : String}
    {generation : Generation Rows}
    (found : (dir.gcGenerations keepIds stuck).lookup id = some generation) :
    dir.lookup id = some generation := by
  rw [gcGenerations, lookup_keepOnly] at found
  exact (Option.filter_eq_some_iff.mp found).1

/-! ### The ids of the generations -/

theorem complete_insert_of_notMem {dir : DatasetDir Rows} {id : String} {generation : Generation Rows}
    (new : id ∉ dir) : complete (dir.insert id generation) =
      if generation.manifest.isSome then id :: dir.complete else dir.complete := by
  rw [complete, AList.entries_insert_of_notMem new, List.filter_cons]
  cases generation.manifest.isSome <;> rfl

theorem keys_insert_of_notMem {dir : DatasetDir Rows} {id : String} {generation : Generation Rows}
    (new : id ∉ dir) : (dir.insert id generation).keys = id :: dir.keys := by
  rw [AList.keys_insert, List.erase_of_not_mem new]

/-- What the collector leaves, by its id. -/
def left (dir : DatasetDir Rows) (keepIds stuck : List String) (id : String) : Bool :=
  dir.complete.contains id && keepIds.contains id || stuck.contains id

theorem contains_complete {dir : DatasetDir Rows} {entry : Sigma fun _ : String => Generation Rows}
    (member : entry ∈ dir.entries) :
    dir.complete.contains entry.1 = entry.2.manifest.isSome := by
  have found : dir.lookup entry.1 = some entry.2 := AList.mem_lookup_iff.mpr member
  rw [Bool.eq_iff_iff, List.contains_iff_mem, mem_complete]
  constructor
  · rintro ⟨generation, same, isSealed⟩
    rwa [← Option.some.inj (found.symm.trans same)] at isSealed
  · intro isSealed
    exact ⟨entry.2, found, isSealed⟩

theorem entries_gcGenerations {dir : DatasetDir Rows} {keepIds stuck : List String} :
    (dir.gcGenerations keepIds stuck).entries =
      dir.entries.filter fun entry => dir.left keepIds stuck entry.1 := by
  refine List.filter_congr fun entry member => ?_
  rw [left, contains_complete member]

theorem keys_gcGenerations {dir : DatasetDir Rows} {keepIds stuck : List String} :
    AList.keys (dir.gcGenerations keepIds stuck) = dir.keys.filter (dir.left keepIds stuck) := by
  simp only [AList.keys, List.keys, entries_gcGenerations, List.filter_map]
  rfl

theorem complete_gcGenerations {dir : DatasetDir Rows} {keepIds stuck : List String} :
    complete (dir.gcGenerations keepIds stuck) = dir.complete.filter (dir.left keepIds stuck) := by
  rw [complete, entries_gcGenerations, complete, List.filter_map, List.filter_filter,
    List.filter_filter]
  refine congrArg _ (List.filter_congr fun entry _ => Bool.and_comm _ _)

end DatasetDir
end Datapress.Storage
