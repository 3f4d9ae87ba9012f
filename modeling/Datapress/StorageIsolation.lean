import Mathlib.Data.List.Sort
import Datapress.Library.FileTree
import Datapress.Refresh.Dependencies
import Datapress.Ulid

/-! The files that the storage of generations keeps on disk, dataset by dataset below one root,
and the files that managed datasets are kept in. -/
namespace Datapress.Storage
open FileTree

/-! ### Paths -/

def datasetDir (root dataset : String) : String := join root dataset

def generationDir (root dataset genId : String) : String := join (join root dataset) genId

inductive StorageFile where
  | manifest
  | data
  | demoted
deriving Repr, DecidableEq

def StorageFile.name : StorageFile → String
  | manifest => "manifest.json"
  | data => "data-0.parquet"
  | demoted => "data-main.parquet"

/-- The file that a managed dataset is written to and removed from. -/
def managedFile (dir name : String) : String := join dir s!"{name}.toml"

/-- The text of `obj_path` below a local root. -/
def objPath (dataset genId fileName : String) : String := s!"{dataset}/{genId}/{fileName}"

/-- The file system below the server. The object store of a local root turns the text of a path
into the place of a file below the root, and `parses` tells the manifests from other texts. -/
structure Disk where
  fs : FileSystem
  objects : String → Place
  parses : String → Bool

def nameChar (c : Char) : Bool := c.isAlphanum || c == '_' || c == '-' || c == '.'

/-- A name of the characters that dataset names have, apart from `.` and `..`. -/
def Plain (name : String) : Prop := Named name ∧ ∀ c ∈ name.toList, nameChar c

/-- The object store encodes special characters, and `.` and `..`, and takes plain segments as
they are. -/
def Disk.Direct (disk : Disk) : Prop :=
  ∀ dataset genId fileName, Plain dataset → Plain genId → Plain fileName →
    disk.objects (objPath dataset genId fileName) =
      [disk.fs.fold dataset, disk.fs.fold genId, disk.fs.fold fileName]

/-! ### Operations -/

/-- What a server does to the storage of a dataset: the object store writes the data of
DataFusion, `COPY TO` that of DuckDB; the manifests are written by the server itself. The id of a
generation comes of the clock and of an address. -/
inductive Operation where
  | putObject (millis address : UInt64) (file : StorageFile) (content : String)
  | writeFile (millis address : UInt64) (file : StorageFile) (content : String)
  | list
  | collect (keepIds : List String) (stuck : Place → Bool)
  | unregister (stuck : Place → Bool)

namespace Disk
variable (disk : Disk) (root : String)

/-- `GenerationManifest::read` succeeds. -/
def complete (tree : Files String) (generation : Place) : Bool :=
  (tree.lookup (generation ++ [disk.fs.fold "manifest.json"])).any disk.parses

/-- `list_complete_generations` by their ids. -/
def listCompleteGenerations (dataset : String) (tree : Files String) : List String :=
  let dir := disk.fs.locate (datasetDir root dataset)
  ((tree.directories dir).filter fun genId => disk.complete tree (dir ++ [genId])).insertionSort
    (· ≤ ·)

/-- `gc_generations`. -/
def gcGenerations (dataset : String) (keepIds : List String) (stuck : Place → Bool)
    (tree : Files String) : Files String :=
  let dir := disk.fs.locate (datasetDir root dataset)
  (tree.directories dir).foldl (fun tree genId =>
    let incomplete := !disk.complete tree (dir ++ [genId])
    let old := !keepIds.contains genId
    if incomplete || old then tree.removeAll (dir ++ [genId]) stuck else tree) tree

/-- `boot_gc_storage` keeps the two newest complete generations of each query dataset. -/
def bootGcStorage (datasets : List String) (stuck : Place → Bool) (tree : Files String) :
    Files String :=
  datasets.foldl (fun tree dataset =>
    let gens := disk.listCompleteGenerations root dataset tree
    disk.gcGenerations root dataset (gens.reverse.take 2) stuck tree) tree

def run (dataset : String) : Operation → Files String → Files String
  | .putObject millis address file content, tree =>
    tree.insert (disk.fs.locate root ++
      disk.objects (objPath dataset (newUlid millis address) file.name)) content
  | .writeFile millis address file content, tree =>
    let dir := generationDir root dataset (newUlid millis address)
    tree.insert (disk.fs.locate (join dir file.name)) content
  | .list, tree => tree
  | .collect keepIds stuck, tree => disk.gcGenerations root dataset keepIds stuck tree
  | .unregister stuck, tree => tree.removeAll (disk.fs.locate (datasetDir root dataset)) stuck

/-- The places that an operation writes, lists, reads or removes. -/
def touches (dataset : String) (tree : Files String) : Operation → List Place
  | .putObject millis address file _ =>
    [disk.fs.locate root ++ disk.objects (objPath dataset (newUlid millis address) file.name)]
  | .writeFile millis address file _ =>
    let dir := generationDir root dataset (newUlid millis address)
    [disk.fs.locate dir, disk.fs.locate (join dir file.name)]
  | .list | .collect _ _ =>
    let dir := disk.fs.locate (datasetDir root dataset)
    dir :: (tree.directories dir).flatMap fun genId =>
      [dir ++ [genId], dir ++ [genId, disk.fs.fold "manifest.json"]]
  | .unregister _ => [disk.fs.locate (datasetDir root dataset)]

end Disk

/-- The operations on a dataset stay in its directory, which is one name below the root, and
leave the files of another dataset alone; its managed file is directly in the managed
directory. -/
structure Isolated (disk : Disk) (root name other : String) : Prop where
  inside : ∀ operation tree, ∀ place ∈ disk.touches root name tree operation,
    ∃ below, place = disk.fs.locate root ++ disk.fs.fold name :: below
  frame : ∀ operation tree, Files.SameOutside (disk.fs.locate root ++ [disk.fs.fold name]) tree
    (disk.run root name operation tree)
  others : ∀ operation tree place, Below (disk.fs.locate (datasetDir root other)) place →
    (disk.run root name operation tree).lookup place = tree.lookup place
  managed : ∀ dir, disk.fs.locate (managedFile dir name) =
    disk.fs.locate dir ++ [disk.fs.fold s!"{name}.toml"]

/-! ### Names -/

open Refresh (checkName)

section
variable {error : String → AppError} {name other : String}

theorem checkName_ok (accepted : checkName error name = .ok ()) :
    name ≠ "" ∧ ∀ c ∈ name.toList, nameChar c := by
  unfold checkName at accepted
  split at accepted
  · cases accepted
  rename_i occupied
  split at accepted
  · cases accepted
  rename_i letters
  constructor
  · rintro rfl
    exact occupied rfl
  · rw [Bool.not_eq_true, Bool.not_eq_false'] at letters
    exact List.all_eq_true.mp letters

theorem no_slash {text : String} (letters : ∀ c ∈ text.toList, nameChar c) : '/' ∉ text.toList :=
  fun slash => absurd (letters '/' slash) (by decide)

theorem plain_iff (accepted : checkName error name = .ok ()) :
    Plain name ↔ name ≠ "." ∧ name ≠ ".." := by
  obtain ⟨occupied, letters⟩ := checkName_ok accepted
  constructor
  · rintro ⟨⟨_, notHere, notUp⟩, _⟩
    exact ⟨notHere, notUp⟩
  · rintro ⟨notHere, notUp⟩
    exact ⟨⟨occupied, notHere, notUp⟩, letters⟩

theorem newUlid_plain (millis address : UInt64) : Plain (newUlid millis address) := by
  have length : (newUlid millis address).toList.length = 26 := length_encodeUlid _ _
  have letters : ∀ c ∈ b32, nameChar c = true := List.all_eq_true.mp rfl
  refine ⟨⟨?_, ?_, ?_⟩, fun c member => letters c (mem_b32_of_encodeUlid member)⟩
  · intro same
    simp [same] at length
  · intro same
    simp [same] at length
  · intro same
    simp [same] at length

theorem StorageFile.plain (file : StorageFile) : Plain file.name := by
  have letters : file.name.toList.all nameChar = true := by
    cases file <;> rfl
  have named : Named file.name := by
    cases file <;> exact ⟨by decide, by decide, by decide⟩
  exact ⟨named, List.all_eq_true.mp letters⟩

end

/-! ### Places -/

section
variable {disk : Disk} {root name other : String}

theorem locate_plain {base part : String} (plain : Plain part) :
    disk.fs.locate (join base part) = disk.fs.locate base ++ [disk.fs.fold part] := by
  rw [locate_join (no_slash plain.2), walk_named plain.1]

theorem locate_file (plain : Plain name) (millis address : UInt64) (file : StorageFile) :
    disk.fs.locate (join (generationDir root name (newUlid millis address)) file.name) =
      disk.fs.locate root ++ disk.fs.fold name ::
        [disk.fs.fold (newUlid millis address), disk.fs.fold file.name] := by
  rw [locate_plain file.plain, generationDir, locate_plain (newUlid_plain millis address),
    locate_plain plain]
  simp

/-- Removing generations changes nothing outside the directory of the dataset. -/
theorem gcGenerations_outside (plain : Plain name) (keepIds : List String)
    (stuck : Place → Bool) (tree : Files String) :
    Files.SameOutside (disk.fs.locate root ++ [disk.fs.fold name]) tree
      (disk.gcGenerations root name keepIds stuck tree) := by
  unfold Disk.gcGenerations
  rw [datasetDir, locate_plain plain]
  dsimp only
  generalize tree.directories _ = ids
  induction ids generalizing tree with
  | nil => exact .refl tree
  | cons genId rest ih =>
      rw [List.foldl_cons]
      apply Files.SameOutside.trans _ (ih _)
      split
      · exact .removeAll stuck
      · exact .refl tree

theorem run_outside (direct : disk.Direct) (plain : Plain name) (operation : Operation)
    (tree : Files String) : Files.SameOutside (disk.fs.locate root ++ [disk.fs.fold name]) tree
      (disk.run root name operation tree) := by
  have written (millis address : UInt64) (file : StorageFile) (content : String) :
      Files.SameOutside (disk.fs.locate root ++ [disk.fs.fold name]) tree
        (tree.insert (disk.fs.locate root ++ disk.fs.fold name ::
          [disk.fs.fold (newUlid millis address), disk.fs.fold file.name]) content) := by
    generalize disk.fs.fold (newUlid millis address) = genId
    rw [List.append_cons _ _ [genId, disk.fs.fold file.name]]
    exact .insert content
  cases operation with
  | putObject millis address file content =>
      rw [Disk.run, direct _ _ _ plain (newUlid_plain millis address) file.plain]
      exact written millis address file content
  | writeFile millis address file content =>
      rw [Disk.run, locate_file plain]
      exact written millis address file content
  | list => exact .refl tree
  | collect keepIds stuck => exact gcGenerations_outside plain keepIds stuck tree
  | unregister stuck =>
      rw [Disk.run, datasetDir, locate_plain plain]
      have removed := @Files.SameOutside.removeAll _ (disk.fs.locate root ++ [disk.fs.fold name])
        tree [] stuck
      rwa [List.append_nil] at removed

theorem touches_inside (direct : disk.Direct) (plain : Plain name) (operation : Operation)
    (tree : Files String) : ∀ place ∈ disk.touches root name tree operation,
      ∃ below, place = disk.fs.locate root ++ disk.fs.fold name :: below := by
  have dir : disk.fs.locate (datasetDir root name) =
      disk.fs.locate root ++ [disk.fs.fold name] := locate_plain plain
  have listed : ∀ place ∈ disk.fs.locate (datasetDir root name) ::
      (tree.directories (disk.fs.locate (datasetDir root name))).flatMap (fun genId =>
        [disk.fs.locate (datasetDir root name) ++ [genId],
          disk.fs.locate (datasetDir root name) ++ [genId, disk.fs.fold "manifest.json"]]),
      ∃ below, place = disk.fs.locate root ++ disk.fs.fold name :: below := by
    intro place member
    rcases List.mem_cons.mp member with same | member
    · rw [same]
      exact ⟨[], dir⟩
    · obtain ⟨genId, _, here⟩ := List.mem_flatMap.mp member
      rw [dir] at here
      rcases List.mem_pair.mp here with same | same
      · rw [same]
        exact ⟨[genId], by simp⟩
      · rw [same]
        exact ⟨[genId, disk.fs.fold "manifest.json"], by simp⟩
  intro place member
  cases operation with
  | putObject millis address file content =>
      rw [Disk.touches, direct _ _ _ plain (newUlid_plain millis address) file.plain] at member
      exact ⟨[disk.fs.fold (newUlid millis address), disk.fs.fold file.name],
        List.mem_singleton.mp member⟩
  | writeFile millis address file content =>
      dsimp only [Disk.touches] at member
      rcases List.mem_pair.mp member with same | same
      · rw [same, generationDir, locate_plain (newUlid_plain millis address), locate_plain plain]
        exact ⟨[disk.fs.fold (newUlid millis address)], by simp⟩
      · rw [same, locate_file plain]
        exact ⟨[disk.fs.fold (newUlid millis address), disk.fs.fold file.name], rfl⟩
  | list => exact listed place member
  | collect keepIds stuck => exact listed place member
  | unregister stuck =>
      rw [List.mem_singleton.mp member]
      exact ⟨[], dir⟩

/-- The directory of a dataset whose name is not one for the file system holds the root. -/
theorem locate_dots (dots : name = "." ∨ name = "..") :
    disk.fs.locate (datasetDir root name) <+: disk.fs.locate root := by
  rcases dots with rfl | rfl
  · have stays : disk.fs.locate (datasetDir root ".") = disk.fs.locate root := by
      rw [datasetDir, locate_join (by decide), FileSystem.walk, if_pos (.inr rfl)]
    exact ⟨[], by rw [List.append_nil, stays]⟩
  · rw [datasetDir, locate_join (by decide), FileSystem.walk, if_neg (by decide), if_pos rfl]
    exact List.dropLast_prefix _

/-- No name makes the managed file leave its directory. -/
theorem locate_managed {error : String → AppError} (accepted : checkName error name = .ok ())
    (dir : String) : disk.fs.locate (managedFile dir name) =
      disk.fs.locate dir ++ [disk.fs.fold s!"{name}.toml"] := by
  have text : s!"{name}.toml".toList = name.toList ++ ".toml".toList := String.toList_append
  have long : s!"{name}.toml".toList.length ≥ 5 := by
    rw [text, List.length_append]
    exact Nat.le_add_left 5 _
  have simple : '/' ∉ s!"{name}.toml".toList := by
    rw [text, List.mem_append, not_or]
    exact ⟨no_slash (checkName_ok accepted).2, by decide⟩
  rw [managedFile, locate_join simple, walk_named]
  refine ⟨?_, ?_, ?_⟩ <;> intro same <;> rw [same] at long <;> exact absurd long (by decide)

/-- The files of two datasets stay apart exactly when the names of both are names for the file
system, and different ones. -/
theorem isolated_iff (direct : disk.Direct) {error : String → AppError}
    (accepted : checkName error name = .ok ()) (accepted' : checkName error other = .ok ())
    (root : String) : Isolated disk root name other ↔ (name ≠ "." ∧ name ≠ "..") ∧
      (other ≠ "." ∧ other ≠ "..") ∧ disk.fs.fold name ≠ disk.fs.fold other := by
  constructor
  · intro isolated
    have named : name ≠ "." ∧ name ≠ ".." := by
      rw [← not_or]
      intro dots
      obtain ⟨below, same⟩ := isolated.inside (.unregister fun _ => false) ∅ _
        (List.mem_singleton_self _)
      have above : disk.fs.locate (datasetDir root name) <+: disk.fs.locate root :=
        locate_dots dots
      have short := above.length_le
      rw [same, List.length_append, List.length_cons] at short
      omega
    -- a file of the one dataset is not in the directory of the other
    have written (inside : Below (disk.fs.locate (datasetDir root other))
        (disk.fs.locate root ++ disk.fs.fold name ::
          [disk.fs.fold (newUlid 0 0), disk.fs.fold StorageFile.data.name])) : False := by
      have same := isolated.others (.writeFile 0 0 .data "") ∅ _ inside
      rw [Disk.run, locate_file ((plain_iff accepted).mpr named), AList.lookup_insert] at same
      cases same
    have named' : other ≠ "." ∧ other ≠ ".." := by
      rw [← not_or]
      intro dots
      have above : disk.fs.locate (datasetDir root other) <+: disk.fs.locate root :=
        locate_dots dots
      obtain ⟨rest, same⟩ := above
      apply written
      apply @Below.of_append _ _ rest
      rw [same]
      exact ⟨_, _, rfl⟩
    refine ⟨named, named', ?_⟩
    intro same
    apply written
    rw [datasetDir, locate_plain ((plain_iff accepted').mpr named'), ← same]
    exact ⟨_, _, List.append_cons _ _ _⟩
  · rintro ⟨named, named', different⟩
    have plain := (plain_iff accepted).mpr named
    have plain' := (plain_iff accepted').mpr named'
    refine {
      inside := touches_inside direct plain, frame := run_outside direct plain
      others := fun operation tree place inside => ?_, managed := locate_managed accepted }
    apply run_outside direct plain operation tree
    intro inside'
    obtain ⟨_, _, one⟩ := inside
    obtain ⟨_, _, two⟩ := inside'
    rw [one, datasetDir, locate_plain plain', List.append_assoc, List.append_assoc,
      List.append_cancel_left_eq] at two
    exact different (List.cons.inj two).1.symm

end

/-! ### Runs -/

section

/-- A disk that tells lower from upper case. -/
def unixDisk : Disk where
  fs := { cwd := [], fold := id }
  objects := FileSystem.locate { cwd := [], fold := id }
  parses text := text == "{}"

theorem join_open {base part : String} (some : base ≠ "")
    (last : base.toList.getLast? ≠ .some '/') (simple : '/' ∉ part.toList) :
    join base part = base ++ "/" ++ part := by
  have relative : absolute part = false := by
    rw [absolute, beq_eq_false_iff_ne]
    intro first
    exact simple (List.mem_of_head? first)
  rw [join, relative, if_neg (by decide), if_neg (by simp [some, last])]

theorem last_plain {text : String} (plain : Plain text) : text.toList.getLast? ≠ some '/' := by
  intro last
  exact no_slash plain.2 (List.mem_of_getLast? last)

theorem unixDisk_direct : unixDisk.Direct := by
  intro dataset genId fileName plain plain' plain''
  have start : join "" dataset = dataset := by
    rw [join]
    split
    · rfl
    · rw [if_pos (.inl rfl), String.empty_append]
  have inner : join dataset genId = dataset ++ "/" ++ genId :=
    join_open plain.1.1 (last_plain plain) (no_slash plain'.2)
  have outer : join (dataset ++ "/" ++ genId) fileName = dataset ++ "/" ++ genId ++ "/" ++ fileName := by
    have some : genId.toList ≠ [] := fun none => plain'.1.1 (String.toList_eq_nil_iff.mp none)
    apply join_open
    · simp
    · rw [String.toList_append, List.getLast?_append_of_ne_nil _ some]
      exact last_plain plain'
    · exact no_slash plain''.2
  have text : objPath dataset genId fileName = join (join (join "" dataset) genId) fileName := by
    rw [start, inner, outer]
    rfl
  have objects : unixDisk.objects = unixDisk.fs.locate := rfl
  rw [objects, text, locate_plain plain'', locate_plain plain', locate_plain plain]
  rfl

def ordersManifest : Place :=
  ["srv", "storage", "orders", "01ARZ3NDEKTSV4RRFFQ69G5FAV", "manifest.json"]

def ordersTree : Files String := AList.singleton ordersManifest "{}"

theorem isolated_iff_orders : checkName .internal "orders" = .ok () ∧
    checkName .internal "Orders" = .ok () ∧
      Isolated unixDisk "/srv/storage" "orders" "Orders" := by
  have accepted : checkName .internal "orders" = .ok () := rfl
  have accepted' : checkName .internal "Orders" = .ok () := rfl
  have apart : unixDisk.fs.fold "orders" ≠ unixDisk.fs.fold "Orders" := by decide
  refine ⟨accepted, accepted', ?_⟩
  apply (isolated_iff unixDisk_direct accepted accepted' "/srv/storage").mpr
  exact ⟨by decide, by decide, apart⟩

/-- A dataset named `.` is collected at the start, and takes the generations of the others with
it. -/
theorem dot_removes_orders :
    checkName .internal "." = .ok () ∧ checkName .internal "orders" = .ok () ∧
      ordersTree.lookup ordersManifest = some "{}" ∧
      (unixDisk.bootGcStorage "/srv/storage" [".", "orders"] (fun _ => false)
        ordersTree).lookup ordersManifest = none ∧
      ¬ Isolated unixDisk "/srv/storage" "." "orders" := by
  have dir : unixDisk.fs.locate (datasetDir "/srv/storage" ".") = ["srv", "storage"] := by decide
  have ids : ordersTree.directories ["srv", "storage"] = ["orders"] := by decide
  have unsealed : unixDisk.complete ordersTree ["srv", "storage", "orders"] = false := by decide
  have removed : unixDisk.gcGenerations "/srv/storage" "." [] (fun _ => false) ordersTree =
      ordersTree.removeAll ["srv", "storage", "orders"] fun _ => false := by
    unfold Disk.gcGenerations
    dsimp only
    rw [dir, ids, List.foldl_cons, List.foldl_nil, List.cons_append, List.cons_append,
      List.nil_append, unsealed]
    rfl
  have gone : (ordersTree.removeAll ["srv", "storage", "orders"] fun _ => false).lookup
      ordersManifest = none := by decide
  have none_left : (ordersTree.removeAll ["srv", "storage", "orders"] fun _ => false).directories
      (unixDisk.fs.locate (datasetDir "/srv/storage" "orders")) = [] := by decide
  refine ⟨rfl, rfl, by decide, ?_, ?_⟩
  · have listed : unixDisk.listCompleteGenerations "/srv/storage" "." ordersTree = [] := by
      unfold Disk.listCompleteGenerations
      dsimp only
      rw [dir, ids, List.filter_cons, List.cons_append, List.cons_append, List.nil_append, unsealed]
      rfl
    rw [Disk.bootGcStorage, List.foldl_cons, List.foldl_cons, List.foldl_nil]
    dsimp only
    rw [listed, List.reverse_nil, List.take_nil, removed, Disk.gcGenerations, none_left]
    exact gone
  · intro isolated
    have kept := isolated.others (.collect [] fun _ => false) ordersTree ordersManifest
      (by decide)
    rw [Disk.run, removed, gone] at kept
    cases kept

end

end Datapress.Storage
