import Datapress.Library.Lists

/-!
Relations some of whose columns are hidden, and what happens to them when the values of the hidden
columns are masked. Nothing here depends on a particular program.
-/
namespace Relational

/-- The mark on a hidden column is for reasoning only: no operation looks at it. -/
structure Column where
  qualifier : String
  name : String
  hidden : Bool := false
deriving DecidableEq, Repr

structure Cell (Value : Type) where
  column : Column
  value : Value
deriving DecidableEq

abbrev Row (Value : Type) := List (Cell Value)

/-- A relation within a query, while its columns can still be told apart by qualifier. -/
structure Source (Value : Type) where
  header : List Column := []
  rows : List (Row Value) := []

/-- A finished result: names and values. -/
structure Table (Value : Type) where
  columns : List String := []
  rows : List (List Value) := []
deriving DecidableEq

variable {Value : Type}

/-! ### Operations -/

namespace Row

def columns (row : Row Value) : List Column := row.map (·.column)

def nulls (null : Value) (header : List Column) : Row Value := header.map (⟨·, null⟩)

/-- The first cell of a name, as names are compared. -/
def named (key : String → String) (row : Row Value) (name : String) : Option (Cell Value) :=
  row.find? fun cell => key cell.column.name == name

def without (key : String → String) (names : List String) (row : Row Value) : Row Value :=
  row.filter fun cell => !names.contains (key cell.column.name)

/-- Two cells of a shared column become one. -/
def fuse (coalesce : Value → Value → Value) (left right : Cell Value) : Cell Value where
  column :=
    { qualifier := ""
      name := left.column.name
      hidden := left.column.hidden || right.column.hidden }
  value := coalesce left.value right.value

/-- The shared columns come first, once each. -/
def merge (key : String → String) (coalesce : Value → Value → Value) (names : List String)
    (left right : Row Value) : Row Value :=
  names.filterMap (fun name => do
    let l ← named key left name
    let r ← named key right name
    some (fuse coalesce l r)) ++ without key names left ++ without key names right

end Row

/-- New names for the first columns, and one qualifier for all. -/
def Column.rename (qualifier : String) (names : List String) (index : Nat) (column : Column) :
    Column :=
  { column with qualifier, name := names[index]?.getD column.name }

namespace Source

/-- One row without columns: what a query without sources starts from. -/
def unit : Source Value := { header := [], rows := [[]] }

def rename (qualifier : String) (names : List String) (source : Source Value) : Source Value where
  header := source.header.mapIdx (Column.rename qualifier names)
  rows := source.rows.map (·.mapIdx fun index cell =>
    { cell with column := cell.column.rename qualifier names index })

/-- The rows at these indices. -/
def pick (indices : List Nat) (source : Source Value) : Source Value :=
  { source with rows := indices.filterMap (source.rows[·]?) }

/-- The product with a source that may depend on the row to its left. -/
def cross (null : Value) (left : Source Value) (right : Row Value → Source Value) :
    Source Value where
  header := left.header ++ (right (Row.nulls null left.header)).header
  rows := left.rows.flatMap fun row => (right row).rows.map (row ++ ·)

/-- The row at an index; a missing row is padded. -/
def rowAt (null : Value) (source : Source Value) (index : Option Nat) : Row Value :=
  (index.bind (source.rows[·]?)).getD (Row.nulls null source.header)

/-- The rows a join pairs up, by their indices. -/
def join (null : Value) (left : Source Value) (right : Row Value → Source Value)
    (merge : Row Value → Row Value → Row Value) (pairs : List (Option Nat × Option Nat)) :
    Source Value where
  header :=
    let padded := Row.nulls null left.header
    (merge padded (Row.nulls null (right padded).header)).columns
  rows := pairs.map fun (i, j) =>
    let row := left.rowAt null i
    merge row ((right row).rowAt null j)

def table (source : Source Value) : Table Value where
  columns := source.header.map (·.name)
  rows := source.rows.map (·.map (·.value))

end Source

namespace Table

def source (qualifier : String) (table : Table Value) : Source Value where
  header := table.columns.map (⟨qualifier, ·, false⟩)
  rows := table.rows.map (List.zipWith (fun name value => ⟨⟨qualifier, name, false⟩, value⟩)
    table.columns)

def rename (names : List String) (table : Table Value) : Table Value :=
  { table with columns := table.columns.mapIdx fun index name => names[index]?.getD name }

end Table

/-! ### Masking -/

def Cell.mask (null : Value) (cell : Cell Value) : Cell Value :=
  { cell with value := if cell.column.hidden then null else cell.value }

def Row.mask (null : Value) (row : Row Value) : Row Value := row.map (Cell.mask null)

def Source.mask (null : Value) (source : Source Value) : Source Value :=
  { source with rows := source.rows.map (Row.mask null) }

section
variable {null : Value}

@[simp] theorem Cell.mask_column (cell : Cell Value) : (cell.mask null).column = cell.column := rfl

theorem Cell.mask_of_shown {cell : Cell Value} (shown : cell.column.hidden = false) :
    cell.mask null = cell := by
  simp [Cell.mask, shown]

@[simp] theorem Source.mask_header (source : Source Value) :
    (source.mask null).header = source.header := rfl

@[simp] theorem Source.mask_rows (source : Source Value) :
    (source.mask null).rows = source.rows.map (Row.mask null) := rfl

namespace Row

@[simp] theorem mask_append (left right : Row Value) :
    mask null (left ++ right) = mask null left ++ mask null right := List.map_append

@[simp] theorem mask_columns (row : Row Value) : (mask null row).columns = row.columns := by
  simp [columns, mask]

@[simp] theorem mask_nulls (header : List Column) :
    mask null (nulls null header) = nulls null header := by
  simp [mask, nulls, Cell.mask]

@[simp] theorem columns_nulls (header : List Column) : (nulls null header).columns = header := by
  simp [columns, nulls, Function.comp_def]

theorem named_mask (key : String → String) (row : Row Value) (name : String) :
    named key (mask null row) name = (named key row name).map (Cell.mask null) := by
  simp [named, mask, List.find?_map, Function.comp_def]

theorem without_mask (key : String → String) (names : List String) (row : Row Value) :
    without key names (mask null row) = mask null (without key names row) := by
  rw [without, mask, List.filter_map]
  rfl

end Row

/-! ### Which columns may be hidden -/

/-- The hidden columns of a row are among these. -/
def Row.HidesOnly (hidden : List Column) (row : Row Value) : Prop :=
  ∀ column ∈ row.columns, column.hidden = true → column ∈ hidden

structure Source.HidesOnly (hidden : List Column) (source : Source Value) : Prop where
  header : ∀ column ∈ source.header, column.hidden = true → column ∈ hidden
  rows : ∀ row ∈ source.rows, Row.HidesOnly hidden row

namespace Row

theorem hidesOnly_nil {hidden : List Column} : HidesOnly hidden ([] : Row Value) :=
  List.forall_mem_nil _

theorem HidesOnly.mono {hidden larger : List Column} {row : Row Value}
    (only : HidesOnly hidden row) (within : ∀ column ∈ hidden, column ∈ larger) :
    HidesOnly larger row :=
  fun column member hides => within column (only column member hides)

theorem HidesOnly.append {left right : List Column} {l r : Row Value} (first : HidesOnly left l)
    (second : HidesOnly right r) : HidesOnly (left ++ right) (l ++ r) := by
  intro column member hides
  simp only [columns, List.map_append, List.mem_append] at member
  rcases member with inLeft | inRight
  · exact List.mem_append_left _ (first column inLeft hides)
  · exact List.mem_append_right _ (second column inRight hides)

theorem HidesOnly.nulls (null : Value) {hidden header : List Column}
    (only : ∀ column ∈ header, column.hidden = true → column ∈ hidden) :
    HidesOnly hidden (nulls null header) := by
  intro column member hides
  rw [columns_nulls] at member
  exact only column member hides

theorem HidesOnly.mask_eq {row : Row Value} (only : HidesOnly [] row) : mask null row = row := by
  have shown : ∀ cell ∈ row, cell.mask null = cell := by
    intro cell member
    apply Cell.mask_of_shown
    by_contra hides
    have listed := only cell.column (List.mem_map_of_mem member) (by simpa using hides)
    cases listed
  exact (List.map_congr_left shown).trans (List.map_id' row)

theorem named_shown {key : String → String} {hidden : List Column} {row : Row Value}
    {name : String} {cell : Cell Value} (only : HidesOnly hidden row)
    (shown : ∀ column ∈ hidden, key column.name ≠ name) (found : named key row name = some cell) :
    cell.column.hidden = false := by
  have same : key cell.column.name = name := by simpa using List.find?_some found
  have member : cell.column ∈ row.columns := List.mem_map_of_mem (List.mem_of_find?_eq_some found)
  by_contra hides
  exact shown _ (only _ member (by simpa using hides)) same

/-- A cell of a name that is not hidden is found as it is. -/
theorem named_mask_shown {key : String → String} {hidden : List Column} {row : Row Value}
    {name : String} (only : HidesOnly hidden row)
    (shown : ∀ column ∈ hidden, key column.name ≠ name) :
    named key (mask null row) name = named key row name := by
  rw [named_mask]
  cases found : named key row name with
  | none => rfl
  | some cell => rw [Option.map_some, Cell.mask_of_shown (named_shown only shown found)]

/-- Rows that share no hidden name can be masked before or after they are merged. -/
theorem merge_mask {key : String → String} {coalesce : Value → Value → Value}
    {names : List String} {left right : List Column} {l r : Row Value} (first : HidesOnly left l)
    (second : HidesOnly right r)
    (shown : ∀ name ∈ names, ∀ column ∈ left ++ right, key column.name ≠ name) :
    merge key coalesce names (mask null l) (mask null r) =
      mask null (merge key coalesce names l r) := by
  simp only [merge, without_mask, mask_append]
  congr 2
  apply Eq.symm
  rw [show mask null (names.filterMap _) = (names.filterMap _).map (Cell.mask null) from rfl,
    List.map_filterMap]
  apply List.filterMap_congr
  intro name member
  have leftShown : ∀ column ∈ left, key column.name ≠ name := fun column inside =>
    shown name member column (List.mem_append_left _ inside)
  have rightShown : ∀ column ∈ right, key column.name ≠ name := fun column inside =>
    shown name member column (List.mem_append_right _ inside)
  rw [named_mask_shown first leftShown, named_mask_shown second rightShown]
  cases foundLeft : named key l name with
  | none => rfl
  | some a =>
    cases foundRight : named key r name with
    | none => rfl
    | some b =>
      have neither : (fuse coalesce a b).column.hidden = false := by
        simp [fuse, named_shown first leftShown foundLeft,
          named_shown second rightShown foundRight]
      exact congrArg some (Cell.mask_of_shown neither)

theorem HidesOnly.of_subset {hidden : List Column} {row part : Row Value}
    (only : HidesOnly hidden row) (within : ∀ cell ∈ part, cell ∈ row) : HidesOnly hidden part := by
  intro column member hides
  obtain ⟨cell, inPart, rfl⟩ := List.mem_map.mp member
  exact only _ (List.mem_map_of_mem (within cell inPart)) hides

theorem HidesOnly.merge {key : String → String} {coalesce : Value → Value → Value}
    {names : List String} {left right : List Column} {l r : Row Value} (first : HidesOnly left l)
    (second : HidesOnly right r)
    (shown : ∀ name ∈ names, ∀ column ∈ left ++ right, key column.name ≠ name) :
    HidesOnly (left ++ right) (merge key coalesce names l r) := by
  have rest : HidesOnly (left ++ right) (without key names l ++ without key names r) :=
    .append (first.of_subset fun _ => List.mem_of_mem_filter)
      (second.of_subset fun _ => List.mem_of_mem_filter)
  intro column member hides
  simp only [Row.merge, columns, List.map_append, List.mem_append, List.append_assoc] at member
  rcases member with shared | other
  · exfalso
    obtain ⟨cell, inside, rfl⟩ := List.mem_map.mp shared
    obtain ⟨name, listed, fused⟩ := List.mem_filterMap.mp inside
    obtain ⟨a, foundLeft, fused⟩ := Option.bind_eq_some_iff.mp fused
    obtain ⟨b, foundRight, fused⟩ := Option.bind_eq_some_iff.mp fused
    obtain rfl := Option.some.inj fused
    have leftShown := named_shown first
      (fun column inside => shown name listed column (List.mem_append_left _ inside)) foundLeft
    have rightShown := named_shown second
      (fun column inside => shown name listed column (List.mem_append_right _ inside)) foundRight
    simp [fuse, leftShown, rightShown] at hides
  · exact rest column (by simpa [columns] using other) hides

/-- A merged row has no new names. -/
theorem merge_names {key : String → String} {coalesce : Value → Value → Value}
    {names : List String} {l r : Row Value} {column : Column}
    (member : column ∈ (merge key coalesce names l r).columns) :
    ∃ original ∈ l.columns ++ r.columns, original.name = column.name := by
  obtain ⟨cell, inside, rfl⟩ := List.mem_map.mp member
  simp only [merge, List.mem_append] at inside
  rcases inside with (shared | left) | right
  · obtain ⟨name, _, fused⟩ := List.mem_filterMap.mp shared
    obtain ⟨a, foundLeft, fused⟩ := Option.bind_eq_some_iff.mp fused
    obtain ⟨b, _, fused⟩ := Option.bind_eq_some_iff.mp fused
    obtain rfl := Option.some.inj fused
    have inLeft : a.column ∈ l.columns := List.mem_map_of_mem (List.mem_of_find?_eq_some foundLeft)
    exact ⟨a.column, List.mem_append_left _ inLeft, rfl⟩
  · exact ⟨_, List.mem_append_left _ (List.mem_map_of_mem (List.mem_of_mem_filter left)), rfl⟩
  · exact ⟨_, List.mem_append_right _ (List.mem_map_of_mem (List.mem_of_mem_filter right)), rfl⟩

end Row

namespace Source
variable {hidden more : List Column} {source left : Source Value}

theorem HidesOnly.mono (only : source.HidesOnly hidden)
    (within : ∀ column ∈ hidden, column ∈ more) : source.HidesOnly more :=
  ⟨fun column member hides => within column (only.header column member hides),
    fun row member => (only.rows row member).mono within⟩

theorem HidesOnly.mask_eq (only : source.HidesOnly []) : source.mask null = source := by
  have same : source.rows.map (Row.mask null) = source.rows :=
    (List.map_congr_left fun row member => (only.rows row member).mask_eq).trans (List.map_id' _)
  cases source
  simp only [mask] at same ⊢
  rw [same]

theorem unit_hidesOnly : (unit : Source Value).HidesOnly [] := by
  constructor
  · intro column member; cases member
  · intro row member column inside
    obtain rfl : row = [] := by simpa [unit] using member
    cases inside

theorem unit_mask : (unit : Source Value).mask null = unit := rfl

theorem rename_nil_hidesOnly {qualifier : String} (only : source.HidesOnly hidden) :
    (source.rename qualifier []).HidesOnly (hidden.map fun column => { column with qualifier }) := by
  have renamed : ∀ columns : List Column,
      (∀ column ∈ columns, column.hidden = true → column ∈ hidden) →
      ∀ column ∈ columns.mapIdx (Column.rename qualifier []), column.hidden = true →
        column ∈ hidden.map fun column => { column with qualifier } := by
    intro columns within column member hides
    obtain ⟨index, bound, rfl⟩ := List.mem_mapIdx.mp member
    refine List.mem_map.mpr ⟨columns[index], within _ (List.getElem_mem bound) hides, ?_⟩
    simp [Column.rename]
  constructor
  · exact renamed _ only.header
  · intro row member column inside hides
    obtain ⟨original, inRows, rfl⟩ := List.mem_map.mp member
    refine renamed original.columns (only.rows original inRows) column ?_ hides
    rwa [Row.columns, Lists.map_mapIdx, ← Lists.mapIdx_map] at inside

theorem rename_hidesNothing {qualifier : String} {names : List String}
    (only : source.HidesOnly []) : (source.rename qualifier names).HidesOnly [] := by
  have renamed : ∀ columns : List Column,
      (∀ column ∈ columns, column.hidden = true → column ∈ ([] : List Column)) →
      ∀ column ∈ columns.mapIdx (Column.rename qualifier names), column.hidden = true →
        column ∈ ([] : List Column) := by
    intro columns within column member hides
    obtain ⟨index, bound, rfl⟩ := List.mem_mapIdx.mp member
    exact absurd (within columns[index] (List.getElem_mem bound) hides) List.not_mem_nil
  constructor
  · exact renamed _ only.header
  · intro row member column inside hides
    obtain ⟨original, inRows, rfl⟩ := List.mem_map.mp member
    refine renamed original.columns (only.rows original inRows) column ?_ hides
    rwa [Row.columns, Lists.map_mapIdx, ← Lists.mapIdx_map] at inside

theorem rename_mask {qualifier : String} {names : List String} :
    (source.mask null).rename qualifier names = (source.rename qualifier names).mask null := by
  simp only [rename, mask, List.map_map]
  congr 1
  apply List.map_congr_left
  intro row _
  simp only [Function.comp_def, Row.mask, Lists.mapIdx_map, Lists.map_mapIdx]
  rfl

theorem pick_hidesOnly {indices : List Nat} (only : source.HidesOnly hidden) :
    (source.pick indices).HidesOnly hidden := by
  refine ⟨only.header, fun row member => ?_⟩
  obtain ⟨index, _, found⟩ := List.mem_filterMap.mp member
  exact only.rows row (List.mem_of_getElem? found)

theorem pick_mask {indices : List Nat} :
    (source.mask null).pick indices = (source.pick indices).mask null := by
  simp only [pick, mask, List.map_filterMap, List.getElem?_map]

theorem cross_hidesOnly {right : Row Value → Source Value} (first : left.HidesOnly hidden)
    (second : ∀ row, Row.HidesOnly hidden row → (right row).HidesOnly more) :
    (left.cross null right).HidesOnly (hidden ++ more) := by
  constructor
  · intro column member hides
    rcases List.mem_append.mp member with inLeft | inRight
    · exact List.mem_append_left _ (first.header column inLeft hides)
    · have padded := second _ (Row.HidesOnly.nulls null first.header)
      exact List.mem_append_right _ (padded.header column inRight hides)
  · intro row member
    obtain ⟨l, inLeft, inside⟩ := List.mem_flatMap.mp member
    obtain ⟨r, inRight, rfl⟩ := List.mem_map.mp inside
    have leftOnly := first.rows l inLeft
    exact leftOnly.append ((second l leftOnly).rows r inRight)

theorem cross_mask {right masked : Row Value → Source Value} (first : left.HidesOnly hidden)
    (second : ∀ row, Row.HidesOnly hidden row → masked (Row.mask null row) = (right row).mask null) :
    (left.mask null).cross null masked = (left.cross null right).mask null := by
  have padded := second _ (Row.HidesOnly.nulls null first.header)
  rw [Row.mask_nulls] at padded
  simp only [cross, mask, List.map_flatMap, List.flatMap_map, List.map_map]
  congr 1
  · rw [padded]; rfl
  · apply List.flatMap_congr
    intro row member
    rw [second row (first.rows row member)]
    simp [mask, Function.comp_def]

theorem HidesOnly.rowAt (only : source.HidesOnly hidden) (null : Value) (index : Option Nat) :
    Row.HidesOnly hidden (source.rowAt null index) := by
  unfold Source.rowAt
  cases found : index.bind (source.rows[·]?) with
  | none => exact .nulls null only.header
  | some row =>
    obtain ⟨i, _, here⟩ := Option.bind_eq_some_iff.mp found
    exact only.rows row (List.mem_of_getElem? here)

theorem rowAt_mask (null : Value) (source : Source Value) (index : Option Nat) :
    (source.mask null).rowAt null index = Row.mask null (source.rowAt null index) := by
  unfold rowAt
  cases index with
  | none => simp
  | some i => cases here : source.rows[i]? <;> simp [here]

theorem join_hidesOnly {right : Row Value → Source Value} {merge : Row Value → Row Value → Row Value}
    {pairs : List (Option Nat × Option Nat)} {hides : List Column} (first : left.HidesOnly hidden)
    (second : ∀ row, Row.HidesOnly hidden row → (right row).HidesOnly more)
    (merged : ∀ l r, Row.HidesOnly hidden l → Row.HidesOnly more r →
      Row.HidesOnly hides (merge l r)) :
    (left.join null right merge pairs).HidesOnly hides := by
  constructor
  · have padded := Row.HidesOnly.nulls null first.header
    exact merged _ _ padded (.nulls null (second _ padded).header)
  · intro row member
    obtain ⟨⟨i, j⟩, _, rfl⟩ := List.mem_map.mp member
    have leftOnly := first.rowAt null i
    exact merged _ _ leftOnly ((second _ leftOnly).rowAt null j)

theorem join_mask {right masked : Row Value → Source Value}
    {merge : Row Value → Row Value → Row Value} {pairs : List (Option Nat × Option Nat)}
    (first : left.HidesOnly hidden)
    (second : ∀ row, Row.HidesOnly hidden row → (right row).HidesOnly more)
    (same : ∀ row, Row.HidesOnly hidden row → masked (Row.mask null row) = (right row).mask null)
    (merged : ∀ l r, Row.HidesOnly hidden l → Row.HidesOnly more r →
      merge (Row.mask null l) (Row.mask null r) = Row.mask null (merge l r)) :
    (left.mask null).join null masked merge pairs = (left.join null right merge pairs).mask null := by
  have padded := Row.HidesOnly.nulls null first.header
  have samePadded := same _ padded
  rw [Row.mask_nulls] at samePadded
  simp only [join, mask, List.map_map]
  congr 1
  · rw [samePadded]
    rfl
  · apply List.map_congr_left
    rintro ⟨i, j⟩ _
    have leftOnly := first.rowAt null i
    have leftMask := rowAt_mask null left i
    simp only [mask] at leftMask
    simp only [Function.comp_def, leftMask, same _ leftOnly, rowAt_mask]
    exact merged _ _ leftOnly ((second _ leftOnly).rowAt null j)

theorem table_source_hidesOnly {qualifier : String} {table : Table Value} :
    (table.source qualifier).HidesOnly [] := by
  constructor
  · intro column member hides
    obtain ⟨name, _, rfl⟩ := List.mem_map.mp member
    cases hides
  · intro row member column inside hides
    obtain ⟨values, _, rfl⟩ := List.mem_map.mp member
    obtain ⟨cell, inRow, rfl⟩ := List.mem_map.mp inside
    obtain ⟨index, bound, rfl⟩ := List.getElem_of_mem inRow
    rw [List.getElem_zipWith] at hides
    cases hides

end Source
end
end Relational
