import Mathlib.Data.List.Induction
import Datapress.DataFusion.Resident
import Datapress.SchemaProofs

namespace Datapress.DataFusion.Resident
open Positions

/-! ### Sorted row ids -/

theorem unionSorted_nil (as : List Nat) : unionSorted as [] = as := by
  cases as with
  | nil => rw [unionSorted]
  | cons a as => rw [unionSorted]; exact List.cons_ne_nil a as

theorem mem_unionSorted {i : Nat} {as bs : List Nat} :
    i ∈ unionSorted as bs ↔ i ∈ as ∨ i ∈ bs := by
  fun_induction unionSorted as bs with
  | case1 a as b bs less ih => simp [ih]; tauto
  | case2 a as b bs _ less ih => simp [ih]; tauto
  | case3 a as b bs notLess notGreater ih =>
      obtain rfl : a = b := by omega
      simp [ih]; tauto
  | case4 bs => simp
  | case5 as _ => simp

theorem unionSorted_sorted {as bs : List Nat} (left : as.Pairwise (· < ·))
    (right : bs.Pairwise (· < ·)) : (unionSorted as bs).Pairwise (· < ·) := by
  fun_induction unionSorted as bs with
  | case1 a as b bs less ih =>
      obtain ⟨above, rest⟩ := List.pairwise_cons.mp left
      obtain ⟨aboveB, _⟩ := List.pairwise_cons.mp right
      refine List.pairwise_cons.mpr ⟨fun i member => ?_, ih rest right⟩
      rcases mem_unionSorted.mp member with inLeft | inRight
      · exact above i inLeft
      · rcases List.mem_cons.mp inRight with rfl | later
        · exact less
        · exact less.trans (aboveB i later)
  | case2 a as b bs _ less ih =>
      obtain ⟨above, _⟩ := List.pairwise_cons.mp left
      obtain ⟨aboveB, rest⟩ := List.pairwise_cons.mp right
      refine List.pairwise_cons.mpr ⟨fun i member => ?_, ih left rest⟩
      rcases mem_unionSorted.mp member with inLeft | inRight
      · rcases List.mem_cons.mp inLeft with rfl | later
        · exact less
        · exact less.trans (above i later)
      · exact aboveB i inRight
  | case3 a as b bs notLess notGreater ih =>
      obtain rfl : a = b := by omega
      obtain ⟨above, rest⟩ := List.pairwise_cons.mp left
      obtain ⟨aboveB, restB⟩ := List.pairwise_cons.mp right
      refine List.pairwise_cons.mpr ⟨fun i member => ?_, ih rest restB⟩
      rcases mem_unionSorted.mp member with inLeft | inRight
      · exact above i inLeft
      · exact aboveB i inRight
  | case4 bs => exact right
  | case5 as _ => exact left

theorem mem_intersectSorted {i : Nat} {as bs : List Nat} (left : as.Pairwise (· < ·))
    (right : bs.Pairwise (· < ·)) : i ∈ intersectSorted as bs ↔ i ∈ as ∧ i ∈ bs := by
  fun_induction intersectSorted as bs with
  | case1 as b bs ih =>
      obtain ⟨above, rest⟩ := List.pairwise_cons.mp left
      obtain ⟨aboveB, restB⟩ := List.pairwise_cons.mp right
      simp only [List.mem_cons, ih rest restB]
      have notLeft : b ∉ as := fun member => lt_irrefl _ (above b member)
      grind
  | case2 a as b bs different less ih =>
      obtain ⟨_, rest⟩ := List.pairwise_cons.mp left
      obtain ⟨aboveB, _⟩ := List.pairwise_cons.mp right
      have absent : a ∉ b :: bs := by
        intro member
        rcases List.mem_cons.mp member with rfl | later
        · exact different rfl
        · exact absurd (aboveB a later) (by omega)
      rw [ih rest right, List.mem_cons]
      grind
  | case3 a as b bs different notLess ih =>
      obtain ⟨above, _⟩ := List.pairwise_cons.mp left
      obtain ⟨_, restB⟩ := List.pairwise_cons.mp right
      have absent : b ∉ a :: as := by
        intro member
        rcases List.mem_cons.mp member with rfl | later
        · exact different rfl
        · exact absurd (above b later) (by omega)
      rw [ih left restB, List.mem_cons]
      grind
  | case4 as bs empty =>
      cases as with
      | nil => simp
      | cons a as =>
          cases bs with
          | nil => simp
          | cons b bs => exact absurd rfl (empty a as b bs rfl)

theorem intersectSorted_sorted {as bs : List Nat} (left : as.Pairwise (· < ·))
    (right : bs.Pairwise (· < ·)) : (intersectSorted as bs).Pairwise (· < ·) := by
  fun_induction intersectSorted as bs with
  | case1 as b bs ih =>
      obtain ⟨above, rest⟩ := List.pairwise_cons.mp left
      obtain ⟨_, restB⟩ := List.pairwise_cons.mp right
      refine List.pairwise_cons.mpr ⟨fun i member => ?_, ih rest restB⟩
      exact above i ((mem_intersectSorted rest restB).mp member).1
  | case2 a as b bs different less ih => exact ih (List.pairwise_cons.mp left).2 right
  | case3 a as b bs different notLess ih => exact ih left (List.pairwise_cons.mp right).2
  | case4 as bs empty => exact .nil

section
variable {α : Type} {p q : α → Bool} {items : List α}

theorem unionSorted_findIdxs : unionSorted (items.findIdxs p) (items.findIdxs q) =
    items.findIdxs fun item => p item || q item := by
  apply eq_findIdxs
  · exact unionSorted_sorted List.pairwise_findIdxs List.pairwise_findIdxs
  · intro i
    simp only [mem_unionSorted, List.mem_findIdxs_iff_exists_getElem_pos, Bool.or_eq_true,
      ← exists_or]

theorem intersectSorted_findIdxs : intersectSorted (items.findIdxs p) (items.findIdxs q) =
    items.findIdxs fun item => p item && q item := by
  apply eq_findIdxs
  · exact intersectSorted_sorted List.pairwise_findIdxs List.pairwise_findIdxs
  · intro i
    rw [mem_intersectSorted List.pairwise_findIdxs List.pairwise_findIdxs]
    simp only [List.mem_findIdxs_iff_exists_getElem_pos, Bool.and_eq_true]
    constructor
    · rintro ⟨⟨inside, first⟩, _, second⟩; exact ⟨inside, first, second⟩
    · rintro ⟨inside, first, second⟩; exact ⟨⟨inside, first⟩, inside, second⟩

end

/-! ### The rows of the arrays -/

theorem DataType.holds_null (dataType : DataType) : dataType.holds .null = true := by
  cases dataType <;> rfl

namespace ColumnArray.Holds
variable {column : ColumnArray} {dataType : DataType} {numRows : Nat}

theorem read (holds : column.Holds dataType numRows) (row : Nat) :
    dataType.holds (column.read row) = true := by
  cases column with
  | plain cells =>
      obtain ⟨_, _, typed⟩ := holds
      rw [ColumnArray.read, List.getD_eq_getElem?_getD]
      cases found : cells[row]? with
      | none => exact dataType.holds_null
      | some cell => exact typed cell (List.mem_of_getElem? found)
  | dictionary keys values =>
      obtain ⟨rfl, _, _⟩ := holds
      simp only [ColumnArray.read]
      cases keys.getD row none <;> rfl

theorem value (holds : column.Holds dataType numRows) (row : Nat) :
    dataType.holds (column.value row) = true := by
  cases column with
  | plain cells => exact holds.read row
  | dictionary keys values =>
      obtain ⟨rfl, _, _⟩ := holds
      simp only [ColumnArray.value]
      cases keys.getD row none with
      | none => rfl
      | some k =>
          simp only
          split <;> rfl

end ColumnArray.Holds

section
variable {fields : List Field} {batches : List (ArrowBatch fields)}

/-- The rows of batches by batch and place. -/
def places (batches : List (ArrowBatch fields)) : List (ArrowBatch fields × Nat) :=
  batches.flatMap fun batch => (List.range batch.numRows).map (batch, ·)

/-- A row of a batch; `cell` reads a row of an array. -/
def rowAt (cell : ColumnArray → Nat → Cell) (place : ArrowBatch fields × Nat) : Row :=
  place.1.columns.map (cell · place.2)

/-- The rows of batches, one after the other. -/
def tableRows (cell : ColumnArray → Nat → Cell) (batches : List (ArrowBatch fields)) : List Row :=
  batches.flatMap fun batch =>
    (List.range batch.numRows).map fun row => batch.columns.map (cell · row)

theorem table_eq (cell : ColumnArray → Nat → Cell) (batches : List (ArrowBatch fields)) :
    tableRows cell batches = (places batches).map (rowAt cell) := by
  simp only [tableRows, places, List.map_flatMap, List.map_map, Function.comp_def, rowAt]

theorem flatten_read (batches : List (ArrowBatch fields)) :
    (batches.map ArrowBatch.read).flatten = tableRows ColumnArray.read batches :=
  (List.flatMap_def ..).symm

theorem flatten_rows (batches : List (ArrowBatch fields)) :
    (batches.map ArrowBatch.rows).flatten = tableRows ColumnArray.value batches :=
  (List.flatMap_def ..).symm

theorem mem_places {batch : ArrowBatch fields} {row : Nat} :
    (batch, row) ∈ places batches ↔ batch ∈ batches ∧ row < batch.numRows := by
  simp only [places, List.mem_flatMap, List.mem_map, List.mem_range, Prod.mk.injEq]
  constructor
  · rintro ⟨_, member, _, inside, rfl, rfl⟩
    exact ⟨member, inside⟩
  · rintro ⟨member, inside⟩
    exact ⟨batch, member, row, inside, rfl, rfl⟩

theorem length_places (batches : List (ArrowBatch fields)) :
    (places batches).length = (batches.map (·.numRows)).sum := by
  simp only [places, List.length_flatMap, List.length_map, List.length_range]

theorem cellAt_rowAt (cell : ColumnArray → Nat → Cell) (place : ArrowBatch fields × Nat)
    (ci : Nat) :
    cellAt (rowAt cell place) ci = (place.1.columns[ci]?).elim .null (cell · place.2) := by
  rw [cellAt, rowAt, List.getD_eq_getElem?_getD, List.getElem?_map]
  cases place.1.columns[ci]? <;> rfl

/-- A row has a cell of its type for each field. -/
theorem forall₂_rowAt {cell : ColumnArray → Nat → Cell}
    (holds : ∀ (column : ColumnArray) dataType numRows, column.Holds dataType numRows →
      ∀ row, dataType.holds (cell column row) = true) (place : ArrowBatch fields × Nat) :
    List.Forall₂ (fun field cell => field.dataType.holds cell = true) fields
      (rowAt cell place) := by
  rw [rowAt, List.forall₂_map_right_iff]
  exact place.1.typed.imp fun field column typed => holds column _ _ typed place.2

theorem holds_cellAt {row : Row}
    (typed : List.Forall₂ (fun field cell => field.dataType.holds cell = true) fields row)
    (i : Nat) :
    DataType.holds ((fields.map Field.dataType).getD i .utf8) (cellAt row i) = true := by
  induction typed generalizing i with
  | nil => rfl
  | cons head _ ih =>
      cases i with
      | zero => exact head
      | succ i => exact ih i

end

namespace Batches
variable {batches : Batches}

theorem flatten_chunks (batches : Batches) :
    batches.chunks.flatten = (places batches.arrays).map (rowAt ColumnArray.value) := by
  rw [chunks, flatten_rows, table_eq]

theorem chunks_ne_nil (batches : Batches) : batches.chunks ≠ [] :=
  fun none => batches.nonempty (List.map_eq_nil_iff.mp none)

theorem length_chunks_lt (batches : Batches) : batches.chunks.flatten.length < 2 ^ 64 := by
  rw [flatten_chunks, List.length_map, length_places]
  exact batches.counted

end Batches

/-! ### The index -/

/-- Whether the cell of a column has a text. -/
def hasText (ci : Nat) (key : String) (row : Row) : Bool := (cellAt row ci).text == some key

def Buckets.rows (map : Buckets) (key : String) : List Nat := (map.lookup key).getD []

theorem rows_insert (map : Buckets) (key other : String) (ids : List Nat) :
    Buckets.rows (map.insert key ids) other = if other = key then ids else map.rows other := by
  unfold Buckets.rows
  split
  case isTrue same => rw [same, AList.lookup_insert, Option.getD_some]
  case isFalse different => rw [AList.lookup_insert_ne different]

theorem indexKey_rows {maxCard : Option Nat} {map after : Buckets} {key : String} {gid : Nat}
    (indexed : indexKey maxCard map key gid = some after) (other : String) :
    after.rows other = if other = key then map.rows key ++ [gid] else map.rows other := by
  simp only [indexKey] at indexed
  split at indexed
  case h_1 ids present =>
      cases indexed
      rw [rows_insert, Buckets.rows.eq_def map key, present, Option.getD_some]
  case h_2 absent =>
      split at indexed
      case isTrue => cases indexed
      case isFalse =>
        cases indexed
        rw [rows_insert, Buckets.rows.eq_def map key, absent, Option.getD_none, List.nil_append]

/-- A batch adds to each bucket the rows with its text, in their order. -/
theorem indexBatch_rows {maxCard : Option Nat} {ci gid : Nat} {batch : RecordBatch}
    {map after : Buckets} (indexed : indexBatch maxCard ci batch gid map = some after)
    (key : String) :
    after.rows key = map.rows key ++ batch.findIdxs (hasText ci key) gid := by
  induction batch generalizing gid map with
  | nil =>
      cases indexed
      rw [List.findIdxs_nil, List.append_nil]
  | cons row rest ih =>
      simp only [indexBatch] at indexed
      split at indexed
      case h_1 noText =>
          have other : hasText ci key row = false := by simp [hasText, noText]
          rw [ih indexed, List.findIdxs_cons, if_neg (by simp [other])]
      case h_2 found text =>
          obtain ⟨next, stored, indexed⟩ := Option.bind_eq_some_iff.mp indexed
          rw [ih indexed, indexKey_rows stored, List.findIdxs_cons]
          by_cases same : key = found
          · have here : hasText ci key row = true := by simp [hasText, text, same]
            rw [if_pos same, if_pos here, same, List.append_assoc, List.singleton_append]
          · have other : hasText ci key row = false := by
              simp [hasText, text, Ne.symm same]
            rw [if_neg same, if_neg (by simp [other])]

theorem indexColumn_rows {maxCard : Option Nat} {ci base : Nat} {chunks : List RecordBatch}
    {map after : Buckets} (indexed : indexColumn maxCard ci chunks base map = some after)
    (key : String) :
    after.rows key = map.rows key ++ chunks.flatten.findIdxs (hasText ci key) base := by
  induction chunks generalizing base map with
  | nil =>
      cases indexed
      rw [List.flatten_nil, List.findIdxs_nil, List.append_nil]
  | cons batch rest ih =>
      obtain ⟨next, first, others⟩ := Option.bind_eq_some_iff.mp indexed
      rw [ih others, indexBatch_rows first, List.flatten_cons, List.findIdxs_append,
        List.append_assoc]

theorem lookup_foldl_insert {α : Type} (pairs : List (String × α)) (name : String) :
    (pairs.foldl (fun (index : AList fun _ : String => α) (key, value) => index.insert key value)
      ∅).lookup name = (pairs.reverse.find? (·.1 == name)).map (·.2) := by
  induction pairs using List.reverseRecOn with
  | nil => rfl
  | append_singleton pairs pair ih =>
      rw [List.foldl_append, List.foldl_cons, List.foldl_nil, List.reverse_append,
        List.reverse_singleton, List.singleton_append, List.find?_cons]
      by_cases same : pair.1 = name
      · rw [← same, AList.lookup_insert, beq_self_eq_true]
        rfl
      · rw [AList.lookup_insert_ne (Ne.symm same), ih, beq_false_of_ne same]

section
variable [ToLowercase]

/-- The column behind an index entry: the last indexed one of the lowered name. -/
def indexedColumn (fields : List Field) (chunks : List RecordBatch) (config : IndexConfig)
    (lowered : String) : Option Nat :=
  if config.mode = .none || chunks.isEmpty then none
  else (fields.zipIdx.reverse.find? fun column =>
    (indexField config chunks column).any (·.1 == lowered)).map (·.2)

/-- The column whose buckets a build stores under a key. -/
def owner {fields : List Field} (batches : List (ArrowBatch fields)) (config : IndexConfig)
    (name : String) : Option Nat :=
  indexedColumn fields (batches.map ArrowBatch.read) config name

theorem lookup_build (fields : List Field) (chunks : List RecordBatch) (config : IndexConfig)
    (name : String) :
    match (buildEqIndexWithPolicy fields chunks config).lookup name with
    | none => indexedColumn fields chunks config name = none
    | some map => ∃ ci, indexedColumn fields chunks config name = some ci ∧
        ∃ maxCard, indexColumn maxCard ci chunks 0 ∅ = some map := by
  unfold buildEqIndexWithPolicy indexedColumn
  by_cases off : (config.mode = .none || chunks.isEmpty) = true
  · rw [if_pos off, if_pos off]
    rfl
  · rw [if_neg off, if_neg off, lookup_foldl_insert, ← List.filterMap_reverse,
      List.find?_filterMap]
    cases found : fields.zipIdx.reverse.find? fun column =>
        (indexField config chunks column).any (·.1 == name) with
    | none => rfl
    | some column =>
        have passed : (indexField config chunks column).any (·.1 == name) = true :=
          List.find?_some (p := fun column => (indexField config chunks column).any _) found
        obtain ⟨⟨key, map⟩, indexed, same⟩ := (Option.any_eq_true _ _).mp passed
        simp only [Option.bind_some, indexed, Option.map_some]
        simp only [indexField] at indexed
        split at indexed
        case isTrue => cases indexed
        case isFalse =>
          split at indexed
          case isTrue => cases indexed
          case isFalse =>
            obtain ⟨built, ran, paired⟩ := Option.map_eq_some_iff.mp indexed
            cases paired
            exact ⟨column.2, rfl, _, ran⟩

theorem lookup_index (fields : List Field) (chunks : List RecordBatch) (config : IndexConfig)
    (name : String) :
    match (buildEqIndexWithPolicy fields chunks config).lookup name with
    | none => indexedColumn fields chunks config name = none
    | some map => ∃ ci, indexedColumn fields chunks config name = some ci ∧
        ∀ key, map.rows key = chunks.flatten.findIdxs (hasText ci key) := by
  have entry := lookup_build fields chunks config name
  split at entry
  case h_1 => exact entry
  case h_2 map _ =>
    obtain ⟨ci, column, maxCard, ran⟩ := entry
    refine ⟨ci, column, fun key => ?_⟩
    rw [indexColumn_rows ran]
    rfl

end

/-! ### Index lookups -/

/-- The values a row may have to meet an `eq` or an `in` predicate. -/
def Predicate.literals (pred : Predicate) : List JsonValue :=
  match pred.val with
  | none => []
  | some val => if pred.op = "in" then val.asArray.getD [] else [val]

section
variable [ToLowercase] [JsonText]

/-- Whether the text of a row's cell is that of one of the literals. -/
def meetsByText (column : String → Option Nat) (pred : Predicate) (row : Row) : Bool :=
  match column (toLowercase pred.col) with
  | none => false
  | some ci => (Predicate.literals pred).any fun literal =>
      (jsonIndexKey literal).any fun key => hasText ci key row

omit [ToLowercase] in
theorem mergeBuckets_rows {map : Buckets} {rows : List Row} {ci : Nat}
    (buckets : ∀ key, map.rows key = rows.findIdxs (hasText ci key)) {items : List JsonValue}
    {test : Row → Bool} {merged : List Nat}
    (ran : mergeBuckets map items (rows.findIdxs test) = some merged) :
    merged = rows.findIdxs fun row => test row || items.any fun item =>
      (jsonIndexKey item).any fun key => hasText ci key row := by
  induction items generalizing test with
  | nil =>
      cases ran
      simp
  | cons item rest ih =>
      obtain ⟨key, keyed, ran⟩ := Option.bind_eq_some_iff.mp ran
      have bucket := buckets key
      have step : mergeBuckets map rest
          (rows.findIdxs fun row => test row || hasText ci key row) = some merged := by
        rw [← unionSorted_findIdxs, ← bucket, Buckets.rows]
        cases found : map.lookup key with
        | some ids =>
            simp only [found] at ran
            exact ran
        | none =>
            simp only [found] at ran
            rwa [Option.getD_none, unionSorted_nil]
      rw [ih step]
      simp [keyed, Bool.or_assoc]

omit [ToLowercase] in
theorem mergeBuckets_keys {map : Buckets} {items : List JsonValue} {before merged : List Nat}
    (ran : mergeBuckets map items before = some merged) :
    ∀ item ∈ items, (jsonIndexKey item).isSome := by
  induction items generalizing before with
  | nil => exact fun _ impossible => nomatch impossible
  | cons item rest ih =>
      obtain ⟨key, keyed, ran⟩ := Option.bind_eq_some_iff.mp ran
      refine List.forall_mem_cons.mpr ⟨by rw [keyed]; rfl, ?_⟩
      split at ran
      case h_1 => exact ih ran
      case h_2 => exact ih ran

/-- What the index can tell, and that it tells the rows with the texts of the literals. -/
theorem indexRows_spec {fields : List Field} {chunks : List RecordBatch} {config : IndexConfig}
    {pred : Predicate} {ids : List Nat}
    (resolved : indexRows (buildEqIndexWithPolicy fields chunks config) pred = some ids) :
    (pred.op = "eq" ∧ (∃ val, pred.val = some val) ∨
      pred.op = "in" ∧ ∃ items, pred.val = some (.array items)) ∧
    (indexedColumn fields chunks config (toLowercase pred.col)).isSome ∧
    (∀ literal ∈ Predicate.literals pred, (jsonIndexKey literal).isSome) ∧
    ids = chunks.flatten.findIdxs (meetsByText (indexedColumn fields chunks config) pred) := by
  obtain ⟨map, found, resolved⟩ := Option.bind_eq_some_iff.mp resolved
  have entry := lookup_index fields chunks config (toLowercase pred.col)
  rw [found] at entry
  obtain ⟨ci, column, buckets⟩ := entry
  have meets : meetsByText (indexedColumn fields chunks config) pred = fun row =>
      (Predicate.literals pred).any fun literal =>
        (jsonIndexKey literal).any fun key => hasText ci key row := by
    funext row
    rw [meetsByText, column]
  split at resolved
  case isTrue eq =>
      obtain ⟨val, given, resolved⟩ := Option.bind_eq_some_iff.mp resolved
      obtain ⟨key, keyed, resolved⟩ := Option.bind_eq_some_iff.mp resolved
      have literals : Predicate.literals pred = [val] := by
        rw [Predicate.literals, given, eq]
        rfl
      refine ⟨.inl ⟨eq, val, given⟩, by rw [column]; rfl, ?_, ?_⟩
      · rw [literals]
        simp [keyed]
      · cases resolved
        rw [meets, literals]
        simp only [List.any_cons, List.any_nil, Bool.or_false, keyed, Option.any_some]
        exact buckets key
  case isFalse =>
    split at resolved
    case isFalse => cases resolved
    case isTrue isIn =>
      obtain ⟨val, given, resolved⟩ := Option.bind_eq_some_iff.mp resolved
      obtain ⟨items, listed, resolved⟩ := Option.bind_eq_some_iff.mp resolved
      have literals : Predicate.literals pred = items := by
        simp only [Predicate.literals, given, if_pos isIn, listed, Option.getD_some]
      obtain rfl : val = .array items := by
        cases val with
        | array _ => cases listed; rfl
        | _ => cases listed
      refine ⟨.inr ⟨isIn, items, given⟩, by rw [column]; rfl, ?_, ?_⟩
      · rw [literals]
        exact mergeBuckets_keys resolved
      · have none : chunks.flatten.findIdxs (fun _ => false) = [] :=
          List.findIdxs_eq_nil_iff.mpr fun _ _ => rfl
        rw [← none] at resolved
        rw [mergeBuckets_rows buckets resolved, meets, literals]
        simp only [Bool.false_or]

/-- What a predicate the index resolves looks like. -/
structure Resolves (column : String → Option Nat) (pred : Predicate) : Prop where
  shape : pred.op = "eq" ∧ (∃ val, pred.val = some val) ∨
    pred.op = "in" ∧ ∃ items, pred.val = some (.array items)
  indexed : (column (toLowercase pred.col)).isSome
  keyed : ∀ literal ∈ Predicate.literals pred, (jsonIndexKey literal).isSome

theorem indexAll_spec {fields : List Field} {chunks : List RecordBatch} {config : IndexConfig}
    {predicates : List Predicate} {test : Row → Bool} {result : Option (List Nat)}
    (ran : indexAll (buildEqIndexWithPolicy fields chunks config) predicates
      (some (chunks.flatten.findIdxs test)) = some result) :
    (∀ pred ∈ predicates, Resolves (indexedColumn fields chunks config) pred) ∧
    result = some (chunks.flatten.findIdxs fun row => test row &&
      predicates.all (meetsByText (indexedColumn fields chunks config) · row)) := by
  induction predicates generalizing test with
  | nil =>
      cases ran
      simp
  | cons pred rest ih =>
      obtain ⟨ids, resolved, ran⟩ := Option.bind_eq_some_iff.mp ran
      obtain ⟨shape, indexed, keyed, rfl⟩ := indexRows_spec resolved
      simp only [intersectSorted_findIdxs] at ran
      obtain ⟨others, same⟩ := ih ran
      refine ⟨List.forall_mem_cons.mpr ⟨⟨shape, indexed, keyed⟩, others⟩, ?_⟩
      simp only [same, List.all_cons, Bool.and_assoc]

/-- When the index can tell, it tells the rows that meet all predicates by their texts. -/
theorem tryIndex_spec {fields : List Field} {chunks : List RecordBatch} {config : IndexConfig}
    {predicates : List Predicate} {ids : List Nat}
    (resolved : tryIndex (buildEqIndexWithPolicy fields chunks config) predicates = some ids) :
    (∀ pred ∈ predicates, Resolves (indexedColumn fields chunks config) pred) ∧
    ids = chunks.flatten.findIdxs fun row =>
      predicates.all (meetsByText (indexedColumn fields chunks config) · row) := by
  unfold tryIndex at resolved
  split at resolved
  case isTrue => cases resolved
  case isFalse some_predicate =>
    cases predicates with
    | nil => exact absurd rfl some_predicate
    | cons pred rest =>
        have joined := Option.join_eq_some_iff.mp resolved
        obtain ⟨first, resolved, ran⟩ := Option.bind_eq_some_iff.mp joined
        obtain ⟨shape, indexed, keyed, rfl⟩ := indexRows_spec resolved
        obtain ⟨others, same⟩ := indexAll_spec ran
        refine ⟨List.forall_mem_cons.mpr ⟨⟨shape, indexed, keyed⟩, others⟩, ?_⟩
        simpa using same

end

/-! ### Pages -/

theorem sliceGlobal_eq (chunks : List RecordBatch) (toSkip remaining : Nat) :
    sliceGlobal chunks toSkip remaining = window chunks.flatten toSkip remaining := by
  induction chunks generalizing toSkip remaining with
  | nil => simp [sliceGlobal, window]
  | cons batch rest ih =>
      unfold sliceGlobal window
      rw [List.flatten_cons, List.drop_append]
      split
      case isTrue none => rw [none, List.take_zero]
      case isFalse =>
        split
        case isTrue beyond =>
          rw [ih, List.drop_of_length_le beyond, List.nil_append]
          rfl
        case isFalse inside =>
          have whole : toSkip - batch.length = 0 := by omega
          simp only [ih, window, whole, List.drop_zero, List.take_append, List.length_drop]
          congr 1
          · rw [List.take_eq_take_iff, List.length_drop]
            omega
          · congr 1
            omega

/-- The chunk that `take_page` looks a row id up in, and the row there. -/
theorem chunk_of_gid {chunks : List RecordBatch} {gid : Nat}
    (inside : gid < chunks.flatten.length) :
    reached 0 chunks gid - 1 < chunks.length ∧
    (chunks.getD (reached 0 chunks gid - 1) []).getD
      (gid - (starts 0 chunks).getD (reached 0 chunks gid - 1) 0) [] =
        chunks.flatten.getD gid [] := by
  obtain ⟨chunk, start, at_chunk, at_start, same⟩ :=
    getElem?_flatten 0 (Nat.zero_le gid) (by simpa using inside)
  refine ⟨(List.getElem?_eq_some_iff.mp at_chunk).1, ?_⟩
  simp only [List.getD_eq_getElem?_getD, at_chunk, at_start, Option.getD_some, same,
    Nat.sub_zero]

/-- Where a row id of the concatenation is put, and from where it is taken. -/
def placed (chunks : List RecordBatch) (page : List Nat) : List (Nat × Nat × Nat) :=
  page.zipIdx.map fun (gid, outPos) =>
    (reached 0 chunks gid - 1, outPos,
      gid - (starts 0 chunks).getD (reached 0 chunks gid - 1) 0)

def moved (chunks : List RecordBatch) (page : List Nat) : List (Nat × Row) :=
  (List.range chunks.length).flatMap fun bi =>
    ((placed chunks page).filter (·.1 = bi)).map fun (_, outPos, row) =>
      (outPos, (chunks.getD bi []).getD row [])

theorem placed_inside {chunks : List RecordBatch} {page : List Nat}
    (within : ∀ gid ∈ page, gid < chunks.flatten.length) :
    ∀ entry ∈ placed chunks page, entry.1 < chunks.length ∧
      entry.2.2 < (chunks.getD entry.1 []).length := by
  intro entry member
  obtain ⟨⟨gid, outPos⟩, listed, rfl⟩ := List.mem_map.mp member
  have inside := within gid (List.fst_mem_of_mem_zipIdx listed)
  obtain ⟨chunk, start, at_chunk, at_start, found⟩ :=
    getElem?_flatten 0 (Nat.zero_le gid) (by simpa using inside)
  rw [Nat.sub_zero, List.getElem?_eq_getElem inside] at found
  refine ⟨(List.getElem?_eq_some_iff.mp at_chunk).1, ?_⟩
  simp only [List.getD_eq_getElem?_getD, at_chunk, at_start, Option.getD_some]
  exact (List.getElem?_eq_some_iff.mp found).1

theorem moved_order {chunks : List RecordBatch} {page : List Nat}
    (within : ∀ gid ∈ page, gid < chunks.flatten.length) :
    ((moved chunks page).map (·.1)).Perm (List.range page.length) := by
  have bounded : (placed chunks page).filter (·.1 < chunks.length) = placed chunks page := by
    rw [List.filter_eq_self]
    intro entry member
    exact decide_eq_true (placed_inside within entry member).1
  have grouped := perm_flatMap_filter (·.1) (placed chunks page) chunks.length
  rw [bounded] at grouped
  have places := grouped.map (·.2.1)
  simpa [moved, placed, List.map_flatMap, Function.comp_def, List.zipIdx_map_snd,
    List.range_eq_range'] using places

theorem takePage_eq {chunks : List RecordBatch} {ids : List Nat} (offset limit : Nat)
    (inside : ∀ gid ∈ ids, gid < chunks.flatten.length) :
    takePage chunks ids offset limit =
      (window ids offset limit).map fun gid => chunks.flatten.getD gid [] := by
  rw [← window_clip ids offset limit]
  unfold takePage
  generalize paged : (ids.drop (min offset ids.length)).take
    (min limit (ids.length - min offset ids.length)) = page
  simp only [window, paged]
  have within : ∀ gid ∈ page, gid < chunks.flatten.length := by
    intro gid member
    rw [← paged] at member
    exact inside gid (List.drop_subset _ _ (List.take_subset _ _ member))
  split
  case isTrue empty =>
    cases page with
    | nil => rfl
    | cons gid rest =>
        cases chunks with
        | nil => exact absurd (within gid (List.mem_cons_self ..)) (by simp)
        | cons chunk others => cases empty
  case isFalse =>
    have order := moved_order within
    have rows := map_scatter (moved chunks page)
      (page.map fun gid => chunks.flatten.getD gid []) ([] : Row) ?_
      (order.nodup_iff.mpr List.nodup_range) ?_
    · rw [List.length_map] at rows
      exact rows
    · intro entry member
      obtain ⟨bi, _, of_bucket⟩ := List.mem_flatMap.mp member
      obtain ⟨placed, bucketed, rfl⟩ := List.mem_map.mp of_bucket
      obtain ⟨of_page, here⟩ := List.mem_filter.mp bucketed
      obtain ⟨⟨gid, position⟩, listed, rfl⟩ := List.mem_map.mp of_page
      obtain rfl : reached 0 chunks gid - 1 = bi := of_decide_eq_true here
      have at_page : page[position]? = some gid := List.mem_zipIdx_iff_getElem?.mp listed
      simp only [List.getElem?_map, at_page, Option.map_some]
      exact congrArg _ (chunk_of_gid (within gid (List.mem_of_getElem? at_page))).2.symm
    · intro outPos position
      rw [List.length_map] at position
      exact order.mem_iff.mpr (List.mem_range.mpr position)

/-- A page of indexed rows is a page of the rows that pass. -/
theorem takePage_findIdxs {α : Type} {chunks : List RecordBatch} {items : List α} {row : α → Row}
    (same : chunks.flatten = items.map row) (p : α → Bool) (offset limit : Nat) :
    takePage chunks (items.findIdxs p) offset limit =
      window ((items.filter p).map row) offset limit := by
  rw [takePage_eq, same]
  · rw [← map_findIdxs p items row [], window, window, List.map_take, List.map_drop]
  · intro gid member
    have := List.lt_add_of_mem_findIdxs gid member
    rw [same, List.length_map]
    omega

end Datapress.DataFusion.Resident
