import Mathlib.Data.Finset.Card
import Std.Data.String.ToInt
import Datapress.DataFusion.ResidentProofs
import Datapress.Library.Lists

/-! The equality index over the arrays of a dataset: which columns a build indexes, which rows
its buckets list, and what `indexed_columns` reports of it. -/
namespace Datapress.DataFusion.Resident
open Positions

/-- No key of a dictionary array stands for a slot without a value. -/
def ColumnArray.NullFree : ColumnArray → Prop
  | .plain _ => True
  | .dictionary keys values => ∀ key ∈ keys, ∀ k ∈ key, (values.getD k default).valid = true

/-- The indexed columns in the order of the schema; keys that are no name of the schema's follow
in their own order. -/
def indexedColumns (schema : DatasetSchema) (index : EqIndex) : List String :=
  let cols := (schema.columns.map (·.name)).filter (index.keys.contains ·)
  let extras := (index.keys.filter fun name => !cols.contains name).mergeSort
  cols ++ extras

/-! ### The build over all rows -/

section
variable [ToLowercase]

/-- The texts of a column. -/
def texts (ci : Nat) (rows : List Row) : List String := rows.filterMap fun row => (cellAt row ci).text

omit [ToLowercase] in
theorem indexBatch_append (maxCard : Option Nat) (ci : Nat) (first second : RecordBatch)
    (gid : Nat) (map : Buckets) :
    indexBatch maxCard ci (first ++ second) gid map =
      (indexBatch maxCard ci first gid map).bind
        (indexBatch maxCard ci second (gid + first.length)) := by
  induction first generalizing gid map with
  | nil => rfl
  | cons row rest ih =>
      rw [List.cons_append, indexBatch, indexBatch, List.length_cons,
        show gid + (rest.length + 1) = gid + 1 + rest.length by omega]
      split
      case h_1 => exact ih (gid + 1) map
      case h_2 key text =>
        cases indexKey maxCard map key gid with
        | none => rfl
        | some next => exact ih (gid + 1) next

omit [ToLowercase] in
theorem indexColumn_flatten (maxCard : Option Nat) (ci : Nat) (chunks : List RecordBatch)
    (base : Nat) (map : Buckets) :
    indexColumn maxCard ci chunks base map = indexBatch maxCard ci chunks.flatten base map := by
  induction chunks generalizing base map with
  | nil => rfl
  | cons batch rest ih =>
      rw [List.flatten_cons, indexBatch_append, indexColumn]
      congr 1
      funext next
      exact ih (base + batch.length) next

omit [ToLowercase] in
/-- A new key must fit under the limit; a key that is there already does. -/
theorem indexKey_spec {maxCard : Option Nat} {map : Buckets} {key : String} {gid : Nat}
    (within : ∀ limit ∈ maxCard, map.keys.toFinset.card ≤ limit) :
    match indexKey maxCard map key gid with
    | none => ∃ limit ∈ maxCard, limit < (insert key map.keys.toFinset).card
    | some after => after.keys.toFinset = insert key map.keys.toFinset ∧
        ∀ limit ∈ maxCard, after.keys.toFinset.card ≤ limit := by
  have size : map.keys.toFinset.card = map.keys.length :=
    List.toFinset_card_of_nodup map.nodupKeys
  have keys (ids : List Nat) :
      (map.insert key ids).keys.toFinset = insert key map.keys.toFinset := by
    ext other
    by_cases same : other = key
    · simp [same]
    · simp [same, List.mem_erase_of_ne]
  unfold indexKey
  cases found : map.lookup key with
  | some ids =>
      have present : key ∈ map.keys.toFinset :=
        List.mem_toFinset.mpr (AList.lookup_isSome.mp (by rw [found]; rfl))
      refine ⟨keys _, ?_⟩
      rw [keys, Finset.insert_eq_self.mpr present]
      exact within
  | none =>
      have absent : key ∉ map.keys.toFinset := by
        rw [List.mem_toFinset]
        exact fun member => AList.lookup_eq_none.mp found (AList.mem_keys.mpr member)
      cases maxCard with
      | none => exact ⟨keys _, nofun⟩
      | some limit =>
          by_cases full : limit ≤ map.keys.length
          · simp only [Option.any_some, full, decide_true, if_true]
            refine ⟨limit, rfl, ?_⟩
            rw [Finset.card_insert_of_notMem absent, size]
            omega
          · simp only [Option.any_some, full, decide_false, Bool.false_eq_true, if_false]
            refine ⟨keys _, ?_⟩
            rw [keys, Finset.card_insert_of_notMem absent, size]
            rintro _ ⟨⟩
            omega

omit [ToLowercase] in
/-- A column is given up when it has more texts than the limit, and else has them as keys. -/
theorem indexBatch_spec {maxCard : Option Nat} {ci gid : Nat} {rows : List Row} {map : Buckets}
    (within : ∀ limit ∈ maxCard, map.keys.toFinset.card ≤ limit) :
    match indexBatch maxCard ci rows gid map with
    | none => ∃ limit ∈ maxCard, limit < (map.keys.toFinset ∪ (texts ci rows).toFinset).card
    | some after => after.keys.toFinset = map.keys.toFinset ∪ (texts ci rows).toFinset ∧
        ∀ limit ∈ maxCard, after.keys.toFinset.card ≤ limit := by
  induction rows generalizing gid map with
  | nil =>
      rw [indexBatch, texts, List.filterMap_nil, List.toFinset_nil, Finset.union_empty]
      exact ⟨rfl, within⟩
  | cons row rest ih =>
      rw [indexBatch, texts, List.filterMap_cons]
      cases text : (cellAt row ci).text with
      | none => exact ih within
      | some key =>
          have stored := @indexKey_spec maxCard map key gid within
          have joined : map.keys.toFinset ∪ (key :: texts ci rest).toFinset =
              insert key map.keys.toFinset ∪ (texts ci rest).toFinset := by
            rw [List.toFinset_cons, Finset.union_insert, Finset.insert_union]
          simp only [Option.bind_eq_bind]
          rw [← texts, joined]
          cases next : indexKey maxCard map key gid with
          | none =>
              rw [next] at stored
              obtain ⟨limit, bound, over_limit⟩ := stored
              exact ⟨limit, bound, over_limit.trans_le
                (Finset.card_le_card Finset.subset_union_left)⟩
          | some after =>
              rw [next] at stored
              obtain ⟨keys, room⟩ := stored
              rw [← keys]
              exact ih room

/-! ### Indexed columns -/

/-- A column of an indexable type that the policy does not leave out. -/
def Sought (config : IndexConfig) (field : Field) : Prop :=
  config.mode ≠ .none ∧ field.dataType.indexed = true ∧
  (config.mode = .list → ∃ column ∈ config.columns, toLowercase column = toLowercase field.name)

/-- The automatic policy indexes a column of few texts. -/
def Fits (config : IndexConfig) (rows : List Row) (ci : Nat) : Prop :=
  config.mode = .auto → (texts ci rows).toFinset.card ≤ config.maxCardinality

omit [ToLowercase] in
theorem indexColumn_keys {maxCard : Option Nat} {ci : Nat} {chunks : List RecordBatch}
    {map : Buckets} (ran : indexColumn maxCard ci chunks 0 ∅ = some map) (key : String) :
    key ∈ map ↔ key ∈ texts ci chunks.flatten := by
  have counted := @indexBatch_spec maxCard ci 0 chunks.flatten ∅ (fun limit _ => Nat.zero_le limit)
  rw [← indexColumn_flatten, ran] at counted
  rw [AList.mem_keys, ← List.mem_toFinset, counted.1]
  simp

omit [ToLowercase] in
theorem indexColumn_isSome_iff {config : IndexConfig} {chunks : List RecordBatch} {ci : Nat} :
    (indexColumn (if config.mode = .auto then some config.maxCardinality else none) ci chunks 0
      ∅).isSome ↔ Fits config chunks.flatten ci := by
  rw [indexColumn_flatten, Fits]
  have counted := @indexBatch_spec (if config.mode = .auto then some config.maxCardinality else none)
    ci 0 chunks.flatten ∅ (fun limit _ => Nat.zero_le limit)
  rw [AList.keys_empty, List.toFinset_nil, Finset.empty_union] at counted
  split at counted
  case h_1 stopped =>
    obtain ⟨limit, bound, more⟩ := counted
    rw [stopped]
    split at bound
    case isTrue auto =>
      cases bound
      simp [auto, more]
    case isFalse => cases bound
  case h_2 after ran =>
    obtain ⟨keys, room⟩ := counted
    rw [ran, ← keys]
    simp only [Option.isSome_some, true_iff]
    intro auto
    exact room _ (by rw [if_pos auto]; rfl)

theorem indexField_named_iff {config : IndexConfig} {chunks : List RecordBatch} {field : Field}
    {ci : Nat} {name : String} (wanted : config.mode ≠ .none) :
    (indexField config chunks (field, ci)).any (·.1 == name) = true ↔
      toLowercase field.name = name ∧ Sought config field ∧ Fits config chunks.flatten ci := by
  rw [indexField, ← indexColumn_isSome_iff]
  by_cases unlisted : (config.mode = .list &&
      !config.columns.any (toLowercase · == toLowercase field.name)) = true
  · rw [if_pos unlisted]
    constructor
    · intro named
      cases named
    · rintro ⟨_, ⟨_, _, listed⟩, _⟩
      simp only [Bool.and_eq_true, decide_eq_true_eq, Bool.not_eq_true', List.any_eq_false,
        beq_iff_eq] at unlisted
      obtain ⟨column, member, same⟩ := listed unlisted.1
      exact absurd same (unlisted.2 column member)
  · rw [if_neg unlisted]
    have listed : config.mode = .list →
        ∃ column ∈ config.columns, toLowercase column = toLowercase field.name := by
      simpa only [Bool.and_eq_true, decide_eq_true_eq, Bool.not_eq_true', not_and,
        Bool.not_eq_false, List.any_eq_true, beq_iff_eq] using unlisted
    by_cases indexable : field.dataType.indexed = true
    · rw [if_neg (by simp [indexable])]
      have sought : Sought config field := ⟨wanted, indexable, listed⟩
      cases indexColumn (if config.mode = .auto then some config.maxCardinality else none) ci
        chunks 0 ∅ <;> simp [sought]
    · rw [if_pos (by simp [indexable])]
      simp [Sought, indexable]

theorem indexedColumn_iff {fields : List Field} {chunks : List RecordBatch}
    {config : IndexConfig} {name : String} {ci : Nat} :
    indexedColumn fields chunks config name = some ci ↔ chunks ≠ [] ∧
      IsLast (fun field ci => toLowercase field.name = name ∧ Sought config field ∧
        Fits config chunks.flatten ci) fields ci := by
  unfold indexedColumn
  by_cases off : (config.mode = .none || chunks.isEmpty) = true
  · rw [if_pos off]
    constructor
    · exact nofun
    · rintro ⟨occupied, ⟨field, _, _, ⟨wanted, _⟩, _⟩, _⟩
      simp [wanted, occupied] at off
  · rw [if_neg off, find?_zipIdx_reverse]
    rw [Bool.or_eq_true, decide_eq_true_eq, List.isEmpty_iff, not_or] at off
    simp only [indexField_named_iff off.1]
    exact (and_iff_right off.2).symm

theorem byNameIndex_eq {schema : DatasetSchema} {fields : List Field} {name : String} {last : Nat}
    (described : schema.columns = fields.map Field.info)
    (named : IsLast (fun field _ => toLowercase field.name = name) fields last) :
    byNameIndex schema name = last := by
  have found : (fields.findIdxs fun field => toLowercase field.name == name).getLast? =
      some last := by
    rw [getLast?_findIdxs]
    simpa only [beq_iff_eq] using named
  rw [byNameIndex, described, List.findIdxs_map]
  exact congrArg (·.getD 0) found

/-! ### Nulls of a dictionary -/

omit [ToLowercase] in
theorem ColumnArray.value_eq (column : ColumnArray) (row : Nat) :
    column.value row = column.read row ∨
      column.value row = .null ∧ ∃ text, column.read row = .utf8 text := by
  unfold value read
  split
  case h_1 => exact .inl rfl
  case h_2 =>
    split
    case h_1 => exact .inl rfl
    case h_2 k _ =>
      split
      case isTrue => exact .inl rfl
      case isFalse => exact .inr ⟨rfl, _, rfl⟩

omit [ToLowercase] in
theorem ColumnArray.nullFree_iff {column : ColumnArray} {dataType : DataType} {numRows : Nat}
    (holds : column.Holds dataType numRows) :
    column.NullFree ↔ ∀ row < numRows, column.value row = column.read row := by
  cases column with
  | plain cells => simp [NullFree, value, read]
  | dictionary keys values =>
      obtain ⟨_, length, _⟩ := holds
      simp only [NullFree, value, read]
      constructor
      · intro valid row inside
        rw [← length] at inside
        rw [List.getD_eq_getElem?_getD, List.getElem?_eq_getElem inside, Option.getD_some]
        cases key : keys[row] with
        | none => rfl
        | some k => simp only [valid keys[row] (List.getElem_mem inside) k key, if_true]
      · intro same key member k found
        obtain ⟨row, inside, rfl⟩ := List.getElem_of_mem member
        have here := same row (length ▸ inside)
        rw [List.getD_eq_getElem?_getD, List.getElem?_eq_getElem inside, Option.getD_some,
          found] at here
        simpa using here

omit [ToLowercase] in
theorem cell_value_eq {fields : List Field} (batch : ArrowBatch fields) (row ci : Nat) :
    cellAt (rowAt ColumnArray.value (batch, row)) ci = cellAt (rowAt ColumnArray.read (batch, row)) ci ∨
      cellAt (rowAt ColumnArray.value (batch, row)) ci = .null ∧
        ∃ text, cellAt (rowAt ColumnArray.read (batch, row)) ci = .utf8 text := by
  rw [cellAt_rowAt, cellAt_rowAt]
  cases batch.columns[ci]? with
  | none => exact .inl rfl
  | some column => exact column.value_eq row

/-- Whether no row of a column is one whose key stands for a slot without a value. -/
def NullFreeColumn {fields : List Field} (batches : List (ArrowBatch fields)) (ci : Nat) : Prop :=
  ∀ batch ∈ batches, ∀ column ∈ batch.columns[ci]?, column.NullFree

omit [ToLowercase] in
theorem nullFreeColumn_iff {fields : List Field} {batches : List (ArrowBatch fields)} {ci : Nat} :
    NullFreeColumn batches ci ↔ ∀ place ∈ places batches,
      cellAt (rowAt ColumnArray.value place) ci =
        cellAt (rowAt ColumnArray.read place) ci := by
  have typed (batch : ArrowBatch fields) (column : ColumnArray)
      (found : batch.columns[ci]? = some column) :
      column.NullFree ↔ ∀ row < batch.numRows, column.value row = column.read row := by
    obtain ⟨field, _, holds⟩ := Lists.exists_of_mem_right batch.typed (List.mem_of_getElem? found)
    exact ColumnArray.nullFree_iff holds
  constructor
  · rintro free ⟨batch, row⟩ member
    obtain ⟨inBatches, inside⟩ := mem_places.mp member
    rw [cellAt_rowAt, cellAt_rowAt]
    cases found : batch.columns[ci]? with
    | none => rfl
    | some column => exact (typed batch column found).mp (free batch inBatches column found) row inside
  · intro same batch member column found
    rw [typed batch column found]
    intro row inside
    have here := same (batch, row) (mem_places.mpr ⟨member, inside⟩)
    rw [cellAt_rowAt, cellAt_rowAt, found] at here
    exact here

/-! ### Values and their texts -/

/-- The number of distinct values of a column. -/
def distinctValues (rows : List Row) (ci : Nat) : Nat :=
  ((rows.map (cellAt · ci)).filter (· != .null)).dedup.length

omit [ToLowercase] in
theorem text_of_value {dataType : DataType} (indexable : dataType.indexed = true) {cell : Cell}
    (holds : dataType.holds cell = true) (value : cell ≠ .null) : ∃ key, cell.text = some key := by
  cases cell with
  | null => exact absurd rfl value
  | other bytes => cases dataType <;> simp [DataType.holds, DataType.indexed] at holds indexable
  | _ => exact ⟨_, rfl⟩

omit [ToLowercase] in
theorem eq_of_text {dataType : DataType} {first second : Cell}
    (holds : dataType.holds first = true) (holds' : dataType.holds second = true)
    {key : String} (text : first.text = some key) (text' : second.text = some key) :
    first = second := by
  cases first with
  | null => cases text
  | other bytes => cases text
  | utf8 value =>
      cases second with
      | utf8 value' =>
          rw [Cell.text, Option.some_inj] at text text'
          rw [text, text']
      | null => cases text'
      | other bytes => cases text'
      | _ => cases dataType <;> simp [DataType.holds] at holds holds'
  | boolean value =>
      cases second with
      | boolean value' =>
          rw [Cell.text, Option.some_inj] at text text'
          subst text
          revert text'
          cases value <;> cases value' <;> decide
      | null => cases text'
      | other bytes => cases text'
      | _ => cases dataType <;> simp [DataType.holds] at holds holds'
  | int value =>
      cases second with
      | int value' =>
          rw [Cell.text, Option.some_inj] at text text'
          rw [Int.repr_inj.mp (text.trans text'.symm)]
      | null => cases text'
      | other bytes => cases text'
      | _ => cases dataType <;> simp [DataType.holds] at holds holds'

omit [ToLowercase] in
/-- The values of an indexable column are told apart by their texts. -/
theorem card_texts {dataType : DataType} (indexable : dataType.indexed = true) {rows : List Row}
    {ci : Nat} (holds : ∀ row ∈ rows, dataType.holds (cellAt row ci) = true) :
    (texts ci rows).toFinset.card = distinctValues rows ci := by
  let cells := (rows.map (cellAt · ci)).filter (· != .null)
  have typed (cell : Cell) (listed : cell ∈ cells) :
      dataType.holds cell = true ∧ ∃ key, cell.text = some key := by
    obtain ⟨listed, value⟩ := List.mem_filter.mp listed
    obtain ⟨row, inRows, rfl⟩ := List.mem_map.mp listed
    exact ⟨holds row inRows, text_of_value indexable (holds row inRows) (by simpa using value)⟩
  have image : (texts ci rows).toFinset = cells.toFinset.image fun cell => cell.text.getD "" := by
    ext key
    simp only [List.mem_toFinset, Finset.mem_image, texts, List.mem_filterMap]
    constructor
    · rintro ⟨row, member, text⟩
      refine ⟨cellAt row ci, List.mem_filter.mpr ⟨List.mem_map_of_mem member, ?_⟩, by rw [text]; rfl⟩
      cases null : cellAt row ci with
      | null => rw [null] at text; cases text
      | _ => rfl
    · rintro ⟨cell, listed, rfl⟩
      obtain ⟨_, key, text⟩ := typed cell listed
      obtain ⟨row, member, rfl⟩ := List.mem_map.mp (List.mem_filter.mp listed).1
      exact ⟨row, member, by rw [text, Option.getD_some]⟩
  rw [image, Finset.card_image_of_injOn, distinctValues, List.card_toFinset]
  intro first inFirst second inSecond same
  obtain ⟨holds, key, text⟩ := typed first (by simpa using inFirst)
  obtain ⟨holds', key', text'⟩ := typed second (by simpa using inSecond)
  simp only [text, text', Option.getD_some] at same
  exact eq_of_text holds holds' text (same ▸ text')

/-! ### What a correct index is -/

/-- The buckets of a column: under each text the rows that hold it, in ascending order. -/
structure Buckets.Indexes (map : Buckets) (rows : List Row) (ci : Nat) : Prop where
  keys : ∀ key, key ∈ map ↔ key ∈ texts ci rows
  ascending : ∀ key, (map.rows key).Pairwise (· < ·)
  members : ∀ key gid, gid ∈ map.rows key ↔
    ∃ row, rows[gid]? = some row ∧ (cellAt row ci).text = some key

structure IndexCorrect {fields : List Field} (schema : DatasetSchema)
    (batches : List (ArrowBatch fields)) (config : IndexConfig) : Prop where
  buckets : ∀ name, ∀ map ∈ (buildEqIndexOfArrays batches config).lookup name,
    ∃ ci, owner batches config name = some ci ∧ map.Indexes (tableRows ColumnArray.value batches) ci
  automatic : config.mode = .auto → ∀ ci field, fields[ci]? = some field →
    field.dataType.indexed = true → (owner batches config (toLowercase field.name) = some ci ↔
      distinctValues (tableRows ColumnArray.value batches) ci ≤ config.maxCardinality)
  resolved : ∀ name ∈ buildEqIndexOfArrays batches config,
    owner batches config name = some (byNameIndex schema name)
  reported : indexedColumns schema (buildEqIndexOfArrays batches config) =
    (fields.zipIdx.filter fun (field, ci) =>
      owner batches config (toLowercase field.name) = some ci).map (·.1.name)

/-! ### When a build is correct -/

/-- A column that the policy asks an index for. -/
def Wanted {fields : List Field} (batches : List (ArrowBatch fields)) (config : IndexConfig)
    (field : Field) (ci : Nat) : Prop :=
  Sought config field ∧ (config.mode = .auto →
    distinctValues (tableRows ColumnArray.value batches) ci ≤ config.maxCardinality)

/-- A column stands out among those of its lowered name: it is the last of them and the only
one that is spelled in lower case, the policy asks for its index, and its dictionaries have no
null among their values. -/
structure StandsOut {fields : List Field} (batches : List (ArrowBatch fields))
    (config : IndexConfig) (name : String) (last : Nat) : Prop where
  named : IsLast (fun field _ => toLowercase field.name = name) fields last
  spelled : ∀ ci field, fields[ci]? = some field → (field.name = name ↔ ci = last)
  wanted : ∀ field, fields[last]? = some field → Wanted batches config field last
  nullFree : NullFreeColumn batches last

/-- The inputs on which a build is correct. -/
def Buildable {fields : List Field} (batches : List (ArrowBatch fields)) (config : IndexConfig) :
    Prop :=
  if batches = [] then config.mode = .auto → ∀ field ∈ fields, field.dataType.indexed = false
  else ∀ ci field, fields[ci]? = some field → Wanted batches config field ci →
    ∃ last, StandsOut batches config (toLowercase field.name) last ∧
      (config.mode = .auto → last = ci)

theorem owner_iff {fields : List Field} {batches : List (ArrowBatch fields)}
    {config : IndexConfig} {name : String} {ci : Nat} :
    owner batches config name = some ci ↔ batches ≠ [] ∧
      IsLast (fun field ci => toLowercase field.name = name ∧ Sought config field ∧
        Fits config (tableRows ColumnArray.read batches) ci) fields ci := by
  rw [owner, indexedColumn_iff, flatten_read, ne_eq, List.map_eq_nil_iff]

/-- An entry of the index has the buckets of its owner, as the build saw it. -/
theorem lookup_owner {fields : List Field} (batches : List (ArrowBatch fields))
    (config : IndexConfig) (name : String) :
    match (buildEqIndexOfArrays batches config).lookup name with
    | none => owner batches config name = none
    | some map => ∃ ci, owner batches config name = some ci ∧
        map.Indexes (tableRows ColumnArray.read batches) ci := by
  have entry := lookup_build fields (batches.map ArrowBatch.read) config name
  unfold buildEqIndexOfArrays
  generalize (buildEqIndexWithPolicy fields (batches.map ArrowBatch.read) config).lookup name =
    indexed at entry
  cases indexed with
  | none => exact entry
  | some map =>
    obtain ⟨ci, column, maxCard, ran⟩ := entry
    have rows (key : String) :
        map.rows key = (tableRows ColumnArray.read batches).findIdxs (hasText ci key) := by
      rw [indexColumn_rows ran, flatten_read]
      rfl
    refine ⟨ci, column, ?_, ?_, ?_⟩
    · intro key
      rw [indexColumn_keys ran, flatten_read]
    · intro key
      rw [rows]
      exact List.pairwise_findIdxs
    · intro key gid
      rw [rows, List.mem_findIdxs_iff_exists_getElem_pos]
      simp only [List.getElem?_eq_some_iff, hasText, beq_iff_eq]
      constructor
      · rintro ⟨inside, text⟩
        exact ⟨_, ⟨inside, rfl⟩, text⟩
      · rintro ⟨_, ⟨inside, rfl⟩, text⟩
        exact ⟨inside, text⟩

omit [ToLowercase] in
theorem texts_eq (ci : Nat) (rows : List Row) :
    texts ci rows = (rows.map (cellAt · ci)).filterMap Cell.text := by
  rw [texts, List.filterMap_map]
  rfl

omit [ToLowercase] in
theorem Buckets.Indexes.congr {map : Buckets} {rows others : List Row} {ci : Nat}
    (same : rows.map (cellAt · ci) = others.map (cellAt · ci)) (indexes : map.Indexes rows ci) :
    map.Indexes others ci := by
  have cell (rows : List Row) (gid : Nat) (key : String) :
      (∃ row, rows[gid]? = some row ∧ (cellAt row ci).text = some key) ↔
        ∃ cell, (rows.map (cellAt · ci))[gid]? = some cell ∧ cell.text = some key := by
    simp only [List.getElem?_map, Option.map_eq_some_iff]
    constructor
    · rintro ⟨row, found, text⟩
      exact ⟨_, ⟨row, found, rfl⟩, text⟩
    · rintro ⟨_, ⟨row, found, rfl⟩, text⟩
      exact ⟨row, found, text⟩
  refine ⟨fun key => ?_, indexes.ascending, fun key gid => ?_⟩
  · rw [indexes.keys, texts_eq, texts_eq, same]
  · rw [indexes.members, cell, cell, same]

omit [ToLowercase] in
theorem NullFreeColumn.cells {fields : List Field} {batches : List (ArrowBatch fields)} {ci : Nat}
    (free : NullFreeColumn batches ci) :
    (tableRows ColumnArray.value batches).map (cellAt · ci) =
      (tableRows ColumnArray.read batches).map (cellAt · ci) := by
  rw [table_eq, table_eq, List.map_map, List.map_map]
  exact List.map_congr_left (nullFreeColumn_iff.mp free)

omit [ToLowercase] in
/-- Buckets that are right for the values show that the build saw the values. -/
theorem nullFree_of_indexes {fields : List Field} {batches : List (ArrowBatch fields)} {ci : Nat}
    {map : Buckets} (seen : map.Indexes (tableRows ColumnArray.read batches) ci)
    (right : map.Indexes (tableRows ColumnArray.value batches) ci) : NullFreeColumn batches ci := by
  rw [nullFreeColumn_iff]
  rintro ⟨batch, row⟩ member
  obtain ⟨gid, inside, here⟩ := List.getElem_of_mem member
  have at_gid (cell : ColumnArray → Nat → Cell) :
      (tableRows cell batches)[gid]? = some (rowAt cell (batch, row)) := by
    rw [table_eq, List.getElem?_map, List.getElem?_eq_getElem inside, here]
    rfl
  rcases cell_value_eq batch row ci with same | ⟨null, text, read⟩
  · exact same
  · have listed : gid ∈ map.rows text :=
      (seen.members text gid).mpr ⟨_, at_gid ColumnArray.read, by rw [read]; rfl⟩
    obtain ⟨_, found, value⟩ := (right.members text gid).mp listed
    rw [at_gid ColumnArray.value] at found
    cases found
    rw [null] at value
    cases value

omit [ToLowercase] in
theorem texts_subset {fields : List Field} (batches : List (ArrowBatch fields)) (ci : Nat) :
    texts ci (tableRows ColumnArray.value batches) ⊆ texts ci (tableRows ColumnArray.read batches) := by
  intro key
  simp only [texts, table_eq, List.mem_filterMap, List.mem_map]
  rintro ⟨_, ⟨⟨batch, row⟩, member, rfl⟩, text⟩
  refine ⟨_, ⟨(batch, row), member, rfl⟩, ?_⟩
  rcases cell_value_eq batch row ci with same | ⟨null, _⟩
  · rw [← same]
    exact text
  · rw [null] at text
    cases text

omit [ToLowercase] in
/-- An indexable column has as many texts as values. -/
theorem card_cells {fields : List Field} {cell : ColumnArray → Nat → Cell}
    (holds : ∀ (column : ColumnArray) dataType numRows, column.Holds dataType numRows →
      ∀ row, dataType.holds (cell column row) = true) (batches : List (ArrowBatch fields))
    {field : Field} {ci : Nat} (found : fields[ci]? = some field)
    (indexable : field.dataType.indexed = true) :
    (texts ci (tableRows cell batches)).toFinset.card =
      distinctValues (tableRows cell batches) ci := by
  apply card_texts indexable
  intro row member
  rw [table_eq] at member
  obtain ⟨place, _, rfl⟩ := List.mem_map.mp member
  have typed := holds_cellAt (forall₂_rowAt holds place) ci
  rwa [List.getD_eq_getElem?_getD, List.getElem?_map, found] at typed

/-! ### Correctness -/

/-- Where no dictionary has a null among its values, the build indexes the wanted columns. -/
theorem fits_iff_wanted {fields : List Field} {batches : List (ArrowBatch fields)}
    {config : IndexConfig} {field : Field} {ci : Nat} (found : fields[ci]? = some field)
    (free : NullFreeColumn batches ci) :
    Sought config field ∧ Fits config (tableRows ColumnArray.read batches) ci ↔
      Wanted batches config field ci := by
  unfold Wanted Fits
  refine and_congr_right fun sought => ?_
  rw [← card_cells (fun _ _ _ typed => typed.value) batches found sought.2.1, texts_eq, texts_eq, free.cells]

theorem mem_index_iff {fields : List Field} {batches : List (ArrowBatch fields)}
    {config : IndexConfig} {name : String} :
    name ∈ buildEqIndexOfArrays batches config ↔ ∃ ci, owner batches config name = some ci := by
  have entry := lookup_owner batches config name
  rw [← AList.lookup_isSome]
  split at entry
  case h_1 absent => simp [absent, entry]
  case h_2 map found =>
    obtain ⟨ci, own, _⟩ := entry
    simp [found, own]

theorem lower_of_owner {fields : List Field} {batches : List (ArrowBatch fields)}
    {config : IndexConfig} {name : String} {ci : Nat} (own : owner batches config name = some ci) :
    toLowercase name = name := by
  obtain ⟨_, ⟨field, _, rfl, _⟩, _⟩ := owner_iff.mp own
  exact ToLowercase.idempotent field.name

/-- A wanted column that stands out is behind the index entry of its name. -/
theorem StandsOut.owner {fields : List Field} {batches : List (ArrowBatch fields)}
    {config : IndexConfig} {name : String} {last : Nat} (occupied : batches ≠ [])
    (outstanding : StandsOut batches config name last) :
    owner batches config name = some last := by
  obtain ⟨⟨field, found, named⟩, later⟩ := outstanding.named
  have fits := (fits_iff_wanted found outstanding.nullFree).mpr (outstanding.wanted field found)
  exact owner_iff.mpr ⟨occupied, ⟨field, found, named, fits⟩,
    fun cj beyond other here both => later cj beyond other here both.1⟩

theorem wanted_of_fits {fields : List Field} {batches : List (ArrowBatch fields)}
    {config : IndexConfig} {field : Field} {ci : Nat} (found : fields[ci]? = some field)
    (sought : Sought config field) (fits : Fits config (tableRows ColumnArray.read batches) ci) :
    Wanted batches config field ci := by
  refine ⟨sought, fun auto => ?_⟩
  rw [← card_cells (fun _ _ _ typed => typed.value) batches found sought.2.1]
  have fewer : (texts ci (tableRows ColumnArray.value batches)).toFinset ⊆
      (texts ci (tableRows ColumnArray.read batches)).toFinset := by
    intro key
    simp only [List.mem_toFinset]
    exact fun member => texts_subset batches ci member
  exact (Finset.card_le_card fewer).trans (fits auto)

theorem Buildable.standsOut {fields : List Field} {batches : List (ArrowBatch fields)}
    {config : IndexConfig} (buildable : Buildable batches config) {name : String} {ci : Nat}
    (own : Resident.owner batches config name = some ci) : StandsOut batches config name ci := by
  obtain ⟨occupied, ⟨field, found, named, sought, fits⟩, _⟩ := owner_iff.mp own
  rw [Buildable, if_neg occupied] at buildable
  obtain ⟨last, outstanding, _⟩ :=
    buildable ci field found (wanted_of_fits found sought fits)
  rw [named] at outstanding
  have same := outstanding.owner occupied
  rw [own] at same
  cases same
  exact outstanding

/-- What stands out is reported under its own name. -/
theorem reported_of_standsOut {fields : List Field} {schema : DatasetSchema}
    {batches : List (ArrowBatch fields)} {config : IndexConfig}
    (described : schema.columns = fields.map Field.info)
    (outstanding : ∀ name ci, owner batches config name = some ci →
      StandsOut batches config name ci) :
    indexedColumns schema (buildEqIndexOfArrays batches config) =
      (fields.zipIdx.filter fun (field, ci) =>
        owner batches config (toLowercase field.name) = some ci).map (·.1.name) := by
  have names : schema.columns.map (·.name) = fields.zipIdx.map (·.1.name) := by
    calc schema.columns.map (·.name) = fields.map (·.name) := by
          rw [described, List.map_map]
          rfl
      _ = (fields.zipIdx.map (·.1)).map (·.name) := by rw [List.zipIdx_map_fst]
      _ = fields.zipIdx.map (·.1.name) := List.map_map
  have cols : (schema.columns.map (·.name)).filter
      ((buildEqIndexOfArrays batches config).keys.contains ·) =
        (fields.zipIdx.filter fun (field, ci) =>
          owner batches config (toLowercase field.name) = some ci).map (·.1.name) := by
    rw [names, List.filter_map]
    congr 1
    apply List.filter_congr
    rintro ⟨field, ci⟩ member
    have found : fields[ci]? = some field := List.mem_zipIdx_iff_getElem?.mp member
    rw [Bool.eq_iff_iff, decide_eq_true_eq, Function.comp_apply, List.contains_iff_mem,
      ← AList.mem_keys, mem_index_iff]
    constructor
    · rintro ⟨own, owned⟩
      have here := ((outstanding _ own owned).spelled ci field found).mp rfl
      rw [lower_of_owner owned, owned, here]
    · intro owned
      have spelled := ((outstanding _ ci owned).spelled ci field found).mpr rfl
      exact ⟨ci, spelled ▸ owned⟩
  have extras : (buildEqIndexOfArrays batches config).keys.filter (fun name =>
      !((schema.columns.map (·.name)).filter
        ((buildEqIndexOfArrays batches config).keys.contains ·)).contains name) = [] := by
    rw [List.filter_eq_nil_iff]
    intro name member
    obtain ⟨ci, owned⟩ := mem_index_iff.mp (AList.mem_keys.mpr member)
    have stands := outstanding name ci owned
    obtain ⟨⟨field, found, _⟩, _⟩ := stands.named
    have spelled := (stands.spelled ci field found).mpr rfl
    have listed : name ∈ schema.columns.map (·.name) := by
      rw [described, List.map_map]
      exact List.mem_map.mpr ⟨field, List.mem_of_getElem? found, spelled⟩
    simp [listed, member]
  rw [indexedColumns, extras, List.mergeSort_nil, List.append_nil]
  exact cols

/-- A name that is reported once is the spelling of one column, which is behind its entry. -/
theorem spelled_of_reported {fields : List Field} {schema : DatasetSchema}
    {batches : List (ArrowBatch fields)} {config : IndexConfig}
    (described : schema.columns = fields.map Field.info)
    (reported : indexedColumns schema (buildEqIndexOfArrays batches config) =
      (fields.zipIdx.filter fun (field, ci) =>
        owner batches config (toLowercase field.name) = some ci).map (·.1.name))
    {name : String} {own : Nat} (owned : owner batches config name = some own) (ci : Nat)
    (field : Field) (found : fields[ci]? = some field) : field.name = name ↔ ci = own := by
  obtain ⟨_, ⟨owning, at_own, named, _⟩, _⟩ := owner_iff.mp owned
  -- the report has only keys of the index, and those are in lower case
  have spelled : owning.name = name := by
    have listed : owning.name ∈ indexedColumns schema (buildEqIndexOfArrays batches config) := by
      rw [reported]
      refine List.mem_map.mpr ⟨(owning, own), List.mem_filter.mpr ⟨?_, ?_⟩, rfl⟩
      · exact List.mem_zipIdx_iff_getElem?.mpr at_own
      · exact decide_eq_true (by rw [named, owned])
    have key : owning.name ∈ buildEqIndexOfArrays batches config := by
      rcases List.mem_append.mp listed with column | extra
      · simpa [AList.mem_keys] using (List.mem_filter.mp column).2
      · exact AList.mem_keys.mpr (List.mem_filter.mp (List.mem_mergeSort.mp extra)).1
    obtain ⟨_, owned'⟩ := mem_index_iff.mp key
    rw [← named, lower_of_owner owned']
  have distinct : (indexedColumns schema (buildEqIndexOfArrays batches config)).Nodup := by
    rw [reported]
    apply List.Nodup.map_on _ ((List.Nodup.of_map _ (List.nodup_zipIdx_map_snd fields)).filter _)
    rintro ⟨first, i⟩ inFirst ⟨second, j⟩ inSecond same
    obtain ⟨listed, owner_i⟩ := List.mem_filter.mp inFirst
    obtain ⟨listed', owner_j⟩ := List.mem_filter.mp inSecond
    have owner_i := of_decide_eq_true owner_i
    have owner_j := of_decide_eq_true owner_j
    simp only at same
    rw [same, owner_j] at owner_i
    cases owner_i
    rw [List.mem_zipIdx_iff_getElem?] at listed listed'
    cases listed.symm.trans listed'
    rfl
  have once : (schema.columns.map (·.name)).Pairwise fun first second =>
      first ∈ buildEqIndexOfArrays batches config →
      second ∈ buildEqIndexOfArrays batches config → first ≠ second := by
    have apart := List.pairwise_filter.mp (List.Nodup.of_append_left distinct)
    simpa only [List.contains_iff_mem, ← AList.mem_keys] using apart
  have member : name ∈ buildEqIndexOfArrays batches config := mem_index_iff.mpr ⟨own, owned⟩
  rw [described, List.map_map, List.pairwise_map, List.pairwise_iff_getElem] at once
  have apart (i j : Nat) (first second : Field) (before : i < j) (at_i : fields[i]? = some first)
      (at_j : fields[j]? = some second) (named : first.name = name) : second.name ≠ name := by
    intro named'
    obtain ⟨inside, rfl⟩ := List.getElem?_eq_some_iff.mp at_i
    obtain ⟨inside', rfl⟩ := List.getElem?_eq_some_iff.mp at_j
    refine once i j inside inside' before ?_ ?_ (named.trans named'.symm)
    · exact (named ▸ member : fields[i].name ∈ buildEqIndexOfArrays batches config)
    · exact (named' ▸ member : fields[j].name ∈ buildEqIndexOfArrays batches config)
  constructor
  · intro same
    rcases Nat.lt_trichotomy ci own with before | here | after
    · exact absurd spelled (apart ci own field owning before found at_own same)
    · exact here
    · exact absurd same (apart own ci owning field after at_own found spelled)
  · rintro rfl
    cases found.symm.trans at_own
    exact spelled

/-- What a correct index has an entry of stands out. -/
theorem IndexCorrect.standsOut {fields : List Field} {schema : DatasetSchema}
    {batches : List (ArrowBatch fields)} {config : IndexConfig}
    (right : IndexCorrect schema batches config)
    (described : schema.columns = fields.map Field.info) {name : String} {own : Nat}
    (owned : owner batches config name = some own) : StandsOut batches config name own := by
  obtain ⟨_, ⟨field, found, named, sought, fits⟩, _⟩ := owner_iff.mp owned
  have member : name ∈ buildEqIndexOfArrays batches config := mem_index_iff.mpr ⟨own, owned⟩
  have nullFree : NullFreeColumn batches own := by
    obtain ⟨map, stored⟩ := Option.isSome_iff_exists.mp (AList.lookup_isSome.mpr member)
    obtain ⟨ci, owned', values⟩ := right.buckets name map stored
    have entry := lookup_owner batches config name
    rw [stored] at entry
    obtain ⟨ci', owned'', seen⟩ := entry
    cases owned.symm.trans owned'
    cases owned.symm.trans owned''
    exact nullFree_of_indexes seen values
  refine ⟨?_, spelled_of_reported described right.reported owned, ?_, nullFree⟩
  · obtain ⟨last, isLast⟩ := exists_isLast
      (p := fun field _ => toLowercase field.name = name) found named
    have resolved := right.resolved name member
    rw [owned, byNameIndex_eq described isLast] at resolved
    cases resolved
    exact isLast
  · intro other here
    cases found.symm.trans here
    exact (fits_iff_wanted found nullFree).mp ⟨sought, fits⟩

/-- The build is correct exactly on the inputs where every wanted column stands out. -/
theorem index_correct_iff {fields : List Field} {schema : DatasetSchema}
    (described : schema.columns = fields.map Field.info) (batches : List (ArrowBatch fields))
    (config : IndexConfig) : IndexCorrect schema batches config ↔ Buildable batches config := by
  constructor
  · intro right
    unfold Buildable
    split
    case isTrue empty =>
      intro auto field member
      by_contra indexable
      obtain ⟨ci, inside, rfl⟩ := List.getElem_of_mem member
      have few : distinctValues (tableRows ColumnArray.value batches) ci ≤ config.maxCardinality := by
        rw [empty]
        exact Nat.zero_le _
      have owned := (right.automatic auto ci fields[ci] (List.getElem?_eq_getElem inside)
        (by simpa using indexable)).mpr few
      exact (owner_iff.mp owned).1 empty
    case isFalse occupied =>
      intro ci field found wanted
      obtain ⟨own, owned, same⟩ : ∃ own, owner batches config (toLowercase field.name) = some own ∧
          (config.mode = .auto → own = ci) := by
        by_cases auto : config.mode = .auto
        · exact ⟨ci, (right.automatic auto ci field found wanted.1.2.1).mpr (wanted.2 auto),
            fun _ => rfl⟩
        · obtain ⟨own, last⟩ := exists_isLast (p := fun other cj =>
            toLowercase other.name = toLowercase field.name ∧ Sought config other ∧
              Fits config (tableRows ColumnArray.read batches) cj) found
            ⟨rfl, wanted.1, fun auto' => absurd auto' auto⟩
          exact ⟨own, owner_iff.mpr ⟨occupied, last⟩, fun auto' => absurd auto' auto⟩
      exact ⟨own, right.standsOut described owned, same⟩
  · intro buildable
    have outstanding (name : String) (ci : Nat) (owned : owner batches config name = some ci) :
        StandsOut batches config name ci := buildable.standsOut owned
    refine ⟨?_, ?_, ?_, reported_of_standsOut described outstanding⟩
    · intro name map found
      have entry := lookup_owner batches config name
      rw [Option.mem_def.mp found] at entry
      obtain ⟨ci, owned, seen⟩ := entry
      exact ⟨ci, owned, seen.congr (outstanding name ci owned).nullFree.cells.symm⟩
    · intro auto ci field found indexable
      constructor
      · intro owned
        exact ((outstanding _ ci owned).wanted field found).2 auto
      · intro few
        unfold Buildable at buildable
        split at buildable
        case isTrue =>
          have excluded := buildable auto field (List.mem_of_getElem? found)
          rw [indexable] at excluded
          cases excluded
        case isFalse occupied =>
          have sought : Sought config field :=
            ⟨by rw [auto]; decide, indexable, fun listed => by rw [auto] at listed; cases listed⟩
          obtain ⟨last, stands, same⟩ := buildable ci field found ⟨sought, fun _ => few⟩
          rw [same auto] at stands
          exact stands.owner occupied
    · intro name member
      obtain ⟨ci, owned⟩ := mem_index_iff.mp member
      rw [owned, byNameIndex_eq described (outstanding name ci owned).named]

end

/-! ### Runs -/

section
attribute [local instance] asciiToLowercase

def cityFields : List Field := [⟨"City", .dictionaryInt32Utf8, true⟩]

/-- Two rows, the second without a city. -/
def cityBatch : ArrowBatch cityFields where
  numRows := 2
  columns := [.dictionary [some 0, none] [⟨"Rome", true⟩]]
  typed := by simp [cityFields, ColumnArray.Holds]

theorem index_correct_iff_city :
    IndexCorrect (.new "places" (cityFields.map Field.info)) [cityBatch] {} ↔
      Buildable [cityBatch] {} :=
  index_correct_iff rfl [cityBatch] {}

/-- A column whose name is not in lower case is reported by the key of its buckets. -/
theorem city_reported_by_key :
    ¬ IndexCorrect (.new "places" (cityFields.map Field.info)) [cityBatch] {} := by
  intro right
  have keys : (buildEqIndexOfArrays [cityBatch] {}).keys = ["city"] := rfl
  have reported := right.reported
  rw [indexedColumns, keys] at reported
  change _ = ["City"] at reported
  simp [DatasetSchema.new, cityFields, Field.info] at reported

end

end Datapress.DataFusion.Resident
