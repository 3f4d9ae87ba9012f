import Datapress.DataFusion.ResidentProofs
import Datapress.Library.Lists

/-! Lookups in an equality index, for any index whose buckets list their rows in ascending
order: the loop over all predicates, and the single `eq` that borrows its bucket. -/
namespace Datapress.DataFusion.Resident

/-- `Cow<[u32]>`: a bucket of the index itself, or rows put together for the request. -/
inductive RowIds where
  | borrowed (rows : List Nat)
  | owned (rows : List Nat)
deriving Repr, DecidableEq

def RowIds.rows : RowIds → List Nat
  | borrowed rows | owned rows => rows

/-- The rows of several keys, united one after the other. -/
def Buckets.union (map : Buckets) (keys : List String) : List Nat :=
  keys.foldl (fun merged key => unionSorted merged (map.rows key)) []

/-- The rows that several lists share, cut down one after the other. -/
def intersectAll : List (List Nat) → Option (List Nat)
  | [] => none
  | rows :: rest => some (rest.foldl intersectSorted rows)

section
variable [ToLowercase] [JsonText]

/-- `try_index` with its fast path for a single `eq`. -/
def tryIndexBorrowing (index : EqIndex) (predicates : List Predicate) : Option RowIds :=
  if predicates.isEmpty || index.keys.isEmpty then none
  else
    match predicates with
    | [pred] =>
      if pred.op = "eq" then do
        let map ← index.lookup (toLowercase pred.col)
        let key ← jsonIndexKey (← pred.val)
        some (match map.lookup key with
          | some rows => .borrowed rows
          | none => .owned [])
      else (indexAll index [pred] none).join.map .owned
    | predicates => (indexAll index predicates none).join.map .owned

/-! ### What a lookup asks of an index -/

/-- The keys of an `eq` or `in` predicate, when all its values have one. -/
def Predicate.keys (pred : Predicate) : Option (List String) :=
  if pred.op = "eq" then do
    let key ← jsonIndexKey (← pred.val)
    some [key]
  else if pred.op = "in" then do
    let items ← (← pred.val).asArray
    items.mapM jsonIndexKey
  else none

/-- An equality or `in` with keyable values on an indexed column. -/
def Answers (index : EqIndex) (pred : Predicate) : Prop :=
  (index.lookup (toLowercase pred.col)).isSome ∧ (Predicate.keys pred).isSome

/-- Whether the index lists a row under one of the keys of a predicate. -/
def Satisfies (index : EqIndex) (pred : Predicate) (row : Nat) : Prop :=
  ∃ map ∈ index.lookup (toLowercase pred.col), ∃ keys ∈ Predicate.keys pred, ∃ key ∈ keys,
    row ∈ map.rows key

/-- What a build promises of its buckets. -/
def Ascending (index : EqIndex) : Prop :=
  ∀ name, ∀ map ∈ index.lookup name, ∀ key, (map.rows key).Pairwise (· < ·)

omit [JsonText] in
theorem ascending_build (fields : List Field) (chunks : List RecordBatch) (config : IndexConfig) :
    Ascending (buildEqIndexWithPolicy fields chunks config) := by
  intro name map found key
  have entry := lookup_index fields chunks config name
  rw [found] at entry
  obtain ⟨ci, _, buckets⟩ := entry
  rw [buckets]
  exact List.pairwise_findIdxs

/-! ### The lists of one predicate -/

omit [ToLowercase] [JsonText] in
theorem foldl_union_spec {map : Buckets} (ascending : ∀ key, (map.rows key).Pairwise (· < ·))
    (keys : List String) {before : List Nat} (sorted : before.Pairwise (· < ·)) :
    (keys.foldl (fun merged key => unionSorted merged (map.rows key)) before).Pairwise (· < ·) ∧
    ∀ row, row ∈ keys.foldl (fun merged key => unionSorted merged (map.rows key)) before ↔
      row ∈ before ∨ ∃ key ∈ keys, row ∈ map.rows key := by
  induction keys generalizing before with
  | nil => exact ⟨sorted, by simp⟩
  | cons key rest ih =>
      obtain ⟨united, members⟩ := ih (unionSorted_sorted sorted (ascending key))
      refine ⟨united, fun row => ?_⟩
      rw [List.foldl_cons, members, mem_unionSorted, List.exists_mem_cons_iff, or_assoc]

omit [ToLowercase] in
/-- Keys that the index lacks add nothing. -/
theorem mergeBuckets_eq (map : Buckets) (items : List JsonValue) (before : List Nat) :
    mergeBuckets map items before = (items.mapM jsonIndexKey).map fun keys =>
      keys.foldl (fun merged key => unionSorted merged (map.rows key)) before := by
  induction items generalizing before with
  | nil => rfl
  | cons item rest ih =>
      rw [List.mapM_cons]
      cases keyed : jsonIndexKey item with
      | none => simp [mergeBuckets, keyed]
      | some key =>
          have step : mergeBuckets map (item :: rest) before =
              mergeBuckets map rest (unionSorted before (map.rows key)) := by
            cases found : map.lookup key with
            | some rows => simp [mergeBuckets, keyed, found, Buckets.rows]
            | none => simp [mergeBuckets, keyed, found, Buckets.rows, unionSorted_nil]
          rw [step, ih]
          cases rest.mapM jsonIndexKey <;> rfl

theorem indexRows_eq (index : EqIndex) (pred : Predicate) :
    indexRows index pred = (index.lookup (toLowercase pred.col)).bind fun map =>
      (Predicate.keys pred).map map.union := by
  unfold indexRows Predicate.keys
  congr 1
  funext map
  by_cases eq : pred.op = "eq"
  · rw [if_pos eq, if_pos eq]
    cases pred.val with
    | none => rfl
    | some val =>
        cases keyed : jsonIndexKey val with
        | none => simp [keyed]
        | some key => simp [keyed, Buckets.union, Buckets.rows, unionSorted]
  · rw [if_neg eq, if_neg eq]
    by_cases isIn : pred.op = "in"
    · rw [if_pos isIn, if_pos isIn]
      cases pred.val with
      | none => rfl
      | some val =>
          cases listed : val.asArray with
          | none => simp [listed]
          | some items =>
              have merged : mergeBuckets map items [] =
                  (items.mapM jsonIndexKey).map map.union := mergeBuckets_eq map items []
              simpa only [Option.bind_eq_bind, Option.bind_some, listed] using merged
    · rw [if_neg isIn, if_neg isIn]
      rfl

theorem indexRows_isSome_iff {index : EqIndex} {pred : Predicate} :
    (indexRows index pred).isSome ↔ Answers index pred := by
  rw [indexRows_eq, Answers]
  cases index.lookup (toLowercase pred.col) with
  | none => simp
  | some map => cases Predicate.keys pred <;> simp

theorem indexRows_rows {index : EqIndex} (ascending : Ascending index) {pred : Predicate}
    {rows : List Nat} (found : indexRows index pred = some rows) :
    rows.Pairwise (· < ·) ∧ ∀ row, row ∈ rows ↔ Satisfies index pred row := by
  rw [indexRows_eq] at found
  obtain ⟨map, column, found⟩ := Option.bind_eq_some_iff.mp found
  obtain ⟨keys, keyed, rfl⟩ := Option.map_eq_some_iff.mp found
  obtain ⟨sorted, members⟩ := foldl_union_spec (ascending _ map column) keys .nil
  refine ⟨sorted, fun row => ?_⟩
  simp [Buckets.union, members, Satisfies, column, keyed]

/-! ### All predicates -/

theorem indexAll_eq (index : EqIndex) (predicates : List Predicate) (before : List Nat) :
    indexAll index predicates (some before) =
      (predicates.mapM (indexRows index)).map fun lists =>
        some (lists.foldl intersectSorted before) := by
  induction predicates generalizing before with
  | nil => rfl
  | cons pred rest ih =>
      rw [List.mapM_cons]
      cases resolved : indexRows index pred with
      | none => simp [indexAll, resolved]
      | some rows =>
          have step : indexAll index (pred :: rest) (some before) =
              indexAll index rest (some (intersectSorted before rows)) := by
            simp [indexAll, resolved]
          rw [step, ih]
          cases rest.mapM (indexRows index) <;> rfl

theorem tryIndex_eq (index : EqIndex) (predicates : List Predicate) :
    tryIndex index predicates = (predicates.mapM (indexRows index)).bind intersectAll := by
  cases predicates with
  | nil => rfl
  | cons pred rest =>
      rw [List.mapM_cons, tryIndex]
      cases resolved : indexRows index pred with
      | none => simp [indexAll, resolved]
      | some rows =>
          have occupied : index.keys ≠ [] := by
            intro empty
            obtain ⟨map, column, _⟩ := Option.bind_eq_some_iff.mp resolved
            have member : toLowercase pred.col ∈ index.keys :=
              AList.lookup_isSome.mp (by rw [column]; rfl)
            rw [empty] at member
            cases member
          have step : indexAll index (pred :: rest) none = indexAll index rest (some rows) := by
            simp [indexAll, resolved]
          rw [if_neg (by simpa using occupied), step, indexAll_eq]
          cases rest.mapM (indexRows index) <;> rfl

omit [ToLowercase] [JsonText] in
theorem foldl_intersect_spec {lists : List (List Nat)}
    (ascending : ∀ rows ∈ lists, rows.Pairwise (· < ·)) {before : List Nat}
    (sorted : before.Pairwise (· < ·)) :
    (lists.foldl intersectSorted before).Pairwise (· < ·) ∧
    ∀ row, row ∈ lists.foldl intersectSorted before ↔
      row ∈ before ∧ ∀ rows ∈ lists, row ∈ rows := by
  induction lists generalizing before with
  | nil => exact ⟨sorted, by simp⟩
  | cons rows rest ih =>
      obtain ⟨first, others⟩ := List.forall_mem_cons.mp ascending
      obtain ⟨shared, members⟩ := ih others (intersectSorted_sorted sorted first)
      refine ⟨shared, fun row => ?_⟩
      rw [List.foldl_cons, members, mem_intersectSorted sorted first, List.forall_mem_cons,
        and_assoc]

/-- The fast path finds what the loop finds. -/
theorem tryIndexBorrowing_rows (index : EqIndex) (predicates : List Predicate) :
    (tryIndexBorrowing index predicates).map RowIds.rows = tryIndex index predicates := by
  unfold tryIndexBorrowing
  by_cases nothing : (predicates.isEmpty || index.keys.isEmpty) = true
  · rw [if_pos nothing, tryIndex, if_pos nothing]
    rfl
  · rw [if_neg nothing]
    have looped (others : List Predicate) (same : others = predicates) :
        ((indexAll index others none).join.map RowIds.owned).map RowIds.rows =
          tryIndex index predicates := by
      rw [tryIndex, if_neg nothing, same, Option.map_map]
      exact congrFun Option.map_id _
    split
    case h_1 pred =>
      split
      case isFalse => exact looped [pred] rfl
      case isTrue eq =>
        rw [tryIndex, if_neg nothing]
        simp only [indexAll, indexRows, if_pos eq]
        cases index.lookup (toLowercase pred.col) with
        | none => rfl
        | some map =>
            cases pred.val with
            | none => rfl
            | some val =>
                cases keyed : jsonIndexKey val with
                | none => simp [keyed]
                | some key => cases found : map.lookup key <;> simp [keyed, found, RowIds.rows]
    case h_2 => exact looped predicates rfl

/-- A lookup gives up exactly when some predicate is not an equality or `in` on an indexed
column with keyable values. Else it finds, in ascending order, the rows that satisfy all
predicates; the bucket it borrows for a single equality is what its loop would have found. -/
theorem try_index_correct {index : EqIndex} (ascending : Ascending index)
    {predicates : List Predicate} (asked : predicates ≠ []) :
    (tryIndexBorrowing index predicates = none ↔ ∃ pred ∈ predicates, ¬ Answers index pred) ∧
    (∀ found ∈ tryIndexBorrowing index predicates, found.rows.Pairwise (· < ·) ∧
      ∀ row, row ∈ found.rows ↔ ∀ pred ∈ predicates, Satisfies index pred row) ∧
    (tryIndexBorrowing index predicates).map RowIds.rows = tryIndex index predicates := by
  have same := tryIndexBorrowing_rows index predicates
  refine ⟨?_, ?_, same⟩
  · have given_up : tryIndexBorrowing index predicates = none ↔
        predicates.mapM (indexRows index) = none := by
      rw [← Option.map_eq_none_iff, same, tryIndex_eq, Option.bind_eq_none_iff]
      constructor
      · intro every
        cases resolved : predicates.mapM (indexRows index) with
        | none => rfl
        | some lists =>
            have related := Lists.mapM_eq_some_iff.mp resolved
            cases related with
            | nil => exact absurd rfl asked
            | cons first others => exact absurd (every _ resolved) nofun
      · intro stopped lists resolved
        rw [stopped] at resolved
        cases resolved
    rw [given_up, Lists.mapM_eq_none_iff]
    simp only [← indexRows_isSome_iff, Option.not_isSome_iff_eq_none]
  · intro found answered
    have looked : tryIndex index predicates = some found.rows := by
      rw [← same, answered]
      rfl
    rw [tryIndex_eq] at looked
    obtain ⟨lists, resolved, shared⟩ := Option.bind_eq_some_iff.mp looked
    have related := Lists.mapM_eq_some_iff.mp resolved
    cases related with
    | nil => exact absurd rfl asked
    | @cons pred rows rest lists first others =>
        obtain ⟨sorted, members⟩ := indexRows_rows ascending first
        have each : ∀ rows ∈ lists, rows.Pairwise (· < ·) := by
          intro rows member
          obtain ⟨pred, _, resolved⟩ := Lists.exists_of_mem_right others member
          exact (indexRows_rows ascending resolved).1
        obtain ⟨ordered, shares⟩ := foldl_intersect_spec each sorted
        rw [intersectAll, Option.some_inj] at shared
        rw [← shared]
        refine ⟨ordered, fun row => ?_⟩
        rw [shares, members, List.forall_mem_cons]
        refine and_congr_right fun _ => ⟨fun listed pred member => ?_, fun all rows member => ?_⟩
        · obtain ⟨rows, inLists, resolved⟩ := Lists.exists_of_mem_left others member
          exact ((indexRows_rows ascending resolved).2 row).mp (listed rows inLists)
        · obtain ⟨pred, inRest, resolved⟩ := Lists.exists_of_mem_right others member
          exact ((indexRows_rows ascending resolved).2 row).mpr (all pred inRest)

end

/-! ### Runs -/

section
attribute [local instance] asciiToLowercase unusedJsonText

/-- The index of a column of three rows. -/
def kindIndex : EqIndex :=
  buildEqIndexWithPolicy [⟨"Kind", .utf8, true⟩] [[[.utf8 "open"], [.utf8 "done"]], [[.utf8 "open"]]]
    {}

def kindIs (op : String) (val : JsonValue) : Predicate := { col := "KIND", op, val := some val }

example : tryIndexBorrowing kindIndex [kindIs "eq" (.string "open")] = some (.borrowed [0, 2]) := by
  rfl

theorem try_index_correct_kind : ∃ predicates : List Predicate, predicates ≠ [] ∧
    (tryIndexBorrowing kindIndex predicates = none ↔
      ∃ pred ∈ predicates, ¬ Answers kindIndex pred) ∧
    (∀ found ∈ tryIndexBorrowing kindIndex predicates, found.rows.Pairwise (· < ·) ∧
      ∀ row, row ∈ found.rows ↔ ∀ pred ∈ predicates, Satisfies kindIndex pred row) ∧
    (tryIndexBorrowing kindIndex predicates).map RowIds.rows = tryIndex kindIndex predicates :=
  ⟨[kindIs "in" (.array [.string "done", .string "open", .string "done"]),
      kindIs "eq" (.string "open")], List.cons_ne_nil _ _,
    try_index_correct (ascending_build _ _ _) (List.cons_ne_nil _ _)⟩

end

end Datapress.DataFusion.Resident
