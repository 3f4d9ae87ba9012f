import Datapress.DataFusion.FastPath
import Datapress.Library.Words

/-! The count of a dataset and the pages of its rows under the same predicates. -/
namespace Datapress.DataFusion.Resident
open Positions

/-- A dataset and its table as a build publishes them. The engine plans no table that repeats
a column, and counts rows in an `i64`. -/
inductive Published [ToLowercase] : DatasetState → Provider → Prop where
  | eager : materialiseBatches d config batches = .ok (state, provider) →
      Published state provider
  | lazy : buildLazy d table = .ok (state, provider) → (table.fields.map (·.name)).Nodup →
      table.rows.length < 2 ^ 63 → Published state provider

section
variable [ToLowercase] [JsonText] {engine : Engine} {maxPageSize : UInt64}
  {clampable : 1 ≤ maxPageSize} {state : DatasetState} {provider : Provider}
  {predicates : List Predicate} {columns : List String} {infos : List ColumnInfo}

/-- A page of rows as they are: no grouping, no ordering, no cap. -/
def plainQuery (predicates : List Predicate) (columns : List String) (page pageSize : UInt64) :
    QueryRequest :=
  { predicates, columns, page, pageSize }

omit [ToLowercase] [JsonText] in
theorem plain_plainQuery (page pageSize : UInt64) :
    Plain (plainQuery predicates columns page pageSize) := ⟨rfl, rfl, rfl⟩

/-- The answers to a predicate list: both read the same rows. -/
def Selects (engine : Engine) (maxPageSize : UInt64) (clampable : 1 ≤ maxPageSize)
    (state : DatasetState) (provider : Provider) (predicates : List Predicate)
    (rows : List Row) : Prop :=
  rows.length ≤ provider.rows.length ∧
  count engine state provider { predicates } = .ok rows.length ∧
  ∀ columns page pageSize infos, columns.mapM state.schema.find = .ok infos →
    engine.Accepts infos →
    queryBatches engine maxPageSize clampable state provider
      (plainQuery predicates columns page pageSize) =
        .ok ((clip (plainQuery predicates columns page pageSize) maxPageSize true rows).map
          (shown state.schema provider.fields infos))

/-- Both refuse a predicate list. -/
def Refuses (engine : Engine) (maxPageSize : UInt64) (clampable : 1 ≤ maxPageSize)
    (state : DatasetState) (provider : Provider) (predicates : List Predicate) : Prop :=
  (∀ n, count engine state provider { predicates } ≠ .ok n) ∧
  ∀ columns page pageSize rows, queryBatches engine maxPageSize clampable state provider
    (plainQuery predicates columns page pageSize) ≠ .ok rows

omit [JsonText] in
theorem runCount_ok_iff {n : Nat} :
    (∃ statement params, buildCountSql state.schema predicates = .ok (statement, params) ∧
      engine.runCount provider statement params = .ok n) ↔
    ∃ tests, engine.tests state.schema provider.fields predicates = .ok tests ∧
      n = (provider.rows.filter fun row => tests.all (· row)).length := by
  simp only [buildCountSql, Fallible.bind_ok_iff, Engine.runCount, Fallible.map_ok_iff,
    Prod.exists, Except.ok.injEq, Prod.mk.injEq]
  constructor
  · rintro ⟨_, _, ⟨conditions, params, mapped, rfl, rfl⟩, rows, filtered, rfl⟩
    obtain ⟨tests, made, rfl⟩ := where_ok_iff.mp ⟨conditions, params, mapped, filtered⟩
    exact ⟨tests, made, rfl⟩
  · rintro ⟨tests, made, rfl⟩
    obtain ⟨conditions, params, mapped, filtered⟩ := where_ok_iff.mpr ⟨tests, made, rfl⟩
    exact ⟨_, params, ⟨conditions, params, mapped, rfl, rfl⟩, _, filtered, rfl⟩

/-- When neither is answered from resident rows, the SQL of both reads the same rows. -/
theorem selects_or_refuses_of_sql (describes : Describes state.schema provider)
    (counted : ∀ n, count engine state provider { predicates } = .ok n ↔
      ∃ statement params, buildCountSql state.schema predicates = .ok (statement, params) ∧
        engine.runCount provider statement params = .ok n)
    (untaken : ∀ columns page pageSize window,
      fastPath state (plainQuery predicates columns page pageSize) window = none) :
    (∃ rows, Selects engine maxPageSize clampable state provider predicates rows) ∨
      Refuses engine maxPageSize clampable state provider predicates := by
  have queried (columns page pageSize) : queryBatches engine maxPageSize clampable state provider
      (plainQuery predicates columns page pageSize) =
        sqlFallback engine maxPageSize clampable state provider
          (plainQuery predicates columns page pageSize) true := by
    rw [queryBatches, queryBatchesInner, untaken]
    rfl
  cases made : engine.tests state.schema provider.fields predicates with
  | ok tests =>
      refine .inl ⟨provider.rows.filter fun row => tests.all (· row), List.length_filter_le .., ?_,
        ?_⟩
      · exact (counted _).mpr (runCount_ok_iff.mpr ⟨tests, made, rfl⟩)
      · intro columns page pageSize infos known accepts
        rw [queried]
        refine (sqlFallback_ok_iff clampable describes (plain_plainQuery page pageSize)
          fun _ => rfl).mpr ?_
        exact ⟨rfl, rfl, infos, tests, known, accepts, made, rfl⟩
  | error e =>
      refine .inr ⟨fun n same => ?_, fun columns page pageSize rows same => ?_⟩
      · obtain ⟨tests, ok, _⟩ := runCount_ok_iff.mp ((counted n).mp same)
        rw [made] at ok
        cases ok
      · rw [queried] at same
        obtain ⟨_, _, _, tests, _, _, ok, _⟩ := (sqlFallback_ok_iff clampable describes
          (plain_plainQuery page pageSize) fun _ => rfl).mp same
        have refused := made.symm.trans ok
        cases refused

omit [ToLowercase] [JsonText] in
theorem canFastPath_plainQuery (state : Datapress.DatasetState) (page pageSize : UInt64)
    (paged : Bool) :
    canFastPath state (plainQuery predicates columns page pageSize) paged = !state.lazy := by
  simp [canFastPath, plainQuery]

/-- The count without resident rows to take it from. -/
theorem count_sql_iff {n : Nat} (notResident : state.lazy = true ∨
      predicates ≠ [] ∧ tryIndex state.index predicates = none) :
    count engine state provider { predicates } = .ok n ↔
      ∃ statement params, buildCountSql state.schema predicates = .ok (statement, params) ∧
        engine.runCount provider statement params = .ok n := by
  have resident : (if state.lazy then none
      else if predicates.isEmpty then some state.numRows
      else (tryIndex state.index predicates).map List.length) = none := by
    rcases notResident with lazy | ⟨some, miss⟩
    · rw [if_pos lazy]
    · rw [if_neg (by simpa using some : ¬ predicates.isEmpty = true), miss]
      split <;> rfl
  simp only [count, resident, Fallible.bind_ok_iff, Prod.exists]

/-- The count and the pages of an eager dataset that resident rows answer. -/
theorem selects_indexedRows {config : IndexConfig} {batches : Batches}
    (eager : Eager config batches state provider)
    (resident : predicates = [] ∨ (tryIndex state.index predicates).isSome) :
    Selects engine maxPageSize clampable state provider predicates
      (indexedRows config batches predicates) := by
  refine ⟨?_, ?_, ?_⟩
  · rw [eager.rows]
    exact length_indexedRows_le ..
  · rw [count, eager.eager]
    rcases resident with rfl | hit
    · rw [indexedRows_nil, List.length_flatten, ← eager.data]
      rfl
    · obtain ⟨ids, resolved⟩ := Option.isSome_iff_exists.mp hit
      have some : ¬ predicates.isEmpty = true := by
        intro none
        rw [List.isEmpty_iff.mp none] at resolved
        cases resolved
      have found := resolved
      rw [eager.index] at found
      obtain ⟨_, same⟩ := tryIndex_places found
      simp only [Bool.false_eq_true, if_false, if_neg some, resolved, Option.map_some, same]
      rw [List.length_findIdxs, List.countP_eq_length_filter, indexedRows, List.length_map]
  · intro columns page pageSize infos known _
    have takes := fastPath_isSome state (plainQuery predicates columns page pageSize)
      (some (pageWindow (plainQuery predicates columns page pageSize) maxPageSize))
    rw [canFastPath_plainQuery, eager.eager] at takes
    have taken : (fastPath state (plainQuery predicates columns page pageSize)
        (some (pageWindow (plainQuery predicates columns page pageSize) maxPageSize))).isSome =
          true := by
      rw [takes]
      rcases resident with rfl | hit
      · rfl
      · simp only [plainQuery, hit, Bool.or_true, Bool.not_false, Bool.and_self]
    obtain ⟨answer, answered⟩ := Option.isSome_iff_exists.mp taken
    obtain ⟨_, _, _, same⟩ := @fastPath_spec _ _ _ _ _ _ eager _ maxPageSize true _ answered
    rw [queryBatches, queryBatchesInner, answered]
    change answer = _
    rw [same]
    change _ <$> columns.mapM state.schema.find = _
    rw [known]
    rfl

theorem selects_or_refuses (published : Published state provider) :
    (∃ rows, Selects engine maxPageSize clampable state provider predicates rows) ∨
      Refuses engine maxPageSize clampable state provider predicates := by
  cases published with
  | eager built =>
      have eager := eager_of_built built
      by_cases resident : predicates = [] ∨ (tryIndex state.index predicates).isSome
      · exact .inl ⟨_, selects_indexedRows eager resident⟩
      · obtain ⟨some, miss⟩ := not_or.mp resident
        rw [Option.not_isSome_iff_eq_none] at miss
        refine selects_or_refuses_of_sql eager.describes
          (fun n => count_sql_iff (.inr ⟨some, miss⟩)) fun columns page pageSize window => ?_
        rw [← Option.not_isSome_iff_eq_none, fastPath_isSome]
        simp [plainQuery, miss, some]
  | lazy built distinct counted =>
      obtain ⟨schema, filtered, same⟩ := Fallible.bind_ok_iff.mp built
      cases same
      refine selects_or_refuses_of_sql ⟨withFilters_columns filtered, distinct⟩
        (fun n => count_sql_iff (.inl rfl)) fun columns page pageSize window => ?_
      rw [← Option.not_isSome_iff_eq_none, fastPath_isSome, canFastPath_plainQuery]
      exact Bool.false_ne_true

/-! ### All pages -/

/-- The number of rows of a full page. -/
def pageLength (pageSize maxPageSize : UInt64) : Nat := (min (max pageSize 1) maxPageSize).toNat

/-- So many pages hold `n` rows, and the offset of none of them overflows. -/
def Covers (n size : Nat) (pages : UInt64) : Prop :=
  n ≤ pages.toNat * size ∧ (pages.toNat - 1) * size < 2 ^ 64

omit [ToLowercase] [JsonText] in
theorem pageLength_pos (pageSize : UInt64) (clampable : 1 ≤ maxPageSize) :
    0 < pageLength pageSize maxPageSize := by
  have most : 1 ≤ maxPageSize.toNat := UInt64.le_iff_toNat_le.mp clampable
  have least : 1 ≤ (max pageSize 1).toNat := by
    rw [Words.toNat_max]
    exact Nat.le_max_right _ _
  change 0 < (if max pageSize 1 ≤ maxPageSize then max pageSize 1 else maxPageSize).toNat
  split <;> omega

omit [ToLowercase] [JsonText] in
/-- The pages of the quotient rounded up are enough, and the last of them begins in the rows. -/
theorem covers_exists {n size : Nat} (positive : 0 < size) (counted : n < 2 ^ 64) :
    ∃ pages, Covers n size pages := by
  have rounded := Nat.div_add_mod (n + (size - 1)) size
  have rest := Nat.mod_lt (n + (size - 1)) positive
  rw [Nat.mul_comm] at rounded
  generalize (n + (size - 1)) / size = pages at rounded
  have begun : (pages - 1) * size ≤ n - 1 := by
    rw [Nat.sub_mul]
    omega
  have few : pages ≤ n := by
    have before : pages - 1 ≤ n - 1 :=
      Nat.le_trans (Nat.le_mul_of_pos_right _ positive) begun
    rcases Nat.eq_zero_or_pos n with rfl | some
    · by_contra more
      have := Nat.le_mul_of_pos_left size (Nat.pos_of_ne_zero (by omega : pages ≠ 0))
      omega
    · omega
  refine ⟨.ofNat pages, ?_⟩
  rw [Covers, UInt64.toNat_ofNat_of_lt' (Nat.lt_of_le_of_lt few counted)]
  exact ⟨by omega, by omega⟩

omit [ToLowercase] [JsonText] in
theorem pageWindow_at {i : Nat} {pages pageSize : UInt64} (inside : i < pages.toNat)
    (offsets : (pages.toNat - 1) * pageLength pageSize maxPageSize < 2 ^ 64) :
    pageWindow (plainQuery predicates columns (.ofNat (i + 1)) pageSize) maxPageSize =
      (i * pageLength pageSize maxPageSize, pageLength pageSize maxPageSize) := by
  have page : (UInt64.ofNat (i + 1)).toNat = i + 1 :=
    UInt64.toNat_ofNat_of_lt' (Nat.lt_of_le_of_lt inside pages.toNat_lt)
  have first : (max (UInt64.ofNat (i + 1)) 1).toNat = i + 1 := by
    rw [Words.toNat_max, page]
    exact Nat.max_eq_left (Nat.le_add_left 1 i)
  have before : (max (UInt64.ofNat (i + 1)) 1 - 1).toNat = i := by
    rw [UInt64.toNat_sub_of_le, first]
    · rfl
    · rw [UInt64.le_iff_toNat_le, first]
      exact Nat.le_add_left 1 i
  have below : i * pageLength pageSize maxPageSize < 2 ^ 64 :=
    Nat.lt_of_le_of_lt (Nat.mul_le_mul_right _ (by omega)) offsets
  refine Prod.ext ?_ rfl
  change ((max (UInt64.ofNat (i + 1)) 1 - 1) * min (max pageSize 1) maxPageSize).toNat = _
  rw [UInt64.toNat_mul, before]
  exact Nat.mod_eq_of_lt below

omit [JsonText] in
theorem Published.counted (published : Published state provider) :
    provider.rows.length < 2 ^ 64 := by
  cases published with
  | eager built =>
      rw [(eager_of_built built).rows]
      exact Batches.length_chunks_lt _
  | lazy built _ counted =>
      obtain ⟨_, _, same⟩ := Fallible.bind_ok_iff.mp built
      cases same
      exact Nat.lt_trans counted (by decide)

/-- The pages that hold all rows, one after the other. -/
theorem Selects.pages {rows : List Row} {pages pageSize : UInt64}
    (selects : Selects engine maxPageSize clampable state provider predicates rows)
    (known : columns.mapM state.schema.find = .ok infos) (accepts : engine.Accepts infos)
    (covers : Covers rows.length (pageLength pageSize maxPageSize) pages) :
    ∃ results,
      (List.range pages.toNat).mapM (fun i => queryBatches engine maxPageSize clampable state
        provider (plainQuery predicates columns (.ofNat (i + 1)) pageSize)) = .ok results ∧
      results.flatten = rows.map (shown state.schema provider.fields infos) := by
  obtain ⟨enough, offsets⟩ := covers
  let size := pageLength pageSize maxPageSize
  refine ⟨(List.range pages.toNat).map fun i =>
    (window rows (i * size) size).map (shown state.schema provider.fields infos), ?_, ?_⟩
  · rw [Fallible.mapM_ok_iff, List.forall₂_map_right_iff, List.forall₂_same]
    intro i inside
    have page := selects.2.2 columns (.ofNat (i + 1)) pageSize infos known accepts
    rwa [clip, if_pos rfl, pageWindow_at (List.mem_range.mp inside) offsets] at page
  · have all := flatten_windows rows size pages.toNat
    rw [List.take_of_length_le enough] at all
    calc
      _ = (((List.range pages.toNat).map fun i => window rows (i * size) size).map
            (List.map (shown state.schema provider.fields infos))).flatten := by
          rw [List.map_map]
          rfl
      _ = _ := by rw [← List.map_flatten, all]

/-- The count accepts a predicate list exactly when a page of a plain query does, and counts the
rows of all its pages, for every list of known columns that the engine can select. -/
theorem count_agrees_with_query (published : Published state provider)
    (known : columns.mapM state.schema.find = .ok infos) (accepts : engine.Accepts infos) :
    (∀ page pageSize, (∃ n, count engine state provider { predicates } = .ok n) ↔
      ∃ rows, queryBatches engine maxPageSize clampable state provider
        (plainQuery predicates columns page pageSize) = .ok rows) ∧
    ∀ n, count engine state provider { predicates } = .ok n → ∀ pageSize,
      (∃ pages, Covers n (pageLength pageSize maxPageSize) pages) ∧
      ∀ pages, Covers n (pageLength pageSize maxPageSize) pages → ∃ results,
        (List.range pages.toNat).mapM (fun i => queryBatches engine maxPageSize clampable state
          provider (plainQuery predicates columns (.ofNat (i + 1)) pageSize)) = .ok results ∧
        results.flatten.length = n := by
  have either := @selects_or_refuses _ _ engine maxPageSize clampable _ _ predicates published
  rcases either with ⟨rows, selects⟩ | refuses
  · refine ⟨fun page pageSize => ?_, fun n counted pageSize => ?_⟩
    · exact ⟨fun _ => ⟨_, selects.2.2 columns page pageSize infos known accepts⟩,
        fun _ => ⟨_, selects.2.1⟩⟩
    · have same : rows.length = n := Except.ok.inj (selects.2.1.symm.trans counted)
      subst same
      refine ⟨covers_exists (pageLength_pos pageSize clampable) ?_, fun pages covers => ?_⟩
      · exact Nat.lt_of_le_of_lt selects.1 published.counted
      · obtain ⟨results, paged, all⟩ := selects.pages known accepts covers
        exact ⟨results, paged, by rw [all, List.length_map]⟩
  · refine ⟨fun page pageSize => ?_, fun n counted => absurd counted (refuses.1 n)⟩
    exact ⟨fun ⟨n, counted⟩ => absurd counted (refuses.1 n),
      fun ⟨rows, queried⟩ => absurd queried (refuses.2 columns page pageSize rows)⟩

end

section
attribute [local instance] asciiToLowercase unusedJsonText

theorem count_agrees_with_query_one : ∃ state provider,
    materialiseBatches { name := "events" } {} events = .ok (state, provider) ∧
    ∃ results, (List.range 2).mapM (fun i => queryBatches plainEngine 1000 (by decide) state
      provider (plainQuery (idIs "eq" (.number (.posInt 2))).predicates ["kind"]
        (.ofNat (i + 1)) 1)) = .ok results ∧ results.flatten.length = 1 := by
  have built : materialiseBatches { name := "events" } {} events = .ok _ := rfl
  refine ⟨_, _, built, ?_⟩
  exact ((@count_agrees_with_query _ _ plainEngine 1000 (by decide) _ _
    (idIs "eq" (.number (.posInt 2))).predicates ["kind"] _ (.eager built) rfl (fun _ => rfl)).2
      1 rfl 1).2 2 ⟨by decide, by decide⟩

end

end Datapress.DataFusion.Resident
