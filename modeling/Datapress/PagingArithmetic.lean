import Datapress.DataFusion.Resident
import Datapress.Library.Words
import Datapress.Mcp

/-! The arithmetic of paging, with every clamp that can panic and every product that can
overflow. -/
namespace Datapress.PagingArithmetic
open Mcp (clamp)
open Words

/-- `effective_limit_offset` -/
def effectiveLimitOffset (request : QueryRequest) (pageSizeCap : UInt64) :
    Option (UInt64 × UInt64) := do
  let page := max request.page 1
  let pageSize ← clamp request.pageSize 1 pageSizeCap
  let offset ← checkedMul (← checkedSub page 1) pageSize
  let limit ←
    match request.limit with
    | some cap => if offset ≥ cap then some 0 else min pageSize <$> checkedSub cap offset
    | none => some pageSize
  some (limit, offset)

/-- The window that `query_batches` asks for. -/
def queryBatches (request : QueryRequest) (maxPageSize : UInt64) : Option (UInt64 × UInt64) := do
  let page := max request.page 1
  let pageSize ← clamp request.pageSize 1 maxPageSize
  let offset ← checkedMul (← checkedSub page 1) pageSize
  some (pageSize, offset)

/-- The rows of a window that are there: from where, and how many. -/
def sliceBounds (window : UInt64 × UInt64) (total : UInt64) : Option (UInt64 × UInt64) := do
  let start := min window.2 total
  let len := min window.1 (← checkedSub total start)
  some (start, len)

/-- What answers a page: resident rows, of which there are so many, or SQL on one of the
backends. -/
inductive Path where
  | inMemory (rows : UInt64)
  | sql
  | duckdb

/-- Both backends raise the page size of the config to one when they are built. -/
def answerPage (path : Path) (maxPageSize : UInt64) (request : QueryRequest) :
    Option (UInt64 × UInt64) :=
  let cap := max maxPageSize 1
  match path with
  | .inMemory rows => do sliceBounds (← queryBatches request cap) rows
  | .sql => do
    let _ ← queryBatches request cap
    effectiveLimitOffset request cap
  | .duckdb => effectiveLimitOffset request cap

/-- The numbers of a config: `server.max_page_size`, `sql.max_rows` and `mcp.page_size`. No
check of the loader looks at them. -/
structure Limits where
  maxPageSize : UInt64
  maxRows : UInt64
  pageSize : UInt64

/-- The requests that page or cap: over HTTP, and as tool calls. A tool query may leave its page
size out. -/
inductive Asked where
  | query (request : QueryRequest)
  | streamAll (request : QueryRequest)
  | sql (maxRows : Option UInt64)
  | toolQuery (request : QueryRequest) (pageSize : Option UInt64)
  | toolSql (maxRows : Option UInt64)
  | otherTool

/-- The limit and the offset that are computed for a request; none where a step panics or
overflows. -/
def compute (limits : Limits) (path : Path) : Asked → Option (UInt64 × UInt64)
  | .query request => answerPage path limits.maxPageSize (request.clampPage limits.maxPageSize)
  | .streamAll request =>
    let window := (request.limit.getD (.ofNat (2 ^ 64 - 1)), 0)
    match path with
    | .inMemory rows => sliceBounds window rows
    | .sql | .duckdb => some window
  | .sql maxRows => do
    -- the server raises the cap of the config to one for this endpoint
    let cap := max limits.maxRows 1
    let cap ← match maxRows with
      | some asked => clamp asked 1 cap
      | none => some cap
    some (max cap 1, 0)
  | .toolQuery request pageSize => do
    let default ← clamp limits.pageSize 1 limits.maxPageSize
    let pageSize ← clamp (pageSize.getD default) 1 limits.maxPageSize
    answerPage path limits.maxPageSize { request with page := max request.page 1, pageSize }
  | .toolSql maxRows => do
    let _ ← clamp limits.pageSize 1 limits.maxPageSize
    let cap ← match maxRows with
      | some asked => clamp asked 1 limits.maxRows
      | none => some limits.maxRows
    some (max cap 1, 0)
  | .otherTool => do
    let _ ← clamp limits.pageSize 1 limits.maxPageSize
    some (0, 0)

/-- A `u64` holds the rows before the page. -/
def Representable (limits : Limits) (page pageSize : UInt64) : Prop :=
  ((max page 1).toNat - 1) * (min (max pageSize 1) (max limits.maxPageSize 1)).toNat < 2 ^ 64

/-- What keeps the arithmetic of a request in its bounds. -/
def Bounded (limits : Limits) : Asked → Prop
  | .query request => Representable limits request.page request.pageSize
  | .streamAll _ => True
  | .sql _ => True
  | .toolQuery request pageSize => limits.maxPageSize ≠ 0 ∧
      Representable limits request.page (pageSize.getD limits.pageSize)
  | .toolSql maxRows => limits.maxPageSize ≠ 0 ∧ (maxRows.isSome → limits.maxRows ≠ 0)
  | .otherTool => limits.maxPageSize ≠ 0

/-! ### One page -/

theorem clamp_eq {value high : UInt64} (ordered : high ≠ 0) :
    clamp value 1 high = some (min (max value 1) high) := by
  rw [clamp, if_pos (one_le_iff.mpr ordered)]

theorem clamp_eq_none {value : UInt64} : clamp value 1 0 = none := rfl

/-- A size that is in its bounds is left alone. -/
theorem clamp_clamped (value high : UInt64) :
    clamp (min (max value 1) (max high 1)) 1 (max high 1) =
      some (min (max value 1) (max high 1)) := by
  rw [clamp_eq (max_one_ne_zero high), clamped_twice]

section
variable {request : QueryRequest} {cap size : UInt64}

/-- The rows before a page are counted, or refused. -/
theorem queryBatches_eq (clamped : clamp request.pageSize 1 cap = some size) :
    queryBatches request cap =
      if ((max request.page 1).toNat - 1) * size.toNat < 2 ^ 64 then
        some (size, (max request.page 1 - 1) * size)
      else none := by
  obtain ⟨one_less, count⟩ := checkedSub_max_one request.page
  simp only [queryBatches, clamped, one_less, checkedMul, count, Option.bind_eq_bind,
    Option.bind_some]
  split <;> rfl

/-- The window that is computed is the one of the wrapping arithmetic of a release build. -/
theorem queryBatches_pageWindow (clampable : 1 ≤ cap) {window : UInt64 × UInt64}
    (computed : queryBatches request cap = some window) :
    DataFusion.Resident.pageWindow request cap = (window.2.toNat, window.1.toNat) := by
  rw [queryBatches_eq (clamp_eq (one_le_iff.mp clampable))] at computed
  split at computed
  case isTrue =>
      rw [← Option.some.inj computed]
      rfl
  case isFalse => exact nomatch computed

theorem effectiveLimitOffset_isSome_iff (clamped : clamp request.pageSize 1 cap = some size) :
    (effectiveLimitOffset request cap).isSome ↔
      ((max request.page 1).toNat - 1) * size.toNat < 2 ^ 64 := by
  obtain ⟨one_less, count⟩ := checkedSub_max_one request.page
  simp only [effectiveLimitOffset, clamped, one_less, checkedMul, count, Option.bind_eq_bind,
    Option.bind_some]
  by_cases fits : ((max request.page 1).toNat - 1) * size.toNat < 2 ^ 64
  · rw [if_pos fits, Option.bind_some, iff_true_right fits]
    cases request.limit with
    | none => rfl
    | some limit =>
        by_cases past : (max request.page 1 - 1) * size ≥ limit
        · simp only [if_pos past]
          rfl
        · have before : (max request.page 1 - 1) * size ≤ limit := by
            rw [ge_iff_le, UInt64.le_iff_toNat_le] at past
            rw [UInt64.le_iff_toNat_le]
            omega
          simp only [if_neg past, checkedSub, if_pos before]
          rfl
  · rw [if_neg fits, iff_false_right fits]
    exact Bool.false_ne_true

/-- So is the page that the statements are built from. -/
theorem effectiveLimitOffset_eq (clampable : 1 ≤ cap) {page : UInt64 × UInt64}
    (computed : effectiveLimitOffset request cap = some page) :
    request.effectiveLimitOffset cap clampable = page := by
  have clamped := @clamp_eq request.pageSize _ (one_le_iff.mp clampable)
  simp only [effectiveLimitOffset, clamped, (checkedSub_max_one request.page).1, checkedMul,
    Option.bind_eq_bind, Option.bind_some] at computed
  rw [QueryRequest.effectiveLimitOffset]
  generalize (max request.page 1 - 1) * min (max request.pageSize 1) cap = offset at *
  split at computed
  case isFalse => cases computed
  case isTrue =>
      rw [Option.bind_some] at computed
      cases limited : request.limit with
      | none =>
          rw [limited] at computed
          exact Option.some.inj computed
      | some limit =>
          simp only [limited] at computed ⊢
          by_cases past : offset ≥ limit
          · rw [if_pos past] at computed ⊢
            exact Option.some.inj computed
          · rw [if_neg past] at computed ⊢
            simp only [checkedSub, if_pos (UInt64.le_of_lt (UInt64.not_le.mp past))] at computed
            exact Option.some.inj computed

theorem sliceBounds_isSome (window : UInt64 × UInt64) (total : UInt64) :
    (sliceBounds window total).isSome := by
  have inside : min window.2 total ≤ total := by
    rw [UInt64.le_iff_toNat_le, toNat_min]
    exact Nat.min_le_right ..
  simp only [sliceBounds, checkedSub, if_pos inside]
  rfl

theorem answerPage_isSome_iff (path : Path) {maxPageSize : UInt64}
    (clamped : clamp request.pageSize 1 (max maxPageSize 1) = some size) :
    (answerPage path maxPageSize request).isSome ↔
      ((max request.page 1).toNat - 1) * size.toNat < 2 ^ 64 := by
  cases path with
  | inMemory rows =>
      rw [answerPage, queryBatches_eq clamped]
      split
      case isTrue fits => exact iff_of_true (sliceBounds_isSome ..) fits
      case isFalse big => exact iff_of_false Bool.false_ne_true big
  | sql =>
      rw [answerPage, queryBatches_eq clamped]
      split
      case isTrue fits => exact effectiveLimitOffset_isSome_iff clamped
      case isFalse big => exact iff_of_false Bool.false_ne_true big
  | duckdb => exact effectiveLimitOffset_isSome_iff clamped

end

/-- A default that was clamped is clamped as it is itself. -/
theorem clamp_default (pageSize : Option UInt64) (default : UInt64) {high : UInt64}
    (ordered : high ≠ 0) :
    clamp (pageSize.getD (min (max default 1) high)) 1 high =
      some (min (max (pageSize.getD default) 1) (max high 1)) := by
  rw [clamp_eq ordered, clamped_bound ordered]
  cases pageSize with
  | none =>
      have twice := clamped_twice default high
      rw [clamped_bound ordered] at twice
      exact congrArg some twice
  | some asked => rfl

/-! ### Every request -/

/-- No step panics or overflows exactly for the bounded requests. -/
theorem paging_arithmetic_iff (limits : Limits) (path : Path) (asked : Asked) :
    (compute limits path asked).isSome ↔ Bounded limits asked := by
  cases asked with
  | query request =>
      have counted := @answerPage_isSome_iff (request.clampPage limits.maxPageSize) _ path _
        (clamp_clamped request.pageSize limits.maxPageSize)
      rw [compute, counted]
      simp only [QueryRequest.clampPage, max_max_one, Bounded, Representable]
  | streamAll request =>
      refine iff_of_true ?_ trivial
      cases path with
      | inMemory rows => exact sliceBounds_isSome ..
      | sql => rfl
      | duckdb => rfl
  | sql maxRows =>
      refine iff_of_true ?_ trivial
      cases maxRows with
      | none => rfl
      | some asked =>
          simp only [compute, clamp_eq (max_one_ne_zero limits.maxRows)]
          rfl
  | toolQuery request pageSize =>
      by_cases zero : limits.maxPageSize = 0
      · refine iff_of_false ?_ fun bounded => bounded.1 zero
        rw [compute, zero, clamp_eq_none]
        exact Bool.false_ne_true
      · have counted := @answerPage_isSome_iff { request with
            page := max request.page 1
            pageSize := min (max (pageSize.getD limits.pageSize) 1) (max limits.maxPageSize 1) }
          _ path _ (clamp_clamped (pageSize.getD limits.pageSize) limits.maxPageSize)
        rw [compute, clamp_eq zero, Option.bind_eq_bind, Option.bind_some,
          clamp_default pageSize limits.pageSize zero, Option.bind_some, counted]
        simp only [max_max_one, Bounded, Representable, zero, ne_eq, not_false_eq_true, true_and]
  | toolSql maxRows =>
      by_cases zero : limits.maxPageSize = 0
      · refine iff_of_false ?_ fun bounded => bounded.1 zero
        rw [compute, zero, clamp_eq_none]
        exact Bool.false_ne_true
      · simp only [compute, clamp_eq zero, Bounded]
        cases maxRows with
        | none => exact iff_of_true rfl ⟨zero, fun impossible => nomatch impossible⟩
        | some asked =>
            by_cases capped : limits.maxRows = 0
            · refine iff_of_false ?_ fun bounded => bounded.2 rfl capped
              simp only [capped, clamp_eq_none]
              exact Bool.false_ne_true
            · simp only [clamp_eq capped]
              exact iff_of_true rfl ⟨zero, fun _ => capped⟩
  | otherTool =>
      by_cases zero : limits.maxPageSize = 0
      · refine iff_of_false ?_ fun bounded => bounded zero
        rw [compute, zero, clamp_eq_none]
        exact Bool.false_ne_true
      · simp only [compute, clamp_eq zero]
        exact iff_of_true rfl zero

/-- A page far behind the last row, a config without rows on a page, and one without rows in an
answer. -/
theorem paging_panics :
    compute ⟨100000, 100000, 100⟩ .duckdb
        (.query { page := 18446744073709551615, pageSize := 1000 }) = none ∧
      compute ⟨0, 100000, 100⟩ .sql .otherTool = none ∧
      compute ⟨100000, 0, 100⟩ .sql (.toolSql (some 10)) = none := by
  decide

end Datapress.PagingArithmetic
