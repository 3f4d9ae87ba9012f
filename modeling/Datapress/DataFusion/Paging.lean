import Datapress.DataFusion.Counting

/-! The pages of a request, one after the other, beside the stream of its rows. -/
namespace Datapress.DataFusion.Resident
open Positions

/-! ### A paged result -/

/-- The rows up to an optional total limit. -/
def upTo {α : Type} (limit : Option Nat) (rows : List α) : List α := limit.elim rows rows.take

/-- Pages 1, 2, 3, … and a stream hold the rows up to the limit, each once and in order. -/
structure Partition {α : Type} (rows : List α) (size : Nat) (limit : Option Nat)
    (page : Nat → Except AppError (List α)) (stream : Except AppError (List α)) : Prop where
  positive : 0 < size
  pages : ∀ count, ∃ results, (List.range count).mapM (fun i => page (i + 1)) = .ok results ∧
    results.flatten = (upTo limit rows).take (count * size)
  bounded : ∀ i, ∃ result, page (i + 1) = .ok result ∧ result.length ≤ size ∧
    ∀ cap, limit = some cap → result.length ≤ cap - i * size
  stream : stream = .ok (upTo limit rows)

theorem Partition.of_windows {α : Type} {rows : List α} {size : Nat} {limit : Option Nat}
    {page : Nat → Except AppError (List α)} {stream : Except AppError (List α)}
    (positive : 0 < size) (streamed : stream = .ok (upTo limit rows))
    (paged : ∀ i, page (i + 1) = .ok (window (upTo limit rows) (i * size) size)) :
    Partition rows size limit page stream := by
  refine ⟨positive, fun count => ?_, fun i => ?_, streamed⟩
  · refine ⟨(List.range count).map fun i => window (upTo limit rows) (i * size) size, ?_,
      flatten_windows _ size count⟩
    rw [Fallible.mapM_ok_iff, List.forall₂_map_right_iff, List.forall₂_same]
    exact fun i _ => paged i
  · refine ⟨_, paged i, length_window_le .., fun cap same => ?_⟩
    rw [same, upTo, Option.elim_some, ← window_take]
    exact Nat.le_trans (length_window_le ..) (Nat.min_le_right ..)

/-- The pages of one partition are the pages of no other rows. -/
theorem Partition.rows_eq {α : Type} {rows others : List α} {size : Nat} {limit : Option Nat}
    {page : Nat → Except AppError (List α)} {stream : Except AppError (List α)}
    (partition : Partition rows size limit page stream)
    (paged : ∀ i, page (i + 1) = .ok (window (upTo limit others) (i * size) size)) :
    upTo limit rows = upTo limit others := by
  apply eq_of_pages partition.positive
  intro count
  obtain ⟨results, mapped, same⟩ := partition.pages count
  have windows := (Partition.of_windows partition.positive rfl paged).pages count
  obtain ⟨results', mapped', same'⟩ := windows
  rw [mapped] at mapped'
  rw [← same, ← same', Except.ok.inj mapped']

section
variable [ToLowercase]

/-! ### Pages of any number -/

/-- `effective_limit_offset` with pages and offsets of any size. -/
def limitOffset (request : QueryRequest) (maxPageSize : UInt64) (page : Nat) : Nat × Nat :=
  let page := max page 1
  let pageSize := pageLength request.pageSize maxPageSize
  let offset := (page - 1) * pageSize
  let limit :=
    match request.limit with
    | some cap => if offset ≥ cap.toNat then 0 else min pageSize (cap.toNat - offset)
    | none => pageSize
  (limit, offset)

omit [ToLowercase] in
theorem offset_toNat {maxPageSize pageSize page : UInt64}
    (fits : (max page.toNat 1 - 1) * pageLength pageSize maxPageSize < 2 ^ 64) :
    ((max page 1 - 1) * min (max pageSize 1) maxPageSize).toNat =
      (max page.toNat 1 - 1) * pageLength pageSize maxPageSize := by
  have before : (max page 1 - 1).toNat = max page.toNat 1 - 1 := by
    rw [(Words.checkedSub_max_one page).2, Words.toNat_max]
    rfl
  rw [UInt64.toNat_mul, before]
  exact Nat.mod_eq_of_lt fits

omit [ToLowercase] in
/-- A `u64` that holds the offset has the window of the in-memory paths, … -/
theorem pageWindow_eq {request : QueryRequest} {maxPageSize page : UInt64}
    (fits : (max page.toNat 1 - 1) * pageLength request.pageSize maxPageSize < 2 ^ 64) :
    pageWindow { request with page } maxPageSize =
      ((max page.toNat 1 - 1) * pageLength request.pageSize maxPageSize,
        pageLength request.pageSize maxPageSize) :=
  Prod.ext (offset_toNat fits) rfl

omit [ToLowercase] in
/-- … and the page of the statements. -/
theorem effectiveLimitOffset_page {request : QueryRequest} {maxPageSize page : UInt64}
    (clampable : 1 ≤ maxPageSize)
    (fits : (max page.toNat 1 - 1) * pageLength request.pageSize maxPageSize < 2 ^ 64) :
    let (limit, offset) := { request with page }.effectiveLimitOffset maxPageSize clampable
    limitOffset request maxPageSize page.toNat = (limit.toNat, offset.toNat) := by
  have offset := offset_toNat fits
  simp only [limitOffset, QueryRequest.effectiveLimitOffset]
  generalize (max page 1 - 1) * min (max request.pageSize 1) maxPageSize = product at offset ⊢
  rw [← offset]
  refine Prod.ext ?_ rfl
  cases request.limit with
  | none => rfl
  | some cap =>
      by_cases past : product ≥ cap
      · have past' : product.toNat ≥ cap.toNat := UInt64.le_iff_toNat_le.mp past
        simp only [if_pos past, if_pos past']
        rfl
      · have before : product.toNat < cap.toNat := by
          rw [ge_iff_le, UInt64.le_iff_toNat_le] at past
          omega
        have rest := UInt64.toNat_sub_of_le _ _ (UInt64.le_iff_toNat_le.mpr (Nat.le_of_lt before))
        simp only [if_neg past, if_neg (Nat.not_le.mpr before)]
        rw [Words.toNat_min, rest]
        rfl

omit [ToLowercase] in
/-- A page holds its window of the rows up to the limit. -/
theorem limitOffset_window {α : Type} (request : QueryRequest) (maxPageSize : UInt64)
    (rows : List α) (i : Nat) :
    window rows (limitOffset request maxPageSize (i + 1)).2
        (limitOffset request maxPageSize (i + 1)).1 =
      window (upTo (request.limit.map (·.toNat)) rows)
        (i * pageLength request.pageSize maxPageSize)
        (pageLength request.pageSize maxPageSize) := by
  have first : max (i + 1) 1 - 1 = i := by omega
  cases limited : request.limit with
  | none => simp only [limitOffset, limited, first, Option.map_none, upTo, Option.elim_none]
  | some cap =>
      simp only [limitOffset, limited, first, Option.map_some, upTo, Option.elim_some]
      rw [← window_take]
      by_cases past : i * pageLength request.pageSize maxPageSize ≥ cap.toNat
      · rw [if_pos past, Nat.sub_eq_zero_of_le past, Nat.min_zero]
      · rw [if_neg past]

variable [JsonText]

/-- `query_batches` of a page of any number. -/
def queryPage (engine : Engine) (maxPageSize : UInt64) (state : DatasetState)
    (provider : Provider) (request : QueryRequest) (page : Nat) : Except AppError Page :=
  let size := pageLength request.pageSize maxPageSize
  match fastPath state request (some ((max page 1 - 1) * size, size)) with
  | some answer => answer
  | none => do
    let (limit, offset) := limitOffset request maxPageSize page
    let (statement, params) ←
      buildQuerySqlWithSuffix state.schema request s!" LIMIT {limit} OFFSET {offset}"
    engine.run provider statement params (some limit) offset

/-- The store answers a page whose offset a `u64` holds as it would a page of any number. -/
theorem queryBatches_eq_queryPage {engine : Engine} {maxPageSize page : UInt64}
    {clampable : 1 ≤ maxPageSize} {state : DatasetState} {provider : Provider}
    {request : QueryRequest}
    (fits : (max page.toNat 1 - 1) * pageLength request.pageSize maxPageSize < 2 ^ 64) :
    queryBatches engine maxPageSize clampable state provider { request with page } =
      queryPage engine maxPageSize state provider request page.toNat := by
  have computed := effectiveLimitOffset_page clampable fits
  rw [queryBatches, queryBatchesInner, pageWindow_eq fits, queryPage]
  change (match fastPath state request _ with | some answer => answer | none => _) = _
  cases fastPath state request (some ((max page.toNat 1 - 1) *
    pageLength request.pageSize maxPageSize, pageLength request.pageSize maxPageSize)) with
  | some answer => rfl
  | none =>
      simp only at computed
      rw [computed]
      rfl

/-! ### Statements -/

/-- The clauses that end a statement, with the rows that they leave. -/
inductive Clause : String → Option Nat → Nat → Prop where
  | none : Clause "" none 0
  | limit : Clause s!" LIMIT {limit}" (some limit) 0
  | page : Clause s!" LIMIT {limit} OFFSET {offset}" (some limit) offset

/-- The engine gives one result in one order, of which the clause at the end of the statement
takes its window. -/
def Engine.FixedOrder (engine : Engine) (statement : SelectStatement) (params : Params)
    (provider : Provider) : Prop :=
  ∀ suffix limit offset, Clause suffix limit offset →
    Fallible.Agree (fun rows page => page = upTo limit (rows.drop offset)) (fun _ _ => True)
      (engine.others { statement with suffix := "" } params provider)
      (engine.others { statement with suffix } params provider)

omit [JsonText] in
/-- The clause at the end is no part of the rest of a statement. -/
theorem buildQuerySqlWithSuffix_eq (schema : DatasetSchema) (request : QueryRequest)
    (suffix : String) :
    buildQuerySqlWithSuffix schema request suffix =
      (fun (statement, params) => ({ statement with suffix }, params)) <$>
        buildQuerySqlWithSuffix schema request "" := by
  simp only [buildQuerySqlWithSuffix, map_bind]
  rfl

omit [ToLowercase] [JsonText] in
theorem run_clause {engine : Engine} {statement : SelectStatement} {params : Params}
    {provider : Provider} (fixed : engine.FixedOrder statement params provider)
    {suffix : String} {limit : Option Nat} {offset : Nat} (clause : Clause suffix limit offset) :
    Fallible.Agree (fun rows page => page = upTo limit (rows.drop offset)) (fun _ _ => True)
      (engine.run provider { statement with suffix := "" } params none 0)
      (engine.run provider { statement with suffix } params limit offset) := by
  unfold Engine.run
  dsimp only
  split
  case isTrue => exact fixed suffix limit offset clause
  case isFalse =>
      refine .bind_same (fun _ => trivial) fun rows _ => ?_
      unfold Engine.selectRows
      cases statement.select with
      | list items =>
          refine .bind_same (fun _ => trivial) fun names _ => ?_
          refine .bind_same (fun _ => trivial) fun _ _ => ?_
          refine .bind_same (fun _ => trivial) fun indices _ => .ok ?_
          cases limit <;> simp [upTo]
      | all => exact .ok (by cases limit <;> simp [upTo])
      | jsonObject _ => exact .ok (by cases limit <;> simp [upTo])

/-- The statement of a request has one result in one order. -/
def Ordered (engine : Engine) (state : DatasetState) (provider : Provider)
    (request : QueryRequest) : Prop :=
  ∀ statement params, buildQuerySqlWithSuffix state.schema request "" = .ok (statement, params) →
    engine.FixedOrder statement params provider

/-- What the engine answers to the statement of a request that ends so. -/
def sqlAnswer (engine : Engine) (state : DatasetState) (provider : Provider)
    (request : QueryRequest) (suffix : String) (limit : Option Nat) (offset : Nat) :
    Except AppError Page := do
  let (statement, params) ← buildQuerySqlWithSuffix state.schema request suffix
  engine.run provider statement params limit offset

omit [JsonText] in
theorem sqlAnswer_clause {engine : Engine} {state : DatasetState} {provider : Provider}
    {request : QueryRequest} (ordered : Ordered engine state provider request)
    {suffix : String} {limit : Option Nat} {offset : Nat} (clause : Clause suffix limit offset) :
    Fallible.Agree (fun rows page => page = upTo limit (rows.drop offset)) (fun _ _ => True)
      (sqlAnswer engine state provider request "" none 0)
      (sqlAnswer engine state provider request suffix limit offset) := by
  rw [sqlAnswer, sqlAnswer, buildQuerySqlWithSuffix_eq _ _ suffix,
    buildQuerySqlWithSuffix_eq _ _ ""]
  unfold Ordered at ordered
  generalize buildQuerySqlWithSuffix state.schema request "" = built at ordered ⊢
  cases built with
  | error e => exact .error trivial
  | ok both => exact run_clause (ordered both.1 both.2 rfl) clause

end

/-! ### Pages and stream -/

section
variable [ToLowercase] [JsonText] {engine : Engine} {maxPageSize : UInt64}
  {clampable : 1 ≤ maxPageSize} {state : DatasetState} {provider : Provider}
  {request : QueryRequest}

/-- The in-memory paths take the stream of a request, and its pages where it has no limit. -/
def takes (state : DatasetState) (request : QueryRequest) : Bool :=
  canFastPath state.toDatasetState request false &&
    (request.predicates.isEmpty || (tryIndex state.index request.predicates).isSome)

theorem fastPath_isSome_eq (window : Option (Nat × Nat)) :
    (fastPath state request window).isSome =
      (takes state request && (!window.isSome || request.limit.isNone)) := by
  rw [fastPath_isSome, takes]
  simp only [canFastPath, Bool.not_false, Bool.true_or, Bool.and_true]
  ac_rfl

/-- The whole result of a request is that of its stream without a limit. The pages and the
stream of the request hold the rows of it up to the limit, or are refused with it. -/
def Paged (engine : Engine) (maxPageSize : UInt64) (clampable : 1 ≤ maxPageSize)
    (state : DatasetState) (provider : Provider) (request : QueryRequest) : Prop :=
  let page := queryPage engine maxPageSize state provider request
  let stream := queryBatchesAll engine maxPageSize clampable state provider request
  match queryBatchesAll engine maxPageSize clampable state provider
      { request with limit := none } with
  | .ok rows => Partition rows (pageLength request.pageSize maxPageSize)
      (request.limit.map (·.toNat)) page stream
  | .error _ => (∀ i, ∃ e, page (i + 1) = .error e) ∧ ∃ e, stream = .error e

/-! The SQL path. -/

theorem queryPage_of_sql (untaken : takes state request = false ∨ request.limit ≠ none)
    (ordered : Ordered engine state provider request) (i : Nat) :
    Fallible.Agree (fun rows page => page = window (upTo (request.limit.map (·.toNat)) rows)
        (i * pageLength request.pageSize maxPageSize) (pageLength request.pageSize maxPageSize))
      (fun _ _ => True) (sqlAnswer engine state provider request "" none 0)
      (queryPage engine maxPageSize state provider request (i + 1)) := by
  have falls_back (window : Nat × Nat) : fastPath state request (some window) = none := by
    rw [← Option.not_isSome_iff_eq_none, fastPath_isSome_eq]
    rcases untaken with no | some
    · simp [no]
    · simp [some]
  have page := sqlAnswer_clause ordered (@Clause.page
    (limitOffset request maxPageSize (i + 1)).1 (limitOffset request maxPageSize (i + 1)).2)
  rw [queryPage, falls_back]
  refine Fallible.Agree.imp page fun rows result same => ?_
  exact same.trans (limitOffset_window request maxPageSize rows i)

theorem queryBatchesAll_of_sql (untaken : takes state request = false)
    (ordered : Ordered engine state provider request) :
    Fallible.Agree (fun rows page => page = upTo (request.limit.map (·.toNat)) rows)
      (fun _ _ => True) (sqlAnswer engine state provider request "" none 0)
      (queryBatchesAll engine maxPageSize clampable state provider request) := by
  have falls_back : fastPath state request none = none := by
    rw [← Option.not_isSome_iff_eq_none, fastPath_isSome_eq, untaken]
    exact Bool.false_ne_true
  rw [queryBatchesAll, queryBatchesInner, falls_back]
  change Fallible.Agree _ _ _ (sqlFallback engine maxPageSize clampable state provider request false)
  unfold sqlFallback buildQueryStreamSql
  cases request.limit with
  | none => exact Fallible.Agree.imp (sqlAnswer_clause ordered .none) fun _ _ same => same
  | some limit => exact Fallible.Agree.imp (sqlAnswer_clause ordered .limit) fun _ _ same => same

theorem paged_of_sql (untaken : takes state request = false)
    (ordered : Ordered engine state provider request) :
    Paged engine maxPageSize clampable state provider request := by
  have whole := @queryBatchesAll_of_sql _ _ engine maxPageSize clampable state provider
    { request with limit := none } untaken ordered
  have stream := @queryBatchesAll_of_sql _ _ engine maxPageSize clampable state provider request
    untaken ordered
  have page (i : Nat) := @queryPage_of_sql _ _ engine maxPageSize state provider request
    (.inl untaken) ordered i
  change Fallible.Agree _ _ (sqlAnswer engine state provider request "" none 0) _ at whole
  generalize sqlAnswer engine state provider request "" none 0 = answer at whole stream page
  cases answer with
  | ok rows =>
      obtain ⟨_, whole_ok, rfl⟩ := whole.ok_of_ok
      obtain ⟨_, stream_ok, rfl⟩ := stream.ok_of_ok
      have partition := Partition.of_windows (pageLength_pos request.pageSize clampable) stream_ok
        fun i => by
          obtain ⟨_, page_ok, rfl⟩ := (page i).ok_of_ok
          exact page_ok
      rw [Paged, whole_ok]
      exact partition
  | error e =>
      obtain ⟨e', whole_error⟩ := whole.error_of_error
      rw [Paged, whole_error]
      exact ⟨fun i => (page i).error_of_error, stream.error_of_error⟩

/-! The in-memory paths. -/

variable {d : DatasetConfig} {config : IndexConfig} {batches : Batches}

/-- What they answer: the part that is asked for of the rows spelled as the predicates ask. -/
theorem fastPath_of_taken (eager : Eager config batches state provider)
    (taken : takes state request = true) {pageWindow : Option (Nat × Nat)}
    (reached : (!pageWindow.isSome || request.limit.isNone) = true) :
    fastPath state request pageWindow =
      some ((fun infos => (part request pageWindow
          (spelledRows config batches request.predicates)).map
            (shown state.schema batches.fields infos)) <$>
        request.columns.mapM state.schema.find) := by
  have isSome : (fastPath state request pageWindow).isSome := by
    rw [fastPath_isSome_eq, taken, reached]
    rfl
  obtain ⟨answer, answered⟩ := Option.isSome_iff_exists.mp isSome
  obtain ⟨_, _, _, same⟩ := fastPath_part eager answered
  rw [answered, same, eager.fields, indexedRows_eq]

theorem queryPage_of_taken (eager : Eager config batches state provider)
    (taken : takes state request = true) (unlimited : request.limit = none) (i : Nat) :
    queryPage engine maxPageSize state provider request (i + 1) =
      (fun infos => window ((spelledRows config batches request.predicates).map
          (shown state.schema batches.fields infos))
        (i * pageLength request.pageSize maxPageSize)
        (pageLength request.pageSize maxPageSize)) <$>
      request.columns.mapM state.schema.find := by
  have reached (window : Nat × Nat) :
      (!(some window).isSome || request.limit.isNone) = true := by rw [unlimited]; rfl
  rw [queryPage, fastPath_of_taken eager taken (reached _)]
  simp only [part, window, List.map_take, List.map_drop, Nat.add_one_sub_one,
    Nat.max_eq_left (Nat.le_add_left 1 i)]

theorem queryBatchesAll_of_taken (eager : Eager config batches state provider)
    (taken : takes state request = true) :
    queryBatchesAll engine maxPageSize clampable state provider request =
      (fun infos => upTo (request.limit.map (·.toNat))
        ((spelledRows config batches request.predicates).map
          (shown state.schema batches.fields infos))) <$>
      request.columns.mapM state.schema.find := by
  rw [queryBatchesAll, queryBatchesInner, fastPath_of_taken eager taken rfl]
  simp only [part]
  cases request.limit <;> simp only [upTo, Option.map_none, Option.map_some, Option.elim_none,
    Option.elim_some, List.map_take]

/-- The whole SQL result of a request that the in-memory paths take. -/
theorem sqlAnswer_ok_iff (eager : Eager config batches state provider)
    (taken : takes state request = true) {rows : Page} :
    sqlAnswer engine state provider request "" none 0 = .ok rows ↔
    request.aggregations = [] ∧ request.having = [] ∧
    ∃ infos tests, request.columns.mapM state.schema.find = .ok infos ∧ engine.Accepts infos ∧
      engine.tests state.schema batches.fields request.predicates = .ok tests ∧
      rows = (batches.chunks.flatten.filter fun row => tests.all (· row)).map
        (shown state.schema batches.fields infos) := by
  have plain := (plain_of_canFastPath (Bool.and_eq_true_iff.mp taken).1).1
  have ran := @run_ok_iff _ engine state provider eager.describes request plain "" none 0 rows
  rw [eager.fields, eager.rows] at ran
  rw [sqlAnswer]
  simp only [Fallible.bind_ok_iff, Prod.exists]
  exact ran

/-- Up to the limit the SQL selects the cells that the in-memory paths show. -/
structure ShownAlike (engine : Engine) (config : IndexConfig) (batches : Batches)
    (schema : DatasetSchema) (request : QueryRequest) (infos : List ColumnInfo) : Prop where
  aggregations : request.aggregations = []
  having : request.having = []
  accepts : engine.Accepts infos
  rows : ∃ tests, engine.tests schema batches.fields request.predicates = .ok tests ∧
    upTo (request.limit.map (·.toNat))
        ((spelledRows config batches request.predicates).map (shown schema batches.fields infos)) =
      upTo (request.limit.map (·.toNat))
        ((batches.chunks.flatten.filter fun row => tests.all (· row)).map
          (shown schema batches.fields infos))

/-- The answer of the in-memory paths to the stream of a request without its limit. -/
theorem whole_of_taken (eager : Eager config batches state provider)
    (taken : takes state request = true) :
    queryBatchesAll engine maxPageSize clampable state provider { request with limit := none } =
      (fun infos => (spelledRows config batches request.predicates).map
        (shown state.schema batches.fields infos)) <$> request.columns.mapM state.schema.find :=
  @queryBatchesAll_of_taken _ _ engine maxPageSize clampable state provider
    { request with limit := none } config batches eager taken

/-- Without a limit the pages too are those of the in-memory paths. -/
theorem paged_of_unlimited (eager : Eager config batches state provider)
    (taken : takes state request = true) (unlimited : request.limit = none) :
    Paged engine maxPageSize clampable state provider request := by
  have whole := @whole_of_taken _ _ engine maxPageSize clampable _ _ _ _ _ eager taken
  have stream := @queryBatchesAll_of_taken _ _ engine maxPageSize clampable _ _ _ _ _ eager taken
  have page := @queryPage_of_taken _ _ engine maxPageSize _ _ _ _ _ eager taken unlimited
  cases found : request.columns.mapM state.schema.find with
  | error e =>
      rw [found] at whole stream page
      rw [Paged, whole]
      exact ⟨fun i => ⟨e, page i⟩, e, stream⟩
  | ok infos =>
      rw [found] at whole stream page
      rw [Paged, whole]
      refine Partition.of_windows (pageLength_pos request.pageSize clampable) stream fun i => ?_
      rw [unlimited]
      exact page i

/-- Under a limit the pages are those of the SQL. -/
theorem paged_iff_of_limited (eager : Eager config batches state provider)
    (taken : takes state request = true) (limited : request.limit ≠ none)
    (ordered : Ordered engine state provider request) :
    Paged engine maxPageSize clampable state provider request ↔
      ∀ infos, request.columns.mapM state.schema.find = .ok infos →
        ShownAlike engine config batches state.schema request infos := by
  have whole := @whole_of_taken _ _ engine maxPageSize clampable _ _ _ _ _ eager taken
  have stream := @queryBatchesAll_of_taken _ _ engine maxPageSize clampable _ _ _ _ _ eager taken
  have page (i : Nat) := @queryPage_of_sql _ _ engine maxPageSize state provider request
    (.inr limited) ordered i
  have sql (rows : Page) := @sqlAnswer_ok_iff _ _ engine _ _ _ _ _ eager taken rows
  cases ran : sqlAnswer engine state provider request "" none 0 with
  | error e =>
      rw [ran] at page
      cases found : request.columns.mapM state.schema.find with
      | error e =>
          rw [found] at whole stream
          rw [Paged, whole]
          exact iff_of_true ⟨fun i => (page i).error_of_error, e, stream⟩ nofun
      | ok infos =>
          rw [found] at whole
          rw [Paged, whole]
          refine iff_of_false (fun partition => ?_) fun alike => ?_
          · obtain ⟨_, page_ok, _⟩ := partition.bounded 0
            obtain ⟨_, page_error⟩ := (page 0).error_of_error
            cases page_ok.symm.trans page_error
          · obtain ⟨aggregations, having, accepts, tests, made, _⟩ := alike infos rfl
            have answered := (sql _).mpr
              ⟨aggregations, having, infos, tests, found, accepts, made, rfl⟩
            cases ran.symm.trans answered
  | ok rows =>
      rw [ran] at page
      have answered (i : Nat) : queryPage engine maxPageSize state provider request (i + 1) =
          .ok (window (upTo (request.limit.map (·.toNat)) rows)
            (i * pageLength request.pageSize maxPageSize)
            (pageLength request.pageSize maxPageSize)) := by
        obtain ⟨_, page_ok, rfl⟩ := (page i).ok_of_ok
        exact page_ok
      obtain ⟨aggregations, having, infos, tests, found, accepts, made, rfl⟩ := (sql _).mp ran
      rw [found] at whole stream
      rw [Paged, whole]
      constructor
      · intro partition infos' found'
        obtain rfl : infos = infos' := Except.ok.inj (found.symm.trans found')
        exact ⟨aggregations, having, accepts, tests, made, partition.rows_eq answered⟩
      · intro alike
        obtain ⟨_, _, _, tests', made', same⟩ := alike infos found
        obtain rfl : tests = tests' := Except.ok.inj (made.symm.trans made')
        refine Partition.of_windows (pageLength_pos request.pageSize clampable) stream fun i => ?_
        rw [same]
        exact answered i

/-- What a dataset is built from. -/
inductive Source where
  | eager (config : IndexConfig) (batches : Batches)
  | lazy (table : Provider)

def Source.build (d : DatasetConfig) : Source → Except AppError (DatasetState × Provider)
  | eager config batches => materialiseBatches d config batches
  | lazy table => buildLazy d table

/-- Nothing is asked of a dataset that stays in its source, whose answers are all those of the
SQL, nor of a request without a limit. -/
def Source.Consistent (engine : Engine) (state : DatasetState) (request : QueryRequest) :
    Source → Prop
  | eager config batches => takes state request = true → request.limit ≠ none →
      ∀ infos, request.columns.mapM state.schema.find = .ok infos →
        ShownAlike engine config batches state.schema request infos
  | lazy _ => True

/-- The pages of a request are its first rows up to the limit, which its stream returns, exactly
when the in-memory paths do not take it, or it has no limit, or what they show up to the limit is
what its SQL selects. -/
theorem pages_partition_iff {source : Source} (built : source.build d = .ok (state, provider))
    (ordered : Ordered engine state provider request) :
    Paged engine maxPageSize clampable state provider request ↔
    source.Consistent engine state request := by
  cases source with
  | lazy table =>
      obtain ⟨_, _, same⟩ := Fallible.bind_ok_iff.mp built
      cases same
      exact iff_of_true (paged_of_sql rfl ordered) trivial
  | eager config batches =>
      have eager := eager_of_built built
      cases taken : takes state request with
      | false =>
          refine iff_of_true (paged_of_sql taken ordered) fun impossible => ?_
          rw [taken] at impossible
          exact absurd impossible Bool.false_ne_true
      | true =>
          by_cases unlimited : request.limit = none
          · refine iff_of_true (paged_of_unlimited eager taken unlimited) fun _ limited => ?_
            exact absurd unlimited limited
          · rw [paged_iff_of_limited eager taken unlimited ordered]
            exact ⟨fun alike _ _ => alike, fun consistent => consistent taken unlimited⟩

end

section
attribute [local instance] asciiToLowercase unusedJsonText

theorem plainEngine_ordered (state : DatasetState) (provider : Provider)
    (request : QueryRequest) : Ordered plainEngine state provider request :=
  fun _ _ _ _ _ _ _ => .error trivial

/-- The first of the events that a request asks for. -/
def firstIs (op : String) (val : JsonValue) : QueryRequest := { idIs op val with limit := some 1 }

theorem pages_partition_two : ∃ state provider,
    materialiseBatches { name := "events" } {} events = .ok (state, provider) ∧
    takes state (firstIs "eq" (.number (.posInt 2))) = true ∧
    Paged plainEngine 1000 (by decide) state provider (firstIs "eq" (.number (.posInt 2))) := by
  refine ⟨_, _, rfl, rfl, ?_⟩
  refine (@pages_partition_iff _ _ plainEngine 1000 (by decide) _ _ _ { name := "events" }
    (.eager {} events) rfl (plainEngine_ordered _ _ _)).mpr fun _ _ infos found => ?_
  cases found
  exact ⟨rfl, rfl, nofun, _, rfl, rfl⟩

/-- The stream of an empty `in` list is empty, and its pages under a limit are refused. -/
theorem empty_in_not_partitioned : ∃ state provider,
    materialiseBatches { name := "events" } {} events = .ok (state, provider) ∧
    ¬ Paged plainEngine 1000 (by decide) state provider (firstIs "in" (.array [])) := by
  refine ⟨_, _, rfl, fun paged => ?_⟩
  obtain ⟨_, impossible, _⟩ := paged.bounded 0
  cases impossible

end

end Datapress.DataFusion.Resident
