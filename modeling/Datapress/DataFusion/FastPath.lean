import Datapress.DataFusion.Spellings

/-! When the in-memory paths answer a request as its SQL does. -/
namespace Datapress.DataFusion.Resident
open Positions

/-- Both fail, or both return the same rows. -/
def Same (left right : Except AppError Page) : Prop :=
  Fallible.Agree (· = ·) (fun _ _ => True) left right

theorem same_ok_iff {page : Page} {right : Except AppError Page} :
    Same (.ok page) right ↔ right = .ok page := by
  constructor
  · intro same
    cases same with
    | ok equal => rw [equal]
  · rintro rfl
    exact .ok rfl

section
variable [ToLowercase] [JsonText] {engine : Engine} {maxPageSize : UInt64}
  {clampable : 1 ≤ maxPageSize} {d : DatasetConfig} {config : IndexConfig} {batches : Batches}
  {state : DatasetState} {provider : Provider} {request : QueryRequest} {paged : Bool}
  {answer : Except AppError Page}

/-- The page that a request asks for, or all rows. -/
abbrev asked (request : QueryRequest) (maxPageSize : UInt64) (paged : Bool) :
    Option (Nat × Nat) :=
  if paged then some (pageWindow request maxPageSize) else none

/-- The fast path gives the answers of the SQL to the request: to each of its pages and
streams, whatever columns of it are shown. -/
def Agrees (engine : Engine) (maxPageSize : UInt64) (clampable : 1 ≤ maxPageSize)
    (state : DatasetState) (provider : Provider) (request : QueryRequest) : Prop :=
  ∀ columns page pageSize limit paged answer,
    let request := { request with columns, page, pageSize, limit }
    (∀ infos, columns.mapM state.schema.find = .ok infos → engine.Accepts infos) →
    fastPath state request (asked request maxPageSize paged) = some answer →
    Same answer (sqlFallback engine maxPageSize clampable state provider request paged)

/-- Nothing aggregates, the predicates make tests, and a row is spelled as the predicates ask
exactly when it passes the tests. -/
structure Aligned (engine : Engine) (config : IndexConfig) (batches : Batches)
    (schema : DatasetSchema) (request : QueryRequest) : Prop where
  aggregations : request.aggregations = []
  having : request.having = []
  rows : ∃ tests, engine.tests schema batches.fields request.predicates = .ok tests ∧
    ∀ place ∈ places batches.arrays, spelled config batches request.predicates place =
      tests.all (· (rowAt ColumnArray.value place))

theorem same_of_aligned (eager : Eager config batches state provider)
    (aligned : Aligned engine config batches state.schema request)
    (accepts : ∀ infos, request.columns.mapM state.schema.find = .ok infos →
      engine.Accepts infos)
    (taken : fastPath state request (asked request maxPageSize paged) = some answer) :
    Same answer (sqlFallback engine maxPageSize clampable state provider request paged) := by
  obtain ⟨plain, noLimit, _, rfl⟩ := fastPath_spec eager taken
  obtain ⟨aggregations, having, tests, made, rows⟩ := aligned
  cases found : request.columns.mapM state.schema.find with
  | ok infos =>
      refine same_ok_iff.mpr ((sqlFallback_ok_iff clampable eager.describes plain noLimit).mpr ?_)
      rw [eager.fields, eager.rows]
      refine ⟨aggregations, having, infos, tests, found, accepts infos found, made, ?_⟩
      rw [indexedRows_eq, spelledRows, List.filter_congr rows, batches.flatten_chunks,
        List.filter_map]
      rfl
  | error e =>
      cases ran : sqlFallback engine maxPageSize clampable state provider request paged with
      | error _ => exact .error trivial
      | ok page =>
          obtain ⟨_, _, _, _, impossible, _⟩ :=
            (sqlFallback_ok_iff clampable eager.describes plain noLimit).mp ran
          rw [found] at impossible
          cases impossible

omit [JsonText] [ToLowercase] in
theorem canFastPath_whole {state : Datapress.DatasetState}
    (can : canFastPath state request paged = true) :
    canFastPath state { request with columns := [], limit := none } false = true := by
  simp only [canFastPath, Bool.and_eq_true, Bool.or_eq_true] at can ⊢
  exact ⟨⟨⟨can.1.1.1, .inl rfl⟩, can.1.2⟩, can.2⟩

/-- A request that the fast path takes at all, it takes as a stream of all rows with all
columns. -/
theorem whole_taken (taken : fastPath state request (asked request maxPageSize paged) =
    some answer) :
    ∃ answer, fastPath state { request with columns := [], limit := none }
      (asked { request with columns := [], limit := none } maxPageSize false) = some answer := by
  have takes := fastPath_isSome state request (asked request maxPageSize paged)
  rw [taken] at takes
  have both := Bool.and_eq_true_iff.mp takes.symm
  apply Option.isSome_iff_exists.mp
  rw [fastPath_isSome, Bool.and_eq_true_iff]
  exact ⟨canFastPath_whole both.1, both.2⟩

omit [JsonText] [ToLowercase] in
/-- The rows that are shown alike are the same rows. -/
theorem eq_of_named {names : List String} {rows others : List Row}
    (lengths : ∀ row ∈ rows, row.length ≤ names.length)
    (lengths' : ∀ row ∈ others, row.length ≤ names.length)
    (same : rows.map (named names) = others.map (named names)) : rows = others := by
  have unnamed {rows : List Row} (lengths : ∀ row ∈ rows, row.length ≤ names.length) :
      (rows.map (named names)).map (List.map Prod.snd) = rows := by
    rw [List.map_map]
    conv_rhs => rw [← List.map_id rows]
    apply List.map_congr_left
    intro row member
    exact List.map_snd_zip (lengths row member)
  rw [← unnamed lengths, same, unnamed lengths']

theorem aligned_of_agrees (eager : Eager config batches state provider)
    (taken : fastPath state request (asked request maxPageSize paged) = some answer)
    (agrees : Agrees engine maxPageSize clampable state provider request) :
    Aligned engine config batches state.schema request := by
  obtain ⟨whole, whole_answer⟩ := whole_taken taken
  have same := agrees [] request.page request.pageSize none false whole
    (fun infos found => by cases found; exact fun some => absurd rfl some) whole_answer
  obtain ⟨plain, noLimit, _, rfl⟩ := fastPath_spec eager whole_answer
  have ran := same_ok_iff.mp same
  obtain ⟨aggregations, having, infos, tests, found, _, made, page⟩ :=
    (sqlFallback_ok_iff clampable eager.describes plain noLimit).mp ran
  cases found
  rw [eager.fields] at made
  refine ⟨aggregations, having, tests, made, ?_⟩
  rw [eager.fields, eager.rows] at page
  have lengths (row : Row) (member : row ∈ (places batches.arrays).map (rowAt ColumnArray.value)) :
      row.length ≤ (batches.fields.map Field.name).length := by
    obtain ⟨place, _, rfl⟩ := List.mem_map.mp member
    rw [List.length_map, (forall₂_rowAt (fun _ _ _ typed => typed.value) place).length_eq]
  rw [batches.flatten_chunks] at page
  have rows := eq_of_named ?_ ?_ page
  · change indexedRows config batches request.predicates = _ at rows
    rw [indexedRows_eq] at rows
    exact passes_alike (q := fun row => tests.all (· row)) rows
  · intro row member
    obtain ⟨place, passes, rfl⟩ := List.mem_map.mp member
    exact lengths _ (List.mem_map_of_mem (List.mem_of_mem_filter passes))
  · exact fun row member => lengths row (List.mem_of_mem_filter member)

/-! ### Literals of the column's own kind -/

def DataType.integer : DataType → Bool
  | .int8 | .int16 | .int32 | .int64 => true
  | _ => false

/-- Whether a value needs no coercion to be compared with a column of the type. -/
def ownKind (dataType : DataType) : ScalarValue → Bool
  | .utf8 _ => dataType == .utf8 || dataType == .utf8View || dataType == .dictionaryInt32Utf8
  | .boolean _ => dataType == .boolean
  | .int64 _ | .uint64 _ => dataType.integer
  | _ => false

def equals : ScalarValue → Cell → Bool
  | .utf8 value, .utf8 cell => cell == value
  | .boolean value, .boolean cell => cell == value
  | .int64 value, .int cell => cell == value.toInt
  | .uint64 value, .int cell => cell == value.toNat
  | _, _ => false

/-- The engine compares a column with values of its own kind by equality. -/
structure Engine.Standard (engine : Engine) : Prop where
  compare : ∀ dataType value, ownKind dataType value = true →
    ∃ verdict, engine.compare dataType "=" value = .ok verdict ∧
      ∀ cell, dataType.holds cell = true → (verdict cell == some true) = equals value cell
  isIn : ∀ dataType values, (∀ value ∈ values, ownKind dataType value = true) →
    ∃ verdict, engine.isIn dataType values = .ok verdict ∧
      ∀ cell, dataType.holds cell = true →
        (verdict cell == some true) = values.any (equals · cell)

omit [ToLowercase] [JsonText] in
theorem cell_of_integer {dataType : DataType} {cell : Cell} (integer : dataType.integer = true)
    (holds : dataType.holds cell = true) : cell = .null ∨ ∃ value, cell = .int value := by
  cases cell with
  | null => exact .inl rfl
  | int value => exact .inr ⟨value, rfl⟩
  | _ => cases dataType <;> simp [DataType.integer, DataType.holds] at integer holds

omit [ToLowercase] in
/-- A cell is spelled as a literal of the column's kind exactly when it is equal to it. -/
theorem spells_eq_equals {dataType : DataType} {literal : JsonValue} {value : ScalarValue}
    {cell : Cell} (converted : jsonToScalar literal = .ok value)
    (own : ownKind dataType value = true) (holds : dataType.holds cell = true) :
    spells literal cell = equals value cell := by
  cases literal with
  | null => cases converted; cases own
  | array _ => cases converted
  | object _ => cases converted
  | string text =>
      cases converted
      simp only [ownKind, Bool.or_eq_true, beq_iff_eq] at own
      cases cell with
      | utf8 cell => exact Bool.beq_comm
      | null => rfl
      | _ => rcases own with (rfl | rfl) | rfl <;> cases holds
  | bool value =>
      cases converted
      obtain rfl := beq_iff_eq.mp own
      cases cell with
      | null => rfl
      | boolean cell => exact Bool.beq_comm
      | _ => cases holds
  | number number =>
      cases number with
      | float value => cases converted; cases own
      | negInt value negative =>
          cases converted
          rcases cell_of_integer own holds with rfl | ⟨v, rfl⟩ <;> rfl
      | posInt value =>
          by_cases small : value.toNat < 2 ^ 63
          · simp only [jsonToScalar, JsonNumber.asI64, if_pos small] at converted
            cases converted
            rcases cell_of_integer own holds with rfl | ⟨v, rfl⟩
            · rfl
            · rw [spells, equals, Int64.toInt_ofNat_of_lt small]
          · simp only [jsonToScalar, JsonNumber.asI64, if_neg small, JsonNumber.asU64]
              at converted
            cases converted
            rcases cell_of_integer own holds with rfl | ⟨v, rfl⟩ <;> rfl

/-- The predicate has literals, all of its column's kind, and its column is the indexed one of
its name, whose dictionaries have no null among their values. -/
structure OwnKind (config : IndexConfig) (batches : Batches) (schema : DatasetSchema)
    (pred : Predicate) (info : ColumnInfo) : Prop where
  found : schema.find pred.col = .ok info
  column : lookedUp config batches pred.col = some (byNameIndex schema (toLowercase info.name))
  nullFree : NullFreeColumn batches.arrays (byNameIndex schema (toLowercase info.name))
  nonempty : Predicate.literals pred ≠ []
  literals : ∀ literal ∈ Predicate.literals pred, ∃ value, jsonToScalar literal = .ok value ∧
    ownKind ((batches.fields.map (·.dataType)).getD
      (byNameIndex schema (toLowercase info.name)) .utf8) value = true

omit [ToLowercase] [JsonText] in
/-- The check of an `eq` or of an `in`, and the verdict of the engine on it. -/
theorem check_of_literals {pred : Predicate} {dataType : DataType} (standard : engine.Standard)
    (shape : pred.op = "eq" ∧ (∃ val, pred.val = some val) ∨
      pred.op = "in" ∧ ∃ items, pred.val = some (.array items))
    {values : List ScalarValue} (nonempty : Predicate.literals pred ≠ [])
    (converted : (Predicate.literals pred).mapM jsonToScalar = .ok values)
    (own : ∀ value ∈ values, ownKind dataType value = true) :
    ∃ check verdict, checkOf pred = .ok check ∧ engine.check dataType check = .ok verdict ∧
      ∀ cell, dataType.holds cell = true →
        (verdict cell == some true) = values.any (equals · cell) := by
  rcases shape with ⟨eq, val, given⟩ | ⟨isIn, items, given⟩
  · have literals : Predicate.literals pred = [val] := by
      simp only [Predicate.literals, given, eq]
      rfl
    rw [literals, List.mapM_cons] at converted
    obtain ⟨value, scalar, rest⟩ := Fallible.bind_ok_iff.mp converted
    cases rest
    obtain ⟨verdict, accepted, agrees⟩ := standard.compare dataType value
      (own value (List.mem_singleton_self _))
    refine ⟨.compare "=" value, verdict, ?_, accepted, fun cell holds => ?_⟩
    · simp only [checkOf, eq, given]
      change (do
        let value ← jsonToScalar val
        Except.ok (Check.compare "=" value)) = _
      rw [scalar]
      rfl
    · rw [agrees cell holds]
      exact (Bool.or_false _).symm
  · have literals : Predicate.literals pred = items := by
      simp only [Predicate.literals, given, if_pos isIn, JsonValue.asArray, Option.getD_some]
    rw [literals] at converted nonempty
    obtain ⟨verdict, accepted, agrees⟩ := standard.isIn dataType values own
    refine ⟨.oneOf values, verdict, ?_, accepted, agrees⟩
    cases items with
    | nil => exact absurd rfl nonempty
    | cons item items =>
        simp only [checkOf, isIn, given, JsonValue.asArray]
        change (do
          let values ← (item :: items).mapM jsonToScalar
          Except.ok (Check.oneOf values)) = _
        rw [converted]
        rfl

/-- A predicate with literals of its column's kind makes a test that the texts decide. -/
theorem test_of_ownKind {schema : DatasetSchema} {pred : Predicate} {info : ColumnInfo}
    (columns : schema.columns = batches.fields.map Field.info) (standard : engine.Standard)
    (resolves : Resolves (owner batches.arrays config) pred)
    (own : OwnKind config batches schema pred info) :
    ∃ asked test, resolve schema pred = .ok asked ∧
      engine.rowTest batches.fields asked = .ok test ∧
      ∀ place ∈ places batches.arrays,
        test (rowAt ColumnArray.value place) = meets config batches pred place := by
  generalize here : byNameIndex schema (toLowercase info.name) = i
  have column := own.column
  have literals := own.literals
  have nullFree := own.nullFree
  rw [here] at column literals nullFree
  obtain ⟨values, converted, kinds⟩ : ∃ values,
      (Predicate.literals pred).mapM jsonToScalar = .ok values ∧
      List.Forall₂ (fun literal value => jsonToScalar literal = .ok value ∧
        ownKind ((batches.fields.map (·.dataType)).getD i .utf8) value = true)
        (Predicate.literals pred) values := by
    obtain ⟨values, related⟩ := Lists.exists_forall₂ literals
    exact ⟨values, Fallible.mapM_ok_iff.mpr (related.imp fun _ _ both => both.1), related⟩
  obtain ⟨check, verdict, checked, accepted, agrees⟩ :=
    check_of_literals standard resolves.shape own.nonempty converted fun value member => by
      obtain ⟨_, _, _, kind⟩ := Lists.exists_of_mem_right kinds member
      exact kind
  refine ⟨(info, check), fun row => verdict (cellAt row i) == some true, ?_, ?_, ?_⟩
  · rw [resolve, own.found, Fallible.ok_bind, checked]
    rfl
  · have at_i := column_index columns batches.distinct own.found
    rw [here] at at_i
    rw [Engine.rowTest, at_i, Fallible.ok_bind, accepted]
    rfl
  · intro place member
    have holds := holds_cellAt (forall₂_rowAt (fun _ _ _ typed => typed.value) place) i
    have seen := nullFreeColumn_iff.mp nullFree place member
    rw [meets, column, Option.any_some, ← seen]
    refine (agrees _ holds).trans (Lists.any_eq_of_forall₂ kinds fun literal value both => ?_).symm
    exact spells_eq_equals both.1 both.2 holds

/-- The fast path agrees with the SQL on predicates whose literals are of the kinds of their
columns. -/
theorem aligned_of_ownKind (eager : Eager config batches state provider)
    (standard : engine.Standard) (aggregations : request.aggregations = [])
    (having : request.having = [])
    (taken : fastPath state request (asked request maxPageSize paged) = some answer)
    (own : ∀ pred ∈ request.predicates, ∃ info, OwnKind config batches state.schema pred info) :
    Aligned engine config batches state.schema request := by
  obtain ⟨_, _, resolves, _⟩ := fastPath_spec eager taken
  refine ⟨aggregations, having, ?_⟩
  have each : ∀ pred ∈ request.predicates, ∃ test : (ColumnInfo × Check) × (Row → Bool),
      resolve state.schema pred = .ok test.1 ∧ engine.rowTest batches.fields test.1 = .ok test.2 ∧
      ∀ place ∈ places batches.arrays,
        test.2 (rowAt ColumnArray.value place) = meets config batches pred place := by
    intro pred member
    obtain ⟨info, kind⟩ := own pred member
    obtain ⟨asked, test, resolved, tested, same⟩ :=
      test_of_ownKind eager.columns standard (resolves pred member) kind
    exact ⟨(asked, test), resolved, tested, same⟩
  obtain ⟨both, related⟩ := Lists.exists_forall₂ each
  have checks : request.predicates.mapM (resolve state.schema) = .ok (both.map Prod.fst) := by
    rw [Fallible.mapM_ok_iff, List.forall₂_map_right_iff]
    exact related.imp fun _ _ facts => facts.1
  have tests : (both.map Prod.fst).mapM (engine.rowTest batches.fields) =
      .ok (both.map Prod.snd) := by
    rw [Fallible.mapM_ok_iff, List.forall₂_map_left_iff, List.forall₂_map_right_iff,
      List.forall₂_same]
    intro test member
    obtain ⟨_, _, facts⟩ := Lists.exists_of_mem_right related member
    exact facts.2.1
  refine ⟨both.map Prod.snd, ?_, fun place member => ?_⟩
  · rw [Engine.tests, checks]
    exact tests
  · rw [spelled, List.all_map, ← Bool.not_inj_iff, List.not_all_eq_any_not,
      List.not_all_eq_any_not]
    refine Lists.any_eq_of_forall₂ related fun pred test facts => ?_
    simp only [Function.comp_apply, facts.2.2 place member]

/-- An engine that compares values of one kind and coerces none. -/
def plainEngine : Engine where
  compare dataType operator value :=
    if operator = "=" && ownKind dataType value then
      .ok fun cell => if cell = .null then none else some (equals value cell)
    else .error (.internal "cannot infer a common type for the comparison")
  isIn dataType values :=
    if values.all (ownKind dataType) then
      .ok fun cell => if cell = .null then none else some (values.any (equals · cell))
    else .error (.internal "cannot infer a common type for the list")
  select names :=
    if names.Nodup then .ok ()
    else .error (.internal "projections require unique expression names")
  others _ _ _ := .error (.internal "no plan")

omit [ToLowercase] [JsonText] in
theorem equals_null (value : ScalarValue) : equals value .null = false := by
  cases value <;> rfl

omit [ToLowercase] [JsonText] in
theorem plainEngine_standard : plainEngine.Standard where
  compare dataType value own := by
    refine ⟨_, if_pos (by rw [own]; rfl), fun cell _ => ?_⟩
    by_cases null : cell = .null
    · rw [if_pos null, null, equals_null]
      rfl
    · rw [if_neg null]
      cases equals value cell <;> rfl
  isIn dataType values own := by
    refine ⟨_, if_pos (List.all_eq_true.mpr own), fun cell _ => ?_⟩
    by_cases null : cell = .null
    · rw [if_pos null, null, List.any_eq_false.mpr fun value _ => by simp [equals_null]]
      rfl
    · rw [if_neg null]
      cases values.any (equals · cell) <;> rfl

/-! ### The fast path and the SQL -/

/-- The fast path gives the answers of the SQL exactly to the requests that aggregate nothing,
whose predicates the engine accepts, and whose predicates hold of the same rows by the texts of
the cells as by the engine's comparisons. A select list that the engine refuses is answered. -/
theorem fast_path_agrees_iff (built : materialiseBatches d config batches = .ok (state, provider))
    (taken : fastPath state request (asked request maxPageSize paged) = some answer) :
    (Agrees engine maxPageSize clampable state provider request ↔
      Aligned engine config batches state.schema request) ∧
    ∀ columns page pageSize limit paged answer infos,
      let request := { request with columns, page, pageSize, limit }
      columns.mapM state.schema.find = .ok infos → ¬ engine.Accepts infos →
      fastPath state request (asked request maxPageSize paged) = some answer →
      ¬ Same answer (sqlFallback engine maxPageSize clampable state provider request paged) := by
  have eager := eager_of_built built
  refine ⟨⟨aligned_of_agrees eager taken, fun aligned => ?_⟩, ?_⟩
  · intro columns page pageSize limit paged answer request accepts taken
    exact same_of_aligned eager ⟨aligned.aggregations, aligned.having, aligned.rows⟩ accepts taken
  · intro columns page pageSize limit paged answer infos request found refused taken same
    obtain ⟨plain, noLimit, _, rfl⟩ := fastPath_spec eager taken
    rw [found] at same
    obtain ⟨_, _, _, _, again, accepts, _⟩ :=
      (sqlFallback_ok_iff clampable eager.describes plain noLimit).mp (same_ok_iff.mp same)
    rw [found] at again
    cases again
    exact refused accepts

end

section
attribute [local instance] asciiToLowercase unusedJsonText

def eventFields : List Field := [⟨"id", .int64, true⟩, ⟨"kind", .dictionaryInt32Utf8, true⟩]

/-- Two events in two batches. -/
def events : Batches where
  fields := eventFields
  arrays := [
    { numRows := 1
      columns := [.plain [.int 1], .dictionary [some 0] [⟨"open", true⟩]]
      typed := by simp [eventFields, ColumnArray.Holds, DataType.holds] },
    { numRows := 1
      columns := [.plain [.int 2], .dictionary [some 0] [⟨"close", true⟩]]
      typed := by simp [eventFields, ColumnArray.Holds, DataType.holds] }]
  nonempty := nofun
  distinct := by decide
  counted := by decide

def idIs (op : String) (val : JsonValue) : QueryRequest :=
  { predicates := [{ col := "id", op, val := some val }], pageSize := 10 }

theorem fast_path_agrees_two : ∃ state provider,
    materialiseBatches { name := "events" } {} events = .ok (state, provider) ∧
    (Agrees plainEngine 1000 (by decide) state provider (idIs "eq" (.number (.posInt 2))) ↔
      Aligned plainEngine {} events state.schema (idIs "eq" (.number (.posInt 2)))) := by
  refine ⟨_, _, rfl, ?_⟩
  exact (@fast_path_agrees_iff _ _ plainEngine 1000 (by decide) { name := "events" } {} events
    _ _ _ true (.ok [[("id", .int 2), ("kind", .utf8 "close")]]) rfl rfl).1

/-- An empty `in` list selects no row on the fast path and is an error of the SQL. -/
theorem empty_in_answered : ∃ state provider,
    materialiseBatches { name := "events" } {} events = .ok (state, provider) ∧
    fastPath state (idIs "in" (.array [])) (asked (idIs "in" (.array [])) 1000 true) =
      some (.ok []) ∧
    ¬ Same (.ok []) (sqlFallback plainEngine 1000 (by decide) state provider
      (idIs "in" (.array [])) true) := by
  refine ⟨_, _, rfl, rfl, fun same => ?_⟩
  cases same_ok_iff.mp same

end

end Datapress.DataFusion.Resident
