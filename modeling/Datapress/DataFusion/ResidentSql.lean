import Std.Data.String.ToNat
import Datapress.Library.Lists
import Datapress.DataFusion.ResidentProofs

/-! What the SQL of a plain request reads: the rows that meet its predicates, without the
placeholders the values travel through. -/
namespace Datapress.DataFusion.Resident
open Positions

/-- What a predicate asks of a cell, with its values. -/
inductive Check where
  | isNull
  | isNotNull
  | oneOf (values : List ScalarValue)
  | compare (operator : String) (value : ScalarValue)

def checkOf (pred : Predicate) : Except AppError Check :=
  if pred.op = "is_null" then .ok .isNull
  else if pred.op = "is_not_null" then .ok .isNotNull
  else
    match pred.val with
    | none => .error (.invalidValue s!"'{pred.op}' requires a value")
    | some val =>
      if pred.op = "in" then
        match val.asArray with
        | some (item :: items) => do
          let values ← (item :: items).mapM jsonToScalar
          .ok (.oneOf values)
        | _ => .error (.invalidValue "'in' needs a non-empty array")
      else do
        let operator ← comparisonOperator "!=" pred.op
        let value ← jsonToScalar val
        .ok (.compare operator value)

def Check.values : Check → List ScalarValue
  | isNull | isNotNull => []
  | oneOf values => values
  | compare _ value => [value]

def Engine.check (engine : Engine) (dataType : DataType) :
    Check → Except AppError (Cell → Option Bool)
  | .isNull => .ok fun cell => some (cell == .null)
  | .isNotNull => .ok fun cell => some (cell != .null)
  | .oneOf values => engine.isIn dataType values
  | .compare operator value => engine.compare dataType operator value

/-- The column of a predicate and what it asks of its cells. -/
def resolve [ToLowercase] (schema : DatasetSchema) (pred : Predicate) :
    Except AppError (ColumnInfo × Check) := do
  let info ← schema.find pred.col
  let check ← checkOf pred
  .ok (info, check)

def Engine.rowTest (engine : Engine) (fields : List Field) (asked : ColumnInfo × Check) :
    Except AppError (Row → Bool) := do
  let i ← Engine.columnIndex fields asked.1.name
  let verdict ← engine.check ((fields.map (·.dataType)).getD i .utf8) asked.2
  .ok fun row => verdict (cellAt row i) == some true

/-- The tests that a list of predicates makes of a row. -/
def Engine.tests [ToLowercase] (engine : Engine) (schema : DatasetSchema) (fields : List Field)
    (predicates : List Predicate) : Except AppError (List (Row → Bool)) :=
  predicates.mapM (resolve schema) >>= List.mapM (engine.rowTest fields)

/-! ### Placeholders -/

theorem find_placeholder (before : Params) : (before.zipIdx 1).find?
    (fun (_, n) => s!"${n}" == s!"${before.length + 1}") = none := by
  rw [List.find?_eq_none]
  rintro ⟨other, n⟩ member same
  have below := List.snd_lt_add_of_mem_zipIdx member
  have equal : n = before.length + 1 :=
    Nat.repr_injective ((String.append_right_inj _).mp (beq_iff_eq.mp same))
  simp only at below
  omega

theorem bound_spec (before after : Params) (value : ScalarValue) :
    bound (before ++ value :: after) s!"${before.length + 1}" = .ok value := by
  have place : 1 + before.length = before.length + 1 := Nat.add_comm ..
  simp only [bound, List.zipIdx_append, List.find?_append, find_placeholder, Option.none_or,
    List.zipIdx_cons, List.find?_cons, place, beq_self_eq_true]

/-- A bound value is found again, whatever is bound after it. -/
theorem bindJson_agree (value : JsonValue) (params : Params) :
    Fallible.Agree (fun out scalar => out.2 = params ++ [scalar] ∧
      ∀ later, bound (out.2 ++ later) out.1 = .ok scalar) (· = ·)
      (bindJson value params) (jsonToScalar value) := by
  unfold bindJson
  cases jsonToScalar value with
  | error e => exact .error rfl
  | ok scalar =>
      refine .ok ⟨rfl, fun later => ?_⟩
      rw [Params.bind, List.append_assoc, List.singleton_append]
      exact bound_spec params later scalar

theorem bindJsons_agree (items : List JsonValue) (params : Params) :
    Fallible.Agree (fun out scalars => out.2 = params ++ scalars ∧
      ∀ later, out.1.mapM (bound (out.2 ++ later)) = .ok scalars) (· = ·)
      (Fallible.mapState bindJson items params) (items.mapM jsonToScalar) := by
  induction items generalizing params with
  | nil => exact .ok ⟨(List.append_nil _).symm, fun _ => rfl⟩
  | cons item rest ih =>
      rw [Fallible.mapState, List.mapM_cons]
      refine (bindJson_agree item params).bind ?_
      rintro ⟨first, middle⟩ scalar _ _ ⟨rfl, found⟩
      refine (ih (params ++ [scalar])).bind ?_
      rintro ⟨others, last⟩ scalars _ _ ⟨rfl, others_found⟩
      refine .ok ⟨by rw [List.append_assoc, List.singleton_append], fun later => ?_⟩
      have here := found (scalars ++ later)
      rw [← List.append_assoc] at here
      rw [List.mapM_cons, here, Fallible.ok_bind, others_found later]
      rfl

/-- A condition that asks for a check under the parameters bound up to it, and under any
that go on from them. -/
def Asks (lhs : SqlExpr) (params : Params) (out : Condition × Params) (check : Check) : Prop :=
  out.1.lhs = lhs ∧ (∃ more, out.2 = params ++ more) ∧ ∀ (engine : Engine) dataType later,
    engine.test (out.2 ++ later) dataType out.1.test = engine.check dataType check

theorem predToSqlWithLhs_agree (lhs : SqlExpr) (pred : Predicate) (params : Params) :
    Fallible.Agree (Asks lhs params) (· = ·) (predToSqlWithLhs lhs pred params)
      (checkOf pred) := by
  unfold predToSqlWithLhs checkOf
  by_cases isNull : pred.op = "is_null"
  · rw [if_pos isNull, if_pos isNull]
    exact .ok ⟨rfl, ⟨[], (List.append_nil _).symm⟩, fun _ _ _ => rfl⟩
  rw [if_neg isNull, if_neg isNull]
  by_cases isNotNull : pred.op = "is_not_null"
  · rw [if_pos isNotNull, if_pos isNotNull]
    exact .ok ⟨rfl, ⟨[], (List.append_nil _).symm⟩, fun _ _ _ => rfl⟩
  rw [if_neg isNotNull, if_neg isNotNull]
  cases pred.val with
  | none => exact .error rfl
  | some val =>
      by_cases isIn : pred.op = "in"
      · simp only [if_pos isIn]
        rcases val.asArray with _ | _ | ⟨item, items⟩
        · exact .error rfl
        · exact .error rfl
        · refine (bindJsons_agree (item :: items) params).bind ?_
          rintro ⟨placeholders, after⟩ scalars _ _ ⟨rfl, found⟩
          refine .ok ⟨rfl, ⟨scalars, rfl⟩, fun engine dataType later => ?_⟩
          simp only [Engine.test, found later, Fallible.ok_bind, Engine.check]
      · simp only [if_neg isIn]
        refine Fallible.Agree.bind_same (fun _ => rfl) fun operator _ => ?_
        refine (bindJson_agree val params).bind ?_
        rintro ⟨placeholder, after⟩ scalar _ _ ⟨rfl, found⟩
        refine .ok ⟨rfl, ⟨[scalar], rfl⟩, fun engine dataType later => ?_⟩
        simp only [Engine.test, found later, Fallible.ok_bind, Engine.check]

section
variable [ToLowercase]

theorem predToSql_agree (schema : DatasetSchema) (pred : Predicate) (params : Params) :
    Fallible.Agree (fun out asked => Asks (.column asked.1.name) params out asked.2) (· = ·)
      (predToSql schema pred params) (resolve schema pred) := by
  refine Fallible.Agree.bind_same (fun _ => rfl) fun info _ => ?_
  rw [← bind_pure (predToSqlWithLhs (.column info.name) pred params)]
  exact (predToSqlWithLhs_agree _ pred params).bind fun _ _ _ _ asks => .ok asks

/-- The conditions of a `WHERE` make the tests of the predicates. -/
theorem conditions_agree (schema : DatasetSchema) (predicates : List Predicate)
    (params : Params) :
    Fallible.Agree (fun out asked => (∃ more, out.2 = params ++ more) ∧
      ∀ (engine : Engine) fields later,
        out.1.mapM (engine.condition fields (out.2 ++ later)) =
          asked.mapM (engine.rowTest fields)) (· = ·)
      (Fallible.mapState (predToSql schema) predicates params)
      (predicates.mapM (resolve schema)) := by
  induction predicates generalizing params with
  | nil => exact .ok ⟨⟨[], (List.append_nil _).symm⟩, fun _ _ _ => rfl⟩
  | cons pred rest ih =>
      rw [Fallible.mapState, List.mapM_cons]
      refine (predToSql_agree schema pred params).bind ?_
      rintro ⟨condition, middle⟩ asked _ _ ⟨lhs, ⟨first, rfl⟩, tested⟩
      refine (ih (params ++ first)).bind ?_
      rintro ⟨conditions, last⟩ others _ _ ⟨⟨more, rfl⟩, others_tested⟩
      refine .ok ⟨⟨first ++ more, List.append_assoc ..⟩, fun engine fields later => ?_⟩
      have here : engine.condition fields (params ++ first ++ more ++ later) condition =
          engine.rowTest fields asked := by
        have same := fun dataType => tested engine dataType (more ++ later)
        rw [← List.append_assoc] at same
        change condition.lhs = _ at lhs
        simp only [Engine.condition, lhs, same, Engine.rowTest]
      rw [List.mapM_cons, List.mapM_cons, here, others_tested]

/-! ### Columns -/

/-- A schema with the columns of the table it describes. -/
structure Describes (schema : DatasetSchema) (provider : Provider) : Prop where
  columns : schema.columns = provider.fields.map Field.info
  distinct : (provider.fields.map (·.name)).Nodup

/-- A dataset as its build leaves it. -/
structure Eager (config : IndexConfig) (batches : Batches) (state : DatasetState)
    (provider : Provider) : Prop where
  eager : state.lazy = false
  columns : state.schema.columns = batches.fields.map Field.info
  data : state.data = batches.chunks
  arrowSchema : state.arrowSchema = batches.fields
  index : state.index = buildEqIndexOfArrays batches.arrays config
  provider : provider = ⟨batches.fields, batches.chunks.flatten⟩

theorem withFilters_columns {schema filtered : DatasetSchema} {predicates projection : ColumnFilter}
    (ok : schema.withFilters predicates projection = .ok filtered) :
    filtered.columns = schema.columns := by
  obtain ⟨_, _, checked⟩ := Fallible.bind_ok_iff.mp ok
  obtain ⟨_, _, same⟩ := Fallible.bind_ok_iff.mp checked
  cases same
  rfl

theorem eager_of_built {d : DatasetConfig} {config : IndexConfig} {batches : Batches}
    {state : DatasetState} {provider : Provider}
    (built : materialiseBatches d config batches = .ok (state, provider)) :
    Eager config batches state provider := by
  obtain ⟨schema, filtered, same⟩ := Fallible.bind_ok_iff.mp built
  cases same
  exact ⟨rfl, withFilters_columns filtered, rfl, rfl, rfl, rfl⟩

theorem Eager.fields {config : IndexConfig} {batches : Batches}
    {state : DatasetState} {provider : Provider} (eager : Eager config batches state provider) :
    provider.fields = batches.fields := by
  rw [eager.provider]

theorem Eager.rows {config : IndexConfig} {batches : Batches}
    {state : DatasetState} {provider : Provider} (eager : Eager config batches state provider) :
    provider.rows = batches.chunks.flatten := by
  rw [eager.provider]

theorem Eager.describes {config : IndexConfig} {batches : Batches}
    {state : DatasetState} {provider : Provider} (eager : Eager config batches state provider) :
    Describes state.schema provider := by
  refine ⟨?_, ?_⟩
  · rw [eager.columns, eager.fields]
  · rw [eager.fields]
    exact batches.distinct

/-- The place that both paths find a column at. -/
theorem column_index {schema : DatasetSchema} {fields : List Field} {name : String}
    {info : ColumnInfo} (columns : schema.columns = fields.map Field.info)
    (distinct : (fields.map (·.name)).Nodup) (found : schema.find name = .ok info) :
    Engine.columnIndex fields info.name = .ok (byNameIndex schema (toLowercase info.name)) := by
  have last := find?_reverse (fun c => toLowercase c.name == toLowercase info.name) schema.columns
  have named := DatasetSchema.find_ok_iff.mp found
  rw [← DatasetSchema.find_lowered found, DatasetSchema.byName] at named
  rw [named] at last
  obtain ⟨i, place, here⟩ := last
  rw [columns, List.getElem?_map] at here
  obtain ⟨field, at_i, same⟩ := Option.map_eq_some_iff.mp here
  have name_eq : field.name = info.name := by rw [← same]; rfl
  have first : fields.findIdx? (·.name == info.name) = some i := by
    obtain ⟨inside, got⟩ := List.getElem?_eq_some_iff.mp at_i
    rw [List.findIdx?_eq_some_iff_getElem]
    refine ⟨inside, by simp [got, name_eq], fun j before => ?_⟩
    have different : (fields.map (·.name)).get ⟨j, by simp; omega⟩ =
        (fields.map (·.name)).get ⟨i, by simpa⟩ ↔ j = i :=
      distinct.get_inj_iff.trans Fin.mk_eq_mk
    simp only [List.get_eq_getElem, List.getElem_map, got, name_eq] at different
    simp only [beq_iff_eq, different]
    omega
  rw [byNameIndex, place, Option.getD_some, Engine.columnIndex, first]

/-! ### What the two paths return -/

/-- What a row shows of the columns that were asked for; all of them when none was. -/
def shown (schema : DatasetSchema) (fields : List Field) (infos : List ColumnInfo) (row : Row) :
    List (String × Cell) :=
  if infos.isEmpty then named (fields.map (·.name)) row
  else pick fields (infos.map fun info => byNameIndex schema (toLowercase info.name)) row

theorem project_eq (schema : DatasetSchema) (fields : List Field) (batch : RecordBatch)
    (columns : List String) :
    project schema fields batch columns =
      (fun infos => batch.map (shown schema fields infos)) <$> columns.mapM schema.find := by
  cases columns with
  | nil => rfl
  | cons column rest =>
      simp only [project, List.isEmpty_cons, Bool.false_eq_true, if_false,
        Fallible.mapM_map_ok]
      cases found : (column :: rest).mapM schema.find with
      | error e => rfl
      | ok infos =>
          have lengths := (Fallible.mapM_ok_iff.mp found).length_eq
          cases infos with
          | nil => cases lengths
          | cons info infos => rfl

theorem project_flatten (schema : DatasetSchema) (fields : List Field)
    {chunks : List RecordBatch} (nonempty : chunks ≠ []) (columns : List String) :
    List.flatten <$> chunks.mapM (project schema fields · columns) =
      project schema fields chunks.flatten columns := by
  simp only [project_eq]
  cases columns.mapM schema.find with
  | error e =>
      cases chunks with
      | nil => exact absurd rfl nonempty
      | cons chunk rest => rfl
  | ok infos =>
      have all : ∀ rest : List RecordBatch, (rest.mapM fun batch =>
          (fun infos : List ColumnInfo => batch.map (shown schema fields infos)) <$>
            (.ok infos : Except AppError (List ColumnInfo))) =
          .ok (rest.map fun batch => batch.map (shown schema fields infos)) := by
        intro rest
        induction rest with
        | nil => rfl
        | cons batch rest ih =>
            rw [List.mapM_cons, ih]
            rfl
      rw [all]
      change Except.ok _ = Except.ok _
      rw [← List.map_flatten]

/-- A request that both paths can answer: rows as they are, in table order. -/
structure Plain (request : QueryRequest) : Prop where
  groupBy : request.groupBy = []
  orderBy : request.orderBy = []
  distinct : request.distinct = false

omit [ToLowercase] in
theorem plain_of_canFastPath {state : Datapress.DatasetState} {request : QueryRequest}
    {paged : Bool} (can : canFastPath state request paged = true) :
    Plain request ∧ (paged = true → request.limit = none) := by
  simp only [canFastPath, Bool.and_eq_true, Bool.or_eq_true, Bool.not_eq_true',
    List.isEmpty_iff, Option.isNone_iff_eq_none] at can
  obtain ⟨⟨⟨⟨_, orderBy⟩, limit⟩, groupBy⟩, distinct⟩ := can
  refine ⟨⟨groupBy, orderBy, distinct⟩, fun paged => ?_⟩
  rcases limit with notPaged | none
  · rw [paged] at notPaged
    cases notPaged
  · exact none

/-- A plain request has a statement unless it aggregates or has an unresolved name or value. -/
theorem buildQuerySqlWithSuffix_ok_iff {schema : DatasetSchema} {request : QueryRequest}
    {suffix : String} {statement : SelectStatement} {params : Params} (plain : Plain request) :
    buildQuerySqlWithSuffix schema request suffix = .ok (statement, params) ↔
      request.aggregations = [] ∧ request.having = [] ∧
      ∃ select conditions, selectList schema request none = .ok select ∧
        Fallible.mapState (predToSql schema) request.predicates [] = .ok (conditions, params) ∧
        statement = { distinct := false, select, table := schema.name, conditions, groupBy := [],
                      having := [], orderBy := [], suffix } := by
  have orderBy : request.orderBySql schema none = .ok [] := by
    rw [QueryRequest.orderBySql, plain.orderBy]
    rfl
  have plan : request.aggPlan schema =
      if request.aggregations = [] then .ok none
      else .error (.invalidValue "aggregations require a non-empty group_by") := by
    simp only [QueryRequest.aggPlan, plain.distinct, plain.groupBy, Bool.false_and,
      Bool.false_eq_true, if_false, List.isEmpty_nil, if_true]
    cases request.aggregations <;> rfl
  have resolved : request.havingPlan none =
      if request.having = [] then .ok []
      else .error (.invalidValue "having requires a non-empty group_by") := by
    simp only [QueryRequest.havingPlan]
    cases request.having <;> rfl
  simp only [buildQuerySqlWithSuffix, plan]
  by_cases aggregations : request.aggregations = []
  case neg =>
    rw [if_neg aggregations]
    constructor
    · intro impossible; cases impossible
    · rintro ⟨none, _⟩; exact absurd none aggregations
  rw [if_pos aggregations, Fallible.ok_bind, resolved]
  by_cases having : request.having = []
  case neg =>
    rw [if_neg having]
    simp only [Fallible.bind_ok_iff]
    constructor
    · rintro ⟨_, _, _, _, _, impossible, _⟩; cases impossible
    · rintro ⟨_, none, _⟩; exact absurd none having
  rw [if_pos having]
  simp only [Fallible.bind_ok_iff, orderBy, plain.distinct, Except.ok.injEq, exists_eq_left',
    Fallible.mapState, Prod.exists, Prod.mk.injEq, aggregations, true_and]
  constructor
  · rintro ⟨select, selected, conditions, bound, mapped, _, _, ⟨rfl, rfl⟩, rfl, rfl⟩
    exact ⟨having, select, conditions, selected, mapped, rfl⟩
  · rintro ⟨_, select, conditions, selected, mapped, rfl⟩
    exact ⟨select, selected, conditions, params, mapped, _, _, ⟨rfl, rfl⟩, rfl, rfl⟩

/-- A `WHERE` keeps the rows that pass the tests of the predicates. -/
theorem where_ok_iff {engine : Engine} {schema : DatasetSchema} {provider : Provider}
    {predicates : List Predicate} {rows : List Row} :
    (∃ conditions params, Fallible.mapState (predToSql schema) predicates [] =
        .ok (conditions, params) ∧ engine.filter provider conditions params = .ok rows) ↔
      ∃ tests, engine.tests schema provider.fields predicates = .ok tests ∧
        rows = provider.rows.filter fun row => tests.all (· row) := by
  have agreed := conditions_agree schema predicates []
  unfold Engine.tests
  generalize Fallible.mapState (predToSql schema) predicates [] = sql at agreed ⊢
  generalize predicates.mapM (resolve schema) = checks at agreed ⊢
  cases agreed with
  | error same =>
      constructor
      · rintro ⟨_, _, impossible, _⟩; cases impossible
      · rintro ⟨_, impossible, _⟩; cases impossible
  | @ok out asked related =>
      obtain ⟨conditions, params⟩ := out
      have tested := related.2 engine provider.fields []
      rw [List.append_nil] at tested
      constructor
      · rintro ⟨_, _, same, filtered⟩
        cases same
        obtain ⟨tests, made, same⟩ := Fallible.bind_ok_iff.mp filtered
        cases same
        exact ⟨tests, tested.symm.trans made, rfl⟩
      · rintro ⟨tests, made, rfl⟩
        exact ⟨conditions, params, rfl,
          Fallible.bind_ok_iff.mpr ⟨tests, tested.trans made, rfl⟩⟩

/-- The engine accepts the select list of the columns that were asked for. -/
def Engine.Accepts (engine : Engine) (infos : List ColumnInfo) : Prop :=
  infos ≠ [] → engine.select (infos.map (·.name)) = .ok ()

theorem select_ok_iff {engine : Engine} {state : DatasetState} {provider : Provider}
    (describes : Describes state.schema provider) {request : QueryRequest} {rows : List Row} {page : Page} :
    (∃ select, selectList state.schema request none = .ok select ∧
        engine.selectRows provider.fields rows select = .ok page) ↔
      ∃ infos, request.columns.mapM state.schema.find = .ok infos ∧ engine.Accepts infos ∧
        page = rows.map (shown state.schema provider.fields infos) := by
  unfold selectList
  cases asked : request.columns with
  | nil =>
      constructor
      · rintro ⟨_, same, selected⟩
        cases same
        cases selected
        exact ⟨[], rfl, fun some => absurd rfl some, rfl⟩
      · rintro ⟨_, same, _, rfl⟩
        cases same
        exact ⟨.all, rfl, rfl⟩
  | cons column rest =>
      simp only [List.isEmpty_cons, Bool.false_eq_true, if_false, QueryRequest.projected, asked]
      cases found : (column :: rest).mapM state.schema.find with
      | error e =>
          constructor
          · rintro ⟨_, impossible, _⟩; cases impossible
          · rintro ⟨_, impossible, _⟩; cases impossible
      | ok infos =>
          have each := Fallible.mapM_ok_iff.mp found
          have some_info : infos ≠ [] := by
            rintro rfl
            cases each
          have items : (infos.map fun info => SelectItem.column info.name).mapM
              Engine.plainColumn = .ok (infos.map (·.name)) := by
            rw [Fallible.mapM_ok_iff, List.forall₂_map_left_iff, List.forall₂_map_right_iff,
              List.forall₂_same]
            exact fun _ _ => rfl
          have places : (infos.map (·.name)).mapM (Engine.columnIndex provider.fields) =
              .ok (infos.map fun info =>
                byNameIndex state.schema (toLowercase info.name)) := by
            rw [Fallible.mapM_ok_iff, List.forall₂_map_left_iff, List.forall₂_map_right_iff,
              List.forall₂_same]
            intro info member
            obtain ⟨name, _, looked_up⟩ := Lists.exists_of_mem_right each member
            exact column_index describes.columns describes.distinct looked_up
          have shows : shown state.schema provider.fields infos = pick provider.fields
              (infos.map fun info => byNameIndex state.schema (toLowercase info.name)) := by
            funext row
            rw [shown, if_neg (by simpa using some_info)]
          simp only [Fallible.ok_bind, Except.ok.injEq, exists_eq_left', Engine.selectRows,
            items, places, Fallible.bind_ok_iff, shows]
          constructor
          · rintro ⟨_, accepted, same⟩
            exact ⟨fun _ => accepted, same.symm⟩
          · rintro ⟨accepted, same⟩
            exact ⟨(), accepted some_info, same.symm⟩

/-- The part of the rows that one page holds, or that a stream of all rows does. -/
def clip {α : Type} (request : QueryRequest) (maxPageSize : UInt64) (paged : Bool)
    (rows : List α) : List α :=
  if paged then window rows (pageWindow request maxPageSize).1 (pageWindow request maxPageSize).2
  else request.limit.elim rows fun limit => rows.take limit.toNat

omit [ToLowercase] in
theorem effectiveLimitOffset_eq {request : QueryRequest} {maxPageSize : UInt64}
    (clampable : 1 ≤ maxPageSize) (noLimit : request.limit = none) :
    ((request.effectiveLimitOffset maxPageSize clampable).2.toNat,
      (request.effectiveLimitOffset maxPageSize clampable).1.toNat) =
        pageWindow request maxPageSize := by
  simp only [QueryRequest.effectiveLimitOffset, noLimit, pageWindow]

/-- The result of a plain statement. -/
theorem run_ok_iff {engine : Engine} {state : DatasetState} {provider : Provider}
    (describes : Describes state.schema provider) {request : QueryRequest} (plain : Plain request) {suffix : String} {limit : Option Nat}
    {offset : Nat} {page : Page} :
    (∃ statement params,
      buildQuerySqlWithSuffix state.schema request suffix = .ok (statement, params) ∧
      engine.run provider statement params limit offset = .ok page) ↔
    request.aggregations = [] ∧ request.having = [] ∧
    ∃ infos tests, request.columns.mapM state.schema.find = .ok infos ∧ engine.Accepts infos ∧
      engine.tests state.schema provider.fields request.predicates = .ok tests ∧
      page = (limit.elim id List.take ((provider.rows.filter fun row =>
        tests.all (· row)).drop offset)).map (shown state.schema provider.fields infos) := by
  simp only [buildQuerySqlWithSuffix_ok_iff plain]
  constructor
  · rintro ⟨_, params, ⟨aggregations, having, select, conditions, selected, mapped, rfl⟩, ran⟩
    simp only [Engine.run, List.isEmpty_nil, Bool.not_true, Bool.or_self, Bool.false_eq_true,
      if_false, Fallible.bind_ok_iff] at ran
    obtain ⟨rows, filtered, shows⟩ := ran
    obtain ⟨tests, made, rfl⟩ := where_ok_iff.mp ⟨conditions, params, mapped, filtered⟩
    obtain ⟨infos, found, accepts, rfl⟩ := (select_ok_iff describes).mp ⟨select, selected, shows⟩
    refine ⟨aggregations, having, infos, tests, found, accepts, made, ?_⟩
    cases limit <;> rfl
  · rintro ⟨aggregations, having, infos, tests, found, accepts, made, rfl⟩
    obtain ⟨conditions, params, mapped, filtered⟩ := where_ok_iff.mpr ⟨tests, made, rfl⟩
    obtain ⟨select, selected, shows⟩ := (select_ok_iff describes).mpr ⟨infos, found, accepts, rfl⟩
    refine ⟨_, params, ⟨aggregations, having, select, conditions, selected, mapped, rfl⟩, ?_⟩
    simp only [Engine.run, List.isEmpty_nil, Bool.not_true, Bool.or_self, Bool.false_eq_true,
      if_false, filtered, Fallible.ok_bind]
    rw [← shows]
    cases limit <;> rfl

/-- The SQL of a plain request answers when nothing aggregates, every column is known, the
engine accepts the select list, and the predicates make tests. -/
theorem sqlFallback_ok_iff {engine : Engine} {maxPageSize : UInt64} (clampable : 1 ≤ maxPageSize)
    {state : DatasetState} {provider : Provider} (describes : Describes state.schema provider)
    {request : QueryRequest} (plain : Plain request) {paged : Bool} (noLimit : paged = true → request.limit = none)
    {page : Page} :
    sqlFallback engine maxPageSize clampable state provider request paged = .ok page ↔
    request.aggregations = [] ∧ request.having = [] ∧
    ∃ infos tests, request.columns.mapM state.schema.find = .ok infos ∧ engine.Accepts infos ∧
      engine.tests state.schema provider.fields request.predicates = .ok tests ∧
      page = (clip request maxPageSize paged (provider.rows.filter fun row =>
        tests.all (· row))).map (shown state.schema provider.fields infos) := by
  unfold sqlFallback clip
  cases paged with
  | true =>
      have window := effectiveLimitOffset_eq clampable (noLimit rfl)
      rw [if_pos rfl, buildQuerySql, ← window]
      simp only [Fallible.bind_ok_iff, Prod.exists]
      exact run_ok_iff describes plain
  | false =>
      rw [if_neg Bool.false_ne_true, buildQueryStreamSql]
      simp only [Fallible.bind_ok_iff, Prod.exists]
      rw [run_ok_iff describes plain]
      cases request.limit <;> rfl

/-- The rows of a window, or without one the first rows up to the limit. -/
def part {α : Type} (request : QueryRequest) (pageWindow : Option (Nat × Nat)) (rows : List α) :
    List α :=
  match pageWindow with
  | some (offset, limit) => window rows offset limit
  | none => request.limit.elim rows fun limit => rows.take limit.toNat

omit [ToLowercase] in
/-- `u64::MAX` stands for no limit: there are not as many rows. -/
theorem part_eq_window {α : Type} {request : QueryRequest} {pageWindow : Option (Nat × Nat)}
    {rows : List α} (counted : rows.length < 2 ^ 64) :
    part request pageWindow rows =
      let (offset, limit) := pageWindow.getD
        (0, (request.limit.getD (.ofNat (2 ^ 64 - 1))).toNat)
      window rows offset limit := by
  cases pageWindow with
  | some _ => rfl
  | none =>
      simp only [part, Option.getD_none, window, List.drop_zero]
      cases request.limit with
      | some limit => rfl
      | none =>
          have most : (UInt64.ofNat (2 ^ 64 - 1)).toNat = 2 ^ 64 - 1 := rfl
          rw [Option.elim_none, Option.getD_none, most, List.take_of_length_le (by omega)]

section
variable [JsonText]

/-- Which rows the in-memory paths select: those that meet all predicates by their texts. -/
def byText (column : String → Option Nat) (predicates : List Predicate) (row : Row) : Bool :=
  predicates.all (meetsByText column · row)

/-- The rows that meet all predicates by the texts which the build of the index saw. -/
def indexedRows (config : IndexConfig) (batches : Batches) (predicates : List Predicate) :
    List Row :=
  ((places batches.arrays).filter fun place =>
    byText (owner batches.arrays config) predicates (rowAt ColumnArray.read place)).map
      (rowAt ColumnArray.value)

theorem indexedRows_nil (config : IndexConfig) (batches : Batches) :
    indexedRows config batches [] = batches.chunks.flatten := by
  rw [indexedRows, batches.flatten_chunks]
  exact congrArg _ (List.filter_eq_self.mpr fun _ _ => rfl)

theorem length_indexedRows_le (config : IndexConfig) (batches : Batches)
    (predicates : List Predicate) :
    (indexedRows config batches predicates).length ≤ batches.chunks.flatten.length := by
  rw [indexedRows, batches.flatten_chunks, List.length_map, List.length_map]
  exact List.length_filter_le ..

/-- When the index can tell, its row ids are the places of these rows. -/
theorem tryIndex_places {config : IndexConfig} {batches : Batches} {predicates : List Predicate}
    {ids : List Nat}
    (resolved : tryIndex (buildEqIndexOfArrays batches.arrays config) predicates = some ids) :
    (∀ pred ∈ predicates, Resolves (owner batches.arrays config) pred) ∧
    ids = (places batches.arrays).findIdxs fun place =>
      byText (owner batches.arrays config) predicates (rowAt ColumnArray.read place) := by
  obtain ⟨resolves, same⟩ := tryIndex_spec resolved
  rw [flatten_read, table_eq, List.findIdxs_map] at same
  exact ⟨resolves, same⟩

theorem fastPath_isSome (state : DatasetState) (request : QueryRequest)
    (window : Option (Nat × Nat)) :
    (fastPath state request window).isSome =
      (canFastPath state.toDatasetState request window.isSome &&
        (request.predicates.isEmpty || (tryIndex state.index request.predicates).isSome)) := by
  unfold fastPath
  cases canFastPath state.toDatasetState request window.isSome with
  | false => rfl
  | true =>
      cases request.predicates.isEmpty with
      | false => simp
      | true =>
          simp only [if_true, Bool.true_or, Bool.and_self]
          split <;> rfl

/-- What the in-memory paths answer, and the requests they take. -/
theorem fastPath_part {config : IndexConfig} {batches : Batches} {state : DatasetState}
    {provider : Provider} (eager : Eager config batches state provider)
    {request : QueryRequest} {pageWindow : Option (Nat × Nat)} {answer : Except AppError Page}
    (taken : fastPath state request pageWindow = some answer) :
    Plain request ∧ (pageWindow.isSome = true → request.limit = none) ∧
    (∀ pred ∈ request.predicates,
      Resolves (owner batches.arrays config) pred) ∧
    answer = (fun infos =>
      (part request pageWindow (indexedRows config batches request.predicates)).map
        (shown state.schema provider.fields infos)) <$> request.columns.mapM state.schema.find := by
  have total : state.numRows = batches.chunks.flatten.length := by
    rw [DatasetState.numRows, eager.data, List.length_flatten]
  unfold fastPath at taken
  simp only [eager.data, eager.arrowSchema, eager.index, total] at taken
  split at taken
  case isFalse => cases taken
  case isTrue can =>
    obtain ⟨plain, noLimit⟩ := plain_of_canFastPath can
    refine ⟨plain, noLimit, ?_⟩
    rw [eager.fields]
    split at taken
    case isTrue empty =>
      have noPredicates : request.predicates = [] := List.isEmpty_iff.mp empty
      rw [noPredicates, indexedRows_nil]
      refine ⟨List.forall_mem_nil _, ?_⟩
      by_cases unbounded : pageWindow = none ∧ request.limit = none
      · obtain ⟨rfl, none⟩ := unbounded
        rw [none] at taken
        have unpaged := taken.symm.trans (congrArg some
          (project_flatten state.schema batches.fields batches.chunks_ne_nil request.columns))
        rw [project_eq] at unpaged
        cases unpaged
        simp only [part, none, Option.elim_none]
      · have bounded : (pageWindow.isNone && request.limit.isNone) = false := by
          cases pageWindow with
          | some _ => rfl
          | none =>
              cases limit : request.limit with
              | none => exact absurd ⟨rfl, limit⟩ unbounded
              | some _ => rfl
        rw [bounded, if_neg Bool.false_ne_true, sliceGlobal_eq, window_clip,
          project_eq] at taken
        cases taken
        rw [part_eq_window batches.length_chunks_lt]
    case isFalse =>
      obtain ⟨ids, resolved, same⟩ := Option.map_eq_some_iff.mp taken
      obtain ⟨resolves, rfl⟩ := tryIndex_places resolved
      have shorter := Nat.lt_of_le_of_lt
        (length_indexedRows_le config batches request.predicates) batches.length_chunks_lt
      refine ⟨resolves, ?_⟩
      rw [← same, takePage_findIdxs batches.flatten_chunks, project_eq, part_eq_window shorter]
      rfl

/-- What they answer of a page, or of all rows. -/
theorem fastPath_spec {config : IndexConfig} {batches : Batches} {state : DatasetState}
    {provider : Provider} (eager : Eager config batches state provider)
    {request : QueryRequest} {maxPageSize : UInt64} {paged : Bool}
    {answer : Except AppError Page}
    (taken : fastPath state request (if paged then some (pageWindow request maxPageSize) else none)
      = some answer) :
    Plain request ∧ (paged = true → request.limit = none) ∧
    (∀ pred ∈ request.predicates,
      Resolves (owner batches.arrays config) pred) ∧
    answer = (fun infos =>
      (clip request maxPageSize paged (indexedRows config batches request.predicates)).map
        (shown state.schema provider.fields infos)) <$> request.columns.mapM state.schema.find := by
  obtain ⟨plain, noLimit, resolves, same⟩ := fastPath_part eager taken
  refine ⟨plain, fun isPaged => noLimit (by rw [isPaged]; rfl), resolves, ?_⟩
  cases paged with
  | true => exact same
  | false => exact same

end

end

end Datapress.DataFusion.Resident
