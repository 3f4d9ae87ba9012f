import Datapress.AggregationNames
import Datapress.DuckDB.DerivedNames
import Datapress.StatementProofs

/-!
The two response formats of a DuckDB query: the statement behind the JSON rows beside the
statement behind the Arrow page.
-/
namespace Datapress

def SelectItem.value : SelectItem → SqlExpr
  | column name => .column name
  | aliased expr _ => expr

/-- What a select list shows: names with expressions, where `*` stands for the columns of the
table, and an object has the names as its keys. -/
def SelectList.outputs (columns : List String) : SelectList → List (String × SqlExpr)
  | all => columns.map fun c => (c, .column c)
  | list items => items.map fun item => (item.output, item.value)
  | jsonObject pairs => pairs.map fun pair => (pair.key, .column pair.column)

theorem AggPlan.outputs_selectItems {plan : AggPlan} {items : List SelectItem}
    (selected : plan.selectItems = .ok items) :
    plan.outputs = items.map fun item => (item.output, .ok item.value) := by
  obtain ⟨aggs, resolved, built⟩ := Fallible.bind_ok_iff.mp selected
  cases built
  have same : plan.aggs.map (fun a => (a.outputAlias, a.sqlExpr)) =
      aggs.map fun item => (item.output, .ok item.value) := by
    apply Lists.map_eq_of_forall₂ (Fallible.mapM_ok_iff.mp resolved)
    intro a item made
    obtain ⟨expr, found, made⟩ := Fallible.bind_ok_iff.mp made
    cases made
    rw [found]
    rfl
  rw [outputs, same, List.map_append, List.map_map]
  rfl

namespace DuckDB

/-- How the database answers: the rows of a statement, after its `WHERE`, grouping, ordering
and limit, and the value of an expression in a row. -/
structure RowEngine (Row Value : Type) where
  rows : SelectStatement → List ParamVal → Except AppError (List Row)
  eval : Row → SqlExpr → Value

namespace RowEngine
variable {Row Value : Type}

/-- The rows of a statement. Its select list neither picks nor orders them unless it dedups
or groups. -/
def run (engine : RowEngine Row Value) (statement : SelectStatement) (binds : List ParamVal) :
    Except AppError (List Row) :=
  if statement.distinct || !statement.groupBy.isEmpty then engine.rows statement binds
  else engine.rows { statement with select := .all } binds

/-- The rows as Arrow returns them, with the name of each column. -/
def answer (engine : RowEngine Row Value) (columns : List String) (statement : SelectStatement)
    (binds : List ParamVal) : Except AppError (List (List (String × Value))) :=
  (·.map fun row => (statement.select.outputs columns).map fun output =>
    (output.1, engine.eval row output.2)) <$> engine.run statement binds

/-- The rows as JSON objects; a cast changes how a value is written, not which it is. The
order of a derived table is kept, and its columns have the names that the database gives them. -/
def jsonAnswer (engine : RowEngine Row Value) (names : List String → List String) (columns : List String) (query : JsonQuery)
    (binds : List ParamVal) : Except AppError (List (List (String × Option Value))) :=
  match query with
  | .row statement =>
    (·.map (·.map (Prod.map id some))) <$> engine.answer columns statement binds
  | .wrapped pairs inner =>
    (·.map fun outputs => pairs.map fun pair => (pair.key, referred names outputs pair.column)) <$>
      engine.answer columns inner binds

end RowEngine

def JsonQuery.keys (columns : List String) : JsonQuery → List String
  | row statement => (statement.select.outputs columns).map (·.1)
  | wrapped pairs _ => pairs.map (·.key)

/-- The two queries of a request: the same outputs, clauses and values, and on every database
the same rows in the same order. -/
structure SameAnswer (names : List String → List String) (columns : List String) (json : JsonQuery × List ParamVal)
    (arrow : SelectStatement × List ParamVal) : Prop where
  bound : json.2 = arrow.2
  clauses : { json.1.statement with select := arrow.1.select } = arrow.1
  selected : json.1.statement.select.outputs columns = arrow.1.select.outputs columns
  keys : json.1.keys columns = (arrow.1.select.outputs columns).map (·.1)
  rows : ∀ {Row Value : Type} (engine : RowEngine Row Value),
    engine.jsonAnswer names columns json.1 json.2 =
      (·.map (·.map (Prod.map id some))) <$> engine.answer columns arrow.1 arrow.2

namespace RowEngine
variable {Row Value : Type} {engine : RowEngine Row Value} {names : List String → List String}

theorem wrapped_row {pairs : List JsonPair} {outputs : List (String × SqlExpr)}
    (keys : pairs.map (·.key) = outputs.map (·.1)) (named : ∀ pair ∈ pairs, pair.column = pair.key)
    (values : List (String × Value)) :
    (pairs.map fun pair => (pair.key, referred names values pair.column)) =
      outputs.map fun output => (output.1, referred names values output.1) := by
  calc (pairs.map fun pair => (pair.key, referred names values pair.column))
      = (pairs.map (·.key)).map fun key => (key, referred names values key) := by
        rw [List.map_map]
        apply List.map_congr_left
        intro pair listed
        rw [named pair listed, Function.comp_apply]
    _ = _ := by rw [keys, List.map_map, Function.comp_def]

variable {columns : List String} {pairs : List JsonPair} {inner : SelectStatement}
  {binds : List ParamVal}

/-- Over a derived table whose outputs can be referred to, each name shows its own output. -/
theorem jsonAnswer_wrapped (lawful : NamesColumns names) (keys : pairs.map (·.key) = (inner.select.outputs columns).map (·.1))
    (named : ∀ pair ∈ pairs, pair.column = pair.key)
    (referable : Referable names (inner.select.outputs columns)) :
    engine.jsonAnswer names columns (.wrapped pairs inner) binds =
      (·.map (·.map (Prod.map id some))) <$> engine.answer columns inner binds := by
  simp only [jsonAnswer, answer]
  cases engine.run inner binds with
  | error e => rfl
  | ok rows =>
    refine congrArg Except.ok ?_
    simp only [List.map_map]
    apply List.map_congr_left
    intro row _
    simp only [Function.comp_apply, wrapped_row keys named, List.map_map]
    apply List.map_congr_left
    intro output listed
    have own : referred names (inner.select.outputs columns) output.1 = some output.2 :=
      (referred_self_iff lawful).mpr referable output listed
    rw [referred_map, own]
    rfl

/-- A database in which each expression has a value of its own. -/
def distinguishing : RowEngine Unit SqlExpr where
  rows _ _ := .ok [()]
  eval _ expr := expr

theorem referable_of_distinguishing (lawful : NamesColumns names)
    (keys : pairs.map (·.key) = (inner.select.outputs columns).map (·.1))
    (named : ∀ pair ∈ pairs, pair.column = pair.key)
    (same : distinguishing.jsonAnswer names columns (.wrapped pairs inner) binds =
      (·.map (·.map (Prod.map id some))) <$> distinguishing.answer columns inner binds) :
    Referable names (inner.select.outputs columns) := by
  have single : distinguishing.run inner binds = .ok [()] := by
    unfold run
    split <;> rfl
  simp only [jsonAnswer, answer, single] at same
  have rows := List.cons.inj (Except.ok.inj same) |>.1
  simp only [wrapped_row keys named, List.map_map, distinguishing, List.map_inj_left] at rows
  refine (referred_self_iff lawful).mp fun output listed => ?_
  have row := congrArg Prod.snd (rows output listed)
  simp only [List.map_id'] at row
  exact row

end RowEngine

section Builders
variable [ToLowercase]

/-- The columns of an ungrouped request: all of them when it names none. -/
def shown (request : QueryRequest) (schema : DatasetSchema) : Except AppError (List ColumnInfo) :=
  if request.columns.isEmpty then .ok schema.columns else request.projected schema

def shownList (request : QueryRequest) (infos : List ColumnInfo) : SelectList :=
  if request.columns.isEmpty then .all else .list (infos.map fun info => .column info.name)

/-- An Arrow statement, and the JSON query that goes with it. -/
inductive Turned (schema : DatasetSchema) (request : QueryRequest) :
    JsonQuery → SelectStatement → Prop where
  | grouped {statement : SelectStatement} (plan : AggPlan) (items : List SelectItem)
      (planned : request.aggPlan schema = .ok (some plan)) (selected : plan.selectItems = .ok items)
      (select : statement.select = .list items) :
      Turned schema request (.wrapped (groupJsonObjPairs schema plan) statement) statement
  | deduped {statement : SelectStatement} (infos : List ColumnInfo)
      (ungrouped : request.aggPlan schema = .ok none) (distinct : request.distinct = true)
      (listed : shown request schema = .ok infos)
      (select : statement.select = shownList request infos) :
      Turned schema request (.wrapped (jsonObjPairs infos) statement) statement
  | plain {query : JsonQuery} {statement : SelectStatement} (infos : List ColumnInfo)
      (ungrouped : request.aggPlan schema = .ok none) (distinct : request.distinct = false)
      (listed : shown request schema = .ok infos)
      (select : statement.select = shownList request infos) (dedups : statement.distinct = false)
      (groups : statement.groupBy = [])
      (row : query = .row { statement with select := .jsonObject (jsonObjPairs infos) }) :
      Turned schema request query statement

/-- The outputs of a grouped or deduplicated request can be referred to by their names. -/
structure Distinguished (names : List String → List String) (schema : DatasetSchema) (request : QueryRequest) : Prop where
  grouped : ∀ plan, request.aggPlan schema = .ok (some plan) → Referable names plan.outputs
  deduped : request.distinct = true → ∀ infos, shown request schema = .ok infos →
    Referable names (infos.map fun info => (info.name, info.name))

section Turned
variable {schema : DatasetSchema} {request : QueryRequest} {infos : List ColumnInfo}
  {names : List String → List String}

theorem shownList_outputs (listed : shown request schema = .ok infos) :
    (shownList request infos).outputs (schema.columns.map (·.name)) =
      infos.map fun info => (info.name, .column info.name) := by
  unfold shown at listed
  unfold shownList
  split
  · rename_i empty
    rw [if_pos empty] at listed
    cases listed
    simp only [SelectList.outputs, List.map_map, Function.comp_def]
  · simp only [SelectList.outputs, List.map_map, Function.comp_def]
    rfl

omit [ToLowercase] in
theorem jsonObjPairs_keys (infos : List ColumnInfo) :
    (jsonObjPairs infos).map (·.key) = infos.map (·.name) := by
  rw [jsonObjPairs, List.map_map]
  rfl

omit [ToLowercase] in
theorem jsonObjPairs_named (infos : List ColumnInfo) :
    ∀ pair ∈ jsonObjPairs infos, pair.column = pair.key := by
  intro pair listed
  obtain ⟨info, -, rfl⟩ := List.mem_map.mp listed
  rfl

theorem groupJsonObjPairs_named (schema : DatasetSchema) (plan : AggPlan) :
    ∀ pair ∈ groupJsonObjPairs schema plan, pair.column = pair.key := by
  intro pair listed
  rcases List.mem_append.mp listed with grouped | aggregated
  · obtain ⟨name, -, rfl⟩ := List.mem_map.mp grouped
    rfl
  · obtain ⟨a, -, rfl⟩ := List.mem_map.mp aggregated
    rfl

omit [ToLowercase] in
/-- A wrapped statement gives the same answer exactly when its outputs can be referred to. -/
theorem sameAnswer_wrapped_iff (lawful : NamesColumns names) {columns : List String} {pairs : List JsonPair}
    {inner : SelectStatement} {binds : List ParamVal}
    (keys : pairs.map (·.key) = (inner.select.outputs columns).map (·.1))
    (named : ∀ pair ∈ pairs, pair.column = pair.key) :
    SameAnswer names columns (.wrapped pairs inner, binds) (inner, binds) ↔
      Referable names (inner.select.outputs columns) := by
  constructor
  · intro same
    exact RowEngine.referable_of_distinguishing lawful keys named
      (same.rows RowEngine.distinguishing)
  · intro referable
    exact ⟨rfl, rfl, rfl, keys, fun engine =>
      engine.jsonAnswer_wrapped lawful keys named referable⟩

theorem distinct_of_planned {plan : AggPlan} (planned : request.aggPlan schema = .ok (some plan)) :
    request.distinct = false := by
  unfold QueryRequest.aggPlan at planned
  split at planned
  · cases planned
  · rename_i apart
    split at planned
    · split at planned <;> cases planned
    · rename_i grouped
      simp only [Bool.not_eq_true] at grouped
      simpa [grouped] using apart

/-- A turned statement gives the same answer exactly when the request is distinguished. -/
theorem Turned.sameAnswer_iff (lawful : NamesColumns names) {query : JsonQuery} {statement : SelectStatement}
    {binds : List ParamVal} (turned : Turned schema request query statement) :
    SameAnswer names (schema.columns.map (·.name)) (query, binds) (statement, binds) ↔
      Distinguished names schema request := by
  cases turned with
  | grouped plan items planned selected select =>
    have keys : (groupJsonObjPairs schema plan).map (·.key) =
        (statement.select.outputs (schema.columns.map (·.name))).map (·.1) := by
      rw [keys_outputNames, select, ← (AggPlan.selectItems_ok selected).1, SelectList.outputs,
        List.map_map]
      rfl
    rw [sameAnswer_wrapped_iff lawful keys (groupJsonObjPairs_named schema plan), select,
      ← referable_map_iff (f := fun expr => (.ok expr : Except AppError SqlExpr))
        fun _ _ => Except.ok.inj]
    have outputs : ((SelectList.list items).outputs (schema.columns.map (·.name))).map
        (fun output => (output.1, (.ok output.2 : Except AppError SqlExpr))) = plan.outputs := by
      rw [AggPlan.outputs_selectItems selected, SelectList.outputs, List.map_map]
      rfl
    rw [outputs]
    constructor
    · intro apart
      constructor
      · intro plan' planned'
        obtain rfl := Option.some.inj (Except.ok.inj (planned.symm.trans planned'))
        exact apart
      · intro distinct
        rw [distinct_of_planned planned] at distinct
        cases distinct
    · intro distinguished
      exact distinguished.grouped plan planned
  | deduped infos ungrouped distinct listed select =>
    have outputs := shownList_outputs listed
    have keys : (jsonObjPairs infos).map (·.key) =
        (statement.select.outputs (schema.columns.map (·.name))).map (·.1) := by
      rw [jsonObjPairs_keys, select, outputs, List.map_map]
      rfl
    rw [sameAnswer_wrapped_iff lawful keys (jsonObjPairs_named infos), select, outputs]
    have columns : (infos.map fun info => (info.name, SqlExpr.column info.name)) =
        (infos.map fun info => (info.name, info.name)).map
          fun output => (output.1, .column output.2) := by
      rw [List.map_map]
      rfl
    rw [columns, referable_map_iff fun _ _ => SqlExpr.column.inj]
    constructor
    · intro apart
      constructor
      · intro plan planned
        cases ungrouped.symm.trans planned
      · intro _ infos' listed'
        obtain rfl := Except.ok.inj (listed.symm.trans listed')
        exact apart
    · intro distinguished
      exact distinguished.deduped distinct infos listed
  | plain infos ungrouped distinct listed select dedups groups row =>
    cases row
    have outputs : (SelectList.jsonObject (jsonObjPairs infos)).outputs
        (schema.columns.map (·.name)) =
          statement.select.outputs (schema.columns.map (·.name)) := by
      rw [select, shownList_outputs listed, SelectList.outputs, jsonObjPairs, List.map_map]
      rfl
    constructor
    · intro _
      constructor
      · intro plan planned
        cases ungrouped.symm.trans planned
      · intro asked
        rw [distinct] at asked
        cases asked
    · intro _
      constructor
      case bound => rfl
      case clauses => rfl
      case selected => exact outputs
      case keys => exact congrArg _ outputs
      case rows =>
        intro Row Value engine
        simp only [RowEngine.jsonAnswer, RowEngine.answer, RowEngine.run, dedups, groups, outputs,
          List.isEmpty_nil, Bool.not_true, Bool.or_self, Bool.false_eq_true, if_false]

end Turned

namespace DatasetRepository
variable {repository : DatasetRepository} {request : QueryRequest}

theorem rowJsonObjPairs_eq :
    repository.rowJsonObjPairs request = jsonObjPairs <$> shown request repository.schema := by
  unfold rowJsonObjPairs shown
  split <;> rfl

theorem projection_eq :
    repository.projection request = shownList request <$> shown request repository.schema := by
  unfold projection shown shownList
  split
  · rfl
  · cases request.projected repository.schema <;> rfl

variable [JsonText]

theorem havingClause_none {bindVals binds : List ParamVal} {having : List Condition}
    (kept : havingClause request none bindVals = .ok (having, binds)) : having = [] := by
  obtain ⟨resolved, planned, kept⟩ := Fallible.bind_ok_iff.mp kept
  unfold QueryRequest.havingPlan at planned
  split at planned
  · cases planned
    cases kept
    rfl
  · cases planned

/-- Both builders accept a request together, with the same values, and the JSON query is the
Arrow statement turned. -/
theorem query_ok_iff {query : JsonQuery} {binds : List ParamVal} :
    repository.query request = .ok (query, binds) ↔
      ∃ statement, repository.queryArrowWriteInner request true = .ok (statement, binds) ∧
        Turned repository.schema request query statement := by
  simp only [DatasetRepository.query, queryArrowWriteInner, projection_eq, rowJsonObjPairs_eq,
    Fallible.bind_ok_iff]
  constructor
  · rintro ⟨plan, planned, ⟨conditions, filterBinds⟩, filtered, ⟨having, havingBinds⟩, kept, orderBy,
      sorted, built⟩
    cases plan with
    | some plan =>
      obtain ⟨items, selected, built⟩ := Fallible.bind_ok_iff.mp built
      cases built
      have list : selectList repository request (some plan) = .ok (.list items) :=
        Fallible.map_ok_iff.mpr ⟨items, selected, rfl⟩
      refine ⟨_, ⟨some plan, planned, _, list, _, filtered, _, kept, orderBy, sorted, rfl⟩, ?_⟩
      simp only [Option.isNone_some, Bool.and_false, Option.elim_some, if_true]
      exact .grouped plan items planned selected rfl
    | none =>
      obtain rfl := havingClause_none kept
      cases distinct : request.distinct with
      | true =>
        simp only [distinct, if_true, Fallible.bind_ok_iff, Fallible.map_ok_iff] at built
        obtain ⟨-, ⟨infos, listed, rfl⟩, -, ⟨infos', listed', rfl⟩, built⟩ := built
        cases built
        obtain rfl := Except.ok.inj (listed.symm.trans listed')
        have list : selectList repository request none = .ok (shownList request infos) :=
          projection_eq.trans (Fallible.map_ok_iff.mpr ⟨infos, listed, rfl⟩)
        exact ⟨_, ⟨none, planned, _, list, _, filtered, _, kept, orderBy, sorted, rfl⟩,
          .deduped infos planned distinct listed rfl⟩
      | false =>
        simp only [distinct, Bool.false_eq_true, if_false, Fallible.bind_ok_iff,
          Fallible.map_ok_iff] at built
        obtain ⟨-, ⟨infos, listed, rfl⟩, built⟩ := built
        cases built
        have list : selectList repository request none = .ok (shownList request infos) :=
          projection_eq.trans (Fallible.map_ok_iff.mpr ⟨infos, listed, rfl⟩)
        exact ⟨_, ⟨none, planned, _, list, _, filtered, _, kept, orderBy, sorted, rfl⟩,
          .plain infos planned distinct listed rfl rfl rfl rfl⟩
  · rintro ⟨statement, ⟨plan, planned, select, list, ⟨conditions, filterBinds⟩, filtered,
      ⟨having, havingBinds⟩, kept, orderBy, sorted, built⟩, turned⟩
    cases built
    refine ⟨plan, planned, _, filtered, _, kept, orderBy, sorted, ?_⟩
    cases turned with
    | grouped plan' items planned' selected same =>
      obtain rfl := Except.ok.inj (planned.symm.trans planned')
      simp only [Option.isNone_some, Bool.and_false, Option.elim_some, if_true] at same ⊢
      cases same
      exact Fallible.bind_ok_iff.mpr ⟨items, selected, rfl⟩
    | deduped infos ungrouped distinct listed same =>
      obtain rfl := Except.ok.inj (planned.symm.trans ungrouped)
      obtain rfl := havingClause_none kept
      simp only [distinct, if_true, Fallible.bind_ok_iff, Fallible.map_ok_iff]
      exact ⟨_, ⟨infos, listed, rfl⟩, _, ⟨infos, listed, same.symm⟩, rfl⟩
    | plain infos ungrouped distinct listed same _ _ row =>
      obtain rfl := Except.ok.inj (planned.symm.trans ungrouped)
      obtain rfl := havingClause_none kept
      cases row
      simp only [distinct, Bool.false_eq_true, if_false, Fallible.bind_ok_iff,
        Fallible.map_ok_iff]
      exact ⟨_, ⟨infos, listed, rfl⟩, rfl⟩

theorem exists_turned {statement : SelectStatement} {binds : List ParamVal}
    (built : repository.queryArrowWriteInner request true = .ok (statement, binds)) :
    ∃ query, Turned repository.schema request query statement := by
  simp only [queryArrowWriteInner, Fallible.bind_ok_iff] at built
  obtain ⟨plan, planned, select, list, _, _, _, _, _, _, built⟩ := built
  cases built
  cases plan with
  | some plan =>
    obtain ⟨items, selected, rfl⟩ := Fallible.map_ok_iff.mp list
    exact ⟨_, .grouped plan items planned selected rfl⟩
  | none =>
    obtain ⟨infos, listed, rfl⟩ := Fallible.map_ok_iff.mp (projection_eq.symm.trans list)
    cases distinct : request.distinct with
    | true => exact ⟨_, .deduped infos planned distinct listed rfl⟩
    | false => exact ⟨_, .plain infos planned distinct listed rfl rfl rfl rfl⟩

/-- Both formats accept the same requests, and give the same answer exactly when the outputs of
a grouped or deduplicated request can be referred to by their names. -/
theorem formats_agree_iff {names : List String → List String} (lawful : NamesColumns names)
    (repository : DatasetRepository) (request : QueryRequest) :
    ((∃ json, repository.query request = .ok json) ↔
        ∃ arrow, repository.queryArrowWriteInner request true = .ok arrow) ∧
      ∀ json arrow, repository.query request = .ok json →
        repository.queryArrowWriteInner request true = .ok arrow →
          (SameAnswer names (repository.schema.columns.map (·.name)) json arrow ↔
            Distinguished names repository.schema request) := by
  constructor
  · constructor
    · rintro ⟨⟨query, binds⟩, built⟩
      obtain ⟨statement, arrow, -⟩ := query_ok_iff.mp built
      exact ⟨_, arrow⟩
    · rintro ⟨⟨statement, binds⟩, arrow⟩
      obtain ⟨query, turned⟩ := exists_turned arrow
      exact ⟨_, query_ok_iff.mpr ⟨statement, arrow, turned⟩⟩
  · rintro ⟨query, binds⟩ arrow built arrowBuilt
    obtain ⟨statement, found, turned⟩ := query_ok_iff.mp built
    obtain rfl := Except.ok.inj (found.symm.trans arrowBuilt)
    exact turned.sameAnswer_iff lawful

end DatasetRepository
end Builders

section
attribute [local instance] asciiToLowercase unusedJsonText

/-- Grouped twice by the region, with a count called like the second one as a column. -/
private def regionTwice (outputAlias : Option String) : QueryRequest where
  groupBy := ["region", "region"]
  aggregations := [{ op := "count", outputAlias }]

private def twicePlan (outputAlias : String) : AggPlan :=
  ⟨["Region", "Region"], [⟨none, .count, outputAlias⟩]⟩

theorem formats_agree_twice :
    ((∃ json, (DatasetRepository.new salesSchema 100).query (regionTwice none) = .ok json) ↔
        ∃ arrow, (DatasetRepository.new salesSchema 100).queryArrowWriteInner (regionTwice none) true =
          .ok arrow) ∧
      ∀ json arrow, (DatasetRepository.new salesSchema 100).query (regionTwice none) = .ok json →
        (DatasetRepository.new salesSchema 100).queryArrowWriteInner (regionTwice none) true =
          .ok arrow →
          (SameAnswer deduplicateColumns (salesSchema.columns.map (·.name)) json arrow ↔
            Distinguished deduplicateColumns salesSchema (regionTwice none)) :=
  DatasetRepository.formats_agree_iff deduplicateColumns_lawful
    (DatasetRepository.new salesSchema 100) (regionTwice none)

private theorem differ {request : QueryRequest} {plan : AggPlan}
    (planned : request.aggPlan salesSchema = .ok (some plan))
    (accepted : ((DatasetRepository.new salesSchema 100).query request).isOk = true)
    (clash : ¬ Referable deduplicateColumns plan.outputs) : ∃ json arrow,
    (DatasetRepository.new salesSchema 100).query request = .ok json ∧
      (DatasetRepository.new salesSchema 100).queryArrowWriteInner request true = .ok arrow ∧
      ¬ SameAnswer deduplicateColumns (salesSchema.columns.map (·.name)) json arrow := by
  cases built : (DatasetRepository.new salesSchema 100).query request with
  | error e =>
      rw [built] at accepted
      cases accepted
  | ok json =>
      obtain ⟨statement, arrow, turned⟩ := DatasetRepository.query_ok_iff.mp built
      refine ⟨json, (statement, json.2), rfl, arrow, fun same => ?_⟩
      have distinguished := (turned.sameAnswer_iff deduplicateColumns_lawful).mp same
      exact clash (distinguished.grouped _ planned)

/-- A count called like the group column shows the group in its place, and so does one called
like the name that the database gives to a repeated group column. -/
theorem formats_differ :
    (∃ json arrow,
      (DatasetRepository.new salesSchema 100).query (totals (some "REGION")) = .ok json ∧
      (DatasetRepository.new salesSchema 100).queryArrowWriteInner (totals (some "REGION")) true =
        .ok arrow ∧
      ¬ SameAnswer deduplicateColumns (salesSchema.columns.map (·.name)) json arrow) ∧
    ∃ json arrow,
      (DatasetRepository.new salesSchema 100).query (regionTwice (some "Region_1")) = .ok json ∧
      (DatasetRepository.new salesSchema 100).queryArrowWriteInner (regionTwice (some "Region_1"))
        true = .ok arrow ∧
      ¬ SameAnswer deduplicateColumns (salesSchema.columns.map (·.name)) json arrow := by
  constructor
  · have planned : (totals (some "REGION")).aggPlan salesSchema = .ok (some ⟨["Region"],
        [⟨some "Amount", .sum, "sum_amount"⟩, ⟨none, .count, "REGION"⟩]⟩) := by decide +kernel
    refine differ planned (by decide +kernel) fun referable => ?_
    have clash := referable.apart ("Region", .ok (.column "Region")) (by decide +kernel)
      ("REGION", .ok .countAll) (by decide +kernel) (by decide +kernel)
    cases clash
  · have planned : (regionTwice (some "Region_1")).aggPlan salesSchema =
        .ok (some (twicePlan "Region_1")) := by decide +kernel
    refine differ planned (by decide +kernel) fun referable => ?_
    have clash := referable.replaced ("Region_1", ("Region", .ok (.column "Region")))
      (by decide +kernel) (by decide +kernel) ("Region_1", .ok .countAll) (by decide +kernel)
      (by decide +kernel)
    cases clash

end
end DuckDB
end Datapress
