import Datapress.StatementProofs

/-! The statements of the DataFusion and the DuckDB builder for a request that passed
the column filters respect these filters exactly when the checks suffice. -/
namespace Datapress

namespace DataFusion

theorem predToSqlWithLhs_lhs {lhs : SqlExpr} {pred : Predicate} {params after : Params}
    {condition : Condition} (ok : predToSqlWithLhs lhs pred params = .ok (condition, after)) :
    condition.lhs = lhs := by
  simp only [predToSqlWithLhs] at ok
  split at ok
  · cases ok; rfl
  split at ok
  · cases ok; rfl
  split at ok
  · cases ok
  split at ok
  · split at ok
    · simp only [Fallible.bind_ok_iff] at ok
      obtain ⟨_, _, same⟩ := ok
      cases same; rfl
    · cases ok
  · simp only [Fallible.bind_ok_iff] at ok
    obtain ⟨_, _, _, _, same⟩ := ok
    cases same; rfl

variable [ToLowercase] {schema : DatasetSchema} {request : QueryRequest}

theorem predToSql_lhs {pred : Predicate} {params after : Params} {condition : Condition}
    (ok : predToSql schema pred params = .ok (condition, after)) :
    ∃ info, schema.find pred.col = .ok info ∧ condition.lhs = .column info.name := by
  simp only [predToSql, Fallible.bind_ok_iff] at ok
  obtain ⟨info, found, rendered⟩ := ok
  exact ⟨info, found, predToSqlWithLhs_lhs rendered⟩

theorem conditions_lhs {predicates : List Predicate} {params after : Params}
    {conditions : List Condition}
    (ok : Fallible.mapState (predToSql schema) predicates params = .ok (conditions, after)) :
    List.Forall₂ (fun p c => ∃ info, schema.find p.col = .ok info ∧
      c.lhs = .column info.name) predicates conditions :=
  (Fallible.mapState_forall₂ ok).imp fun _ _ ⟨_, _, rendered⟩ => predToSql_lhs rendered

private theorem selectList_selects {plan : Option AggPlan} {select : SelectList}
    (ok : selectList schema request plan = .ok select) : Selects schema request plan select := by
  cases plan with
  | some plan =>
    simp only [selectList] at ok
    cases listed : plan.selectItems with
    | error e => rw [listed] at ok; cases ok
    | ok items => rw [listed] at ok; cases ok; exact ⟨items, listed, rfl⟩
  | none =>
    simp only [selectList] at ok
    split at ok
    · rename_i empty
      cases ok
      exact .all (List.isEmpty_iff.mp empty)
    · rename_i present
      simp only [Fallible.bind_ok_iff] at ok
      obtain ⟨infos, projected, same⟩ := ok
      cases same
      exact .columns (by simpa using present) projected

theorem buildQuerySqlWithSuffix_clauses {suffix : String} {statement : SelectStatement}
    {params : Params}
    (ok : buildQuerySqlWithSuffix schema request suffix = .ok (statement, params)) :
    ∃ plan, Clauses schema request plan statement ∧
      Selects schema request plan statement.select := by
  simp only [buildQuerySqlWithSuffix, Fallible.bind_ok_iff] at ok
  obtain ⟨plan, planned, select, listed, ⟨conditions, bound⟩, filtered, resolved, havingPlan,
    ⟨having, boundAfter⟩, rendered, orderBy, sorted, same⟩ := ok
  cases same
  refine ⟨plan, ⟨planned, conditions_lhs filtered, rfl, ⟨resolved, havingPlan, ?_⟩, sorted⟩,
    selectList_selects listed⟩
  exact (Fallible.mapState_forall₂ rendered).imp fun _ _ ⟨_, _, ok⟩ => predToSqlWithLhs_lhs ok

end DataFusion

namespace DuckDB
variable [JsonText]

theorem predicateToCondition_lhs {lhs : SqlExpr} {label : String} {pred : Predicate}
    {bindVals after : List ParamVal} {condition : Condition}
    (ok : predicateToCondition lhs label pred bindVals = .ok (condition, after)) :
    condition.lhs = lhs := by
  simp only [predicateToCondition] at ok
  split at ok
  · cases ok; rfl
  · cases ok; rfl
  · split at ok
    · simp only [Fallible.bind_ok_iff] at ok
      obtain ⟨_, _, same⟩ := ok
      cases same; rfl
    · cases ok
  · simp only [Fallible.bind_ok_iff] at ok
    obtain ⟨_, _, rendered⟩ := ok
    split at rendered
    · cases rendered
    · simp only [Fallible.bind_ok_iff] at rendered
      obtain ⟨_, _, same⟩ := rendered
      cases same; rfl

namespace DatasetRepository
variable [ToLowercase] {repository : DatasetRepository} {request : QueryRequest}

theorem conditions_lhs {predicates : List Predicate} {bindVals after : List ParamVal}
    {conditions : List Condition}
    (ok : Fallible.mapState repository.applyPredicate predicates bindVals =
      .ok (conditions, after)) :
    List.Forall₂ (fun p c => ∃ info, repository.schema.find p.col = .ok info ∧
      c.lhs = .column info.name) predicates conditions := by
  refine (Fallible.mapState_forall₂ ok).imp fun p c ⟨before, after, applied⟩ => ?_
  simp only [applyPredicate, Fallible.bind_ok_iff] at applied
  obtain ⟨info, found, rendered⟩ := applied
  exact ⟨info, found, predicateToCondition_lhs rendered⟩

private theorem havingClause_lhs {plan : Option AggPlan} {bindVals after : List ParamVal}
    {having : List Condition}
    (ok : havingClause request plan bindVals = .ok (having, after)) :
    ∃ resolved, request.havingPlan plan = .ok resolved ∧
      List.Forall₂ (fun (r : SqlExpr × Predicate) c => c.lhs = r.1) resolved having := by
  simp only [havingClause, Fallible.bind_ok_iff] at ok
  obtain ⟨resolved, planned, rendered⟩ := ok
  exact ⟨resolved, planned, (Fallible.mapState_forall₂ rendered).imp fun _ _ ⟨_, _, ok⟩ =>
    predicateToCondition_lhs ok⟩

omit [JsonText] in
private theorem projection_listed {select : SelectList}
    (ok : repository.projection request = .ok select) :
    Listed repository.schema request select := by
  simp only [projection] at ok
  split at ok
  · rename_i empty
    cases ok
    exact .all (List.isEmpty_iff.mp empty)
  · rename_i present
    simp only [Fallible.bind_ok_iff] at ok
    obtain ⟨infos, projected, same⟩ := ok
    cases same
    exact .columns (by simpa using present) projected

omit [JsonText] in
private theorem rowJsonObjPairs_listed {pairs : List JsonPair}
    (ok : repository.rowJsonObjPairs request = .ok pairs) :
    Listed repository.schema request (.jsonObject pairs) := by
  simp only [rowJsonObjPairs] at ok
  split at ok
  · rename_i empty
    cases ok
    exact .allJson (List.isEmpty_iff.mp empty)
  · rename_i present
    cases listed : request.projected repository.schema with
    | error e => rw [listed] at ok; cases ok
    | ok infos =>
      rw [listed] at ok
      cases ok
      exact .columnsJson (by simpa using present) listed

theorem queryArrowWriteInner_clauses {paged : Bool} {statement : SelectStatement}
    {values : List ParamVal}
    (ok : repository.queryArrowWriteInner request paged = .ok (statement, values)) :
    ∃ plan, Clauses repository.schema request plan statement ∧
      Selects repository.schema request plan statement.select := by
  simp only [queryArrowWriteInner, Fallible.bind_ok_iff] at ok
  obtain ⟨plan, planned, select, listed, ⟨conditions, bound⟩, filtered, ⟨having, boundAfter⟩,
    havingOk, orderBy, sorted, same⟩ := ok
  cases same
  refine ⟨plan, ⟨planned, conditions_lhs filtered, rfl, havingClause_lhs havingOk, sorted⟩, ?_⟩
  cases plan with
  | some plan =>
    simp only [selectList] at listed
    cases items : plan.selectItems with
    | error e => rw [items] at listed; cases listed
    | ok list => rw [items] at listed; cases listed; exact ⟨list, items, rfl⟩
  | none => exact projection_listed listed

variable {schema : DatasetSchema} {enforced : QueryRequest}

omit [JsonText] in
private theorem groupJsonObjPairs_outputs (plan : AggPlan) :
    ∀ pair ∈ groupJsonObjPairs schema plan, pair.column ∈ plan.outputNames := by
  intro pair member
  simp only [groupJsonObjPairs, List.mem_append, List.mem_map] at member
  simp only [AggPlan.outputNames, List.mem_append, List.mem_map]
  rcases member with ⟨g, group, rfl⟩ | ⟨spec, agg, rfl⟩
  · exact .inl group
  · exact .inr ⟨spec, agg, rfl⟩

omit [JsonText] in
/-- The pairs around a `DISTINCT` subquery name the columns it selects. -/
private theorem distinct_pairs {pairs : List JsonPair} {select : SelectList}
    (rows : repository.rowJsonObjPairs request = .ok pairs)
    (selected : repository.projection request = .ok select) :
    ∀ pair ∈ pairs, pair.column ∈ select.columns repository.schema := by
  intro pair member
  simp only [rowJsonObjPairs] at rows
  simp only [projection] at selected
  split at rows
  · rename_i empty
    rw [if_pos empty] at selected
    cases rows
    cases selected
    obtain ⟨info, listed, rfl⟩ := List.mem_map.mp member
    exact List.mem_map_of_mem listed
  · rename_i present
    rw [if_neg present] at selected
    simp only [Fallible.bind_ok_iff] at selected
    obtain ⟨infos, projected, same⟩ := selected
    rw [projected] at rows
    cases rows
    cases same
    rw [SelectList.columns_list]
    obtain ⟨info, listed, rfl⟩ := List.mem_map.mp member
    exact List.mem_map_of_mem listed

theorem query_respects_iff {statement : JsonQuery} {values : List ParamVal}
    (visible : request.Enforced repository.schema enforced)
    (ok : repository.query enforced = .ok (statement, values)) :
    RespectsFilters repository.schema (statement.columnUse repository.schema) ↔
      FiltersSuffice repository.schema request := by
  simp only [query, Fallible.bind_ok_iff] at ok
  obtain ⟨plan, planned, ⟨conditions, bound⟩, filtered, ⟨having, boundAfter⟩, havingOk,
    orderBy, sorted, emitted⟩ := ok
  have conditionsOk := conditions_lhs filtered
  have havingSpec := havingClause_lhs havingOk
  cases plan with
  | some plan =>
    simp only [Fallible.bind_ok_iff] at emitted
    obtain ⟨items, listed, same⟩ := emitted
    cases same
    exact wrapped_respects_iff visible ⟨planned, conditionsOk, rfl, havingSpec, sorted⟩
      ⟨items, listed, rfl⟩
      fun pair member => .inl ⟨plan, rfl, groupJsonObjPairs_outputs plan pair member⟩
  | none =>
    have noHaving : ∃ resolved, enforced.havingPlan none = .ok resolved ∧
        List.Forall₂ (fun (r : SqlExpr × Predicate) (c : Condition) => c.lhs = r.1)
          resolved [] := by
      obtain ⟨resolved, planned, _⟩ := havingSpec
      refine ⟨resolved, planned, ?_⟩
      simp only [QueryRequest.havingPlan] at planned
      split at planned
      · cases planned; exact .nil
      · cases planned
    simp only [] at emitted
    split at emitted
    · simp only [Fallible.bind_ok_iff] at emitted
      obtain ⟨pairs, rows, select, selected, same⟩ := emitted
      cases same
      exact wrapped_respects_iff visible ⟨planned, conditionsOk, rfl, noHaving, sorted⟩
        (projection_listed selected)
        fun pair member => .inr ⟨rfl, distinct_pairs rows selected pair member⟩
    · simp only [Fallible.bind_ok_iff] at emitted
      obtain ⟨pairs, rows, same⟩ := emitted
      cases same
      exact statement_respects_iff visible ⟨planned, conditionsOk, rfl, noHaving, sorted⟩
        (rowJsonObjPairs_listed rows)

end DatasetRepository
end DuckDB

section Main
variable [ToLowercase] [JsonText] {schema : DatasetSchema} {request enforced : QueryRequest}
  {used : ColumnUse}

theorem Emits.respects_iff (visible : request.Enforced schema enforced)
    (emitted : Emits schema enforced used) :
    RespectsFilters schema used ↔ FiltersSuffice schema request := by
  cases emitted with
  | dataFusion ok =>
    obtain ⟨plan, clauses, selects⟩ := DataFusion.buildQuerySqlWithSuffix_clauses ok
    exact statement_respects_iff visible clauses selects
  | duckdbJson repository same ok =>
    subst same
    exact DuckDB.DatasetRepository.query_respects_iff visible ok
  | duckdbArrow repository same ok =>
    subst same
    obtain ⟨plan, clauses, selects⟩ := DuckDB.DatasetRepository.queryArrowWriteInner_clauses ok
    exact statement_respects_iff visible clauses selects

/-- For an accepted request, what either backend emits respects the column filters exactly
when the request leaves none of the two gaps of the checks open. -/
theorem emitted_respects_filters_iff
    (accepted : request.enforceColumnFilters schema = .ok enforced)
    (emitted : Emits schema enforced used) :
    RespectsFilters schema used ↔ FiltersSuffice schema request :=
  emitted.respects_iff (QueryRequest.enforceColumnFilters_ok accepted)

end Main

section Runs
attribute [local instance] asciiToLowercase unusedJsonText

/-- Staff records, before any filter. -/
def staff : DatasetSchema :=
  .new "staff" [⟨"id", .int, "BIGINT", false⟩, ⟨"email", .utf8, "VARCHAR", true⟩]

/-- A statement over the staff records without conditions. -/
def staffStatement (select : SelectList) : SelectStatement where
  distinct := false
  select
  table := "staff"
  conditions := []
  groupBy := []
  having := []
  orderBy := []
  suffix := ""

/-- A request for `id` on a dataset that hides `email` meets the condition. -/
theorem emitted_respects_filters_id :
    ({ columns := ["id"] } : QueryRequest).enforceColumnFilters
        { staff with projectionFilter := { excluded := ["email"] } } =
        .ok { columns := ["id"] } ∧
      (RespectsFilters { staff with projectionFilter := { excluded := ["email"] } }
          { named := ["id"], filtered := [] } ↔
        FiltersSuffice { staff with projectionFilter := { excluded := ["email"] } }
          { columns := ["id"] }) := by
  refine ⟨rfl, emitted_respects_filters_iff rfl ?_⟩
  have emitted : DataFusion.buildQuerySqlWithSuffix
      { staff with projectionFilter := { excluded := ["email"] } } { columns := ["id"] } "" =
      .ok (staffStatement (.list [.column "id"]), []) := rfl
  exact .dataFusion emitted

/-- A dataset that hides every column is queried with `SELECT *`, and `HAVING` filters on a
predicate-denied group column. -/
theorem emitted_breaks_filters :
    (∃ schema enforced used,
      staff.withFilters {} { excluded := ["id", "email"] } = .ok schema ∧
      ({} : QueryRequest).enforceColumnFilters schema = .ok enforced ∧
      Emits schema enforced used ∧ ¬ RespectsFilters schema used) ∧
    ∃ schema request enforced used,
      staff.withFilters { excluded := ["email"] } {} = .ok schema ∧
      QueryRequest.enforceColumnFilters request schema = .ok enforced ∧
      Emits schema enforced used ∧ ¬ RespectsFilters schema used := by
  constructor
  · have emitted : DataFusion.buildQuerySqlWithSuffix
        { staff with projectionFilter := { excluded := ["id", "email"] } } {} "" =
        .ok (staffStatement .all, []) := rfl
    refine ⟨_, {}, _, rfl, rfl, .dataFusion emitted, fun respects => ?_⟩
    have shown := respects.visible "email" (by decide)
    exact absurd shown (by decide)
  · have emitted : DataFusion.buildQuerySqlWithSuffix
        { staff with predicateFilter := { excluded := ["email"] } }
        { groupBy := ["email"], having := [⟨"email", "is_not_null", none⟩] } "" =
        .ok ({ staffStatement (.list [.column "email", .aliased .countAll "count"]) with
          groupBy := ["email"], having := [⟨.column "email", .isNotNull⟩] }, []) := rfl
    refine ⟨_, { groupBy := ["email"], having := [⟨"email", "is_not_null", none⟩] }, _, _,
      rfl, rfl, .dataFusion emitted, fun respects => ?_⟩
    have permitted := respects.permitted "email" (by decide)
    exact absurd permitted (by decide)

end Runs
end Datapress
