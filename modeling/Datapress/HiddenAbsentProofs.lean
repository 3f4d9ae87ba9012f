import Datapress.HiddenAbsent
import Datapress.EnforcementProofs

/-! A request that mentions a hidden column has the same outcome as the request that
mentions a column that does not exist. -/
namespace Datapress
open Fallible (Agree)

section Renaming
variable [ToLowercase] {schema : DatasetSchema} {hidden absent name : String}
  {request : QueryRequest}

theorem replaceName_of_ne (other : toLowercase name ≠ toLowercase hidden) :
    replaceName hidden absent name = name := if_neg other

theorem replaceName_of_eq (same : toLowercase name = toLowercase hidden) :
    replaceName hidden absent name = absent := if_pos same

theorem SameError.unknown (same : toLowercase name = toLowercase hidden) :
    SameError hidden absent (.unknownColumn name) (.unknownColumn absent) := by
  have echoed : SameError hidden absent (.unknownColumn (name ++ ""))
      (.unknownColumn (absent ++ "")) := .echoed same
  simpa only [String.append_empty] using echoed

private theorem sorted_replace :
    (if (request.replace hidden absent).groupBy.isEmpty then
      (request.replace hidden absent).orderBy else []) =
      (if request.groupBy.isEmpty then request.orderBy else []).map
        (OrderBy.replace hidden absent) := by
  simp only [QueryRequest.replace, List.isEmpty_map]
  split <;> rfl

private theorem aggCols_replace :
    (request.replace hidden absent).aggregations.filterMap (·.col) =
      (request.aggregations.filterMap (·.col)).map (replaceName hidden absent) := by
  simp only [QueryRequest.replace, List.filterMap_map, List.map_filterMap, Aggregation.replace,
    Function.comp_def]

namespace HiddenAndAbsent
variable (pair : HiddenAndAbsent schema hidden absent)
include pair

theorem active : schema.hasColumnFilters = true := by
  by_contra inactive
  have projection := (DatasetSchema.filters_inactive (by simpa using inactive)).2
  have allowed := ColumnFilter.allows_of_inactive projection hidden
  rw [pair.denied] at allowed
  cases allowed

/-- A visible name is not the hidden one. -/
theorem ne_hidden (visible : schema.projectionFilter.allows name = true) :
    toLowercase name ≠ toLowercase hidden := by
  intro same
  rw [schema.projectionFilter.allows_congr same, pair.denied] at visible
  cases visible

private theorem unknown (listed : toLowercase name = toLowercase hidden ∨ name = absent) :
    ∀ column, schema.find name = .ok column → schema.projectionFilter.allows name = false := by
  intro column found
  rcases listed with same | rfl
  · rw [schema.projectionFilter.allows_congr same, pair.denied]
  · have missing := pair.missing column (DatasetSchema.find_mem found)
    exact absurd (DatasetSchema.find_lowered found) missing

theorem findVisible_agree (name : String) :
    Agree (· = ·) (SameError hidden absent) (schema.findVisible name)
      (schema.findVisible (replaceName hidden absent name)) := by
  by_cases same : toLowercase name = toLowercase hidden
  · rw [replaceName_of_eq same, DatasetSchema.findVisible_error (pair.unknown (.inl same)),
      DatasetSchema.findVisible_error (pair.unknown (.inr rfl))]
    exact .error (.unknown same)
  · rw [replaceName_of_ne same]
    exact .refl (fun _ => rfl) .same _

theorem findForPredicate_agree (name : String) :
    Agree (· = ·) (SameError hidden absent) (schema.findForPredicate name)
      (schema.findForPredicate (replaceName hidden absent name)) := by
  by_cases same : toLowercase name = toLowercase hidden
  · rw [replaceName_of_eq same, DatasetSchema.findForPredicate_error (pair.unknown (.inl same)),
      DatasetSchema.findForPredicate_error (pair.unknown (.inr rfl))]
    exact .error (.unknown same)
  · rw [replaceName_of_ne same]
    exact .refl (fun _ => rfl) .same _

/-- The enforcement stops at the same check in both runs. -/
theorem enforce_agree :
    Agree (fun _ _ => True) (SameError hidden absent) (request.enforceColumnFilters schema)
      ((request.replace hidden absent).enforceColumnFilters schema) := by
  simp only [QueryRequest.enforceColumnFilters, pair.active, Bool.not_true, Bool.false_eq_true,
    if_false, sorted_replace, aggCols_replace]
  refine Agree.bind (Agree.checkAll fun p _ => pair.findForPredicate_agree p.col) ?_
  intro _ _ _ _ _
  refine Agree.bind (Agree.checkAll fun c _ => pair.findVisible_agree c) ?_
  intro _ _ _ _ _
  refine Agree.bind (Agree.checkAll fun c _ => pair.findVisible_agree c) ?_
  intro _ _ _ _ _
  refine Agree.bind (Agree.checkAll fun o _ => pair.findVisible_agree o.col) ?_
  intro _ _ _ _ _
  simp only [QueryRequest.enforceColumns, QueryRequest.replace, List.isEmpty_map]
  split
  · split
    · exact .ok trivial
    · exact .ok trivial
  · refine Agree.bind (Agree.checkAll fun c _ => pair.findVisible_agree c) ?_
    intro _ _ _ _ _
    exact .ok trivial

private theorem map_replaceName {names : List String}
    (visible : ∀ c ∈ names, schema.projectionFilter.allows c = true) :
    names.map (replaceName hidden absent) = names := by
  have each : ∀ c ∈ names, replaceName hidden absent c = c :=
    fun c member => replaceName_of_ne (pair.ne_hidden (visible c member))
  rw [List.map_congr_left each, List.map_id']

private theorem map_replace_orderBy {keys : List OrderBy}
    (visible : ∀ o ∈ keys, schema.projectionFilter.allows o.col = true) :
    keys.map (OrderBy.replace hidden absent) = keys := by
  have each : ∀ o ∈ keys, OrderBy.replace hidden absent o = o := fun o member => by
    rw [OrderBy.replace, replaceName_of_ne (pair.ne_hidden (visible o member))]
  rw [List.map_congr_left each, List.map_id']

/-- In an accepted request only `having` and the grouped `order_by` can mention the hidden
column. -/
theorem replace_accepted {enforced : QueryRequest} (accepted : request.Enforced schema enforced) :
    request.replace hidden absent = { request with
      having := request.having.map (Predicate.replace hidden absent)
      orderBy := request.orderBy.map (OrderBy.replace hidden absent) } := by
  have columns : request.columns.map (replaceName hidden absent) = request.columns := by
    by_cases empty : request.columns = []
    · rw [empty, List.map_nil]
    · apply pair.map_replaceName
      rw [← accepted.kept empty]
      exact accepted.columns
  have predicates : request.predicates.map (Predicate.replace hidden absent) =
      request.predicates := by
    have each : ∀ p ∈ request.predicates, Predicate.replace hidden absent p = p := by
      intro p member
      rw [Predicate.replace, replaceName_of_ne (pair.ne_hidden (accepted.predicates p member).1)]
    rw [List.map_congr_left each, List.map_id']
  have groupBy : request.groupBy.map (replaceName hidden absent) = request.groupBy :=
    pair.map_replaceName accepted.groupBy
  have aggregations : request.aggregations.map (Aggregation.replace hidden absent) =
      request.aggregations := by
    have each : ∀ a ∈ request.aggregations, Aggregation.replace hidden absent a = a := by
      intro a member
      obtain ⟨col, op, outputAlias⟩ := a
      cases col with
      | none => rfl
      | some c =>
        have visible := accepted.aggregations _ member c rfl
        rw [Aggregation.replace, Option.map_some, replaceName_of_ne (pair.ne_hidden visible)]
    rw [List.map_congr_left each, List.map_id']
  rw [QueryRequest.replace, columns, predicates, groupBy, aggregations]

end HiddenAndAbsent

private theorem enforceColumns_outputs {enforced : QueryRequest} {having : List Predicate}
    {orderBy : List OrderBy} (narrowed : request.enforceColumns schema = .ok enforced) :
    ({ request with having, orderBy } : QueryRequest).enforceColumns schema =
      .ok { enforced with having, orderBy } := by
  simp only [QueryRequest.enforceColumns] at narrowed ⊢
  split at narrowed
  · rename_i empty
    rw [if_pos empty]
    split at narrowed
    · rename_i rewritten
      cases narrowed
      rw [if_pos rewritten]
    · rename_i kept
      cases narrowed
      rw [if_neg kept]
  · rename_i present
    rw [if_neg present]
    simp only [Fallible.bind_ok_iff] at narrowed ⊢
    obtain ⟨_, checked, same⟩ := narrowed
    cases same
    exact ⟨_, checked, rfl⟩

/-- Neither `having` nor a grouped `order_by` matters to the enforcement. -/
theorem QueryRequest.enforce_outputs {enforced : QueryRequest} {having : List Predicate}
    {orderBy : List OrderBy} (accepted : request.enforceColumnFilters schema = .ok enforced)
    (sorted : request.groupBy = [] → orderBy = request.orderBy) :
    ({ request with having, orderBy } : QueryRequest).enforceColumnFilters schema =
      .ok { enforced with having, orderBy } := by
  have ordered : (if request.groupBy.isEmpty then orderBy else []) =
      if request.groupBy.isEmpty then request.orderBy else [] := by
    split
    · rename_i ungrouped
      exact sorted (List.isEmpty_iff.mp ungrouped)
    · rfl
  simp only [enforceColumnFilters] at accepted ⊢
  split at accepted
  · rename_i inactive
    cases accepted
    rw [if_pos inactive]
  · rename_i active
    rw [if_neg active]
    simp only [Fallible.bind_ok_iff, ordered] at accepted ⊢
    obtain ⟨_, predicates, _, groupBy, _, aggregations, _, orderBy, narrowed⟩ := accepted
    exact ⟨_, predicates, _, groupBy, _, aggregations, _, orderBy,
      enforceColumns_outputs narrowed⟩

/-- No output of the plan bears the name, ignoring case. -/
structure AggPlan.Lacks (plan : AggPlan) (name : String) : Prop where
  groupCols : ∀ g ∈ plan.groupCols, toLowercase g ≠ toLowercase name
  aggs : ∀ a ∈ plan.aggs, toLowercase a.outputAlias ≠ toLowercase name

namespace AggPlan.Lacks
variable {plan : AggPlan}

theorem congr {other : String} (lacks : plan.Lacks other)
    (same : toLowercase name = toLowercase other) : plan.Lacks name :=
  ⟨fun g member => same ▸ lacks.groupCols g member, fun a member => same ▸ lacks.aggs a member⟩

theorem havingLhs_error (lacks : plan.Lacks name) :
    plan.havingLhs name = .error (.unknownColumn
      (name ++ " (must be a group_by column or aggregation alias)")) := by
  have groups : (plan.groupCols.find? fun c => toLowercase c == toLowercase name) = none := by
    apply List.find?_eq_none.mpr
    intro g member
    simpa using lacks.groupCols g member
  have aggs : (plan.aggs.find? fun a => toLowercase a.outputAlias == toLowercase name) = none := by
    apply List.find?_eq_none.mpr
    intro a member
    simpa using lacks.aggs a member
  simp only [AggPlan.havingLhs, groups, aggs]
  rfl

theorem sortName_error (lacks : plan.Lacks name) :
    QueryRequest.sortName schema (some plan) name = .error (.unknownColumn
      (name ++ " (must be a group_by column or aggregation alias)")) := by
  have outputs : (plan.outputNames.find? fun n => toLowercase n == toLowercase name) = none := by
    apply List.find?_eq_none.mpr
    intro n member
    simp only [AggPlan.outputNames, List.mem_append, List.mem_map] at member
    rcases member with group | ⟨a, agg, rfl⟩
    · simpa using lacks.groupCols n group
    · simpa using lacks.aggs a agg
  simp only [QueryRequest.sortName, outputs]
  rfl

end AggPlan.Lacks

/-- The plan of an accepted request has no output under the hidden or the absent name, unless
an aggregation is returned under it. -/
theorem HiddenAndAbsent.plan_lacks {enforced : QueryRequest} {plan : AggPlan}
    (pair : HiddenAndAbsent schema hidden absent) (accepted : request.Enforced schema enforced)
    (planned : enforced.aggPlan schema = .ok (some plan))
    (named : toLowercase name = toLowercase hidden ∨ name = absent)
    (noOutput : request.NoOutput name) : plan.Lacks name := by
  have spec := accepted.planned planned
  constructor
  · intro g member same
    rcases named with isHidden | rfl
    · have visible := (spec.columns_visible accepted).1 g member
      exact pair.ne_hidden visible (same.trans isHidden)
    · obtain ⟨c, present, rfl⟩ := QueryRequest.aggPlan_groupCols planned g member
      exact pair.missing c present same
  · intro a member same
    obtain ⟨requested, listed, returned, _⟩ := Lists.exists_of_mem_right spec.aggs member
    exact noOutput requested listed (returned ▸ same)

section Planning
variable {enforced : QueryRequest} {plan : Option AggPlan} {having : List Predicate}
  {orderBy : List OrderBy}

private theorem havingPlan_agree (pair : HiddenAndAbsent schema hidden absent)
    (accepted : request.Enforced schema enforced) (planned : enforced.aggPlan schema = .ok plan)
    (apart : request.OutputsApart hidden absent) :
    SameOutcome hidden absent (enforced.havingPlan plan)
      (QueryRequest.havingPlan { enforced with
        having := enforced.having.map (Predicate.replace hidden absent), orderBy } plan) := by
  simp only [QueryRequest.havingPlan, List.isEmpty_map]
  split
  · exact .ok rfl
  · cases plan with
    | none => exact .error (.same _)
    | some plan =>
      apply Agree.mapM_eq
      intro p member
      by_cases same : toLowercase p.col = toLowercase hidden
      · have requested : p ∈ request.having := by
          rw [accepted.frame] at member
          exact member
        obtain ⟨noHidden, noAbsent⟩ := apart (accepted.grouped planned) (.inl ⟨p, requested, same⟩)
        have lacksHidden := pair.plan_lacks accepted planned (.inl rfl) noHidden
        have lacksAbsent := pair.plan_lacks accepted planned (.inr rfl) noAbsent
        rw [(lacksHidden.congr same).havingLhs_error, Predicate.replace, replaceName_of_eq same,
          lacksAbsent.havingLhs_error]
        exact .error (.echoed same)
      · rw [Predicate.replace, replaceName_of_ne same]
        exact .refl (fun _ => rfl) .same _

private theorem orderBySql_agree (pair : HiddenAndAbsent schema hidden absent)
    (accepted : request.Enforced schema enforced) (planned : enforced.aggPlan schema = .ok plan)
    (apart : request.OutputsApart hidden absent) :
    SameOutcome hidden absent (enforced.orderBySql schema plan)
      (QueryRequest.orderBySql { enforced with
        having, orderBy := enforced.orderBy.map (OrderBy.replace hidden absent) } schema plan) := by
  simp only [QueryRequest.orderBySql]
  apply Agree.mapM_eq
  intro o member
  refine Agree.bind_same .same ?_
  intro dir _
  have requested : o ∈ request.orderBy := by
    rw [accepted.frame] at member
    exact member
  by_cases same : toLowercase o.col = toLowercase hidden
  · cases plan with
    | none =>
      have visible := accepted.orderBy (accepted.ungrouped planned) o requested
      exact absurd same (pair.ne_hidden visible)
    | some plan =>
      obtain ⟨noHidden, noAbsent⟩ := apart (accepted.grouped planned) (.inr ⟨o, requested, same⟩)
      have lacksHidden := pair.plan_lacks accepted planned (.inl rfl) noHidden
      have lacksAbsent := pair.plan_lacks accepted planned (.inr rfl) noAbsent
      rw [(lacksHidden.congr same).sortName_error, OrderBy.replace, replaceName_of_eq same,
        lacksAbsent.sortName_error]
      exact .error (.echoed same)
  · rw [OrderBy.replace, replaceName_of_ne same]
    exact .refl (fun _ => rfl) .same _

/-- The request the second run plans: it differs in the entries next to the outputs only. -/
private abbrev replaceOutputs (hidden absent : String) (enforced : QueryRequest) : QueryRequest :=
  { enforced with
    having := enforced.having.map (Predicate.replace hidden absent)
    orderBy := enforced.orderBy.map (OrderBy.replace hidden absent) }

private theorem dataFusion_agree (pair : HiddenAndAbsent schema hidden absent)
    (accepted : request.Enforced schema enforced) (apart : request.OutputsApart hidden absent)
    (suffix : String) :
    SameOutcome hidden absent (DataFusion.buildQuerySqlWithSuffix schema enforced suffix)
      (DataFusion.buildQuerySqlWithSuffix schema (replaceOutputs hidden absent enforced)
        suffix) := by
  simp only [DataFusion.buildQuerySqlWithSuffix]
  refine Agree.bind_same .same fun plan planned => ?_
  refine Agree.bind_same .same fun select _ => ?_
  refine Agree.bind_same .same fun (conditions, params) _ => ?_
  refine Agree.bind (havingPlan_agree pair accepted planned apart) ?_
  rintro resolved _ _ _ rfl
  refine Agree.bind_same .same fun (having, params) _ => ?_
  refine Agree.bind (orderBySql_agree pair accepted planned apart) ?_
  rintro orderBy _ _ _ rfl
  exact .ok rfl

variable [JsonText]

private theorem havingClause_agree (pair : HiddenAndAbsent schema hidden absent)
    (accepted : request.Enforced schema enforced) (planned : enforced.aggPlan schema = .ok plan)
    (apart : request.OutputsApart hidden absent) (bindVals : List DuckDB.ParamVal) :
    SameOutcome hidden absent (DuckDB.DatasetRepository.havingClause enforced plan bindVals)
      (DuckDB.DatasetRepository.havingClause (replaceOutputs hidden absent enforced) plan
        bindVals) := by
  simp only [DuckDB.DatasetRepository.havingClause]
  refine Agree.bind (havingPlan_agree pair accepted planned apart) ?_
  rintro resolved _ _ _ rfl
  exact .refl (fun _ => rfl) .same _

private theorem query_agree (pair : HiddenAndAbsent schema hidden absent)
    (accepted : request.Enforced schema enforced) (apart : request.OutputsApart hidden absent)
    (maxPageSize : UInt64) :
    SameOutcome hidden absent ((DuckDB.DatasetRepository.new schema maxPageSize).query enforced)
      ((DuckDB.DatasetRepository.new schema maxPageSize).query
        (replaceOutputs hidden absent enforced)) := by
  simp only [DuckDB.DatasetRepository.query]
  refine Agree.bind_same .same fun plan planned => ?_
  refine Agree.bind_same .same fun (conditions, bindVals) _ => ?_
  refine Agree.bind (havingClause_agree pair accepted planned apart bindVals) ?_
  rintro ⟨having, bindVals⟩ _ _ _ rfl
  refine Agree.bind (orderBySql_agree pair accepted planned apart) ?_
  rintro orderBy _ _ _ rfl
  exact .refl (fun _ => rfl) .same _

private theorem queryArrow_agree (pair : HiddenAndAbsent schema hidden absent)
    (accepted : request.Enforced schema enforced) (apart : request.OutputsApart hidden absent)
    (maxPageSize : UInt64) (paged : Bool) :
    SameOutcome hidden absent
      ((DuckDB.DatasetRepository.new schema maxPageSize).queryArrowWriteInner enforced paged)
      ((DuckDB.DatasetRepository.new schema maxPageSize).queryArrowWriteInner
        (replaceOutputs hidden absent enforced) paged) := by
  simp only [DuckDB.DatasetRepository.queryArrowWriteInner]
  refine Agree.bind_same .same fun plan planned => ?_
  refine Agree.bind_same .same fun select _ => ?_
  refine Agree.bind_same .same fun (conditions, bindVals) _ => ?_
  refine Agree.bind (havingClause_agree pair accepted planned apart bindVals) ?_
  rintro ⟨having, bindVals⟩ _ _ _ rfl
  refine Agree.bind (orderBySql_agree pair accepted planned apart) ?_
  rintro orderBy _ _ _ rfl
  exact .ok rfl

theorem Planner.plan_agree (planner : Planner) (pair : HiddenAndAbsent schema hidden absent)
    (accepted : request.Enforced schema enforced) (apart : request.OutputsApart hidden absent) :
    SameOutcome hidden absent (planner.plan schema enforced)
      (planner.plan schema (replaceOutputs hidden absent enforced)) := by
  cases planner with
  | dataFusionPage maxPageSize clampable =>
    refine Agree.bind (dataFusion_agree pair accepted apart _) ?_
    rintro planned _ _ _ rfl
    exact .ok rfl
  | dataFusionStream =>
    refine Agree.bind (dataFusion_agree pair accepted apart _) ?_
    rintro planned _ _ _ rfl
    exact .ok rfl
  | duckdbJson maxPageSize =>
    refine Agree.bind (query_agree pair accepted apart maxPageSize) ?_
    rintro planned _ _ _ rfl
    exact .ok rfl
  | duckdbArrow maxPageSize paged =>
    refine Agree.bind (queryArrow_agree pair accepted apart maxPageSize paged) ?_
    rintro planned _ _ _ rfl
    exact .ok rfl

theorem Planner.answer_agree (planner : Planner) (pair : HiddenAndAbsent schema hidden absent)
    (apart : request.OutputsApart hidden absent) :
    SameOutcome hidden absent (planner.answer schema request)
      (planner.answer schema (request.replace hidden absent)) := by
  have enforcement : Agree (fun _ _ => True) (SameError hidden absent)
      (request.enforceColumnFilters schema)
      ((request.replace hidden absent).enforceColumnFilters schema) := pair.enforce_agree
  cases first : request.enforceColumnFilters schema with
  | error e =>
    rw [first] at enforcement
    simp only [Planner.answer, first]
    generalize (request.replace hidden absent).enforceColumnFilters schema = second at enforcement
    cases enforcement with
    | error same => exact .error same
  | ok enforced =>
    have accepted := QueryRequest.enforceColumnFilters_ok first
    have ordered : request.groupBy = [] →
        request.orderBy.map (OrderBy.replace hidden absent) = request.orderBy :=
      fun ungrouped => pair.map_replace_orderBy (accepted.orderBy ungrouped)
    have second : (request.replace hidden absent).enforceColumnFilters schema =
        .ok (replaceOutputs hidden absent enforced) := by
      rw [pair.replace_accepted accepted, QueryRequest.enforce_outputs first ordered,
        accepted.frame]
    rw [Planner.answer, Planner.answer, first, second]
    exact planner.plan_agree pair accepted apart

omit [JsonText] in
private theorem countEnforce_agree (pair : HiddenAndAbsent schema hidden absent)
    (count : CountRequest) :
    Agree (fun _ _ => (count.replace hidden absent).predicates = count.predicates)
      (SameError hidden absent) (count.enforceColumnFilters schema)
      ((count.replace hidden absent).enforceColumnFilters schema) := by
  have checks : Agree (fun _ _ => True) (SameError hidden absent)
      (count.enforceColumnFilters schema)
      ((count.replace hidden absent).enforceColumnFilters schema) := by
    simp only [CountRequest.enforceColumnFilters, pair.active, Bool.not_true,
      Bool.false_eq_true, if_false]
    exact Agree.checkAll fun p _ => pair.findForPredicate_agree p.col
  cases first : count.enforceColumnFilters schema with
  | error e =>
    rw [first] at checks
    generalize (count.replace hidden absent).enforceColumnFilters schema = second at checks ⊢
    cases checks with
    | error same => exact .error same
  | ok _ =>
    rw [first] at checks
    generalize (count.replace hidden absent).enforceColumnFilters schema = second at checks ⊢
    cases checks with
    | ok _ =>
      refine .ok ?_
      simp only [CountRequest.enforceColumnFilters, pair.active, Bool.not_true,
        Bool.false_eq_true, if_false] at first
      have each : ∀ p ∈ count.predicates, Predicate.replace hidden absent p = p := by
        intro p member
        obtain ⟨column, found⟩ := Fallible.checkAll_ok_iff.mp first p member
        have visible := (DatasetSchema.findForPredicate_ok_iff.mp found).2.1
        rw [Predicate.replace, replaceName_of_ne (pair.ne_hidden visible)]
      rw [CountRequest.replace, List.map_congr_left each, List.map_id']

theorem CountRequest.answers_agree (pair : HiddenAndAbsent schema hidden absent)
    (count : CountRequest) (maxPageSize : UInt64) :
    SameOutcome hidden absent (count.dataFusionAnswer schema)
        ((count.replace hidden absent).dataFusionAnswer schema) ∧
      SameOutcome hidden absent (count.duckdbAnswer schema maxPageSize)
        ((count.replace hidden absent).duckdbAnswer schema maxPageSize) := by
  have enforcement := countEnforce_agree pair count
  constructor
  · refine Agree.bind enforcement ?_
    intro _ _ _ _ same
    rw [same]
    exact .refl (fun _ => rfl) .same _
  · refine Agree.bind enforcement ?_
    intro _ _ _ _ same
    rw [same]
    exact .refl (fun _ => rfl) .same _

/-- Hidden means absent: a query or count that mentions a hidden column has the outcome of the
request that mentions a name no column has, as long as neither name is an output of the
request's own groups. -/
theorem hidden_as_absent (pair : HiddenAndAbsent schema hidden absent) :
    (∀ (request : QueryRequest) (planner : Planner), request.OutputsApart hidden absent →
      SameOutcome hidden absent (planner.answer schema request)
        (planner.answer schema (request.replace hidden absent))) ∧
    ∀ (count : CountRequest) (maxPageSize : UInt64),
      SameOutcome hidden absent (count.dataFusionAnswer schema)
          ((count.replace hidden absent).dataFusionAnswer schema) ∧
        SameOutcome hidden absent (count.duckdbAnswer schema maxPageSize)
          ((count.replace hidden absent).duckdbAnswer schema maxPageSize) :=
  ⟨fun _ planner apart => planner.answer_agree pair apart,
    fun count maxPageSize => count.answers_agree pair maxPageSize⟩

end Planning
end Renaming

section Runs
attribute [local instance] asciiToLowercase unusedJsonText

/-- Accounts whose `email` column is hidden. -/
def accounts : DatasetSchema where
  name := "accounts"
  columns := [⟨"id", .int, "BIGINT", false⟩, ⟨"email", .utf8, "VARCHAR", true⟩]
  projectionFilter := { excluded := ["email"] }

private theorem accounts_email_zip : HiddenAndAbsent accounts "email" "zip" where
  column := ⟨_, List.mem_cons_of_mem _ List.mem_cons_self, rfl⟩
  denied := by decide
  missing := by decide

private def byEmail : QueryRequest :=
  { groupBy := ["id"], having := [⟨"email", "is_null", none⟩], orderBy := [{ col := "EMAIL" }] }

/-- Sorting and filtering groups by the hidden `email` is doing so by `zip`, which no account
has. -/
theorem hidden_as_absent_email :
    SameOutcome "email" "zip" (Planner.dataFusionStream.answer accounts byEmail)
      (Planner.dataFusionStream.answer accounts (byEmail.replace "email" "zip")) := by
  refine (hidden_as_absent accounts_email_zip).1 byEmail .dataFusionStream fun _ _ => ?_
  exact ⟨by unfold QueryRequest.NoOutput; decide, by unfold QueryRequest.NoOutput; decide⟩

/-- A grouped request counts implicitly under the name `count`, which `having` may name where
it may not name the hidden column. -/
theorem hidden_not_as_output :
    HiddenAndAbsent accounts "email" "count" ∧
    ¬ SameOutcome "email" "count"
      (Planner.dataFusionStream.answer accounts
        { groupBy := ["id"], having := [⟨"email", "is_null", none⟩] })
      (Planner.dataFusionStream.answer accounts
        (QueryRequest.replace "email" "count"
          { groupBy := ["id"], having := [⟨"email", "is_null", none⟩] })) := by
  constructor
  · exact ⟨⟨_, List.mem_cons_of_mem _ List.mem_cons_self, rfl⟩, by decide, by decide⟩
  · intro same
    have planned : Planner.dataFusionStream.answer accounts
        (QueryRequest.replace "email" "count"
          { groupBy := ["id"], having := [⟨"email", "is_null", none⟩] }) =
        .ok (.dataFusion {
          distinct := false, select := .list [.column "id", .aliased .countAll "count"]
          table := "accounts", conditions := [], groupBy := ["id"]
          having := [⟨.countAll, .isNull⟩], orderBy := [], suffix := "" } []) := by decide
    have refused : Planner.dataFusionStream.answer accounts
        { groupBy := ["id"], having := [⟨"email", "is_null", none⟩] } =
        .error (.unknownColumn "email (must be a group_by column or aggregation alias)") := by
      decide
    rw [planned, refused] at same
    cases same

end Runs
end Datapress
