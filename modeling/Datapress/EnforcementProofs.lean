import Datapress.ColumnAccess
import Datapress.SchemaProofs
import Datapress.Library.Lists

/-! What the enforcement of the column filters and the aggregation plan say about the
columns of a request. -/
namespace Datapress
variable [ToLowercase] {schema : DatasetSchema} {request enforced : QueryRequest}

/-- What holds of a request once its column filters are enforced. -/
structure QueryRequest.Enforced (schema : DatasetSchema) (request enforced : QueryRequest) :
    Prop where
  frame : enforced = { request with columns := enforced.columns }
  predicates : ∀ p ∈ request.predicates,
    schema.projectionFilter.allows p.col = true ∧ schema.predicateFilter.allows p.col = true
  groupBy : ∀ c ∈ request.groupBy, schema.projectionFilter.allows c = true
  aggregations : ∀ a ∈ request.aggregations, ∀ c, a.col = some c →
    schema.projectionFilter.allows c = true
  orderBy : request.groupBy = [] → ∀ o ∈ request.orderBy,
    schema.projectionFilter.allows o.col = true
  columns : ∀ c ∈ enforced.columns, schema.projectionFilter.allows c = true
  /-- An ungrouped request that still lists no columns is about a schema that hides nothing
  or everything. -/
  unlisted : request.groupBy = [] → enforced.columns = [] →
    request.columns = [] ∧ (schema.projectionFilter.isActive = false ∨
      ∀ c ∈ schema.columns, schema.projectionFilter.allows c.name = false)
  listed : enforced.columns ≠ [] → request.columns = [] →
    ∃ c ∈ schema.columns, schema.projectionFilter.allows c.name = true
  kept : request.columns ≠ [] → enforced.columns = request.columns

private theorem visible_of_checked {names : List String}
    (checked : Fallible.checkAll schema.findVisible names = .ok ()) :
    ∀ c ∈ names, schema.projectionFilter.allows c = true := by
  intro c member
  obtain ⟨column, found⟩ := Fallible.checkAll_ok_iff.mp checked c member
  exact (DatasetSchema.findVisible_ok_iff.mp found).2

omit [ToLowercase] in
theorem DatasetSchema.filters_inactive (inactive : schema.hasColumnFilters = false) :
    schema.predicateFilter.isActive = false ∧ schema.projectionFilter.isActive = false := by
  simpa [DatasetSchema.hasColumnFilters] using inactive

/-- Without filters the request passes as it is, and every column is visible. -/
private theorem enforced_of_inactive (inactive : schema.hasColumnFilters = false) :
    request.Enforced schema request := by
  obtain ⟨predicates, projection⟩ := DatasetSchema.filters_inactive inactive
  have usable := ColumnFilter.allows_of_inactive predicates
  have visible := ColumnFilter.allows_of_inactive projection
  refine {
    frame := rfl
    predicates := fun p _ => ⟨visible p.col, usable p.col⟩
    groupBy := fun c _ => visible c
    aggregations := fun _ _ c _ => visible c
    orderBy := fun _ o _ => visible o.col
    columns := fun c _ => visible c
    unlisted := fun _ empty => ⟨empty, .inl projection⟩
    listed := fun present empty => absurd empty present
    kept := fun _ => rfl }

private theorem enforceColumns_ok (narrowed : request.enforceColumns schema = .ok enforced) :
    enforced = { request with columns := enforced.columns } ∧
      (∀ c ∈ enforced.columns, schema.projectionFilter.allows c = true) ∧
      (request.groupBy = [] → enforced.columns = [] → request.columns = [] ∧
        (schema.projectionFilter.isActive = false ∨
          ∀ c ∈ schema.columns, schema.projectionFilter.allows c.name = false)) ∧
      (enforced.columns ≠ [] → request.columns = [] →
        ∃ c ∈ schema.columns, schema.projectionFilter.allows c.name = true) ∧
      (request.columns ≠ [] → enforced.columns = request.columns) := by
  simp only [QueryRequest.enforceColumns] at narrowed
  split at narrowed
  · rename_i empty
    have empty := List.isEmpty_iff.mp empty
    split at narrowed
    · rename_i rewritten
      cases narrowed
      refine ⟨rfl, ?_, fun _ none => ⟨empty, .inr ?_⟩, fun some _ => ?_,
        fun present => absurd empty present⟩
      · intro c member
        obtain ⟨column, shown, rfl⟩ := List.mem_map.mp member
        exact (List.mem_filter.mp shown).2
      · intro c member
        have hidden := List.filter_eq_nil_iff.mp (List.map_eq_nil_iff.mp none) c member
        simpa using hidden
      · obtain ⟨name, member⟩ := List.exists_mem_of_ne_nil _ some
        obtain ⟨column, shown, _⟩ := List.mem_map.mp member
        exact ⟨column, (List.mem_filter.mp shown).1, (List.mem_filter.mp shown).2⟩
    · rename_i kept
      cases narrowed
      refine ⟨rfl, by simp [empty], fun ungrouped _ => ⟨empty, .inl ?_⟩,
        fun some _ => absurd empty some, fun _ => rfl⟩
      simpa [ungrouped] using kept
  · rename_i present
    simp only [Fallible.bind_ok_iff] at narrowed
    obtain ⟨_, checked, same⟩ := narrowed
    cases same
    have present : request.columns ≠ [] := by simpa using present
    exact ⟨rfl, visible_of_checked checked, fun _ none => absurd none present,
      fun _ none => absurd none present, fun _ => rfl⟩

theorem QueryRequest.enforceColumnFilters_ok
    (accepted : request.enforceColumnFilters schema = .ok enforced) :
    request.Enforced schema enforced := by
  simp only [enforceColumnFilters] at accepted
  split at accepted
  · rename_i inactive
    cases accepted
    exact enforced_of_inactive (by simpa using inactive)
  · simp only [Fallible.bind_ok_iff] at accepted
    obtain ⟨_, predicates, _, groupBy, _, aggregations, _, orderBy, narrowed⟩ := accepted
    obtain ⟨frame, columns, unlisted, listed, kept⟩ := enforceColumns_ok narrowed
    refine {
      frame, columns, unlisted, listed, kept
      predicates := fun p member => ?_
      groupBy := visible_of_checked groupBy
      aggregations := fun a member c same => ?_
      orderBy := fun ungrouped o member => ?_ }
    · obtain ⟨column, found⟩ := Fallible.checkAll_ok_iff.mp predicates p member
      exact (DatasetSchema.findForPredicate_ok_iff.mp found).2
    · exact visible_of_checked aggregations c (List.mem_filterMap.mpr ⟨a, member, same⟩)
    · have sorted : o ∈ if request.groupBy.isEmpty then request.orderBy else [] := by
        simpa [ungrouped] using member
      obtain ⟨column, found⟩ := Fallible.checkAll_ok_iff.mp orderBy o sorted
      exact (DatasetSchema.findVisible_ok_iff.mp found).2

/-- What a grouping plan keeps of the request: names up to case, and output names exactly. -/
structure QueryRequest.Planned (request : QueryRequest) (plan : AggPlan) : Prop where
  grouped : request.groupBy ≠ []
  groupCols : List.Forall₂ (fun name g => toLowercase g = toLowercase name)
    request.groupBy plan.groupCols
  aggs : List.Forall₂ (fun a spec => spec.outputAlias = a.outputName ∧
    spec.col.map toLowercase = a.col.map toLowercase) request.rawAggs plan.aggs

omit [ToLowercase] in
private theorem parseAggOp_name {text : String} {op : AggOp}
    (parsed : QueryRequest.parseAggOp text = .ok op) : op.name = toAsciiLowercase text := by
  simp only [QueryRequest.parseAggOp] at parsed
  split at parsed <;> cases parsed <;> rename_i same <;> exact same.symm

private theorem resolveAggCol_lowered {op : AggOp} {col resolved : Option String}
    (ok : QueryRequest.resolveAggCol schema op col = .ok resolved) :
    resolved.map toLowercase = col.map toLowercase := by
  cases col with
  | none =>
    simp only [QueryRequest.resolveAggCol] at ok
    split at ok
    · cases ok; rfl
    · cases ok
  | some c =>
    simp only [QueryRequest.resolveAggCol, Fallible.bind_ok_iff] at ok
    obtain ⟨info, found, same⟩ := ok
    cases same
    exact congrArg some (DatasetSchema.find_lowered found)

private theorem resolveAgg_spec {a : Aggregation} {spec : AggSpec}
    (ok : QueryRequest.resolveAgg schema a = .ok spec) :
    spec.outputAlias = a.outputName ∧ spec.col.map toLowercase = a.col.map toLowercase := by
  simp only [QueryRequest.resolveAgg, Fallible.bind_ok_iff] at ok
  obtain ⟨op, parsed, col, resolved, same⟩ := ok
  cases same
  have lowered := resolveAggCol_lowered resolved
  refine ⟨?_, lowered⟩
  simp only [Aggregation.outputName, ← parseAggOp_name parsed]
  cases hc : a.col with
  | none =>
    rw [hc] at lowered
    rw [Option.map_eq_none_iff.mp lowered]
    rfl
  | some c =>
    rw [hc] at lowered
    obtain ⟨g, rfl, same⟩ := Option.map_eq_some_iff.mp lowered
    simp only [QueryRequest.defaultAlias, Option.elim, same]

theorem QueryRequest.aggPlan_some {plan : AggPlan}
    (planned : request.aggPlan schema = .ok (some plan)) : request.Planned plan := by
  simp only [aggPlan] at planned
  split at planned
  · cases planned
  split at planned
  · split at planned <;> cases planned
  rename_i grouped
  simp only [Fallible.bind_ok_iff, Fallible.mapM_ok_iff] at planned
  obtain ⟨groupCols, found, aggs, resolved, same⟩ := planned
  cases same
  refine ⟨by simpa using grouped, found.imp ?_, resolved.imp fun _ _ => resolveAgg_spec⟩
  intro name g ok
  cases lookup : schema.find name with
  | error e => rw [lookup] at ok; cases ok
  | ok info =>
    rw [lookup] at ok
    cases ok
    exact DatasetSchema.find_lowered lookup

/-- Group columns are columns of the schema. -/
theorem QueryRequest.aggPlan_groupCols {plan : AggPlan}
    (planned : request.aggPlan schema = .ok (some plan)) :
    ∀ g ∈ plan.groupCols, ∃ c ∈ schema.columns, c.name = g := by
  intro g member
  simp only [aggPlan] at planned
  split at planned
  · cases planned
  split at planned
  · split at planned <;> cases planned
  simp only [Fallible.bind_ok_iff, Fallible.mapM_ok_iff] at planned
  obtain ⟨groupCols, found, _, _, same⟩ := planned
  cases same
  obtain ⟨name, _, ok⟩ := Lists.exists_of_mem_right found member
  cases lookup : schema.find name with
  | error e => rw [lookup] at ok; cases ok
  | ok info =>
    rw [lookup] at ok
    cases ok
    exact ⟨info, DatasetSchema.find_mem lookup, rfl⟩

theorem QueryRequest.aggPlan_none (planned : request.aggPlan schema = .ok none) :
    request.groupBy = [] ∧ request.aggregations = [] := by
  simp only [aggPlan] at planned
  split at planned
  · cases planned
  split at planned
  · rename_i ungrouped
    split at planned
    · cases planned
    · rename_i noAggs
      exact ⟨List.isEmpty_iff.mp ungrouped, by simpa using noAggs⟩
  · simp only [Fallible.bind_ok_iff] at planned
    obtain ⟨_, _, _, _, impossible⟩ := planned
    cases impossible

namespace QueryRequest.Planned
variable {plan : AggPlan}

omit [ToLowercase] in
theorem sqlExpr_columns {spec : AggSpec} {expr : SqlExpr} (ok : spec.sqlExpr = .ok expr) :
    expr.columns = spec.col.toList := by
  simp only [AggSpec.sqlExpr] at ok
  split at ok <;> cases ok <;> simp_all [SqlExpr.columns]

/-- A `having` entry filters on the column its name stands for in the request. -/
theorem havingLhs_columns (planned : request.Planned plan) {name : String} {lhs : SqlExpr}
    (ok : plan.havingLhs name = .ok lhs) :
    lhs.columns.map toLowercase = (request.havingColumn name).toList.map toLowercase := by
  have groups : Option.Rel _ (request.groupBy.find? fun c => toLowercase c == toLowercase name)
      (plan.groupCols.find? fun c => toLowercase c == toLowercase name) :=
    Lists.find?_rel planned.groupCols fun a b same => by rw [same]
  have aggs : Option.Rel _
      (request.rawAggs.find? fun a => toLowercase a.outputName == toLowercase name)
      (plan.aggs.find? fun a => toLowercase a.outputAlias == toLowercase name) :=
    Lists.find?_rel planned.aggs fun a b same => by rw [same.1]
  simp only [AggPlan.havingLhs] at ok
  simp only [QueryRequest.havingColumn]
  generalize request.groupBy.find? _ = wanted at groups ⊢
  generalize plan.groupCols.find? _ = found at groups ok
  cases groups with
  | some same =>
    cases ok
    simpa [SqlExpr.columns] using same
  | none =>
    generalize request.rawAggs.find? _ = wanted at aggs ⊢
    generalize plan.aggs.find? _ = found at aggs ok
    cases aggs with
    | none => cases ok
    | some related =>
      rw [sqlExpr_columns ok, ← Option.toList_map, ← Option.toList_map, related.2]
      rfl

/-- The columns of a plan come from the request, up to case. -/
theorem columns_visible (planned : request.Planned plan)
    (visible : request.Enforced schema enforced) :
    (∀ g ∈ plan.groupCols, schema.projectionFilter.allows g = true) ∧
      ∀ spec ∈ plan.aggs, ∀ c, spec.col = some c → schema.projectionFilter.allows c = true := by
  constructor
  · intro g member
    obtain ⟨name, requested, same⟩ := Lists.exists_of_mem_right planned.groupCols member
    rw [schema.projectionFilter.allows_congr same]
    exact visible.groupBy name requested
  · intro spec member c col
    obtain ⟨a, requested, _, same⟩ := Lists.exists_of_mem_right planned.aggs member
    rw [col] at same
    obtain ⟨requestedCol, named, lowered⟩ := Option.map_eq_some_iff.mp same.symm
    rw [← schema.projectionFilter.allows_congr lowered]
    refine visible.aggregations a ?_ requestedCol named
    simp only [QueryRequest.rawAggs] at requested
    split at requested
    · rw [List.mem_singleton.mp requested] at named
      cases named
    · exact requested

end QueryRequest.Planned

theorem QueryRequest.Enforced.planned (visible : request.Enforced schema enforced)
    {plan : AggPlan}
    (planned : enforced.aggPlan schema = .ok (some plan)) : request.Planned plan := by
  have spec := QueryRequest.aggPlan_some planned
  rw [visible.frame] at spec
  exact ⟨spec.grouped, spec.groupCols, spec.aggs⟩

theorem QueryRequest.Enforced.ungrouped (visible : request.Enforced schema enforced)
    (planned : enforced.aggPlan schema = .ok none) : request.groupBy = [] := by
  have spec := (QueryRequest.aggPlan_none planned).1
  rw [visible.frame] at spec
  exact spec

theorem QueryRequest.Enforced.grouped {plan : AggPlan} (visible : request.Enforced schema enforced)
    (planned : enforced.aggPlan schema = .ok (some plan)) : request.groupBy ≠ [] := by
  have spec := (QueryRequest.aggPlan_some planned).grouped
  rw [visible.frame] at spec
  exact spec

end Datapress
