import Datapress.EnforcementProofs

/-! The statements emitted for an enforced request, clause by clause: they respect the
column filters exactly when the checks on the request suffice. -/
namespace Datapress
variable [ToLowercase] {schema : DatasetSchema} {request enforced : QueryRequest} {plan : AggPlan}

omit [ToLowercase] in
private theorem selectItem_spec {a : AggSpec} {item : SelectItem}
    (ok : ∃ expr, a.sqlExpr = .ok expr ∧
      (Except.ok (SelectItem.aliased expr a.outputAlias) : Except AppError SelectItem) = .ok item) :
    item.output = a.outputAlias ∧ item.columns = a.col.toList := by
  obtain ⟨expr, found, same⟩ := ok
  cases same
  exact ⟨rfl, QueryRequest.Planned.sqlExpr_columns found⟩

omit [ToLowercase] in
/-- The aggregation select list returns the output names of the plan, and reads nothing but
its group columns and aggregated columns. -/
theorem AggPlan.selectItems_ok {items : List SelectItem} (ok : plan.selectItems = .ok items) :
    items.map SelectItem.output = plan.outputNames ∧
      ∀ item ∈ items, ∀ c ∈ item.columns,
        c ∈ plan.groupCols ∨ ∃ spec ∈ plan.aggs, spec.col = some c := by
  simp only [selectItems, Fallible.bind_ok_iff, Fallible.mapM_ok_iff] at ok
  obtain ⟨aggs, resolved, same⟩ := ok
  cases same
  have specs := resolved.imp fun _ _ => selectItem_spec
  constructor
  · have aliases : plan.aggs.map (·.outputAlias) = aggs.map SelectItem.output :=
      Lists.map_eq_of_forall₂ specs fun _ _ spec => spec.1.symm
    simp [outputNames, aliases, Function.comp_def, SelectItem.output]
  · intro item member c used
    rcases List.mem_append.mp member with grouped | aggregated
    · obtain ⟨g, inPlan, rfl⟩ := List.mem_map.mp grouped
      have same : c = g := by simpa [SelectItem.columns] using used
      exact .inl (same ▸ inPlan)
    · obtain ⟨spec, inPlan, _, columns⟩ := Lists.exists_of_mem_right specs aggregated
      exact .inr ⟨spec, inPlan, by simpa [columns, Option.mem_toList] using used⟩

/-- A name next to a select list stands for visible columns when it is itself visible or is
an output of the list. -/
private theorem behind_visible {select : SelectList} {name : String}
    (items : ∀ c ∈ select.columns schema, schema.projectionFilter.allows c = true)
    (shown : schema.projectionFilter.allows name = true ∨
      ∃ list, select = .list list ∧ name ∈ list.map SelectItem.output) :
    ∀ c ∈ select.behind name, schema.projectionFilter.allows c = true := by
  intro c member
  cases select with
  | all =>
    rcases shown with visible | ⟨_, impossible, _⟩
    · have same : c = name := by simpa [SelectList.behind] using member
      exact same ▸ visible
    · cases impossible
  | jsonObject pairs =>
    rcases shown with visible | ⟨_, impossible, _⟩
    · have same : c = name := by simpa [SelectList.behind] using member
      exact same ▸ visible
    · cases impossible
  | list entries =>
    simp only [SelectList.behind] at member
    split at member
    · rename_i item found
      exact items c (List.mem_flatMap.mpr ⟨item, List.mem_of_find?_eq_some found, member⟩)
    · rename_i missing
      rcases shown with visible | ⟨_, same, output⟩
      · exact List.mem_singleton.mp member ▸ visible
      · cases same
        obtain ⟨item, present, rfl⟩ := List.mem_map.mp output
        have absent := List.find?_eq_none.mp missing item present
        simp at absent

/-- What both builders guarantee of an emitted statement, clause by clause. -/
structure Clauses (schema : DatasetSchema) (request : QueryRequest) (plan : Option AggPlan)
    (statement : SelectStatement) : Prop where
  planned : request.aggPlan schema = .ok plan
  conditions : List.Forall₂ (fun p c => ∃ info, schema.find p.col = .ok info ∧
    c.lhs = .column info.name) request.predicates statement.conditions
  groupBy : statement.groupBy = plan.elim [] (·.groupCols)
  having : ∃ resolved, request.havingPlan plan = .ok resolved ∧
    List.Forall₂ (fun (r : SqlExpr × Predicate) c => c.lhs = r.1) resolved statement.having
  orderBy : request.orderBySql schema plan = .ok statement.orderBy

/-- The select list of an ungrouped statement: every column when the request lists none. -/
inductive Listed (schema : DatasetSchema) (request : QueryRequest) : SelectList → Prop where
  | all : request.columns = [] → Listed schema request .all
  | allJson : request.columns = [] →
      Listed schema request (.jsonObject (DuckDB.jsonObjPairs schema.columns))
  | columns : request.columns ≠ [] → request.projected schema = .ok infos →
      Listed schema request (.list (infos.map fun info => .column info.name))
  | columnsJson : request.columns ≠ [] → request.projected schema = .ok infos →
      Listed schema request (.jsonObject (DuckDB.jsonObjPairs infos))

/-- The select list of a statement: the plan's items when grouping. -/
def Selects (schema : DatasetSchema) (request : QueryRequest) (plan : Option AggPlan)
    (select : SelectList) : Prop :=
  match plan with
  | some plan => ∃ items, plan.selectItems = .ok items ∧ select = .list items
  | none => Listed schema request select

private theorem projected_visible {infos : List ColumnInfo}
    (visible : ∀ c ∈ enforced.columns, schema.projectionFilter.allows c = true)
    (ok : enforced.projected schema = .ok infos) :
    ∀ info ∈ infos, schema.projectionFilter.allows info.name = true := by
  intro info member
  obtain ⟨name, listed, found⟩ := Lists.exists_of_mem_right (Fallible.mapM_ok_iff.mp ok) member
  rw [schema.projectionFilter.allows_congr (DatasetSchema.find_lowered found)]
  exact visible name listed

omit [ToLowercase] in
theorem SelectList.columns_list (infos : List ColumnInfo) :
    (SelectList.list (infos.map fun info => .column info.name)).columns schema =
      infos.map (·.name) := by
  induction infos with
  | nil => rfl
  | cons info rest ih => simpa [SelectList.columns, SelectItem.columns] using ih

/-- An ungrouped select list names visible columns only, unless the request lists none and
the dataset hides all it has. -/
private theorem listed_visible_iff {select : SelectList}
    (visible : request.Enforced schema enforced) (ungrouped : request.groupBy = [])
    (listed : Listed schema enforced select) :
    (∀ c ∈ select.columns schema, schema.projectionFilter.allows c = true) ↔
      (request.columns = [] → schema.columns ≠ [] →
        ∃ c ∈ schema.columns, schema.projectionFilter.allows c.name = true) := by
  have everything (none : enforced.columns = []) :
      (∀ c ∈ schema.columns, schema.projectionFilter.allows c.name = true) ↔
        (request.columns = [] → schema.columns ≠ [] →
          ∃ c ∈ schema.columns, schema.projectionFilter.allows c.name = true) := by
    obtain ⟨requested, inactive | hidden⟩ := visible.unlisted ungrouped none
    · have shown : ∀ c ∈ schema.columns, schema.projectionFilter.allows c.name = true :=
        fun c _ => ColumnFilter.allows_of_inactive inactive c.name
      refine ⟨fun _ _ present => ?_, fun _ => shown⟩
      obtain ⟨c, member⟩ := List.exists_mem_of_ne_nil _ present
      exact ⟨c, member, shown c member⟩
    · constructor
      · intro shown _ present
        obtain ⟨c, member⟩ := List.exists_mem_of_ne_nil _ present
        exact ⟨c, member, shown c member⟩
      · intro some c member
        obtain ⟨d, present, allowed⟩ := some requested (List.ne_nil_of_mem member)
        rw [hidden d present] at allowed
        cases allowed
  have explicit {infos : List ColumnInfo} (some : enforced.columns ≠ [])
      (ok : enforced.projected schema = .ok infos) :
      (∀ info ∈ infos, schema.projectionFilter.allows info.name = true) ↔
        (request.columns = [] → schema.columns ≠ [] →
          ∃ c ∈ schema.columns, schema.projectionFilter.allows c.name = true) :=
    ⟨fun _ none _ => visible.listed some none, fun _ => projected_visible visible.columns ok⟩
  cases listed with
  | all none => simpa [SelectList.columns] using everything none
  | allJson none =>
    simpa [SelectList.columns, DuckDB.jsonObjPairs] using everything none
  | columns some ok =>
    rw [SelectList.columns_list, List.forall_mem_map]
    exact explicit some ok
  | columnsJson some ok =>
    simpa [SelectList.columns, DuckDB.jsonObjPairs] using explicit some ok

/-- Predicates on permitted columns give conditions on permitted columns. -/
theorem conditions_allowed {predicates : List Predicate} {conditions : List Condition}
    (matched : List.Forall₂ (fun p c => ∃ info, schema.find p.col = .ok info ∧
      c.lhs = .column info.name) predicates conditions)
    (allowed : ∀ p ∈ predicates, schema.projectionFilter.allows p.col = true ∧
      schema.predicateFilter.allows p.col = true) :
    ∀ c ∈ conditions, ∀ col ∈ c.lhs.columns,
      schema.projectionFilter.allows col = true ∧ schema.predicateFilter.allows col = true := by
  intro c member col used
  obtain ⟨p, requested, info, found, lhs⟩ := Lists.exists_of_mem_right matched member
  rw [lhs] at used
  have same : col = info.name := by simpa [SqlExpr.columns] using used
  have lowered := DatasetSchema.find_lowered found
  rw [same, schema.projectionFilter.allows_congr lowered,
    schema.predicateFilter.allows_congr lowered]
  exact allowed p requested

section Statement
variable {plan : Option AggPlan} {statement : SelectStatement}

/-- The columns behind `HAVING` are those the names of the request stand for. -/
private theorem having_columns (visible : request.Enforced schema enforced)
    (clauses : Clauses schema enforced plan statement) :
    List.Forall₂ (fun p (c : Condition) => c.lhs.columns.map toLowercase =
      (request.havingColumn p.col).toList.map toLowercase) request.having statement.having := by
  obtain ⟨resolved, ok, conditions⟩ := clauses.having
  have frame : enforced.having = request.having := by rw [visible.frame]
  simp only [QueryRequest.havingPlan, frame] at ok
  split at ok
  · rename_i none
    cases ok
    rw [List.isEmpty_iff.mp none, List.forall₂_nil_left_iff.mp conditions]
    exact .nil
  · cases plan with
    | none => cases ok
    | some plan =>
      have planned := visible.planned clauses.planned
      simp only [Fallible.mapM_ok_iff, Fallible.bind_ok_iff] at ok
      refine (Lists.forall₂_comp ok conditions).imp ?_
      rintro p c ⟨_, ⟨lhs, resolvedLhs, same⟩, emitted⟩
      cases same
      rw [emitted]
      exact planned.havingLhs_columns resolvedLhs

/-- `HAVING` names visible columns only. -/
private theorem having_visible (visible : request.Enforced schema enforced)
    (clauses : Clauses schema enforced plan statement) :
    ∀ c ∈ statement.having, ∀ col ∈ c.lhs.columns,
      schema.projectionFilter.allows col = true := by
  intro c member col used
  obtain ⟨p, requested, same⟩ := Lists.exists_of_mem_right (having_columns visible clauses) member
  have lowered : toLowercase col ∈ (request.havingColumn p.col).toList.map toLowercase :=
    same ▸ List.mem_map_of_mem used
  obtain ⟨name, named, equal⟩ := List.mem_map.mp lowered
  rw [← schema.projectionFilter.allows_congr equal]
  simp only [Option.mem_toList, QueryRequest.havingColumn] at named
  split at named
  · rename_i g found
    cases named
    exact visible.groupBy _ (List.mem_of_find?_eq_some found)
  · obtain ⟨a, found, col⟩ := Option.bind_eq_some_iff.mp named
    have present := List.mem_of_find?_eq_some found
    simp only [QueryRequest.rawAggs] at present
    split at present
    · rw [List.mem_singleton.mp present] at col
      cases col
    · exact visible.aggregations a present name col

/-- `HAVING` filters on permitted columns only exactly when the request asks for no other. -/
private theorem having_permitted_iff (visible : request.Enforced schema enforced)
    (clauses : Clauses schema enforced plan statement) :
    (∀ c ∈ statement.having, ∀ col ∈ c.lhs.columns, schema.predicateFilter.allows col = true) ↔
      ∀ p ∈ request.having, ∀ c, request.havingColumn p.col = some c →
        schema.predicateFilter.allows c = true := by
  have columns := having_columns visible clauses
  constructor
  · intro permitted p member name named
    obtain ⟨c, emitted, same⟩ := Lists.exists_of_mem_left columns member
    have lowered : toLowercase name ∈ c.lhs.columns.map toLowercase := by
      rw [same, named]
      simp
    obtain ⟨col, used, equal⟩ := List.mem_map.mp lowered
    rw [← schema.predicateFilter.allows_congr equal]
    exact permitted c emitted col used
  · intro permitted c member col used
    obtain ⟨p, requested, same⟩ := Lists.exists_of_mem_right columns member
    have lowered : toLowercase col ∈ (request.havingColumn p.col).toList.map toLowercase :=
      same ▸ List.mem_map_of_mem used
    obtain ⟨name, named, equal⟩ := List.mem_map.mp lowered
    rw [← schema.predicateFilter.allows_congr equal]
    exact permitted p requested name (by simpa using named)

private theorem groupBy_visible (visible : request.Enforced schema enforced)
    (clauses : Clauses schema enforced plan statement) :
    ∀ c ∈ statement.groupBy, schema.projectionFilter.allows c = true := by
  rw [clauses.groupBy]
  cases plan with
  | none => simp
  | some plan => exact ((visible.planned clauses.planned).columns_visible visible).1

/-- A name that is harmless next to a select list: an output of the plan when grouping, else
a visible column. -/
def Shown (schema : DatasetSchema) (plan : Option AggPlan) (name : String) : Prop :=
  match plan with
  | some plan => name ∈ plan.outputNames
  | none => schema.projectionFilter.allows name = true

private theorem orderBy_shown (visible : request.Enforced schema enforced)
    (clauses : Clauses schema enforced plan statement) :
    ∀ key ∈ statement.orderBy, Shown schema plan key.name := by
  intro key member
  have ok := clauses.orderBy
  simp only [QueryRequest.orderBySql, Fallible.mapM_ok_iff, Fallible.bind_ok_iff] at ok
  obtain ⟨o, requested, dir, _, name, sorted, same⟩ := Lists.exists_of_mem_right ok member
  cases same
  cases plan with
  | some plan =>
    simp only [QueryRequest.sortName] at sorted
    split at sorted
    · rename_i n found
      cases sorted
      exact List.mem_of_find?_eq_some found
    · cases sorted
  | none =>
    simp only [QueryRequest.sortName] at sorted
    cases lookup : schema.find o.col with
    | error e => rw [lookup] at sorted; cases sorted
    | ok info =>
      rw [lookup] at sorted
      cases sorted
      rw [visible.frame] at requested
      change schema.projectionFilter.allows info.name = true
      rw [schema.projectionFilter.allows_congr (DatasetSchema.find_lowered lookup)]
      exact visible.orderBy (visible.ungrouped clauses.planned) o requested

/-- The select list names visible columns only, unless an ungrouped request lists none and
the dataset hides all it has. -/
private theorem select_visible_iff (visible : request.Enforced schema enforced)
    (clauses : Clauses schema enforced plan statement)
    (selects : Selects schema enforced plan statement.select) :
    (∀ c ∈ statement.select.columns schema, schema.projectionFilter.allows c = true) ↔
      (request.groupBy = [] → request.columns = [] → schema.columns ≠ [] →
        ∃ c ∈ schema.columns, schema.projectionFilter.allows c.name = true) := by
  cases plan with
  | none =>
    have ungrouped := visible.ungrouped clauses.planned
    rw [listed_visible_iff visible ungrouped selects]
    exact ⟨fun shown _ => shown, fun shown => shown ungrouped⟩
  | some plan =>
    have planned := visible.planned clauses.planned
    obtain ⟨items, ok, same⟩ := selects
    refine ⟨fun _ ungrouped => absurd ungrouped planned.grouped, fun _ c member => ?_⟩
    obtain ⟨groups, aggs⟩ := planned.columns_visible visible
    rw [same] at member
    obtain ⟨item, listed, used⟩ := List.mem_flatMap.mp member
    rcases (AggPlan.selectItems_ok ok).2 item listed c used with group | ⟨spec, inPlan, col⟩
    · exact groups c group
    · exact aggs spec inPlan c col

private theorem behind_shown {name : String}
    (selects : Selects schema enforced plan statement.select)
    (items : ∀ c ∈ statement.select.columns schema, schema.projectionFilter.allows c = true)
    (shown : Shown schema plan name) :
    ∀ c ∈ statement.select.behind name, schema.projectionFilter.allows c = true := by
  refine behind_visible items ?_
  cases plan with
  | none => exact .inl shown
  | some plan =>
    obtain ⟨list, ok, same⟩ := selects
    exact .inr ⟨list, same, (AggPlan.selectItems_ok ok).1 ▸ shown⟩

/-- A statement emitted for an enforced request respects the filters exactly when the checks
on the request suffice. -/
theorem statement_respects_iff (visible : request.Enforced schema enforced)
    (clauses : Clauses schema enforced plan statement)
    (selects : Selects schema enforced plan statement.select) :
    RespectsFilters schema (statement.columnUse schema) ↔ FiltersSuffice schema request := by
  have selected := select_visible_iff visible clauses selects
  have permitted := having_permitted_iff visible clauses
  have whereAllowed := conditions_allowed clauses.conditions fun p member =>
    visible.predicates p (by rw [visible.frame] at member; exact member)
  constructor
  · intro respects
    refine ⟨selected.mp fun c member => respects.visible c ?_,
      permitted.mp fun c member col used => respects.permitted col ?_⟩
    · simp only [SelectStatement.columnUse, List.mem_append]
      exact .inl (.inl (.inl member))
    · exact List.mem_flatMap.mpr ⟨c, List.mem_append_right _ member, used⟩
  · rintro ⟨shows, having⟩
    have items := selected.mpr shows
    constructor
    · intro c member
      simp only [SelectStatement.columnUse, List.mem_append] at member
      rcases member with ((item | filtered) | group) | sorted
      · exact items c item
      · obtain ⟨condition, emitted, used⟩ := List.mem_flatMap.mp filtered
        rcases List.mem_append.mp emitted with whereClause | havingClause
        · exact (whereAllowed condition whereClause c used).1
        · exact having_visible visible clauses condition havingClause c used
      · exact groupBy_visible visible clauses c group
      · obtain ⟨key, present, used⟩ := List.mem_flatMap.mp sorted
        exact behind_shown selects items
          (orderBy_shown visible clauses key present) c used
    · intro c member
      obtain ⟨condition, emitted, used⟩ := List.mem_flatMap.mp member
      rcases List.mem_append.mp emitted with whereClause | havingClause
      · exact (whereAllowed condition whereClause c used).2
      · exact permitted.mpr having condition havingClause c used

/-- The pairs around a wrapped statement name its outputs, or the columns it lists. -/
theorem wrapped_respects_iff {pairs : List JsonPair} (visible : request.Enforced schema enforced)
    (clauses : Clauses schema enforced plan statement)
    (selects : Selects schema enforced plan statement.select)
    (named : ∀ pair ∈ pairs, (∃ grouping, plan = some grouping ∧
      pair.column ∈ grouping.outputNames) ∨ plan = none ∧
      pair.column ∈ statement.select.columns schema) :
    RespectsFilters schema ((DuckDB.JsonQuery.wrapped pairs statement).columnUse schema) ↔
      FiltersSuffice schema request := by
  rw [← statement_respects_iff visible clauses selects]
  constructor
  · intro respects
    exact ⟨fun c member => respects.visible c (List.mem_append_right _ member),
      respects.permitted⟩
  · intro respects
    refine ⟨fun c member => ?_, respects.permitted⟩
    rcases List.mem_append.mp member with outer | inner
    · obtain ⟨pair, present, used⟩ := List.mem_flatMap.mp outer
      have items : ∀ c ∈ statement.select.columns schema,
          schema.projectionFilter.allows c = true := by
        intro c item
        refine respects.visible c ?_
        simp only [SelectStatement.columnUse, List.mem_append]
        exact .inl (.inl (.inl item))
      refine behind_shown selects items ?_ c used
      rcases named pair present with ⟨grouping, rfl, output⟩ | ⟨rfl, listed⟩
      · exact output
      · exact items _ listed
    · exact respects.visible c inner

end Statement
end Datapress
