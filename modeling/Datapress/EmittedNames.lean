import Datapress.EmittedTests
import Datapress.EnforcementProofs

/-! The names that stand in an emitted text, which are those of its request. -/
namespace Datapress
open SqlText
open DuckDB (DatasetRepository JsonQuery)

/-! ### The names of a frame -/

/-- Whether a name stands quoted among the tokens. -/
def Quotes (tokens : List Token) (name : String) : Prop := ∃ mark, .quoted mark name ∈ tokens

theorem Quotes.append {first second : List Token} {name : String} :
    Quotes (first ++ second) name ↔ Quotes first name ∨ Quotes second name := by
  simp only [Quotes, List.mem_append, exists_or]

theorem quotes_named {names : List String} {name : String} :
    Quotes (names.map named) name ↔ name ∈ names := by
  constructor
  · rintro ⟨mark, member⟩
    obtain ⟨_, listed, same⟩ := List.mem_map.mp member
    cases same
    exact listed
  · intro listed
    exact ⟨.double, List.mem_map_of_mem listed⟩

theorem quotes_conditions {conditions : List Condition} {name : String} :
    Quotes (conditions.flatMap Condition.supplied) name ↔
      name ∈ conditions.flatMap (·.lhs.columns) := by
  induction conditions with
  | nil => simp [Quotes]
  | cons condition rest ih =>
      have test : ¬ Quotes (condition.test.placeholders.map .placeholder) name := by
        rintro ⟨mark, member⟩
        obtain ⟨_, _, same⟩ := List.mem_map.mp member
        cases same
      rw [List.flatMap_cons, Quotes.append, ih, List.flatMap_cons, List.mem_append,
        Condition.supplied, Quotes.append, quotes_named, or_iff_left test]

theorem quotes_pairs {pairs : List JsonPair} (same : ∀ pair ∈ pairs, pair.column = pair.key)
    {name : String} : Quotes (pairs.flatMap JsonPair.supplied) name ↔ name ∈ pairs.map (·.key) := by
  induction pairs with
  | nil => simp [Quotes]
  | cons pair rest ih =>
      obtain ⟨here, others⟩ := List.forall_mem_cons.mp same
      have both : Quotes pair.supplied name ↔ name = pair.key := by
        simp [Quotes, JsonPair.supplied, named, here, exists_or]
      rw [List.flatMap_cons, Quotes.append, ih others, both, List.map_cons, List.mem_cons]

/-- The names and keys that a query selects. -/
def DuckDB.JsonQuery.selected : JsonQuery → List Token
  | row statement => statement.select.supplied
  | wrapped pairs inner => pairs.flatMap JsonPair.supplied ++ inner.select.supplied

theorem DuckDB.JsonQuery.supplied_fill (query : JsonQuery) (conditions having : List Condition) :
    (query.fill conditions having).supplied = query.selected ++
      ([named query.statement.table] ++ conditions.flatMap Condition.supplied ++
        query.statement.groupBy.map named ++ having.flatMap Condition.supplied ++
        query.statement.orderBy.map fun key => named key.name) := by
  cases query <;> simp [fill, supplied, selected, statement, SelectStatement.supplied]

/-- Every token of a select list is a quoted name; strings stand in JSON pairs only. -/
theorem supplied_list {items : List SelectItem} :
    ∀ token ∈ (SelectList.list items).supplied, ∃ name, token = .quoted .double name := by
  intro token member
  obtain ⟨name, _, rfl⟩ := List.mem_map.mp member
  exact ⟨name, rfl⟩

theorem supplied_pairs {pairs : List JsonPair} :
    ∀ token ∈ pairs.flatMap JsonPair.supplied, ∃ mark name, token = .quoted mark name := by
  intro token member
  obtain ⟨pair, _, here⟩ := List.mem_flatMap.mp member
  rcases List.mem_cons.mp here with rfl | here
  · exact ⟨_, _, rfl⟩
  · exact ⟨_, _, List.mem_singleton.mp here⟩

section
variable [ToLowercase] {repository : DatasetRepository} {request : QueryRequest}
  {builder : Builder} {query : JsonQuery}

omit [ToLowercase] in
/-- The names of the select list of a grouped request. -/
theorem quotes_items {plan : AggPlan} {items : List SelectItem}
    (ok : plan.selectItems = .ok items) {name : String} :
    Quotes (SelectList.list items).supplied name ↔
      name ∈ plan.outputNames ∨ ∃ spec ∈ plan.aggs, spec.col = some name := by
  rw [SelectList.supplied, quotes_named]
  simp only [AggPlan.selectItems, Fallible.bind_ok_iff] at ok
  obtain ⟨aggs, mapped, same⟩ := ok
  cases same
  have resolved := Fallible.mapM_ok_iff.mp mapped
  have outputs : name ∈ aggs.flatMap SelectItem.names ↔
      (∃ spec ∈ plan.aggs, spec.col = some name) ∨ name ∈ plan.aggs.map (·.outputAlias) := by
    clear mapped
    generalize plan.aggs = specs at resolved ⊢
    induction resolved with
    | nil => simp
    | @cons spec item specs rest head _ ih =>
        simp only [Fallible.bind_ok_iff] at head
        obtain ⟨expr, found, same⟩ := head
        cases same
        have columns := QueryRequest.Planned.sqlExpr_columns found
        rw [List.flatMap_cons, List.mem_append, ih, SelectItem.names, columns, List.mem_append,
          List.mem_singleton, List.exists_mem_cons_iff, List.map_cons, List.mem_cons,
          Option.mem_toList]
        exact or_or_or_comm
  have columns : (plan.groupCols.map SelectItem.column).flatMap SelectItem.names =
      plan.groupCols := by
    simp [List.flatMap_map, SelectItem.names]
  rw [List.flatMap_append, List.mem_append, outputs, columns, AggPlan.outputNames, List.mem_append,
    or_assoc]
  exact or_congr_right or_comm

omit [ToLowercase] in
theorem quotes_infos {infos : List ColumnInfo} {name : String} :
    Quotes (SelectList.list (infos.map fun info => .column info.name)).supplied name ↔
      ∃ info ∈ infos, info.name = name := by
  rw [SelectList.supplied, quotes_named]
  simp [List.flatMap_map, SelectItem.names, eq_comm]

omit [ToLowercase] in
theorem quotes_objPairs {infos : List ColumnInfo} {name : String} :
    Quotes ((DuckDB.jsonObjPairs infos).flatMap JsonPair.supplied) name ↔
      ∃ info ∈ infos, info.name = name := by
  have same : ∀ pair ∈ DuckDB.jsonObjPairs infos, pair.column = pair.key := by
    intro pair member
    obtain ⟨info, _, rfl⟩ := List.mem_map.mp member
    rfl
  rw [quotes_pairs same]
  simp [DuckDB.jsonObjPairs]

theorem quotes_groupPairs {schema : DatasetSchema} {plan : AggPlan} {name : String} :
    Quotes ((DuckDB.groupJsonObjPairs schema plan).flatMap JsonPair.supplied) name ↔
      name ∈ plan.outputNames := by
  have same : ∀ pair ∈ DuckDB.groupJsonObjPairs schema plan, pair.column = pair.key := by
    intro pair member
    rcases List.mem_append.mp member with grouped | aggregated
    · obtain ⟨_, _, rfl⟩ := List.mem_map.mp grouped
      rfl
    · obtain ⟨_, _, rfl⟩ := List.mem_map.mp aggregated
      rfl
  rw [quotes_pairs same]
  simp [DuckDB.groupJsonObjPairs, AggPlan.outputNames, Function.comp_def]

/-- The names that a request selects. -/
def Builder.Selects (repository : DatasetRepository) (request : QueryRequest) (builder : Builder)
    (name : String) : Option AggPlan → Prop
  | some plan => name ∈ plan.outputNames ∨ ∃ spec ∈ plan.aggs, spec.col = some name
  | none =>
    (∃ column ∈ request.columns, ∃ info, repository.schema.find column = .ok info ∧
      info.name = name) ∨
    builder = .duckDBJson ∧ request.columns = [] ∧
      ∃ info ∈ repository.schema.columns, info.name = name

/-- What a frame keeps of its request. -/
structure Framed (repository : DatasetRepository) (request : QueryRequest)
    (plan : Option AggPlan) (builder : Builder) (query : JsonQuery) : Prop where
  suffix : query.statement.suffix = builder.suffix repository request
  table : query.statement.table = repository.schema.name
  groupBy : query.statement.groupBy = plan.elim [] (·.groupCols)
  orderBy : request.orderBySql repository.schema plan = .ok query.statement.orderBy
  names : ∀ name, Quotes query.selected name ↔ builder.Selects repository request name plan
  supplied : ∀ token ∈ query.selected, ∃ mark name, token = .quoted mark name ∧
    (mark = .single → builder = .duckDBJson)

theorem quotes_projected {infos : List ColumnInfo} {schema : DatasetSchema}
    (ok : request.projected schema = .ok infos) {name : String} :
    (∃ info ∈ infos, info.name = name) ↔
      ∃ column ∈ request.columns, ∃ info, schema.find column = .ok info ∧ info.name = name := by
  simp only [Fallible.mem_of_mapM ok]
  constructor
  · rintro ⟨info, ⟨column, listed, found⟩, same⟩
    exact ⟨column, listed, info, found, same⟩
  · rintro ⟨column, listed, info, found, same⟩
    exact ⟨info, ⟨column, listed, found⟩, same⟩

/-- What the columns of an ungrouped request stand for. -/
theorem projection_cases {select : SelectList} (ok : repository.projection request = .ok select) :
    request.columns = [] ∧ select = .all ∨
      request.columns ≠ [] ∧ ∃ infos, request.projected repository.schema = .ok infos ∧
        select = .list (infos.map fun info => .column info.name) := by
  unfold DatasetRepository.projection at ok
  split at ok
  case isTrue unlisted =>
    cases ok
    exact .inl ⟨List.isEmpty_iff.mp unlisted, rfl⟩
  case isFalse listed =>
    obtain ⟨infos, found, same⟩ := Fallible.bind_ok_iff.mp ok
    cases same
    exact .inr ⟨by simpa using listed, infos, found, rfl⟩

theorem plainFrame_framed {plan : Option AggPlan} (other : builder ≠ .duckDBJson)
    (framed : Builder.plainFrame repository request plan (builder.suffix repository request) =
      some query) : Framed repository request plan builder query := by
  obtain ⟨select, selects, framed⟩ := Option.bind_eq_some_iff.mp framed
  obtain ⟨orderBy, sorted, framed⟩ := Option.bind_eq_some_iff.mp framed
  rw [Fallible.toOption_eq_some_iff] at selects sorted
  cases framed
  have plain {items : List SelectItem} (token : Token)
      (member : token ∈ (SelectList.list items).supplied) :
      ∃ mark name, token = .quoted mark name ∧ (mark = .single → builder = .duckDBJson) := by
    obtain ⟨name, rfl⟩ := supplied_list token member
    exact ⟨.double, name, rfl, nofun⟩
  cases plan with
  | some plan =>
      obtain ⟨items, listed, rfl⟩ := Fallible.map_ok_iff.mp selects
      exact {
        suffix := rfl, table := rfl, groupBy := rfl, orderBy := sorted
        names := fun name => quotes_items listed, supplied := plain }
  | none =>
      rcases projection_cases selects with ⟨unlisted, rfl⟩ | ⟨_, infos, found, rfl⟩
      · refine {
          suffix := rfl, table := rfl, groupBy := rfl, orderBy := sorted
          names := fun name => ?_, supplied := List.forall_mem_nil _ }
        simp [DuckDB.JsonQuery.selected, SelectList.supplied, Quotes, Builder.Selects, unlisted,
          other]
      · refine {
          suffix := rfl, table := rfl, groupBy := rfl, orderBy := sorted
          names := fun name => ?_, supplied := plain }
        rw [Builder.Selects, or_iff_left (by simp [other]), ← quotes_projected found]
        exact quotes_infos

/-- The pairs of an ungrouped request name what it selects. -/
theorem rowPairs_names {pairs : List JsonPair} (ok : repository.rowJsonObjPairs request = .ok pairs)
    (name : String) : Quotes (pairs.flatMap JsonPair.supplied) name ↔
      Builder.Selects repository request .duckDBJson name none := by
  unfold DatasetRepository.rowJsonObjPairs at ok
  split at ok
  case isTrue unlisted =>
    cases ok
    have none := List.isEmpty_iff.mp unlisted
    rw [quotes_objPairs]
    simp [Builder.Selects, none]
  case isFalse listed =>
    obtain ⟨infos, found, rfl⟩ := Fallible.map_ok_iff.mp ok
    have some : request.columns ≠ [] := by simpa using listed
    rw [quotes_objPairs, quotes_projected found, Builder.Selects, or_iff_left (by simp [some])]

theorem jsonFrame_framed {plan : Option AggPlan}
    (framed : Builder.jsonFrame repository request plan
      (Builder.duckDBJson.suffix repository request) = some query) :
    Framed repository request plan .duckDBJson query := by
  obtain ⟨orderBy, sorted, framed⟩ := Option.bind_eq_some_iff.mp framed
  rw [Fallible.toOption_eq_some_iff] at sorted
  have inList {items : List SelectItem} (token : Token)
      (member : token ∈ (SelectList.list items).supplied) :
      ∃ mark name, token = .quoted mark name ∧
        (mark = .single → Builder.duckDBJson = .duckDBJson) := by
    obtain ⟨name, rfl⟩ := supplied_list token member
    exact ⟨.double, name, rfl, fun _ => rfl⟩
  have inPairs {pairs : List JsonPair} (token : Token)
      (member : token ∈ pairs.flatMap JsonPair.supplied) :
      ∃ mark name, token = .quoted mark name ∧
        (mark = .single → Builder.duckDBJson = .duckDBJson) := by
    obtain ⟨mark, name, rfl⟩ := supplied_pairs token member
    exact ⟨mark, name, rfl, fun _ => rfl⟩
  cases plan with
  | some plan =>
      obtain ⟨items, listed, framed⟩ := Option.bind_eq_some_iff.mp framed
      rw [Fallible.toOption_eq_some_iff] at listed
      cases framed
      refine {
        suffix := rfl, table := rfl, groupBy := rfl, orderBy := sorted
        names := fun name => ?_
        supplied := List.forall_mem_append.mpr ⟨inPairs, inList⟩ }
      rw [DuckDB.JsonQuery.selected, Quotes.append, quotes_items listed, quotes_groupPairs]
      exact or_iff_right_of_imp Or.inl
  | none =>
      obtain ⟨pairs, found, framed⟩ := Option.bind_eq_some_iff.mp framed
      rw [Fallible.toOption_eq_some_iff] at found
      split at framed
      case isTrue =>
        obtain ⟨select, selects, framed⟩ := Option.bind_eq_some_iff.mp framed
        rw [Fallible.toOption_eq_some_iff] at selects
        cases framed
        rcases projection_cases selects with ⟨unlisted, rfl⟩ | ⟨_, infos, shown, rfl⟩
        · refine {
            suffix := rfl, table := rfl, groupBy := rfl, orderBy := sorted
            names := fun name => ?_
            supplied := List.forall_mem_append.mpr ⟨inPairs, List.forall_mem_nil _⟩ }
          rw [DuckDB.JsonQuery.selected, Quotes.append, rowPairs_names found]
          exact or_iff_left (by simp [Quotes, SelectList.supplied])
        · refine {
            suffix := rfl, table := rfl, groupBy := rfl, orderBy := sorted
            names := fun name => ?_
            supplied := List.forall_mem_append.mpr ⟨inPairs, inList⟩ }
          rw [DuckDB.JsonQuery.selected, Quotes.append, rowPairs_names found]
          apply or_iff_left_of_imp
          intro listed
          exact .inl ((quotes_projected shown).mp (quotes_infos.mp listed))
      case isFalse =>
        cases framed
        exact {
          suffix := rfl, table := rfl, groupBy := rfl, orderBy := sorted
          names := rowPairs_names found, supplied := inPairs }

theorem frame_framed {plan : Option AggPlan}
    (framed : builder.frame repository request plan = some query) :
    Framed repository request plan builder query := by
  cases builder with
  | duckDBJson => exact jsonFrame_framed framed
  | _ => exact plainFrame_framed nofun framed

/-! ### Sort keys and the end of a text -/

theorem sortKey_written {plan : Option AggPlan} {keys : List SortKey}
    (sorted : request.orderBySql repository.schema plan = .ok keys) :
    ∀ key ∈ keys, (key.dir = "ASC" ∨ key.dir = "DESC") ∧ ∃ order ∈ request.orderBy,
      QueryRequest.sortName repository.schema plan order.col = .ok key.name := by
  intro key member
  obtain ⟨order, listed, ok⟩ := (Fallible.mem_of_mapM sorted key).mp member
  obtain ⟨dir, directed, ok⟩ := Fallible.bind_ok_iff.mp ok
  obtain ⟨name, found, ok⟩ := Fallible.bind_ok_iff.mp ok
  cases ok
  refine ⟨?_, order, listed, found⟩
  unfold QueryRequest.sortDirection at directed
  split at directed
  · cases directed
    exact .inl rfl
  · cases directed
    exact .inr rfl
  · cases directed

theorem sorted_name {plan : Option AggPlan} {keys : List SortKey}
    (sorted : request.orderBySql repository.schema plan = .ok keys) {order : OrderBy}
    (listed : order ∈ request.orderBy) {name : String}
    (found : QueryRequest.sortName repository.schema plan order.col = .ok name) :
    name ∈ keys.map (·.name) := by
  obtain ⟨key, member, ok⟩ := Lists.exists_of_mem_left (Fallible.mapM_ok_iff.mp sorted) listed
  obtain ⟨dir, _, ok⟩ := Fallible.bind_ok_iff.mp ok
  obtain ⟨name', found', ok⟩ := Fallible.bind_ok_iff.mp ok
  cases ok
  rw [found] at found'
  cases found'
  exact List.mem_map_of_mem member

omit [ToLowercase]

theorem lex_limit (limit : UInt64) :
    lex s!" LIMIT {limit}" = some [.word "LIMIT", .word (toString limit.toNat)] :=
  lex_append (rfl : lex " LIMIT " = some [.word "LIMIT"]) (lex_number limit.toNat)
    (.inl (ends_blank " LIMIT"))

theorem lex_page (limit offset : UInt64) : lex s!" LIMIT {limit} OFFSET {offset}" =
    some [.word "LIMIT", .word (toString limit.toNat), .word "OFFSET",
      .word (toString offset.toNat)] := by
  have skipped := lex_append (lex_limit limit) (rfl : lex " OFFSET " = some [.word "OFFSET"])
    (.inr (opens_blank "OFFSET "))
  exact lex_append skipped (lex_number offset.toNat)
    (.inl ((ends_blank " OFFSET").append_of_ne (by decide)))

theorem suffix_tokens (repository : DatasetRepository) (request : QueryRequest)
    (builder : Builder) : ∃ last, lex (builder.suffix repository request) = some last ∧
      Opens (builder.suffix repository request) ∧ AllKnown last ∧
      last.filter Token.supplied = [] := by
  have limit : Opens " LIMIT " := opens_blank "LIMIT "
  have known (text : String) (keyword : text ∈ keywords) (n : Nat) :
      AllKnown [.word text, .word (toString n)] :=
    AllKnown.append (@AllKnown.words [text] (List.forall_mem_singleton.mpr keyword))
      (List.forall_mem_singleton.mpr (.inr ⟨n, rfl⟩))
  have page : ∃ last, lex (repository.limitClause request) = some last ∧
      Opens (repository.limitClause request) ∧ AllKnown last ∧
      last.filter Token.supplied = [] := by
    refine ⟨_, lex_page _ _, ?_, ?_, rfl⟩
    · exact ((limit.append_of_ne (by decide)).append_of_ne (by simp)).append_of_ne (by simp)
    · exact (known "LIMIT" (by decide) _).append (known "OFFSET" (by decide) _)
  have own : ∃ last, lex (request.limit.elim "" fun limit => s!" LIMIT {limit}") = some last ∧
      Opens (request.limit.elim "" fun limit => s!" LIMIT {limit}") ∧ AllKnown last ∧
      last.filter Token.supplied = [] := by
    cases request.limit with
    | none => exact ⟨[], rfl, .inl rfl, List.forall_mem_nil _, rfl⟩
    | some cap =>
        exact ⟨_, lex_limit cap, limit.append_of_ne (by decide), known "LIMIT" (by decide) _, rfl⟩
  cases builder with
  | dataFusionPage => exact page
  | dataFusionStream => exact own
  | duckDBJson => exact page
  | duckDBArrow paged => cases paged <;> assumption

end

/-! ### The names of a text -/

section
variable [ToLowercase]

/-- The names that the text of a request holds: the dataset's, those of the columns it uses in
the spelling of the schema, and those of its aggregations. -/
inductive Builder.Names (schema : DatasetSchema) (request : QueryRequest) (builder : Builder) :
    String → Prop where
  | table : Names schema request builder schema.name
  | tested {pred : Predicate} {info : ColumnInfo} (member : pred ∈ request.predicates)
      (found : schema.find pred.col = .ok info) : Names schema request builder info.name
  | grouped {name : String} {info : ColumnInfo} (member : name ∈ request.groupBy)
      (found : schema.find name = .ok info) : Names schema request builder info.name
  | aggregated {a : Aggregation} {spec : AggSpec} {col : String} (grouping : request.groupBy ≠ [])
      (member : a ∈ request.rawAggs) (resolved : QueryRequest.resolveAgg schema a = .ok spec)
      (reads : spec.col = some col) : Names schema request builder col
  | output {a : Aggregation} {spec : AggSpec} (grouping : request.groupBy ≠ [])
      (member : a ∈ request.rawAggs) (resolved : QueryRequest.resolveAgg schema a = .ok spec) :
      Names schema request builder spec.outputAlias
  | listed {name : String} {info : ColumnInfo} (ungrouped : request.groupBy = [])
      (member : name ∈ request.columns) (found : schema.find name = .ok info) :
      Names schema request builder info.name
  | everything {info : ColumnInfo} (json : builder = .duckDBJson) (ungrouped : request.groupBy = [])
      (unlisted : request.columns = []) (member : info ∈ schema.columns) :
      Names schema request builder info.name
  | sorted {order : OrderBy} {info : ColumnInfo} (ungrouped : request.groupBy = [])
      (member : order ∈ request.orderBy) (found : schema.find order.col = .ok info) :
      Names schema request builder info.name

variable {repository : DatasetRepository} {request : QueryRequest} {builder : Builder}
  {query : JsonQuery} {α : Type}

theorem aggPlan_resolved {schema : DatasetSchema} {plan : AggPlan}
    (planned : request.aggPlan schema = .ok (some plan)) : request.groupBy ≠ [] ∧
      request.groupBy.mapM (fun name => (·.name) <$> schema.find name) = .ok plan.groupCols ∧
      request.rawAggs.mapM (QueryRequest.resolveAgg schema) = .ok plan.aggs := by
  refine ⟨(QueryRequest.aggPlan_some planned).grouped, ?_⟩
  simp only [QueryRequest.aggPlan] at planned
  split at planned
  · cases planned
  split at planned
  · split at planned <;> cases planned
  obtain ⟨groupCols, found, planned⟩ := Fallible.bind_ok_iff.mp planned
  obtain ⟨aggs, resolved, planned⟩ := Fallible.bind_ok_iff.mp planned
  cases planned
  exact ⟨found, resolved⟩

/-- The names of a grouping plan. -/
theorem plan_names {schema : DatasetSchema} {plan : AggPlan}
    (planned : request.aggPlan schema = .ok (some plan)) (name : String) :
    (name ∈ plan.groupCols ↔
      ∃ column ∈ request.groupBy, ∃ info, schema.find column = .ok info ∧ info.name = name) ∧
    ∀ spec, spec ∈ plan.aggs ↔
      ∃ a ∈ request.rawAggs, QueryRequest.resolveAgg schema a = .ok spec := by
  obtain ⟨_, found, resolved⟩ := aggPlan_resolved planned
  constructor
  · rw [Fallible.mem_of_mapM found]
    simp only [Fallible.map_ok_iff]
  · exact Fallible.mem_of_mapM resolved

theorem selects_iff {plan : Option AggPlan} (planned : request.aggPlan repository.schema = .ok plan)
    (name : String) (selects : builder.Selects repository request name plan) :
    builder.Names repository.schema request name := by
  cases plan with
  | none =>
      have ungrouped := (QueryRequest.aggPlan_none planned).1
      rcases selects with ⟨column, member, info, found, rfl⟩ | ⟨json, unlisted, info, member, rfl⟩
      · exact .listed ungrouped member found
      · exact .everything json ungrouped unlisted member
  | some plan =>
      obtain ⟨grouping, _⟩ := aggPlan_resolved planned
      obtain ⟨groups, aggs⟩ := plan_names planned name
      rcases selects with output | ⟨spec, member, reads⟩
      · rcases List.mem_append.mp output with grouped | aliased
        · obtain ⟨column, member, info, found, rfl⟩ := groups.mp grouped
          exact .grouped member found
        · obtain ⟨spec, member, rfl⟩ := List.mem_map.mp aliased
          obtain ⟨a, listed, resolved⟩ := (aggs spec).mp member
          exact .output grouping listed resolved
      · obtain ⟨a, listed, resolved⟩ := (aggs spec).mp member
        exact .aggregated grouping listed resolved reads

theorem tested_names {schema : DatasetSchema} {neq : String} {convert : JsonValue → Option α}
    {tests : List (SqlExpr × Asked α)}
    (tested : List.Forall₂ (fun pred test => testOn (whereLhs schema) neq convert pred = some test)
      request.predicates tests) (name : String) :
    name ∈ tests.flatMap (·.1.columns) ↔ ∃ pred ∈ request.predicates, ∃ info,
      schema.find pred.col = .ok info ∧ info.name = name := by
  have lhs {pred : Predicate} {test : SqlExpr × Asked α}
      (asks : testOn (whereLhs schema) neq convert pred = some test) :
      ∃ info, schema.find pred.col = .ok info ∧ test.1 = .column info.name := by
    obtain ⟨info, found, same⟩ := Option.map_eq_some_iff.mp (testOn_some asks).1
    exact ⟨info, Fallible.toOption_eq_some_iff.mp found, same.symm⟩
  constructor
  · intro member
    obtain ⟨test, listed, reads⟩ := List.mem_flatMap.mp member
    obtain ⟨pred, present, asks⟩ := Lists.exists_of_mem_right tested listed
    obtain ⟨info, found, same⟩ := lhs asks
    rw [same] at reads
    exact ⟨pred, present, info, found, (List.mem_singleton.mp reads).symm⟩
  · rintro ⟨pred, present, info, found, rfl⟩
    obtain ⟨test, listed, asks⟩ := Lists.exists_of_mem_left tested present
    obtain ⟨info', found', same⟩ := lhs asks
    rw [found] at found'
    cases found'
    exact List.mem_flatMap.mpr ⟨test, listed, by rw [same]; exact List.mem_singleton_self _⟩

/-- The conditions on groups name what the plan selects. -/
theorem having_names {plan : Option AggPlan} {neq : String} {convert : JsonValue → Option α}
    {tests : List (SqlExpr × Asked α)}
    (tested : List.Forall₂ (fun pred test => testOn (havingLhs plan) neq convert pred = some test)
      request.having tests) {name : String} (member : name ∈ tests.flatMap (·.1.columns)) :
    builder.Selects repository request name plan := by
  obtain ⟨test, listed, reads⟩ := List.mem_flatMap.mp member
  obtain ⟨pred, _, asks⟩ := Lists.exists_of_mem_right tested listed
  obtain ⟨plan, rfl, found⟩ := Option.bind_eq_some_iff.mp (testOn_some asks).1
  rw [Fallible.toOption_eq_some_iff] at found
  unfold AggPlan.havingLhs at found
  dsimp only at found
  split at found
  · rename_i group present
    rw [← Except.ok.inj found] at reads
    left
    rw [List.mem_singleton.mp reads]
    exact List.mem_append_left _ (List.mem_of_find?_eq_some present)
  · split at found
    · rename_i spec present
      rw [QueryRequest.Planned.sqlExpr_columns found, Option.mem_toList] at reads
      exact .inr ⟨spec, List.mem_of_find?_eq_some present, reads⟩
    · cases found

omit [ToLowercase] in
theorem conditions_lhs {tests : List (SqlExpr × Asked α)} (builder : Builder) (bound : Nat) :
    (conditionsFrom builder.write bound tests).flatMap (·.lhs.columns) =
      tests.flatMap (·.1.columns) := by
  induction tests generalizing bound with
  | nil => rfl
  | cons test rest ih => rw [conditionsFrom, List.flatMap_cons, ih, List.flatMap_cons]

/-- The quoted texts of a query are the names of its request. -/
theorem quotes_iff {plan : Option AggPlan} {neq : String} {convert : JsonValue → Option α}
    {tests groups : List (SqlExpr × Asked α)}
    (planned : request.aggPlan repository.schema = .ok plan)
    (framed : Framed repository request plan builder query)
    (tested : List.Forall₂ (fun pred test =>
      testOn (whereLhs repository.schema) neq convert pred = some test) request.predicates tests)
    (having : List.Forall₂ (fun pred test =>
      testOn (havingLhs plan) neq convert pred = some test) request.having groups)
    (bound : Nat) (name : String) :
    Quotes (query.fill (conditionsFrom builder.write 0 tests)
      (conditionsFrom builder.write bound groups)).supplied name ↔
        builder.Names repository.schema request name := by
  have one : Quotes [named query.statement.table] name ↔ name = repository.schema.name := by
    rw [← framed.table, ← List.mem_singleton]
    exact @quotes_named [query.statement.table] name
  have sorted : Quotes (query.statement.orderBy.map fun key => named key.name) name ↔
      name ∈ query.statement.orderBy.map (·.name) := by
    rw [← quotes_named, List.map_map]
    rfl
  rw [query.supplied_fill, Quotes.append, Quotes.append, Quotes.append, Quotes.append,
    Quotes.append, one, sorted, quotes_conditions, quotes_conditions, quotes_named,
    conditions_lhs, conditions_lhs, framed.names, framed.groupBy, tested_names tested]
  constructor
  · rintro (selects | (((rfl | ⟨pred, member, info, found, rfl⟩) | grouped) | reads) | sorted)
    · exact selects_iff planned name selects
    · exact .table
    · exact .tested member found
    · cases plan with
      | none => cases grouped
      | some plan => exact selects_iff planned name (.inl (List.mem_append_left _ grouped))
    · exact selects_iff planned name (having_names having reads)
    · obtain ⟨key, member, rfl⟩ := List.mem_map.mp sorted
      obtain ⟨_, order, listed, found⟩ := sortKey_written framed.orderBy key member
      cases plan with
      | none =>
          obtain ⟨info, found, same⟩ := Fallible.map_ok_iff.mp found
          rw [← same]
          exact .sorted (QueryRequest.aggPlan_none planned).1 listed found
      | some plan =>
          unfold QueryRequest.sortName at found
          dsimp only at found
          split at found
          · rename_i output present
            cases found
            exact selects_iff planned _ (.inl (List.mem_of_find?_eq_some present))
          · cases found
  · intro names
    cases names with
    | table => exact .inr (.inl (.inl (.inl (.inl rfl))))
    | tested member found => exact .inr (.inl (.inl (.inl (.inr ⟨_, member, _, found, rfl⟩))))
    | @grouped column info member found =>
        cases plan with
        | none =>
            rw [(QueryRequest.aggPlan_none planned).1] at member
            cases member
        | some plan =>
            have group := (plan_names planned info.name).1.mpr ⟨column, member, info, found, rfl⟩
            exact .inr (.inl (.inl (.inr group)))
    | @aggregated a spec _ grouping member resolved reads =>
        cases plan with
        | none => exact absurd (QueryRequest.aggPlan_none planned).1 grouping
        | some plan =>
            have planned := ((plan_names planned name).2 spec).mpr ⟨a, member, resolved⟩
            exact .inl (.inr ⟨spec, planned, reads⟩)
    | @output a spec grouping member resolved =>
        cases plan with
        | none => exact absurd (QueryRequest.aggPlan_none planned).1 grouping
        | some plan =>
            have planned := ((plan_names planned spec.outputAlias).2 spec).mpr ⟨a, member, resolved⟩
            exact .inl (.inl (List.mem_append_right _ (List.mem_map_of_mem planned)))
    | @listed column info ungrouped member found =>
        cases plan with
        | none => exact .inl (.inl ⟨column, member, info, found, rfl⟩)
        | some plan => exact absurd ungrouped (aggPlan_resolved planned).1
    | @everything info json ungrouped unlisted member =>
        cases plan with
        | none => exact .inl (.inr ⟨json, unlisted, info, member, rfl⟩)
        | some plan => exact absurd ungrouped (aggPlan_resolved planned).1
    | @sorted order info ungrouped member found =>
        cases plan with
        | none =>
            have named : QueryRequest.sortName repository.schema none order.col = .ok info.name :=
              Fallible.map_ok_iff.mpr ⟨info, found, rfl⟩
            exact .inr (.inr (sorted_name framed.orderBy member named))
        | some plan => exact absurd ungrouped (aggPlan_resolved planned).1

end

end Datapress
