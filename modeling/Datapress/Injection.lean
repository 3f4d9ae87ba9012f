import Datapress.EmittedNames

/-! What the values of a request can do to the emitted SQL: nothing to its text, which holds
them as placeholders and the names as quoted texts. -/
namespace Datapress
open SqlText
open DuckDB (DatasetRepository JsonQuery)

/-! ### Two requests -/

section
variable [ToLowercase] [JsonText] {request other : QueryRequest}

omit [ToLowercase] [JsonText] in
theorem testOn_congr {α : Type} {lhsOf : String → Option SqlExpr} {neq : String}
    {convert : JsonValue → Option α}
    (uniform : ∀ a b : JsonValue, a.kind = b.kind → convert a = convert b) {p q : Predicate}
    (same : p.SameShape q) : testOn lhsOf neq convert p = testOn lhsOf neq convert q := by
  rw [testOn, testOn, same.col, askedWith_congr uniform same]

omit [ToLowercase] [JsonText] in
theorem Builder.text_map {α β : Type} (builder : Builder) (f : α → β) (query : JsonQuery)
    (tested having : List (SqlExpr × Asked α)) :
    builder.text query (tested.map (Prod.map id (Asked.map f)))
      (having.map (Prod.map id (Asked.map f))) = builder.text query tested having := by
  rw [text, conditionsFrom_map, conditionsFrom_map, boundValues_map, List.length_map]
  rfl

omit [ToLowercase] in
/-- Whether a literal is bound, without its value. -/
theorem Builder.uniform (builder : Builder) (a b : JsonValue) (same : a.kind = b.kind) :
    (builder.convert a).map (fun _ => ()) = (builder.convert b).map fun _ => () := by
  have found : (builder.convert a).isSome = (builder.convert b).isSome := by
    rw [builder.convert_isSome, builder.convert_isSome, same]
  cases one : builder.convert a <;> cases two : builder.convert b <;> simp [one, two] at found ⊢

/-- The text of a query, from the tests without their values. -/
theorem Builder.emitted_sql (repository : DatasetRepository) (request : QueryRequest)
    (builder : Builder) :
    (builder.emitted repository request).map Emitted.sql = (do
      let plan ← (request.aggPlan repository.schema).toOption
      let query ← builder.frame repository request plan
      let tested ← request.predicates.mapM (testOn (whereLhs repository.schema) builder.neq
        fun value => (builder.convert value).map fun _ => ())
      let having ← request.having.mapM (testOn (havingLhs plan) builder.neq
        fun value => (builder.convert value).map fun _ => ())
      some (builder.text query tested having)) := by
  rw [emitted]
  simp only [tests_map]
  cases (request.aggPlan repository.schema).toOption with
  | none => rfl
  | some plan =>
      simp only [Option.bind_eq_bind, Option.bind_some]
      cases builder.frame repository request plan with
      | none => rfl
      | some query =>
          simp only [Option.bind_some]
          cases request.predicates.mapM
              (testOn (whereLhs repository.schema) builder.neq builder.convert) with
          | none => rfl
          | some tested =>
              simp only [Option.bind_some, Option.map_some]
              cases request.having.mapM
                  (testOn (havingLhs plan) builder.neq builder.convert) with
              | none => rfl
              | some having =>
                  simp only [Option.bind_some, Option.map_some, builder.text_map]

/-- Requests of one shape get one text, or none. -/
theorem Builder.emitted_same (repository : DatasetRepository) (builder : Builder)
    (same : request.SameShape other) :
    (builder.emitted repository request).map Emitted.sql =
      (builder.emitted repository other).map Emitted.sql := by
  have plans : other.aggPlan repository.schema = request.aggPlan repository.schema := by
    rw [same.rest]
    rfl
  have frames (plan : Option AggPlan) :
      builder.frame repository other plan = builder.frame repository request plan := by
    rw [same.rest]
    rfl
  rw [emitted_sql, emitted_sql, plans]
  simp only [frames]
  have tested := Lists.mapM_congr (same.predicates.imp fun p q shape =>
    @testOn_congr _ (whereLhs repository.schema) builder.neq _ builder.uniform p q shape)
  have having (plan : Option AggPlan) := Lists.mapM_congr (same.having.imp fun p q shape =>
    @testOn_congr _ (havingLhs plan) builder.neq _ builder.uniform p q shape)
  simp only [tested, having]

end

/-! ### Emitted texts -/

section
variable [ToLowercase] [JsonText]

/-- What the text of an emitted query is read back as. -/
structure Emitted.Reads (repository : DatasetRepository) (request : QueryRequest)
    (builder : Builder) (out : Emitted) (tokens : List Token) : Prop where
  lexes : lex out.sql = some tokens
  values : ((request.predicates ++ request.having).flatMap Predicate.bound).mapM builder.convert =
    some out.values
  placeholders : tokens.filterMap Token.placeholderText = builder.placeholders 0 out.values.length
  names : ∀ name, Quotes tokens name ↔ builder.Names repository.schema request name
  strings : ∀ name, .quoted .single name ∈ tokens → builder = .duckDBJson
  known : AllKnown tokens

omit [ToLowercase] [JsonText] in
theorem placeholderText_filter (tokens : List Token) :
    tokens.filterMap Token.placeholderText =
      (tokens.filter Token.supplied).filterMap Token.placeholderText := by
  induction tokens with
  | nil => rfl
  | cons token rest ih =>
      cases token with
      | placeholder text => exact congrArg (text :: ·) ih
      | _ => exact ih

omit [ToLowercase] [JsonText] in
theorem quoted_filter {tokens : List Token} {mark : Mark} {name : String} :
    .quoted mark name ∈ tokens.filter Token.supplied ↔ .quoted mark name ∈ tokens := by
  rw [List.mem_filter]
  exact and_iff_left rfl

omit [ToLowercase] [JsonText] in
theorem placeholderText_named (names : List String) :
    (names.map named).filterMap Token.placeholderText = [] := by
  induction names with
  | nil => rfl
  | cons name rest ih => exact ih

omit [ToLowercase] [JsonText] in
theorem placeholderText_conditions (conditions : List Condition) :
    (conditions.flatMap Condition.supplied).filterMap Token.placeholderText =
      conditions.flatMap (·.test.placeholders) := by
  have each (placeholders : List String) :
      (placeholders.map Token.placeholder).filterMap Token.placeholderText = placeholders := by
    induction placeholders with
    | nil => rfl
    | cons p rest ih => exact congrArg (p :: ·) ih
  induction conditions with
  | nil => rfl
  | cons condition rest ih =>
      rw [List.flatMap_cons, List.filterMap_append, ih, List.flatMap_cons, Condition.supplied,
        List.filterMap_append, placeholderText_named, each, List.nil_append]

omit [ToLowercase] [JsonText] in
theorem spelled {α : Type} {lhsOf : String → Option SqlExpr} {neq : String}
    (known : neq ∈ comparisons) {convert : JsonValue → Option α} {predicates : List Predicate}
    {tests : List (SqlExpr × Asked α)}
    (tested : List.Forall₂ (fun pred test => testOn lhsOf neq convert pred = some test)
      predicates tests) : ∀ test ∈ tests, test.2.Spelled := by
  intro test member
  obtain ⟨pred, _, asks⟩ := Lists.exists_of_mem_right tested member
  exact askedWith_spelled known (testOn_some asks).2

omit [ToLowercase] [JsonText] in
theorem no_string {names : List String} {name : String} :
    .quoted .single name ∉ names.map named := by
  intro member
  obtain ⟨_, _, same⟩ := List.mem_map.mp member
  cases same

omit [ToLowercase] [JsonText] in
theorem no_string_conditions {conditions : List Condition} {name : String} :
    .quoted .single name ∉ conditions.flatMap Condition.supplied := by
  intro member
  obtain ⟨condition, _, here⟩ := List.mem_flatMap.mp member
  rcases List.mem_append.mp here with column | value
  · exact no_string column
  · obtain ⟨_, _, same⟩ := List.mem_map.mp value
    cases same

theorem emitted_reads {repository : DatasetRepository} {request : QueryRequest} {builder : Builder}
    {out : Emitted} (emitted : builder.emitted repository request = some out) :
    ∃ tokens, out.Reads repository request builder tokens := by
  obtain ⟨plan, planned, emitted⟩ := Option.bind_eq_some_iff.mp emitted
  obtain ⟨query, framed, emitted⟩ := Option.bind_eq_some_iff.mp emitted
  obtain ⟨tests, tested, emitted⟩ := Option.bind_eq_some_iff.mp emitted
  obtain ⟨groups, having, emitted⟩ := Option.bind_eq_some_iff.mp emitted
  cases emitted
  rw [Fallible.toOption_eq_some_iff] at planned
  rw [Lists.mapM_eq_some_iff] at tested having
  have framed := frame_framed framed
  obtain ⟨last, suffix, opens, known, silent⟩ := suffix_tokens repository request builder
  have neq : builder.neq ∈ comparisons := by
    cases builder with
    | duckDBJson | duckDBArrow _ => exact (by decide : "<>" ∈ comparisons)
    | _ => decide
  obtain ⟨tests_written, tests_marks⟩ := conditionsFrom_written builder 0 (spelled neq tested)
  obtain ⟨groups_written, groups_marks⟩ :=
    conditionsFrom_written builder (boundValues tests).length (spelled neq having)
  generalize filled : query.fill (conditionsFrom builder.write 0 tests)
    (conditionsFrom builder.write (boundValues tests).length groups) = whole
  have statement : whole.statement = { query.statement with
      conditions := conditionsFrom builder.write 0 tests
      having := conditionsFrom builder.write (boundValues tests).length groups } := by
    rw [← filled]
    cases query <;> rfl
  have written : whole.statement.Written := by
    rw [statement]
    exact {
      conditions := tests_written, having := groups_written
      orderBy := fun key member => (sortKey_written framed.orderBy key member).1 }
  have ends : whole.statement.suffix = builder.suffix repository request := by
    rw [statement]
    exact framed.suffix
  have supplied := whole.filter_tokens silent
  have unmarked : query.selected.filterMap Token.placeholderText = [] := by
    rw [List.filterMap_eq_nil_iff]
    intro token member
    obtain ⟨mark, name, rfl, _⟩ := framed.supplied token member
    rfl
  have table : [named query.statement.table].filterMap Token.placeholderText = [] := rfl
  have sorted : (query.statement.orderBy.map fun key => named key.name).filterMap
      Token.placeholderText = [] := by
    rw [← placeholderText_named (query.statement.orderBy.map (·.name)), List.map_map]
    rfl
  refine ⟨whole.tokens last, ?_⟩
  exact {
    lexes := by
      rw [Builder.text, filled]
      rw [← ends] at suffix opens
      exact DuckDB.JsonQuery.lex_sql written.readable suffix opens
    values := by
      rw [List.flatMap_append]
      rw [List.mapM_append, tests_values tested, tests_values having]
      rfl
    placeholders := by
      rw [placeholderText_filter, supplied, ← filled, query.supplied_fill]
      simp only [List.filterMap_append, placeholderText_conditions, tests_marks, groups_marks,
        placeholderText_named, unmarked, table, sorted, List.nil_append, List.append_nil,
        List.length_append]
      rw [builder.placeholders_append, Nat.zero_add]
    names := fun name => by
      have quotes := quotes_iff planned framed tested having (boundValues tests).length name
      rw [filled, ← supplied] at quotes
      rw [← quotes]
      simp only [Quotes, quoted_filter]
    strings := fun name member => by
      rw [← quoted_filter, supplied, ← filled, query.supplied_fill] at member
      rcases List.mem_append.mp member with selected | others
      · obtain ⟨mark, _, same, json⟩ := framed.supplied _ selected
        cases same
        exact json rfl
      · have table := @no_string [query.statement.table] name
        have sorted :
            .quoted .single name ∉ query.statement.orderBy.map fun key => named key.name := by
          intro member
          obtain ⟨_, _, same⟩ := List.mem_map.mp member
          cases same
        simp only [List.mem_append, List.map_cons, List.map_nil] at others table
        simp only [table, no_string, no_string_conditions, sorted, or_self] at others
    known := DuckDB.JsonQuery.known written known }

/-- The values of the predicates leave the text of a query as it is: two requests that differ in
nothing else are both rejected or get one text. What is read back from a text are its
placeholders, as many as there are values and in their order, the names of the request as
quoted texts, and words and operators of the builders' own. -/
theorem query_text_safe (repository : DatasetRepository) (builder : Builder)
    (request other : QueryRequest) (same : request.SameShape other) :
    (match builder.emit repository request, builder.emit repository other with
      | .ok out, .ok out' => out.sql = out'.sql
      | .error _, .error _ => True
      | _, _ => False) ∧
    ∀ out, builder.emit repository request = .ok out →
      ∃ tokens, out.Reads repository request builder tokens := by
  constructor
  · have one := builder.emit_toOption repository request
    have two := builder.emit_toOption repository other
    have texts := builder.emitted_same repository same
    rw [← one, ← two] at texts
    cases first : builder.emit repository request with
    | error e =>
        cases second : builder.emit repository other with
        | error e' => trivial
        | ok out' => simp [first, second] at texts
    | ok out =>
        cases second : builder.emit repository other with
        | error e' => simp [first, second] at texts
        | ok out' => simpa [first, second] using texts
  · intro out emits
    have emitted := builder.emit_toOption repository request
    rw [emits] at emitted
    exact emitted_reads emitted.symm

end

/-! ### Runs -/

section
attribute [local instance] asciiToLowercase unusedJsonText

/-- Counts the orders of an id, under an alias with both kinds of quotes. -/
def countOf (id : UInt64) : QueryRequest where
  predicates := [idEquals (.number (.posInt id))]
  groupBy := ["ID"]
  aggregations := [{ op := "count", outputAlias := some "n\"'" }]
  having := [{
    col := "N\"'", op := "in", val := some (.array [.number (.posInt id), .string "'"]) }]

theorem query_text_safe_count : (countOf 7).SameShape (countOf 8) ∧
    (match Builder.duckDBJson.emit ordersRepository (countOf 7),
        Builder.duckDBJson.emit ordersRepository (countOf 8) with
      | .ok out, .ok out' => out.sql = out'.sql
      | .error _, .error _ => True
      | _, _ => False) ∧
    ∃ out, Builder.duckDBJson.emit ordersRepository (countOf 7) = .ok out ∧
      ∃ tokens, out.Reads ordersRepository (countOf 7) .duckDBJson tokens := by
  have same : (countOf 7).SameShape (countOf 8) := {
    rest := rfl
    predicates := .cons ⟨rfl, rfl, .some rfl⟩ .nil
    having := .cons ⟨rfl, rfl, .some (.cons rfl (.cons rfl .nil))⟩ .nil }
  have safe := query_text_safe ordersRepository .duckDBJson (countOf 7) (countOf 8) same
  exact ⟨same, safe.1, _, rfl, safe.2 _ rfl⟩

end

end Datapress
