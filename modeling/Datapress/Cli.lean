import Datapress.Separators
import Datapress.Wire

/-!
The command-line client: what it makes of the arguments of `query` and `count`, and which requests
of the server it can make.

The reader of JSON texts belongs to `serde_json` and is a parameter.
-/
namespace Datapress.Cli

open Config (splitOnce_eq_some_iff splitOnce_eq_none_iff)

/-- The values given to the options of the `query` command, in order. -/
structure QueryArgs where
  columns : List String := []
  filters : List String := []
  groupBy : List String := []
  aggregations : List String := []
  having : List String := []
  distinct : Bool := false
  orderBy : List String := []
  limit : Option UInt64 := none
  page : Option UInt64 := none
  pageSize : Option UInt64 := none

/-- `value_delimiter`: each value of the option lists names. -/
def delimited (values : List String) : List String := values.flatMap (split ',')

/-- `str::splitn`. -/
def splitn (separator : Char) : Nat → String → List String
  | 0, _ => []
  | 1, text => [text]
  | n + 2, text =>
    match splitOnce separator text with
    | none => [text]
    | some (before, after) => before :: splitn separator (n + 1) after

section
variable (fromStr : String → Option JsonValue)

/-- A text that is no JSON stands for itself. -/
def parseValue (raw : String) : JsonValue := (fromStr raw).getD (.string raw)

def nonEmpty (text : Option String) (message : String) : Except String String :=
  match text.filter (!·.isEmpty) with
  | some text => .ok text
  | none => .error message

def parsePredicate (spec : String) : Except String Predicate := do
  let parts := splitn ':' 3 spec
  let col ← nonEmpty parts[0]? s!"predicate `{spec}`: missing column"
  let op ← nonEmpty parts[1]? s!"predicate `{spec}`: missing operator"
  match parts[2]? with
  | some val => .ok { col, op, val := some (parseValue fromStr val) }
  | none =>
    if op = "is_null" ∨ op = "is_not_null" then .ok { col, op, val := none }
    else .error s!"predicate `{spec}`: operator `{op}` requires a value (col:op:val)"

def parsePredicates (specs : List String) : Except String (List Predicate) :=
  specs.mapM (parsePredicate fromStr)

def parseAggregation (spec : String) : Except String Aggregation :=
  match split ':' spec with
  | [op] =>
    if op = "count" then .ok { op := "count" }
    else .error s!"aggregation `{spec}`: expected `op:col[:alias]` or `count[:alias]`"
  | [op, col] =>
    if op = "count" then .ok { op := "count", outputAlias := some col }
    else .ok { col := some col, op }
  | [op, col, outputAlias] => .ok { col := some col, op, outputAlias := some outputAlias }
  | _ => .error s!"aggregation `{spec}`: expected `op:col[:alias]` or `count[:alias]`"

/-- Any direction but `desc` is ascending. -/
def parseOrderBy (spec : String) : OrderBy :=
  match splitOnce ':' spec with
  | some (col, dir) => if dir = "desc" then { col, dir := some "desc" } else { col, dir := some "asc" }
  | none => { col := spec, dir := some "asc" }

/-- The request that `run_query` sends. -/
def queryRequest (args : QueryArgs) : Except String Client.QueryRequest := do
  let predicates ← parsePredicates fromStr args.filters
  let aggregations ← args.aggregations.mapM parseAggregation
  let having ← parsePredicates fromStr args.having
  .ok { columns := delimited args.columns, predicates, groupBy := delimited args.groupBy,
        aggregations, having, distinct := args.distinct,
        orderBy := args.orderBy.map parseOrderBy, limit := args.limit, page := args.page,
        pageSize := args.pageSize }

/-- The body that the `count` command sends. -/
def countBody (filters : List String) : Except String JsonValue :=
  Client.count <$> parsePredicates fromStr filters

/-! ### The words of the grammar -/

/-- A column or an operator in a filter. -/
def Word (text : String) : Prop := text ≠ "" ∧ ':' ∉ text.toList

theorem nonEmpty_eq_ok_iff {text : Option String} {message word : String} :
    nonEmpty text message = .ok word ↔ text = some word ∧ word ≠ "" := by
  cases text with
  | none => simp [nonEmpty]
  | some text =>
      by_cases empty : text = ""
      · subst empty
        have refused : nonEmpty (some "") message = .error message := rfl
        simp only [refused, reduceCtorEq, Option.some.injEq, false_iff, not_and, not_not]
        exact Eq.symm
      · have kept : nonEmpty (some text) message = .ok text := by
          simp [nonEmpty, Option.filter, empty]
        rw [kept, Except.ok.injEq, Option.some.injEq]
        exact ⟨fun same => ⟨same, same ▸ empty⟩, And.left⟩

theorem splitn_two {col op : String} (first : ':' ∉ col.toList) (second : ':' ∉ op.toList) :
    splitn ':' 3 (col ++ ":" ++ op) = [col, op] := by
  simp only [splitn, splitOnce_joined ':' ":" rfl first, splitOnce_eq_none_iff.mpr second]

theorem splitn_three {col op raw : String} (first : ':' ∉ col.toList) (second : ':' ∉ op.toList) :
    splitn ':' 3 (col ++ ":" ++ op ++ ":" ++ raw) = [col, op, raw] := by
  have whole : col ++ ":" ++ op ++ ":" ++ raw = col ++ ":" ++ (op ++ ":" ++ raw) := by
    simp only [String.append_assoc]
  simp only [splitn, whole, splitOnce_joined ':' ":" rfl first, splitOnce_joined ':' ":" rfl second]

/-- The pieces a filter falls into. -/
inductive Pieces (spec : String) : List String → Prop where
  | one : Pieces spec [spec]
  | two {col op} (first : ':' ∉ col.toList) (second : ':' ∉ op.toList)
      (whole : spec = col ++ ":" ++ op) : Pieces spec [col, op]
  | three {col op raw} (first : ':' ∉ col.toList) (second : ':' ∉ op.toList)
      (whole : spec = col ++ ":" ++ op ++ ":" ++ raw) : Pieces spec [col, op, raw]

theorem pieces_splitn (spec : String) : Pieces spec (splitn ':' 3 spec) := by
  cases outer : splitOnce ':' spec with
  | none =>
      simp only [splitn, outer]
      exact .one
  | some parts =>
      obtain ⟨col, rest⟩ := parts
      obtain ⟨whole, first⟩ := joined_of_splitOnce ':' ":" rfl outer
      cases inner : splitOnce ':' rest with
      | none =>
          simp only [splitn, outer, inner]
          exact .two first (splitOnce_eq_none_iff.mp inner) whole
      | some parts =>
          obtain ⟨op, raw⟩ := parts
          obtain ⟨more, second⟩ := joined_of_splitOnce ':' ":" rfl inner
          simp only [splitn, outer, inner]
          refine .three first second ?_
          rw [whole, more]
          simp only [String.append_assoc]

/-- A filter names a column and an operator; only the checks for null do without a value. -/
theorem parsePredicate_eq_ok_iff {spec : String} {p : Predicate} :
    parsePredicate fromStr spec = .ok p ↔ Word p.col ∧ Word p.op ∧
      ((∃ raw, spec = p.col ++ ":" ++ p.op ++ ":" ++ raw ∧ p.val = some (parseValue fromStr raw)) ∨
        (spec = p.col ++ ":" ++ p.op ∧ p.val = none ∧ (p.op = "is_null" ∨ p.op = "is_not_null"))) := by
  constructor
  · intro parsed
    obtain ⟨col, named, parsed⟩ := Fallible.bind_ok_iff.mp parsed
    obtain ⟨op, operated, parsed⟩ := Fallible.bind_ok_iff.mp parsed
    obtain ⟨named, colFilled⟩ := nonEmpty_eq_ok_iff.mp named
    obtain ⟨operated, opFilled⟩ := nonEmpty_eq_ok_iff.mp operated
    have pieces := pieces_splitn spec
    generalize splitn ':' 3 spec = parts at pieces named operated parsed
    cases pieces with
    | one => cases operated
    | @two col' op' first second whole =>
        cases named
        cases operated
        simp only [List.getElem?_cons_succ, List.getElem?_nil] at parsed
        split at parsed
        case isTrue check =>
          cases parsed
          exact ⟨⟨colFilled, first⟩, ⟨opFilled, second⟩, .inr ⟨whole, rfl, check⟩⟩
        case isFalse => cases parsed
    | @three col' op' raw first second whole =>
        cases named
        cases operated
        cases parsed
        exact ⟨⟨colFilled, first⟩, ⟨opFilled, second⟩, .inl ⟨raw, whole, rfl⟩⟩
  · obtain ⟨col, op, val⟩ := p
    rintro ⟨⟨colFilled, first⟩, ⟨opFilled, second⟩, ⟨raw, rfl, rfl⟩ | ⟨rfl, rfl, check⟩⟩
    · have pieces : splitn ':' 3 (col ++ ":" ++ op ++ ":" ++ raw) = [col, op, raw] :=
        splitn_three first second
      simp only [parsePredicate, pieces]
      refine Fallible.bind_ok_iff.mpr ⟨col, nonEmpty_eq_ok_iff.mpr ⟨rfl, colFilled⟩, ?_⟩
      exact Fallible.bind_ok_iff.mpr ⟨op, nonEmpty_eq_ok_iff.mpr ⟨rfl, opFilled⟩, rfl⟩
    · have pieces := splitn_two first second
      simp only [parsePredicate, pieces]
      refine Fallible.bind_ok_iff.mpr ⟨col, nonEmpty_eq_ok_iff.mpr ⟨rfl, colFilled⟩, ?_⟩
      refine Fallible.bind_ok_iff.mpr ⟨op, nonEmpty_eq_ok_iff.mpr ⟨rfl, opFilled⟩, ?_⟩
      exact if_pos check

/-! ### What can be asked for -/

/-- The aggregations of the grammar: a count of rows, or an operator over a column, where a count
over a column needs an alias. -/
def ExpressibleAggregation (a : Aggregation) : Prop :=
  (a.col = none ∧ a.op = "count" ∧ ∀ name ∈ a.outputAlias, ':' ∉ name.toList) ∨
    ∃ col, a.col = some col ∧ ':' ∉ col.toList ∧ ':' ∉ a.op.toList ∧
      ((a.outputAlias = none ∧ a.op ≠ "count") ∨
        ∃ name, a.outputAlias = some name ∧ ':' ∉ name.toList)

theorem exists_parseAggregation_iff {a : Aggregation} :
    (∃ spec, parseAggregation spec = .ok a) ↔ ExpressibleAggregation a := by
  constructor
  · rintro ⟨spec, parsed⟩
    have plain : ∀ piece ∈ split ':' spec, ':' ∉ piece.toList := fun _ => plain_of_mem_split ':'
    unfold parseAggregation at parsed
    split at parsed
    · split at parsed
      · cases parsed
        exact .inl ⟨rfl, rfl, by simp⟩
      · cases parsed
    case h_2 op col pieces =>
      simp only [pieces, List.forall_mem_cons] at plain
      split at parsed
      · cases parsed
        exact .inl ⟨rfl, rfl, by simpa using plain.2.1⟩
      case isFalse other =>
        cases parsed
        exact .inr ⟨col, rfl, plain.2.1, plain.1, .inl ⟨rfl, other⟩⟩
    case h_3 op col name pieces =>
      simp only [pieces, List.forall_mem_cons] at plain
      cases parsed
      exact .inr ⟨col, rfl, plain.2.1, plain.1, .inr ⟨name, rfl, plain.2.2.1⟩⟩
    · cases parsed
  · obtain ⟨col, op, outputAlias⟩ := a
    rintro (⟨rfl, rfl, named⟩ | ⟨col, rfl, plainCol, plainOp, ⟨rfl, other⟩ | ⟨name, rfl, plainName⟩⟩)
    · cases outputAlias with
      | none =>
          have pieces : split ':' "count" = ["count"] := split_word ':' (by decide)
          exact ⟨"count", by simp only [parseAggregation, pieces, if_true]⟩
      | some name =>
          have pieces : split ':' ("count" ++ ":" ++ name) = ["count", name] := by
            rw [split_joined ':' ":" rfl (by decide), split_word ':' (named name rfl)]
          exact ⟨"count" ++ ":" ++ name, by simp only [parseAggregation, pieces, if_true]⟩
    · have pieces : split ':' (op ++ ":" ++ col) = [op, col] := by
        rw [split_joined ':' ":" rfl plainOp, split_word ':' plainCol]
      refine ⟨op ++ ":" ++ col, ?_⟩
      simp only [parseAggregation, pieces]
      exact if_neg other
    · have pieces : split ':' (op ++ ":" ++ (col ++ ":" ++ name)) = [op, col, name] := by
        rw [split_joined ':' ":" rfl plainOp, split_joined ':' ":" rfl plainCol, split_word ':' plainName]
      exact ⟨op ++ ":" ++ (col ++ ":" ++ name), by simp only [parseAggregation, pieces]⟩

/-- A list of names can be given when no name holds the delimiter. -/
theorem exists_delimited_iff {names : List String} :
    (∃ values, delimited values = names) ↔ ∀ name ∈ names, ',' ∉ name.toList := by
  constructor
  · rintro ⟨values, rfl⟩ name member
    obtain ⟨value, _, piece⟩ := List.mem_flatMap.mp member
    exact plain_of_mem_split ',' piece
  · intro plain
    refine ⟨names, ?_⟩
    induction names with
    | nil => rfl
    | cons name names ih =>
        rw [List.forall_mem_cons] at plain
        have others : names.flatMap (split ',') = names := ih plain.2
        rw [delimited, List.flatMap_cons, split_word ',' plain.1, others, List.singleton_append]

def ExpressibleOrder (o : OrderBy) : Prop :=
  ':' ∉ o.col.toList ∧ (o.dir = some "asc" ∨ o.dir = some "desc")

theorem exists_parseOrderBy_iff {o : OrderBy} :
    (∃ spec, parseOrderBy spec = o) ↔ ExpressibleOrder o := by
  constructor
  · rintro ⟨spec, rfl⟩
    unfold parseOrderBy
    split
    case h_1 col dir parts =>
      obtain ⟨_, plain⟩ := joined_of_splitOnce ':' ":" rfl parts
      split
      · exact ⟨plain, .inr rfl⟩
      · exact ⟨plain, .inl rfl⟩
    case h_2 whole => exact ⟨splitOnce_eq_none_iff.mp whole, .inl rfl⟩
  · obtain ⟨col, dir⟩ := o
    rintro ⟨plain, rfl | rfl⟩
    · have whole : splitOnce ':' col = none := splitOnce_eq_none_iff.mpr plain
      exact ⟨col, by simp only [parseOrderBy, whole]⟩
    · have parts : splitOnce ':' (col ++ ":" ++ "desc") = some (col, "desc") := splitOnce_joined ':' ":" rfl plain
      exact ⟨col ++ ":" ++ "desc", by simp only [parseOrderBy, parts, if_true]⟩

/-- The filters that arrive: a value of some text, or none at all for the checks for null and
where the text was `null`. -/
def ExpressiblePredicate (p : Predicate) : Prop :=
  Word p.col ∧ Word p.op ∧
    (p.val = none ∧ (p.op = "is_null" ∨ p.op = "is_not_null") ∨
      ∃ raw, p.val = (some (parseValue fromStr raw)).filter fun value => !value.isNull)

theorem exists_parsePredicate_iff {p : Predicate} :
    (∃ spec sent, parsePredicate fromStr spec = .ok sent ∧ Client.received sent = p) ↔
      ExpressiblePredicate fromStr p := by
  constructor
  · rintro ⟨spec, sent, parsed, rfl⟩
    obtain ⟨col, op, ⟨raw, _, value⟩ | ⟨_, none, check⟩⟩ := (parsePredicate_eq_ok_iff fromStr).mp parsed
    · exact ⟨col, op, .inr ⟨raw, by rw [← value]; rfl⟩⟩
    · exact ⟨col, op, .inl ⟨by simp [Client.received, none], check⟩⟩
  · obtain ⟨col, op, val⟩ := p
    rintro ⟨colWord, opWord, ⟨none, check⟩ | ⟨raw, value⟩⟩
    · refine ⟨col ++ ":" ++ op, ⟨col, op, .none⟩, ?_, ?_⟩
      · exact (parsePredicate_eq_ok_iff fromStr).mpr ⟨colWord, opWord, .inr ⟨rfl, rfl, check⟩⟩
      · exact congrArg (Predicate.mk col op) none.symm
    · refine ⟨col ++ ":" ++ op ++ ":" ++ raw, ⟨col, op, some (parseValue fromStr raw)⟩, ?_, ?_⟩
      · exact (parsePredicate_eq_ok_iff fromStr).mpr ⟨colWord, opWord, .inl ⟨raw, rfl, rfl⟩⟩
      · exact congrArg (Predicate.mk col op) value.symm

/-- The structured queries that the command line can ask the server. -/
structure Expressible (r : Datapress.QueryRequest) : Prop where
  columns : ∀ name ∈ r.columns, ',' ∉ name.toList
  groupBy : ∀ name ∈ r.groupBy, ',' ∉ name.toList
  predicates : ∀ p ∈ r.predicates, ExpressiblePredicate fromStr p
  aggregations : ∀ a ∈ r.aggregations, ExpressibleAggregation a
  having : ∀ p ∈ r.having, ExpressiblePredicate fromStr p
  orderBy : ∀ o ∈ r.orderBy, ExpressibleOrder o

/-- Lists can be asked for when their items can. -/
theorem exists_mapM_map_iff {α β γ : Type} {parse : α → Except String β} {image : β → γ}
    {results : List γ} :
    (∃ specs : List α, ∃ sent, specs.mapM parse = .ok sent ∧ sent.map image = results) ↔
      ∀ result ∈ results, ∃ spec sent, parse spec = .ok sent ∧ image sent = result := by
  constructor
  · rintro ⟨specs, sent, parsed, rfl⟩ result member
    obtain ⟨item, among, rfl⟩ := List.mem_map.mp member
    obtain ⟨spec, _, made⟩ := Lists.exists_of_mem_right (Fallible.mapM_ok_iff.mp parsed) among
    exact ⟨spec, item, made, rfl⟩
  · intro each
    induction results with
    | nil => exact ⟨[], [], rfl, rfl⟩
    | cons result results ih =>
        rw [List.forall_mem_cons] at each
        obtain ⟨⟨spec, item, made, rfl⟩, others⟩ := each
        obtain ⟨specs, sent, parsed, rfl⟩ := ih others
        refine ⟨spec :: specs, item :: sent, ?_, rfl⟩
        exact Fallible.mapM_ok_iff.mpr (.cons made (Fallible.mapM_ok_iff.mp parsed))

theorem exists_parsePredicates_iff {ps : List Predicate} :
    (∃ specs sent, parsePredicates fromStr specs = .ok sent ∧ sent.map Client.received = ps) ↔
      ∀ p ∈ ps, ExpressiblePredicate fromStr p := by
  simp only [← exists_parsePredicate_iff]
  exact exists_mapM_map_iff

theorem exists_parseAggregations_iff {wanted : List Aggregation} :
    (∃ specs : List String, specs.mapM parseAggregation = .ok wanted) ↔ ∀ a ∈ wanted, ExpressibleAggregation a := by
  simp only [← exists_parseAggregation_iff]
  have lifted := @exists_mapM_map_iff _ _ _ parseAggregation id wanted
  simpa using lifted

theorem exists_parseOrderBys_iff {os : List OrderBy} :
    (∃ specs : List String, specs.map parseOrderBy = os) ↔ ∀ o ∈ os, ExpressibleOrder o := by
  simp only [← exists_parseOrderBy_iff]
  constructor
  · rintro ⟨specs, rfl⟩ o member
    obtain ⟨spec, _, made⟩ := List.mem_map.mp member
    exact ⟨spec, made⟩
  · intro each
    choose! spec made using each
    refine ⟨os.map spec, ?_⟩
    rw [List.map_map]
    exact (List.map_congr_left made).trans (List.map_id os)

/-- What the server can be asked from the command line: no word of a request may hold the
separator and no name of a list the delimiter, a count over a column needs an alias, and every
sort key has a direction. -/
theorem exists_query_iff {r : Datapress.QueryRequest} :
    (∃ args request, queryRequest fromStr args = .ok request ∧
      Datapress.QueryRequest.ofJson request.toJson = some r) ↔ Expressible fromStr r := by
  constructor
  · rintro ⟨args, request, built, arrived⟩
    obtain ⟨predicates, filters, built⟩ := Fallible.bind_ok_iff.mp built
    obtain ⟨aggregations, aggregated, built⟩ := Fallible.bind_ok_iff.mp built
    obtain ⟨having, having', built⟩ := Fallible.bind_ok_iff.mp built
    cases built
    rw [Client.QueryRequest.ofJson_toJson, Option.some.injEq] at arrived
    subst arrived
    exact {
      columns := exists_delimited_iff.mp ⟨_, rfl⟩
      groupBy := exists_delimited_iff.mp ⟨_, rfl⟩
      predicates := (exists_parsePredicates_iff fromStr).mp ⟨_, _, filters, rfl⟩
      aggregations := exists_parseAggregations_iff.mp ⟨_, aggregated⟩
      having := (exists_parsePredicates_iff fromStr).mp ⟨_, _, having', rfl⟩
      orderBy := exists_parseOrderBys_iff.mp ⟨_, rfl⟩ }
  · intro expressible
    obtain ⟨columns, listed⟩ := exists_delimited_iff.mpr expressible.columns
    obtain ⟨groupBy, listed'⟩ := exists_delimited_iff.mpr expressible.groupBy
    obtain ⟨filters, predicates, filtered, arrived⟩ :=
      (exists_parsePredicates_iff fromStr).mpr expressible.predicates
    obtain ⟨aggregations, aggregated⟩ := exists_parseAggregations_iff.mpr expressible.aggregations
    obtain ⟨groups, having, grouped, arrived'⟩ :=
      (exists_parsePredicates_iff fromStr).mpr expressible.having
    obtain ⟨keys, sorted⟩ := exists_parseOrderBys_iff.mpr expressible.orderBy
    let args : QueryArgs := {
      columns, filters, groupBy, aggregations, having := groups,
      distinct := r.distinct, orderBy := keys, limit := r.limit, page := some r.page,
      pageSize := some r.pageSize }
    let request : Client.QueryRequest := {
      columns := r.columns, predicates, groupBy := r.groupBy, aggregations := r.aggregations,
      having, distinct := r.distinct, orderBy := r.orderBy, limit := r.limit, page := some r.page,
      pageSize := some r.pageSize }
    have built : queryRequest fromStr args = .ok request := by
      simp only [queryRequest, args, filtered, aggregated, grouped, sorted, listed, listed',
        Fallible.ok_bind, request]
    refine ⟨args, request, built, ?_⟩
    rw [Client.QueryRequest.ofJson_toJson]
    simp only [Client.QueryRequest.received, request, arrived, arrived', Option.getD_some]

end
end Datapress.Cli
