import Datapress.BackendAgreement

/-! What the builders emit for a request, put into one form: a query without conditions, which
knows nothing of the values, and the tests of the two clauses. -/
namespace Datapress
open DataFusion (ScalarValue jsonToScalar)
open DuckDB (ParamVal jsonToParam DatasetRepository JsonQuery)

/-- The builders of row queries; the Arrow builder of DuckDB writes a page or a stream. -/
inductive Builder where
  | dataFusionPage
  | dataFusionStream
  | duckDBJson
  | duckDBArrow (paged : Bool)
deriving Repr, DecidableEq

/-- An emitted query: its text and the values bound to its placeholders. -/
structure Emitted where
  sql : String
  values : List ScalarValue
deriving Repr, DecidableEq

namespace Builder
variable [ToLowercase] [JsonText]

def emit (repository : DatasetRepository) (request : QueryRequest) :
    Builder → Except AppError Emitted
  | dataFusionPage =>
    (fun (statement, params) => ⟨statement.sql, params⟩) <$>
      DataFusion.buildQuerySql repository.schema request repository.maxPageSize repository.clampable
  | dataFusionStream =>
    (fun (statement, params) => ⟨statement.sql, params⟩) <$>
      DataFusion.buildQueryStreamSql repository.schema request
  | duckDBJson =>
    (fun (query, bindVals) => ⟨query.sql, bindVals.map ParamVal.scalar⟩) <$>
      repository.query request
  | duckDBArrow paged =>
    (fun (statement, bindVals) => ⟨statement.sql, bindVals.map ParamVal.scalar⟩) <$>
      repository.queryArrowWriteInner request paged

/-- The value that a literal is bound as. -/
def convert : Builder → JsonValue → Option ScalarValue
  | dataFusionPage | dataFusionStream => fun value => (jsonToScalar value).toOption
  | duckDBJson | duckDBArrow _ => fun value => (jsonToParam value).toOption.map ParamVal.scalar

omit [ToLowercase] [JsonText]

def neq : Builder → String
  | dataFusionPage | dataFusionStream => "!="
  | duckDBJson | duckDBArrow _ => "<>"

/-- The test that stands for an asked one after the values bound so far. -/
def write {α : Type} : Builder → Nat → Asked α → Test
  | dataFusionPage | dataFusionStream => fun bound asked => asked.numbered bound
  | duckDBJson | duckDBArrow _ => fun _ asked => asked.marked

/-- The placeholders of so many values after those bound so far. -/
def placeholders : Builder → Nat → Nat → List String
  | dataFusionPage | dataFusionStream => fun bound count =>
    (List.range' (bound + 1) count).map fun n => s!"${n}"
  | duckDBJson | duckDBArrow _ => fun _ count => List.replicate count "?"

end Builder

/-! ### Requests that differ in their values -/

inductive JsonKind where
  | null | bool | number | string | array | object
deriving Repr, DecidableEq

def JsonValue.kind : JsonValue → JsonKind
  | null => .null
  | bool _ => .bool
  | number _ => .number
  | string _ => .string
  | array _ => .array
  | object _ => .object

/-- Values of one kind, and lists of one length whose values are of one kind each. -/
def JsonValue.SameKind : JsonValue → JsonValue → Prop
  | array items, array others => List.Forall₂ (fun a b => a.kind = b.kind) items others
  | a, b => a.kind = b.kind

structure Predicate.SameShape (a b : Predicate) : Prop where
  col : a.col = b.col
  op : a.op = b.op
  val : Option.Rel JsonValue.SameKind a.val b.val

/-- Requests that differ only in the values of their predicates. -/
structure QueryRequest.SameShape (a b : QueryRequest) : Prop where
  rest : b = { a with predicates := b.predicates, having := b.having }
  predicates : List.Forall₂ Predicate.SameShape a.predicates b.predicates
  having : List.Forall₂ Predicate.SameShape a.having b.having

theorem JsonValue.SameKind.kind_eq {a b : JsonValue} (same : a.SameKind b) : a.kind = b.kind := by
  cases a with
  | array items =>
      cases b with
      | array others => rfl
      | _ => exact same
  | _ => exact same

theorem JsonValue.SameKind.asArray {a b : JsonValue} (same : a.SameKind b) :
    Option.Rel (List.Forall₂ fun a b => a.kind = b.kind) a.asArray b.asArray := by
  cases a with
  | array items =>
      cases b with
      | array others => exact .some same
      | _ => cases same
  | _ =>
      cases b with
      | array others => cases same
      | _ => exact .none

/-- The kinds of the literals a builder binds. -/
def Builder.binds : Builder → JsonKind → Bool
  | _, .array | _, .object => false
  | dataFusionPage, .null | dataFusionStream, .null => true
  | duckDBJson, .null | duckDBArrow _, .null => false
  | _, _ => true

theorem Builder.convert_isSome [JsonText] (builder : Builder) (value : JsonValue) :
    (builder.convert value).isSome = builder.binds value.kind := by
  have scalar := literal_iff value
  cases value with
  | number n =>
      have bound : (jsonToParam (.number n)).toOption.isSome := by
        cases n with
        | posInt n =>
            by_cases small : n.toNat < 2 ^ 63
            · rw [(small_posInt small).2]
              rfl
            · rw [(big_posInt small).2]
              rfl
        | _ => rfl
      cases builder with
      | duckDBJson | duckDBArrow _ => rw [convert, Option.isSome_map, bound]; rfl
      | _ => exact scalar.mpr trivial
  | _ => cases builder <;> rfl

/-! ### Tests -/

section
variable {α β : Type}

/-- The test of a predicate on what its name stands for. -/
def testOn (lhsOf : String → Option SqlExpr) (neq : String) (convert : JsonValue → Option α)
    (pred : Predicate) : Option (SqlExpr × Asked α) := do
  let lhs ← lhsOf pred.col
  let asked ← askedWith neq convert pred
  some (lhs, asked)

theorem askedWith_map (neq : String) (convert : JsonValue → Option α) (f : α → β)
    (pred : Predicate) : (askedWith neq convert pred).map (Asked.map f) =
      askedWith neq (fun value => (convert value).map f) pred := by
  unfold askedWith
  by_cases isNull : pred.op = "is_null"
  · simp [isNull, Asked.map]
  by_cases isNotNull : pred.op = "is_not_null"
  · simp [isNotNull, Asked.map]
  simp only [isNull, isNotNull, if_false]
  by_cases isIn : pred.op = "in"
  · simp only [isIn, if_true]
    rcases pred.val.bind JsonValue.asArray with _ | _ | ⟨item, items⟩
    · rfl
    · rfl
    · simp only [← Lists.map_mapM, Option.map_eq_map, Option.map_map]
      rfl
  · simp only [isIn, if_false]
    cases (comparisonOperator neq pred.op).toOption with
    | none => rfl
    | some operator =>
        cases pred.val with
        | none => rfl
        | some val => cases converted : convert val <;> simp [converted, Asked.map]

/-- What a predicate asks depends on the kinds of its values only, as far as the conversion
does. -/
theorem askedWith_congr {neq : String} {convert : JsonValue → Option α}
    (uniform : ∀ a b : JsonValue, a.kind = b.kind → convert a = convert b) {p q : Predicate}
    (same : p.SameShape q) : askedWith neq convert p = askedWith neq convert q := by
  obtain ⟨_, op, val⟩ := p
  obtain ⟨_, _, val'⟩ := q
  obtain ⟨_, rfl, vals⟩ := same
  unfold askedWith
  cases vals with
  | none => rfl
  | @some a b kinds =>
      have converted : convert a = convert b := uniform a b kinds.kind_eq
      have arrays := kinds.asArray
      simp only [Option.bind_some, Option.bind_eq_bind, converted]
      generalize a.asArray = items, b.asArray = others at arrays
      cases arrays with
      | none => rfl
      | some each =>
          have listed := Lists.mapM_congr (each.imp uniform)
          cases each with
          | nil => rfl
          | cons _ _ => simp only [listed]

theorem testOn_map (lhsOf : String → Option SqlExpr) (neq : String)
    (convert : JsonValue → Option α) (f : α → β) (pred : Predicate) :
    (testOn lhsOf neq convert pred).map (Prod.map id (Asked.map f)) =
      testOn lhsOf neq (fun value => (convert value).map f) pred := by
  simp only [testOn, ← askedWith_map]
  cases lhsOf pred.col with
  | none => rfl
  | some lhs => cases askedWith neq convert pred <;> rfl

theorem tests_map (lhsOf : String → Option SqlExpr) (neq : String)
    (convert : JsonValue → Option α) (f : α → β) (predicates : List Predicate) :
    predicates.mapM (testOn lhsOf neq fun value => (convert value).map f) =
      (predicates.mapM (testOn lhsOf neq convert)).map (List.map (Prod.map id (Asked.map f))) := by
  rw [Lists.map_mapM]
  simp only [testOn_map]

theorem boundValues_map (f : α → β) (tests : List (SqlExpr × Asked α)) :
    boundValues (tests.map (Prod.map id (Asked.map f))) = (boundValues tests).map f := by
  induction tests with
  | nil => rfl
  | cons test rest ih =>
      have here : (test.2.map f).values = test.2.values.map f := by
        cases test.2 <;> rfl
      rw [List.map_cons, boundValues_cons, boundValues_cons, List.map_append, ← ih, ← here]
      rfl

theorem Builder.write_map (builder : Builder) (f : α → β) (bound : Nat) (asked : Asked α) :
    builder.write bound (asked.map f) = builder.write bound asked := by
  cases builder <;> cases asked <;>
    simp [write, Asked.map, Asked.numbered, Asked.marked, Function.comp_def]

/-- The conditions of a builder do not depend on the values. -/
theorem conditionsFrom_map (builder : Builder) (f : α → β) (bound : Nat)
    (tests : List (SqlExpr × Asked α)) :
    conditionsFrom builder.write bound (tests.map (Prod.map id (Asked.map f))) =
      conditionsFrom builder.write bound tests := by
  induction tests generalizing bound with
  | nil => rfl
  | cons test rest ih =>
      have length : (test.2.map f).values.length = test.2.values.length := by
        cases test.2 <;> simp [Asked.map, Asked.values]
      simp only [List.map_cons, Prod.map, conditionsFrom, builder.write_map, length, ih, id]

end

/-! ### Queries before their conditions -/

/-- A query with its conditions put in. -/
def DuckDB.JsonQuery.fill (conditions having : List Condition) : JsonQuery → JsonQuery
  | row statement => row { statement with conditions, having }
  | wrapped pairs inner => wrapped pairs { inner with conditions, having }

section
variable [ToLowercase]

/-- What the name of a condition on a column stands for. -/
def whereLhs (schema : DatasetSchema) (name : String) : Option SqlExpr :=
  (schema.find name).toOption.map fun info => .column info.name

/-- What the name of a condition on groups stands for. -/
def havingLhs (plan : Option AggPlan) (name : String) : Option SqlExpr :=
  plan.bind fun plan => (plan.havingLhs name).toOption

theorem testWith_eq {α : Type} (neq : String) (convert : JsonValue → Option α)
    (schema : DatasetSchema) :
    testWith neq convert schema = testOn (whereLhs schema) neq convert := by
  funext pred
  rw [testWith, testOn, whereLhs]
  cases schema.find pred.col <;> rfl

/-- The tests of the `having` clause are those of its entries on what their names stand for. -/
theorem having_tests {α : Type} {request : QueryRequest} {plan : Option AggPlan} {neq : String}
    {convert : JsonValue → Option α}
    {asks : SqlExpr × Predicate → Except AppError (SqlExpr × Asked α)}
    (each : ∀ lhs pred, (asks (lhs, pred)).toOption =
      (askedWith neq convert pred).map fun asked => (lhs, asked)) :
    (request.havingPlan plan >>= List.mapM asks).toOption =
      request.having.mapM (testOn (havingLhs plan) neq convert) := by
  unfold QueryRequest.havingPlan
  cases entries : request.having with
  | nil => rfl
  | cons first rest =>
      rw [← entries, if_neg (by simp [entries])]
      cases plan with
      | none =>
          rw [Lists.mapM_eq_none_iff.mpr ⟨first, by simp [entries], rfl⟩]
          rfl
      | some plan =>
          rw [Fallible.toOption_bind, Fallible.toOption_mapM]
          simp only [Fallible.toOption_mapM]
          rw [Lists.mapM_bind_mapM]
          congr 1
          funext pred
          rw [Fallible.toOption_bind, testOn, havingLhs, Option.bind_some]
          cases plan.havingLhs pred.col with
          | error e => rfl
          | ok lhs =>
              simp only [Fallible.toOption_ok, Option.bind_some, each]
              cases askedWith neq convert pred <;> rfl

theorem DataFusion.where_conditions (schema : DatasetSchema) (predicates : List Predicate) :
    (Fallible.mapState (DataFusion.predToSql schema) predicates []).toOption =
      (predicates.mapM (testOn (whereLhs schema) "!=" fun value =>
        (jsonToScalar value).toOption)).map fun tests =>
          (conditionsFrom (fun bound asked => asked.numbered bound) 0 tests,
            boundValues tests) := by
  rw [@mapState_conditions _ _ _ (fun bound asked => asked.numbered bound) _ _
    (DataFusion.predToSql_eq schema), Fallible.toOption_map, dataFusion_tests, testWith_eq]
  rfl

theorem DataFusion.having_conditions (request : QueryRequest) (plan : Option AggPlan)
    (params : DataFusion.Params) :
    (request.havingPlan plan >>= fun resolved =>
      Fallible.mapState (fun (lhs, p) => DataFusion.predToSqlWithLhs lhs p) resolved
        params).toOption =
      (request.having.mapM (testOn (havingLhs plan) "!=" fun value =>
        (jsonToScalar value).toOption)).map fun tests =>
          (conditionsFrom (fun bound asked => asked.numbered bound) params.length tests,
            params ++ boundValues tests) := by
  have each (test : SqlExpr × Predicate) (params : DataFusion.Params) :
      DataFusion.predToSqlWithLhs test.1 test.2 params =
        (fun asked : SqlExpr × Asked ScalarValue =>
          ((⟨asked.1, asked.2.numbered params.length⟩ : Condition), params ++ asked.2.values)) <$>
            (fun asked => (test.1, asked)) <$> DataFusion.askedOf test.2 := by
    rw [DataFusion.predToSqlWithLhs_eq]
    cases DataFusion.askedOf test.2 <;> rfl
  have tests := @having_tests _ _ request plan "!=" (fun value => (jsonToScalar value).toOption)
    (fun test => (fun asked => (test.1, asked)) <$> DataFusion.askedOf test.2) fun lhs pred => by
      rw [Fallible.toOption_map, DataFusion.askedOf_toOption]
  rw [← tests, ← Fallible.toOption_map]
  congr 1
  cases request.havingPlan plan with
  | error e => rfl
  | ok resolved =>
      exact mapState_conditions each resolved params

theorem DuckDB.where_conditions [JsonText] (repository : DatasetRepository)
    (predicates : List Predicate) :
    (Fallible.mapState repository.applyPredicate predicates []).toOption =
      (predicates.mapM (testOn (whereLhs repository.schema) "<>" fun value =>
        (jsonToParam value).toOption)).map fun tests =>
          (conditionsFrom (fun _ asked => asked.marked) 0 tests, boundValues tests) := by
  rw [@mapState_conditions _ _ _ (fun _ asked => asked.marked) _ _
    repository.applyPredicate_eq, Fallible.toOption_map, duckDB_tests, testWith_eq]
  rfl

theorem DuckDB.having_conditions [JsonText] (request : QueryRequest) (plan : Option AggPlan)
    (bindVals : List ParamVal) :
    (DatasetRepository.havingClause request plan bindVals).toOption =
      (request.having.mapM (testOn (havingLhs plan) "<>" fun value =>
        (jsonToParam value).toOption)).map fun tests =>
          (conditionsFrom (fun _ asked => asked.marked) bindVals.length tests,
            bindVals ++ boundValues tests) := by
  have each (test : SqlExpr × Predicate) (bindVals : List ParamVal) :
      DuckDB.predicateToCondition test.1 test.2.col test.2 bindVals =
        (fun asked : SqlExpr × Asked ParamVal =>
          ((⟨asked.1, asked.2.marked⟩ : Condition), bindVals ++ asked.2.values)) <$>
            (fun asked => (test.1, asked)) <$> DuckDB.askedOf test.2.col test.2 := by
    rw [DuckDB.predicateToCondition_eq]
    cases DuckDB.askedOf test.2.col test.2 <;> rfl
  have tests := @having_tests _ _ request plan "<>" (fun value => (jsonToParam value).toOption)
    (fun test => (fun asked => (test.1, asked)) <$> DuckDB.askedOf test.2.col test.2)
      fun lhs pred => by rw [Fallible.toOption_map, DuckDB.askedOf_toOption]
  rw [← tests, ← Fallible.toOption_map]
  unfold DatasetRepository.havingClause
  congr 1
  cases request.havingPlan plan with
  | error e => rfl
  | ok resolved =>
      exact @mapState_conditions _ _ _ (fun _ asked => asked.marked) _ _ each resolved bindVals

namespace Builder
variable [JsonText]

omit [ToLowercase] [JsonText] in
/-- The end of a text: the page, or the limit that the request has itself. -/
def suffix (repository : DatasetRepository) (request : QueryRequest) : Builder → String
  | dataFusionPage | duckDBJson | duckDBArrow true => repository.limitClause request
  | dataFusionStream | duckDBArrow false => request.limit.elim "" fun limit => s!" LIMIT {limit}"

/-- A plain query of a request before its conditions are put in. -/
def plainFrame (repository : DatasetRepository) (request : QueryRequest) (plan : Option AggPlan)
    (suffix : String) : Option JsonQuery := do
  let select ← (repository.selectList request plan).toOption
  let orderBy ← (request.orderBySql repository.schema plan).toOption
  some (.row {
    distinct := request.distinct && plan.isNone
    select, table := repository.schema.name, conditions := []
    groupBy := plan.elim [] (·.groupCols)
    having := [], orderBy, suffix })

/-- A query whose rows are JSON objects, before its conditions are put in. -/
def jsonFrame (repository : DatasetRepository) (request : QueryRequest) (plan : Option AggPlan)
    (suffix : String) : Option JsonQuery := do
  let orderBy ← (request.orderBySql repository.schema plan).toOption
  let bare (distinct : Bool) (select : SelectList) : SelectStatement := {
    distinct, select, table := repository.schema.name, conditions := []
    groupBy := plan.elim [] (·.groupCols)
    having := [], orderBy, suffix }
  match plan with
  | some plan => do
    let items ← plan.selectItems.toOption
    some (.wrapped (DuckDB.groupJsonObjPairs repository.schema plan) (bare false (.list items)))
  | none => do
    let pairs ← (repository.rowJsonObjPairs request).toOption
    if request.distinct then do
      let select ← (repository.projection request).toOption
      some (.wrapped pairs (bare true select))
    else some (.row (bare false (.jsonObject pairs)))

def frame (repository : DatasetRepository) (request : QueryRequest) (plan : Option AggPlan)
    (builder : Builder) : Option JsonQuery :=
  let suffix := builder.suffix repository request
  match builder with
  | duckDBJson => jsonFrame repository request plan suffix
  | _ => plainFrame repository request plan suffix

/-- The text of a query with the tests of its clauses. -/
def text {α : Type} (builder : Builder) (query : JsonQuery)
    (tested having : List (SqlExpr × Asked α)) : String :=
  (query.fill (conditionsFrom builder.write 0 tested)
    (conditionsFrom builder.write (boundValues tested).length having)).sql

/-- What a builder emits, when it does. -/
def emitted (repository : DatasetRepository) (request : QueryRequest) (builder : Builder) :
    Option Emitted := do
  let plan ← (request.aggPlan repository.schema).toOption
  let query ← builder.frame repository request plan
  let tested ← request.predicates.mapM
    (testOn (whereLhs repository.schema) builder.neq builder.convert)
  let having ← request.having.mapM (testOn (havingLhs plan) builder.neq builder.convert)
  some ⟨builder.text query tested having, boundValues tested ++ boundValues having⟩

theorem dataFusion_emitted (repository : DatasetRepository) (request : QueryRequest)
    {builder : Builder} (plain : builder = dataFusionPage ∨ builder = dataFusionStream) :
    ((fun out : SelectStatement × DataFusion.Params => (⟨out.1.sql, out.2⟩ : Emitted)) <$>
      DataFusion.buildQuerySqlWithSuffix repository.schema request
        (builder.suffix repository request)).toOption = builder.emitted repository request := by
  have words : builder.neq = "!=" ∧
      builder.convert = (fun value => (jsonToScalar value).toOption) ∧
      @write ScalarValue builder = fun bound asked => asked.numbered bound := by
    rcases plain with rfl | rfl <;> exact ⟨rfl, rfl, rfl⟩
  obtain ⟨neq, convert, write⟩ := words
  unfold DataFusion.buildQuerySqlWithSuffix emitted
  cases request.aggPlan repository.schema with
  | error e => rfl
  | ok plan =>
      have selects : repository.selectList request plan =
          DataFusion.selectList repository.schema request plan := by
        cases plan <;> rfl
      have framed : builder.frame repository request plan =
          plainFrame repository request plan (builder.suffix repository request) := by
        rcases plain with rfl | rfl <;> rfl
      have tested := DataFusion.where_conditions repository.schema request.predicates
      simp only [Fallible.ok_bind, Fallible.toOption_ok, Fallible.toOption_map,
        Fallible.toOption_bind, Option.bind_eq_bind, Option.bind_some, framed, plainFrame, selects,
        tested, neq, convert, text, write]
      cases (DataFusion.selectList repository.schema request plan).toOption with
      | none => rfl
      | some select =>
          cases request.predicates.mapM
              (testOn (whereLhs repository.schema) "!=" fun value =>
                (jsonToScalar value).toOption) with
          | none => simp
          | some tests =>
              have having := DataFusion.having_conditions request plan (boundValues tests)
              rw [Fallible.toOption_bind] at having
              simp only [Option.bind_some, Option.map_some]
              rw [← Option.bind_assoc, having]
              cases request.having.mapM
                  (testOn (havingLhs plan) "!=" fun value => (jsonToScalar value).toOption) with
              | none => simp
              | some groups =>
                  cases (request.orderBySql repository.schema plan).toOption with
                  | none => rfl
                  | some orderBy =>
                      simp only [Option.bind_some, Option.map_some, Bool.and_comm]
                      rfl

theorem duckDBArrow_emitted (repository : DatasetRepository) (request : QueryRequest)
    (paged : Bool) :
    ((duckDBArrow paged).emit repository request).toOption =
      (duckDBArrow paged).emitted repository request := by
  have suffix : (duckDBArrow paged).suffix repository request =
      if paged then repository.limitClause request
      else request.limit.elim "" fun limit => s!" LIMIT {limit}" := by
    cases paged <;> rfl
  have write {α : Type} : @write α (duckDBArrow paged) = fun _ asked => asked.marked := rfl
  unfold emit DatasetRepository.queryArrowWriteInner emitted
  dsimp only
  cases request.aggPlan repository.schema with
  | error e => rfl
  | ok plan =>
      have tested := DuckDB.where_conditions repository request.predicates
      simp only [Fallible.ok_bind, Fallible.toOption_ok, Fallible.toOption_map,
        Fallible.toOption_bind, Option.bind_eq_bind, Option.bind_some, frame, plainFrame,
        tested, neq, convert, text, suffix, tests_map]
      cases (repository.selectList request plan).toOption with
      | none => rfl
      | some select =>
          cases request.predicates.mapM
              (testOn (whereLhs repository.schema) "<>" fun value =>
                (jsonToParam value).toOption) with
          | none => simp
          | some tests =>
              have having := DuckDB.having_conditions request plan (boundValues tests)
              simp only [Option.bind_some, Option.map_some, having]
              cases request.having.mapM
                  (testOn (havingLhs plan) "<>" fun value => (jsonToParam value).toOption) with
              | none => simp
              | some groups =>
                  cases (request.orderBySql repository.schema plan).toOption with
                  | none => rfl
                  | some orderBy =>
                      simp only [Option.bind_some, Option.map_some, conditionsFrom_map,
                        boundValues_map, List.length_map, List.map_append]
                      rfl

omit [JsonText] in
/-- Without a grouping no condition on groups is accepted. -/
theorem no_groups {α : Type} {predicates : List Predicate} {neq : String}
    {convert : JsonValue → Option α} {groups : List (SqlExpr × Asked α)}
    (tests : predicates.mapM (testOn (havingLhs none) neq convert) = some groups) :
    groups = [] := by
  cases Lists.mapM_eq_some_iff.mp tests with
  | nil => rfl
  | cons refused _ => cases refused

theorem duckDBJson_emitted (repository : DatasetRepository) (request : QueryRequest) :
    (duckDBJson.emit repository request).toOption = duckDBJson.emitted repository request := by
  have write {α : Type} : @write α duckDBJson = fun _ asked => asked.marked := rfl
  unfold emit DatasetRepository.query emitted
  dsimp only
  cases request.aggPlan repository.schema with
  | error e => rfl
  | ok plan =>
      have tested := DuckDB.where_conditions repository request.predicates
      simp only [Fallible.ok_bind, Fallible.toOption_ok, Fallible.toOption_map,
        Fallible.toOption_bind, Option.bind_eq_bind, Option.bind_some, frame, jsonFrame,
        tested, neq, convert, text, suffix, tests_map]
      cases request.predicates.mapM
          (testOn (whereLhs repository.schema) "<>" fun value => (jsonToParam value).toOption) with
      | none => simp
      | some tests =>
          have having := DuckDB.having_conditions request plan (boundValues tests)
          simp only [Option.bind_some, Option.map_some, having]
          cases grouped : request.having.mapM
              (testOn (havingLhs plan) "<>" fun value => (jsonToParam value).toOption) with
          | none => simp
          | some groups =>
              cases (request.orderBySql repository.schema plan).toOption with
              | none => rfl
              | some orderBy =>
                  simp only [Option.bind_some, Option.map_some, conditionsFrom_map,
                    boundValues_map, List.length_map]
                  cases plan with
                  | some plan =>
                      simp only [Fallible.toOption_bind]
                      cases plan.selectItems with
                      | error e => rfl
                      | ok items =>
                          simp only [Fallible.toOption_ok, Option.bind_some, Option.map_some,
                            List.map_append]
                          rfl
                  | none =>
                      have ungrouped : groups = [] := no_groups grouped
                      subst ungrouped
                      by_cases distinct : request.distinct = true
                      · simp only [if_pos distinct, Fallible.toOption_bind]
                        cases repository.rowJsonObjPairs request with
                        | error e => rfl
                        | ok pairs =>
                            cases repository.projection request with
                            | error e => rfl
                            | ok select =>
                                simp only [Fallible.toOption_ok, Option.bind_some,
                                  Option.map_some, List.map_append]
                                rfl
                      · simp only [if_neg distinct, Fallible.toOption_bind]
                        cases repository.rowJsonObjPairs request with
                        | error e => rfl
                        | ok pairs =>
                            simp only [Fallible.toOption_ok, Option.bind_some, Option.map_some,
                              List.map_append]
                            rfl

/-- Every builder emits what its plan, its frame and its tests amount to, in whatever order it
works them out. -/
theorem emit_toOption (repository : DatasetRepository) (request : QueryRequest)
    (builder : Builder) :
    (builder.emit repository request).toOption = builder.emitted repository request := by
  cases builder with
  | dataFusionPage =>
      have paged : DataFusion.buildQuerySql repository.schema request repository.maxPageSize
          repository.clampable = DataFusion.buildQuerySqlWithSuffix repository.schema request
            (dataFusionPage.suffix repository request) := rfl
      rw [emit, paged]
      exact dataFusion_emitted repository request (.inl rfl)
  | dataFusionStream =>
      have streamed : DataFusion.buildQueryStreamSql repository.schema request =
          DataFusion.buildQuerySqlWithSuffix repository.schema request
            (dataFusionStream.suffix repository request) := rfl
      rw [emit, streamed]
      exact dataFusion_emitted repository request (.inr rfl)
  | duckDBJson => exact duckDBJson_emitted repository request
  | duckDBArrow paged => exact duckDBArrow_emitted repository request paged

end Builder

end

end Datapress
