import Datapress.DataFusion.Builder
import Datapress.DuckDB.Repository

/-! What a predicate asks of its left-hand side, apart from how a builder writes it down: the
values stay with the test, and a builder replaces them by its placeholders. -/
namespace Datapress
open DataFusion (ScalarValue Params)
open DuckDB (ParamVal)

/-- The test of a predicate with its values. -/
inductive Asked (α : Type) where
  | isNull
  | isNotNull
  | oneOf (values : List α)
  | compare (operator : String) (value : α)
deriving Repr, DecidableEq

namespace Asked
variable {α β : Type}

def values : Asked α → List α
  | isNull | isNotNull => []
  | oneOf values => values
  | compare _ value => [value]

def map (f : α → β) : Asked α → Asked β
  | isNull => isNull
  | isNotNull => isNotNull
  | oneOf values => oneOf (values.map f)
  | compare operator value => compare operator (f value)

/-- The test with numbered placeholders, after `bound` values that are bound already. -/
def numbered (bound : Nat) : Asked α → Test
  | isNull => .isNull
  | isNotNull => .isNotNull
  | oneOf values => .oneOf ((List.range' (bound + 1) values.length).map fun n => s!"${n}")
  | compare operator _ => .compare operator s!"${bound + 1}"

/-- The test with the placeholders of DuckDB. -/
def marked : Asked α → Test
  | isNull => .isNull
  | isNotNull => .isNotNull
  | oneOf values => .oneOf (values.map fun _ => "?")
  | compare operator _ => .compare operator "?"

end Asked

/-- The conditions of a list of tests after `bound` values; `write` gives a test placeholders. -/
def conditionsFrom {α : Type} (write : Nat → Asked α → Test) :
    Nat → List (SqlExpr × Asked α) → List Condition
  | _, [] => []
  | bound, (lhs, asked) :: rest =>
    ⟨lhs, write bound asked⟩ :: conditionsFrom write (bound + asked.values.length) rest

/-- The values of a list of tests, in their order. -/
def boundValues {α : Type} (tests : List (SqlExpr × Asked α)) : List α :=
  tests.flatMap (·.2.values)

theorem boundValues_cons {α : Type} (test : SqlExpr × Asked α) (rest : List (SqlExpr × Asked α)) :
    boundValues (test :: rest) = test.2.values ++ boundValues rest := rfl

/-- A builder that writes each test and appends its values does so for a list. -/
theorem mapState_conditions {α γ ε : Type} {write : Nat → Asked α → Test}
    {build : γ → List α → Except ε (Condition × List α)}
    {asks : γ → Except ε (SqlExpr × Asked α)}
    (each : ∀ item values, build item values = (fun test =>
      (⟨test.1, write values.length test.2⟩, values ++ test.2.values)) <$> asks item)
    (items : List γ) (values : List α) :
    Fallible.mapState build items values = (fun tests =>
      (conditionsFrom write values.length tests, values ++ boundValues tests)) <$>
        items.mapM asks := by
  induction items generalizing values with
  | nil => exact congrArg Except.ok (Prod.ext rfl (List.append_nil values).symm)
  | cons item rest ih =>
      rw [Fallible.mapState, List.mapM_cons, each]
      cases asks item with
      | error e => rfl
      | ok test =>
          simp only [Except.map_ok, Fallible.ok_bind, ih]
          cases rest.mapM asks with
          | error e => rfl
          | ok tests =>
              apply congrArg Except.ok
              simp only [conditionsFrom, boundValues_cons, List.length_append, List.append_assoc]

/-! ### The builder of DataFusion -/

namespace DataFusion

def askedOf (pred : Predicate) : Except AppError (Asked ScalarValue) :=
  if pred.op = "is_null" then .ok .isNull
  else if pred.op = "is_not_null" then .ok .isNotNull
  else
    match pred.val with
    | none => .error (.invalidValue s!"'{pred.op}' requires a value")
    | some val =>
      if pred.op = "in" then
        match val.asArray with
        | some (item :: items) => Asked.oneOf <$> (item :: items).mapM jsonToScalar
        | _ => .error (.invalidValue "'in' needs a non-empty array")
      else do
        let operator ← comparisonOperator "!=" pred.op
        let value ← jsonToScalar val
        .ok (.compare operator value)

theorem bindJsons_eq (items : List JsonValue) (params : Params) :
    Fallible.mapState bindJson items params = (fun scalars =>
      ((List.range' (params.length + 1) scalars.length).map fun n => s!"${n}", params ++ scalars)) <$>
        items.mapM jsonToScalar := by
  induction items generalizing params with
  | nil => exact congrArg Except.ok (Prod.ext rfl (List.append_nil params).symm)
  | cons item rest ih =>
      rw [Fallible.mapState, List.mapM_cons, bindJson]
      cases jsonToScalar item with
      | error e => rfl
      | ok scalar =>
          simp only [Fallible.ok_bind, Params.bind, ih]
          cases rest.mapM jsonToScalar with
          | error e => rfl
          | ok scalars =>
              apply congrArg Except.ok
              simp only [List.length_append, List.length_cons, List.length_nil, Nat.zero_add,
                List.range'_succ, List.map_cons, List.append_assoc, List.singleton_append]

theorem predToSqlWithLhs_eq (lhs : SqlExpr) (pred : Predicate) (params : Params) :
    predToSqlWithLhs lhs pred params = (fun asked =>
      (⟨lhs, asked.numbered params.length⟩, params ++ asked.values)) <$> askedOf pred := by
  unfold predToSqlWithLhs askedOf
  by_cases isNull : pred.op = "is_null"
  · rw [if_pos isNull, if_pos isNull]
    exact congrArg Except.ok (Prod.ext rfl (List.append_nil params).symm)
  rw [if_neg isNull, if_neg isNull]
  by_cases isNotNull : pred.op = "is_not_null"
  · rw [if_pos isNotNull, if_pos isNotNull]
    exact congrArg Except.ok (Prod.ext rfl (List.append_nil params).symm)
  rw [if_neg isNotNull, if_neg isNotNull]
  cases pred.val with
  | none => rfl
  | some val =>
      by_cases isIn : pred.op = "in"
      · simp only [if_pos isIn]
        rcases val.asArray with _ | _ | ⟨item, items⟩
        · rfl
        · rfl
        · simp only [bindJsons_eq]
          cases (item :: items).mapM jsonToScalar <;> rfl
      · simp only [if_neg isIn]
        cases comparisonOperator "!=" pred.op with
        | error e => rfl
        | ok operator =>
            simp only [Fallible.ok_bind, bindJson]
            cases jsonToScalar val <;> rfl

/-- The column of a predicate with what is asked of it. -/
def asks [ToLowercase] (schema : DatasetSchema) (pred : Predicate) :
    Except AppError (SqlExpr × Asked ScalarValue) := do
  let info ← schema.find pred.col
  let asked ← askedOf pred
  .ok (.column info.name, asked)

theorem predToSql_eq [ToLowercase] (schema : DatasetSchema) (pred : Predicate)
    (params : Params) :
    predToSql schema pred params = (fun test =>
      (⟨test.1, test.2.numbered params.length⟩, params ++ test.2.values)) <$>
        asks schema pred := by
  rw [predToSql, asks]
  cases schema.find pred.col with
  | error e => rfl
  | ok info =>
      simp only [Fallible.ok_bind, predToSqlWithLhs_eq]
      cases askedOf pred <;> rfl

end DataFusion

/-! ### The builder of DuckDB -/

namespace DuckDB
variable [JsonText]

def askedOf (label : String) (pred : Predicate) : Except AppError (Asked ParamVal) :=
  if pred.op = "is_null" then .ok .isNull
  else if pred.op = "is_not_null" then .ok .isNotNull
  else if pred.op = "in" then
    match pred.val.bind JsonValue.asArray with
    | some (item :: items) => Asked.oneOf <$> (item :: items).mapM jsonToParam
    | _ => .error (.invalidValue s!"'in' requires a non-empty array for column {label}")
  else do
    let operator ← comparisonOperator "<>" pred.op
    match pred.val with
    | none => .error (.invalidValue s!"operator '{pred.op}' requires a value for column {label}")
    | some val =>
      let value ← jsonToParam val
      .ok (.compare operator value)

theorem predicateToCondition_eq (lhs : SqlExpr) (label : String) (pred : Predicate)
    (bindVals : List ParamVal) :
    predicateToCondition lhs label pred bindVals = (fun asked =>
      (⟨lhs, asked.marked⟩, bindVals ++ asked.values)) <$> askedOf label pred := by
  unfold predicateToCondition askedOf
  split
  case h_1 isNull =>
    rw [if_pos isNull]
    exact congrArg Except.ok (Prod.ext rfl (List.append_nil bindVals).symm)
  case h_2 isNotNull =>
    rw [if_neg (by rw [isNotNull]; decide), if_pos isNotNull]
    exact congrArg Except.ok (Prod.ext rfl (List.append_nil bindVals).symm)
  case h_3 isIn =>
    rw [if_neg (by rw [isIn]; decide), if_neg (by rw [isIn]; decide), if_pos isIn]
    rcases pred.val.bind JsonValue.asArray with _ | _ | ⟨item, items⟩
    · rfl
    · rfl
    · cases ran : (item :: items).mapM jsonToParam with
      | error e => simp only [ran]; rfl
      | ok values =>
          have length := (Fallible.mapM_ok_iff.mp ran).length_eq
          have marks : (item :: items).map (fun _ => "?") = values.map fun _ => "?" := by
            rw [List.map_const', List.map_const', length]
          simp only [ran, marks]
          rfl
  case h_4 notNull notNotNull notIn =>
    rw [if_neg notNull, if_neg notNotNull, if_neg notIn]
    cases comparisonOperator "<>" pred.op with
    | error e => rfl
    | ok operator =>
        simp only [Fallible.ok_bind]
        cases pred.val with
        | none => rfl
        | some val =>
            simp only
            cases jsonToParam val <;> rfl

/-- The column of a predicate with what is asked of it. -/
def asks [ToLowercase] (schema : DatasetSchema) (pred : Predicate) :
    Except AppError (SqlExpr × Asked ParamVal) := do
  let info ← schema.find pred.col
  let asked ← askedOf info.name pred
  .ok (.column info.name, asked)

theorem DatasetRepository.applyPredicate_eq [ToLowercase] (repository : DatasetRepository)
    (pred : Predicate) (bindVals : List ParamVal) :
    repository.applyPredicate pred bindVals = (fun test =>
      (⟨test.1, test.2.marked⟩, bindVals ++ test.2.values)) <$>
        asks repository.schema pred := by
  rw [applyPredicate, asks]
  cases repository.schema.find pred.col with
  | error e => rfl
  | ok info =>
      simp only [Fallible.ok_bind, predicateToCondition_eq]
      cases askedOf info.name pred <;> rfl

end DuckDB

end Datapress
