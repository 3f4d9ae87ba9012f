import Datapress.Predicates
import Datapress.DataFusion.ResidentSql

/-! What the two backends make of one list of predicates: which lists they accept, and the
values that their conditions hold once the placeholders are read. -/
namespace Datapress
open DataFusion (ScalarValue Params jsonToScalar predToSql)
open DuckDB (ParamVal jsonToParam DatasetRepository)

/-- The value a parameter stands for. -/
def DuckDB.ParamVal.scalar : ParamVal → ScalarValue
  | .text value => .utf8 value
  | .int value => .int64 value
  | .float value => .float64 value
  | .bool value => .boolean value

/-! ### Conditions with their values -/

namespace DataFusion

def readTest (params : Params) : Test → Except AppError (Asked ScalarValue)
  | .isNull => .ok .isNull
  | .isNotNull => .ok .isNotNull
  | .oneOf placeholders => Asked.oneOf <$> placeholders.mapM (Resident.bound params)
  | .compare operator placeholder => Asked.compare operator <$> Resident.bound params placeholder

/-- Conditions with the value of each placeholder. -/
def readConditions (params : Params) (conditions : List Condition) :
    Except AppError (List (SqlExpr × Asked ScalarValue)) :=
  conditions.mapM fun condition => do
    let asked ← readTest params condition.test
    .ok (condition.lhs, asked)

end DataFusion

namespace DuckDB

/-- A test with the first of the values that are still unread. -/
def readTest : Test → List ParamVal → Option (Asked ParamVal × List ParamVal)
  | .isNull, values => some (.isNull, values)
  | .isNotNull, values => some (.isNotNull, values)
  | .oneOf placeholders, values =>
    if placeholders.length ≤ values.length then
      some (.oneOf (values.take placeholders.length), values.drop placeholders.length)
    else none
  | .compare operator _, value :: values => some (.compare operator value, values)
  | .compare _ _, [] => none

/-- Conditions with the values in the order of their placeholders, when there are as many. -/
def readConditions : List Condition → List ParamVal → Option (List (SqlExpr × Asked ParamVal))
  | [], [] => some []
  | [], _ :: _ => none
  | condition :: rest, values => do
    let (asked, values) ← readTest condition.test values
    let tests ← readConditions rest values
    some ((condition.lhs, asked) :: tests)

end DuckDB

/-- DataFusion spells inequality `!=`. -/
def respell (operator : String) : String := if operator = "<>" then "!=" else operator

/-- A test of DuckDB in the words of DataFusion. -/
def Asked.shared : Asked ParamVal → Asked ScalarValue
  | .compare operator value => .compare (respell operator) value.scalar
  | asked => asked.map ParamVal.scalar

def sharedTest (test : SqlExpr × Asked ParamVal) : SqlExpr × Asked ScalarValue :=
  (test.1, test.2.shared)

section
variable [ToLowercase] [JsonText]

/-- The two builders take or refuse a list together, and what they take asks the same tests of
the same columns with the same values. -/
def BuildersAgree (repository : DatasetRepository) (predicates : List Predicate) : Prop :=
  match Fallible.mapState (predToSql repository.schema) predicates [],
      Fallible.mapState repository.applyPredicate predicates [] with
  | .ok (conditions, params), .ok (conditions', bindVals) =>
    params = bindVals.map ParamVal.scalar ∧
    ∃ tests, DataFusion.readConditions params conditions = .ok (tests.map sharedTest) ∧
      DuckDB.readConditions conditions' bindVals = some tests
  | .error _, .error _ => True
  | _, _ => False

end

/-! ### Predicates -/

/-- A JSON value that can be bound. -/
def JsonValue.Literal : JsonValue → Prop
  | .array _ | .object _ => False
  | _ => True

def comparisonOps : List String := ["eq", "neq", "gt", "gte", "lt", "lte", "like", "ilike"]

/-- The values of a predicate that are bound. -/
def Predicate.bound (pred : Predicate) : List JsonValue :=
  if pred.op = "is_null" ∨ pred.op = "is_not_null" then []
  else if pred.op = "in" then (pred.val.bind JsonValue.asArray).getD []
  else pred.val.toList

/-- A predicate with a known operator and the values it needs. -/
def Predicate.Proper (pred : Predicate) : Prop :=
  pred.op = "is_null" ∨ pred.op = "is_not_null" ∨
  (pred.op = "in" ∨ pred.op ∈ comparisonOps) ∧ pred.bound ≠ [] ∧
    ∀ value ∈ pred.bound, value.Literal

/-- The values that DuckDB binds as DataFusion does: not `null`, and no integer beyond the
signed range. -/
def JsonValue.Portable : JsonValue → Prop
  | .null => False
  | .number (.posInt n) => n.toNat < 2 ^ 63
  | _ => True

theorem small_posInt {n : UInt64} (small : n.toNat < 2 ^ 63) [JsonText] :
    jsonToScalar (.number (.posInt n)) = .ok (.int64 (.ofNat n.toNat)) ∧
      jsonToParam (.number (.posInt n)) = .ok (.int (.ofNat n.toNat)) := by
  simp only [jsonToScalar, jsonToParam, JsonNumber.asI64, if_pos small, and_self]

theorem big_posInt {n : UInt64} (big : ¬ n.toNat < 2 ^ 63) [JsonText] :
    jsonToScalar (.number (.posInt n)) = .ok (.uint64 n) ∧
      jsonToParam (.number (.posInt n)) = .ok (.float (.ofInt n.toNat)) := by
  simp only [jsonToScalar, jsonToParam, JsonNumber.asI64, if_neg big, JsonNumber.asU64,
    JsonNumber.asF64, and_self]

theorem literal_iff (value : JsonValue) :
    (jsonToScalar value).toOption.isSome ↔ value.Literal := by
  cases value with
  | array _ => exact iff_of_false nofun id
  | object _ => exact iff_of_false nofun id
  | number n =>
      cases n with
      | posInt n =>
          by_cases small : n.toNat < 2 ^ 63
          · rw [(@small_posInt n small unusedJsonText).1]
            exact iff_of_true rfl trivial
          · rw [(@big_posInt n small unusedJsonText).1]
            exact iff_of_true rfl trivial
      | _ => exact iff_of_true rfl trivial
  | _ => exact iff_of_true rfl trivial

theorem portable_iff [JsonText] {value : JsonValue} (literal : value.Literal) :
    (jsonToScalar value).toOption = (jsonToParam value).toOption.map ParamVal.scalar ↔
      value.Portable := by
  cases value with
  | array _ => exact literal.elim
  | object _ => exact literal.elim
  | null => exact iff_of_false nofun id
  | number n =>
      cases n with
      | posInt n =>
          by_cases small : n.toNat < 2 ^ 63
          · rw [(small_posInt small).1, (small_posInt small).2]
            exact iff_of_true rfl small
          · rw [(big_posInt small).1, (big_posInt small).2]
            exact iff_of_false nofun small
      | _ => exact iff_of_true rfl trivial
  | _ => exact iff_of_true rfl trivial

/-! ### What is asked, without the errors -/

/-- What a predicate asks when `convert` binds its values. -/
def askedWith {α : Type} (neq : String) (convert : JsonValue → Option α) (pred : Predicate) :
    Option (Asked α) :=
  if pred.op = "is_null" then some .isNull
  else if pred.op = "is_not_null" then some .isNotNull
  else if pred.op = "in" then
    match pred.val.bind JsonValue.asArray with
    | some (item :: items) => Asked.oneOf <$> (item :: items).mapM convert
    | _ => none
  else do
    let operator ← (comparisonOperator neq pred.op).toOption
    let value ← pred.val
    Asked.compare operator <$> convert value

theorem DataFusion.askedOf_toOption (pred : Predicate) :
    (DataFusion.askedOf pred).toOption =
      askedWith "!=" (fun value => (jsonToScalar value).toOption) pred := by
  unfold DataFusion.askedOf askedWith
  by_cases isNull : pred.op = "is_null"
  · rw [if_pos isNull, if_pos isNull]
    rfl
  rw [if_neg isNull, if_neg isNull]
  by_cases isNotNull : pred.op = "is_not_null"
  · rw [if_pos isNotNull, if_pos isNotNull]
    rfl
  rw [if_neg isNotNull, if_neg isNotNull]
  by_cases isIn : pred.op = "in"
  · simp only [if_pos isIn]
    cases pred.val with
    | none => rfl
    | some val =>
        simp only [Option.bind_some]
        rcases val.asArray with _ | _ | ⟨item, items⟩
        · rfl
        · rfl
        · simp only [Fallible.toOption_map, Fallible.toOption_mapM]
          rfl
  · simp only [if_neg isIn]
    cases pred.val with
    | none => cases comparisonOperator "!=" pred.op <;> rfl
    | some val =>
        simp only [Fallible.toOption_bind, Option.bind_eq_bind, Option.bind_some]
        cases (comparisonOperator "!=" pred.op).toOption with
        | none => rfl
        | some operator => cases (jsonToScalar val).toOption <;> rfl

theorem DuckDB.askedOf_toOption [JsonText] (label : String) (pred : Predicate) :
    (DuckDB.askedOf label pred).toOption =
      askedWith "<>" (fun value => (jsonToParam value).toOption) pred := by
  unfold DuckDB.askedOf askedWith
  by_cases isNull : pred.op = "is_null"
  · rw [if_pos isNull, if_pos isNull]
    rfl
  rw [if_neg isNull, if_neg isNull]
  by_cases isNotNull : pred.op = "is_not_null"
  · rw [if_pos isNotNull, if_pos isNotNull]
    rfl
  rw [if_neg isNotNull, if_neg isNotNull]
  by_cases isIn : pred.op = "in"
  · rw [if_pos isIn, if_pos isIn]
    rcases pred.val.bind JsonValue.asArray with _ | _ | ⟨item, items⟩
    · rfl
    · rfl
    · simp only [Fallible.toOption_map, Fallible.toOption_mapM]
      rfl
  · rw [if_neg isIn, if_neg isIn]
    cases pred.val with
    | none => cases comparisonOperator "<>" pred.op <;> rfl
    | some val =>
        simp only [Fallible.toOption_bind, Option.bind_eq_bind, Option.bind_some]
        cases (comparisonOperator "<>" pred.op).toOption with
        | none => rfl
        | some operator => cases (jsonToParam val).toOption <;> rfl

theorem operator_shared (op : String) :
    (comparisonOperator "!=" op).toOption = (comparisonOperator "<>" op).toOption.map respell := by
  unfold comparisonOperator
  split <;> rfl

theorem operator_known (neq op : String) :
    (comparisonOperator neq op).toOption.isSome ↔ op ∈ comparisonOps := by
  unfold comparisonOperator comparisonOps
  split <;> simp_all

section
variable {α β : Type} {neq : String} {convert : JsonValue → Option α} {pred : Predicate}

theorem askedWith_isSome_iff :
    (askedWith neq convert pred).isSome ↔ pred.op = "is_null" ∨ pred.op = "is_not_null" ∨
      (pred.op = "in" ∨ pred.op ∈ comparisonOps) ∧ pred.bound ≠ [] ∧
        ∀ value ∈ pred.bound, (convert value).isSome := by
  unfold askedWith Predicate.bound
  by_cases isNull : pred.op = "is_null"
  · simp [isNull]
  by_cases isNotNull : pred.op = "is_not_null"
  · simp [isNotNull]
  simp only [isNull, isNotNull, if_false, false_or, or_self]
  by_cases isIn : pred.op = "in"
  · simp only [isIn, if_true, true_or, true_and]
    rcases pred.val.bind JsonValue.asArray with _ | _ | ⟨item, items⟩
    · simp
    · simp
    · have some_mapM : ((item :: items).mapM convert).isSome ↔
          ∀ value ∈ item :: items, (convert value).isSome := by
        rw [← Option.ne_none_iff_isSome, ne_eq, Lists.mapM_eq_none_iff]
        simp [Option.isSome_iff_ne_none]
      rw [Option.map_eq_map, Option.isSome_map, some_mapM]
      simp
  · simp only [isIn, if_false, false_or]
    rw [← operator_known neq pred.op]
    cases (comparisonOperator neq pred.op).toOption with
    | none => simp
    | some operator =>
        cases pred.val with
        | none => simp
        | some val => cases convert val <;> simp

/-- Two conversions ask the same of a predicate when they agree on its values. -/
theorem askedWith_shared_iff {convert : JsonValue → Option ScalarValue}
    {convert' : JsonValue → Option ParamVal} (asked : (askedWith "!=" convert pred).isSome) :
    askedWith "!=" convert pred = (askedWith "<>" convert' pred).map Asked.shared ↔
      ∀ value ∈ pred.bound, convert value = (convert' value).map ParamVal.scalar := by
  revert asked
  unfold askedWith Predicate.bound
  by_cases isNull : pred.op = "is_null"
  · simp [isNull, Asked.shared, Asked.map]
  by_cases isNotNull : pred.op = "is_not_null"
  · simp [isNotNull, Asked.shared, Asked.map]
  simp only [isNull, isNotNull, if_false, or_self]
  by_cases isIn : pred.op = "in"
  · simp only [isIn, if_true]
    rcases pred.val.bind JsonValue.asArray with _ | _ | ⟨item, items⟩
    · simp
    · simp
    · intro asked
      rw [Option.map_eq_map, Option.isSome_map] at asked
      have found : ∀ value ∈ item :: items, (convert value).isSome := by
        intro value member
        rw [Option.isSome_iff_ne_none]
        intro unbound
        rw [Lists.mapM_eq_none_iff.mpr ⟨value, member, unbound⟩] at asked
        cases asked
      rw [Option.getD_some, ← Lists.mapM_eq_map_iff found, Option.map_eq_map, Option.map_eq_map,
        Option.map_map]
      have shared : Asked.shared ∘ Asked.oneOf = Asked.oneOf ∘ List.map ParamVal.scalar := rfl
      rw [shared, ← Option.map_map]
      exact (Option.map_injective fun _ _ same => Asked.oneOf.inj same).eq_iff
  · simp only [isIn, if_false, operator_shared]
    cases (comparisonOperator "<>" pred.op).toOption with
    | none => simp
    | some operator =>
        cases pred.val with
        | none => simp
        | some val =>
            intro asked
            cases converted : convert val with
            | none => simp [converted] at asked
            | some scalar =>
                cases converted' : convert' val <;>
                  simp [converted, converted', Asked.shared]

end

/-! ### Reading the placeholders -/

namespace DataFusion

theorem bound_values (before values after : Params) :
    ((List.range' (before.length + 1) values.length).map fun n => s!"${n}").mapM
      (Resident.bound (before ++ values ++ after)) = .ok values := by
  induction values generalizing before with
  | nil => rfl
  | cons value rest ih =>
      have later := ih (before ++ [value])
      rw [List.length_append, List.length_singleton] at later
      simp only [List.append_assoc, List.cons_append, List.nil_append] at later
      rw [List.length_cons, List.range'_succ, List.map_cons, List.mapM_cons, List.append_assoc,
        List.cons_append, Resident.bound_spec, later]
      rfl

theorem readTest_numbered (before after : Params) (asked : Asked ScalarValue) :
    readTest (before ++ asked.values ++ after) (asked.numbered before.length) = .ok asked := by
  cases asked with
  | isNull => rfl
  | isNotNull => rfl
  | oneOf values =>
      rw [Asked.numbered, readTest, Asked.values, bound_values]
      rfl
  | compare operator value =>
      rw [Asked.numbered, readTest, Asked.values, List.append_assoc, List.singleton_append,
        Resident.bound_spec]
      rfl

/-- The numbered conditions hold the values they were made for. -/
theorem readConditions_numbered (before after : Params)
    (tests : List (SqlExpr × Asked ScalarValue)) :
    readConditions (before ++ boundValues tests ++ after)
      (conditionsFrom (fun bound asked => asked.numbered bound) before.length tests) =
        .ok tests := by
  induction tests generalizing before with
  | nil => rfl
  | cons test rest ih =>
      have here := readTest_numbered before (boundValues rest ++ after) test.2
      have later := ih (before ++ test.2.values)
      simp only [List.append_assoc, List.length_append] at here later
      rw [boundValues_cons, conditionsFrom, readConditions, List.mapM_cons]
      simp only [List.append_assoc, here, Fallible.ok_bind]
      rw [readConditions] at later
      rw [later]
      rfl

end DataFusion

namespace DuckDB

theorem readTest_marked (asked : Asked ParamVal) (later : List ParamVal) :
    readTest asked.marked (asked.values ++ later) = some (asked, later) := by
  cases asked with
  | isNull => rfl
  | isNotNull => rfl
  | oneOf values => simp [Asked.marked, Asked.values, readTest]
  | compare operator value => rfl

theorem readConditions_marked (bound : Nat) (tests : List (SqlExpr × Asked ParamVal)) :
    readConditions (conditionsFrom (fun _ asked => asked.marked) bound tests)
      (boundValues tests) = some tests := by
  induction tests generalizing bound with
  | nil => rfl
  | cons test rest ih =>
      rw [boundValues_cons, conditionsFrom, readConditions, readTest_marked]
      simp only [Option.bind_eq_bind, Option.bind_some, ih]

end DuckDB

/-! ### Lists of predicates -/

theorem values_shared (asked : Asked ParamVal) :
    asked.shared.values = asked.values.map ParamVal.scalar := by
  cases asked <;> rfl

theorem boundValues_shared (tests : List (SqlExpr × Asked ParamVal)) :
    boundValues (tests.map sharedTest) = (boundValues tests).map ParamVal.scalar := by
  induction tests with
  | nil => rfl
  | cons test rest ih =>
      rw [List.map_cons, boundValues_cons, boundValues_cons, List.map_append, ih]
      exact congrArg (· ++ _) (values_shared test.2)

section
variable [ToLowercase] [JsonText]

/-- The test of a predicate on a column of a schema. -/
def testWith {α : Type} (neq : String) (convert : JsonValue → Option α) (schema : DatasetSchema)
    (pred : Predicate) : Option (SqlExpr × Asked α) := do
  let info ← (schema.find pred.col).toOption
  let asked ← askedWith neq convert pred
  some (.column info.name, asked)

omit [JsonText] in
theorem dataFusion_tests (schema : DatasetSchema) (predicates : List Predicate) :
    (predicates.mapM (DataFusion.asks schema)).toOption =
      predicates.mapM (testWith "!=" (fun value => (jsonToScalar value).toOption) schema) := by
  rw [Fallible.toOption_mapM]
  congr 1
  funext pred
  simp only [DataFusion.asks, testWith, Fallible.toOption_bind, DataFusion.askedOf_toOption]
  rfl

theorem duckDB_tests (schema : DatasetSchema) (predicates : List Predicate) :
    (predicates.mapM (DuckDB.asks schema)).toOption =
      predicates.mapM (testWith "<>" (fun value => (jsonToParam value).toOption) schema) := by
  rw [Fallible.toOption_mapM]
  congr 1
  funext pred
  simp only [DuckDB.asks, testWith, Fallible.toOption_bind, DuckDB.askedOf_toOption]
  rfl

theorem buildersAgree_iff (repository : DatasetRepository) (predicates : List Predicate) :
    BuildersAgree repository predicates ↔
      predicates.mapM (testWith "!=" (fun value => (jsonToScalar value).toOption)
        repository.schema) =
      (predicates.mapM (testWith "<>" (fun value => (jsonToParam value).toOption)
        repository.schema)).map (List.map sharedTest) := by
  rw [BuildersAgree, @mapState_conditions _ _ _ (fun bound asked => asked.numbered bound) _ _
      (DataFusion.predToSql_eq repository.schema),
    @mapState_conditions _ _ _ (fun _ asked => asked.marked) _ _
      repository.applyPredicate_eq, ← dataFusion_tests, ← duckDB_tests]
  generalize predicates.mapM (DataFusion.asks repository.schema) = tests
  generalize predicates.mapM (DuckDB.asks repository.schema) = tests'
  cases tests with
  | error e => cases tests' <;> simp
  | ok tests =>
      cases tests' with
      | error e => simp
      | ok tests' =>
          have numbered := DataFusion.readConditions_numbered [] [] tests
          have marked := DuckDB.readConditions_marked 0 tests'
          simp only [List.nil_append, List.append_nil, List.length_nil] at numbered
          simp only [Except.map_ok, List.nil_append, List.length_nil, numbered, marked,
            Fallible.toOption_ok, Option.map_some, Option.some_inj, Except.ok.injEq]
          constructor
          · rintro ⟨_, tests'', same, rfl⟩
            exact same
          · rintro rfl
            exact ⟨boundValues_shared tests', tests', rfl, rfl⟩

omit [ToLowercase] in
/-- What DuckDB can bind is a literal. -/
theorem literal_of_param {value : JsonValue} (bound : (jsonToParam value).toOption.isSome) :
    (jsonToScalar value).toOption.isSome := by
  rw [literal_iff]
  cases value with
  | array _ => cases bound
  | object _ => cases bound
  | _ => trivial

omit [JsonText] in
theorem testWith_isSome_iff {α : Type} {neq : String} {convert : JsonValue → Option α}
    {schema : DatasetSchema} {pred : Predicate} :
    (testWith neq convert schema pred).isSome ↔
      (schema.find pred.col).isOk ∧ (askedWith neq convert pred).isSome := by
  rw [testWith]
  cases schema.find pred.col with
  | error e => simp [Except.isOk, Except.toBool]
  | ok info => cases askedWith neq convert pred <;> simp [Except.isOk, Except.toBool]

omit [JsonText] in
theorem proper_iff {schema : DatasetSchema} {pred : Predicate} :
    (testWith "!=" (fun value => (jsonToScalar value).toOption) schema pred).isSome ↔
      (schema.find pred.col).isOk ∧ pred.Proper := by
  rw [testWith_isSome_iff, askedWith_isSome_iff]
  simp only [literal_iff, Predicate.Proper]

theorem shared_iff {schema : DatasetSchema} {pred : Predicate}
    (known : (schema.find pred.col).isOk) (proper : pred.Proper) :
    testWith "!=" (fun value => (jsonToScalar value).toOption) schema pred =
      (testWith "<>" (fun value => (jsonToParam value).toOption) schema pred).map sharedTest ↔
    ∀ value ∈ pred.bound, value.Portable := by
  have asked := (testWith_isSome_iff.mp (proper_iff.mpr ⟨known, proper⟩)).2
  have literal (value : JsonValue) (member : value ∈ pred.bound) : value.Literal := by
    rcases proper with isNull | isNotNull | ⟨_, _, literals⟩
    · simp [Predicate.bound, isNull] at member
    · simp [Predicate.bound, isNotNull] at member
    · exact literals value member
  have portable : (∀ value ∈ pred.bound, value.Portable) ↔ ∀ value ∈ pred.bound,
      (jsonToScalar value).toOption = (jsonToParam value).toOption.map ParamVal.scalar :=
    forall₂_congr fun value member => (portable_iff (literal value member)).symm
  rw [portable, ← askedWith_shared_iff asked, testWith, testWith]
  cases found : schema.find pred.col with
  | error e =>
      rw [found] at known
      cases known
  | ok info =>
      simp only [Fallible.toOption_ok, Option.bind_eq_bind, Option.bind_some]
      cases askedWith "!=" (fun value => (jsonToScalar value).toOption) pred <;>
        cases askedWith "<>" (fun value => (jsonToParam value).toOption) pred <;>
          simp [sharedTest]

/-- The builders agree on a list exactly when some predicate is not one for the schema, or
when all its values are portable. -/
theorem builders_agree_iff (repository : DatasetRepository) (predicates : List Predicate) :
    BuildersAgree repository predicates ↔
      (∃ pred ∈ predicates, ¬ ((repository.schema.find pred.col).isOk ∧ pred.Proper)) ∨
        ∀ pred ∈ predicates, ∀ value ∈ pred.bound, value.Portable := by
  rw [buildersAgree_iff]
  by_cases improper :
      ∃ pred ∈ predicates, ¬ ((repository.schema.find pred.col).isOk ∧ pred.Proper)
  · obtain ⟨pred, member, refused⟩ := improper
    have refusedBoth : testWith "!=" (fun value => (jsonToScalar value).toOption)
          repository.schema pred = none ∧
        testWith "<>" (fun value => (jsonToParam value).toOption) repository.schema pred =
          none := by
      rw [← proper_iff] at refused
      refine ⟨Option.not_isSome_iff_eq_none.mp refused, Option.not_isSome_iff_eq_none.mp ?_⟩
      intro taken
      apply refused
      rw [testWith_isSome_iff, askedWith_isSome_iff] at taken ⊢
      refine ⟨taken.1, taken.2.imp_right (Or.imp_right fun other => ?_)⟩
      exact ⟨other.1, other.2.1, fun value bound => literal_of_param (other.2.2 value bound)⟩
    rw [Lists.mapM_eq_none_iff.mpr ⟨pred, member, refusedBoth.1⟩,
      Lists.mapM_eq_none_iff.mpr ⟨pred, member, refusedBoth.2⟩]
    exact iff_of_true rfl (.inl ⟨pred, member, refused⟩)
  · have each : ∀ pred ∈ predicates,
        (repository.schema.find pred.col).isOk ∧ pred.Proper :=
      fun pred member => by_contra fun refused => improper ⟨pred, member, refused⟩
    rw [or_iff_right improper,
      Lists.mapM_eq_map_iff fun pred member => proper_iff.mpr (each pred member)]
    exact forall₂_congr fun pred member => shared_iff (each pred member).1 (each pred member).2

end

/-! ### Runs -/

section
attribute [local instance] asciiToLowercase unusedJsonText

def ordersRepository : DatasetRepository :=
  .new (.new "orders" [⟨"id", .int, "BIGINT", false⟩]) 1000

def idEquals (val : JsonValue) : Predicate := { col := "ID", op := "eq", val := some val }

def idIn (vals : List JsonValue) : Predicate := { col := "ID", op := "in", val := some (.array vals) }

/-- DuckDB refuses `null`, and binds the integers past the signed range as doubles. -/
theorem builders_disagree :
    ¬ BuildersAgree ordersRepository [idIn [.number (.posInt 7), .null]] ∧
      ¬ BuildersAgree ordersRepository [idEquals (.number (.posInt 18446744073709551615))] := by
  constructor
  · intro agree
    exact agree
  · intro agree
    exact absurd agree.1 (by decide)

end

end Datapress
