import Datapress.Emission
import Datapress.StatementTokens

/-! The conditions that stand in an emitted text: they are read back, and their placeholders
follow the values one by one. -/
namespace Datapress
open SqlText

section
variable {α : Type}

def Asked.Spelled : Asked α → Prop
  | compare operator _ => operator ∈ comparisons
  | _ => True

theorem askedWith_spelled {neq : String} (known : neq ∈ comparisons)
    {convert : JsonValue → Option α} {pred : Predicate} {asked : Asked α}
    (asks : askedWith neq convert pred = some asked) : asked.Spelled := by
  unfold askedWith at asks
  split at asks
  · cases asks
    trivial
  split at asks
  · cases asks
    trivial
  split at asks
  · split at asks
    · obtain ⟨values, _, rfl⟩ := Option.map_eq_some_iff.mp asks
      trivial
    · cases asks
  · obtain ⟨operator, spelled, asks⟩ := Option.bind_eq_some_iff.mp asks
    obtain ⟨value, _, asks⟩ := Option.bind_eq_some_iff.mp asks
    obtain ⟨bound, _, rfl⟩ := Option.map_eq_some_iff.mp asks
    change operator ∈ comparisons
    unfold comparisonOperator at spelled
    split at spelled <;> cases spelled <;> first | exact known | decide

/-- The values of a test are those of the predicate, converted one by one. -/
theorem askedWith_values {neq : String} {convert : JsonValue → Option α} {pred : Predicate}
    {asked : Asked α} (asks : askedWith neq convert pred = some asked) :
    pred.bound.mapM convert = some asked.values := by
  unfold askedWith at asks
  unfold Predicate.bound
  by_cases isNull : pred.op = "is_null"
  · rw [if_pos isNull] at asks
    cases asks
    rw [if_pos (.inl isNull)]
    rfl
  by_cases isNotNull : pred.op = "is_not_null"
  · rw [if_neg isNull, if_pos isNotNull] at asks
    cases asks
    rw [if_pos (.inr isNotNull)]
    rfl
  rw [if_neg isNull, if_neg isNotNull] at asks
  rw [if_neg (by simp [isNull, isNotNull])]
  by_cases isIn : pred.op = "in"
  · rw [if_pos isIn] at asks ⊢
    split at asks
    · rename_i item items found
      obtain ⟨values, converted, rfl⟩ := Option.map_eq_some_iff.mp asks
      rw [found]
      exact converted
    · cases asks
  · rw [if_neg isIn] at asks ⊢
    obtain ⟨operator, _, asks⟩ := Option.bind_eq_some_iff.mp asks
    obtain ⟨value, found, asks⟩ := Option.bind_eq_some_iff.mp asks
    obtain ⟨bound, converted, rfl⟩ := Option.map_eq_some_iff.mp asks
    rw [found, Option.toList_some, List.mapM_cons, converted]
    rfl

theorem testOn_some {lhsOf : String → Option SqlExpr} {neq : String}
    {convert : JsonValue → Option α} {pred : Predicate} {test : SqlExpr × Asked α}
    (tested : testOn lhsOf neq convert pred = some test) :
    lhsOf pred.col = some test.1 ∧ askedWith neq convert pred = some test.2 := by
  obtain ⟨lhs, found, tested⟩ := Option.bind_eq_some_iff.mp tested
  obtain ⟨asked, asks, tested⟩ := Option.bind_eq_some_iff.mp tested
  cases tested
  exact ⟨found, asks⟩

theorem tests_values {lhsOf : String → Option SqlExpr} {neq : String}
    {convert : JsonValue → Option α} {predicates : List Predicate}
    {tests : List (SqlExpr × Asked α)}
    (tested : List.Forall₂ (fun pred test => testOn lhsOf neq convert pred = some test)
      predicates tests) :
    (predicates.flatMap Predicate.bound).mapM convert = some (boundValues tests) := by
  induction tested with
  | nil => rfl
  | cons head _ ih =>
      rw [List.flatMap_cons, List.mapM_append, askedWith_values (testOn_some head).2, ih]
      rfl

theorem Builder.write_written (builder : Builder) (bound : Nat) {asked : Asked α}
    (spelled : asked.Spelled) : (builder.write bound asked).Written := by
  have question : lex "?" = some [.placeholder "?"] := rfl
  cases asked with
  | isNull => cases builder <;> trivial
  | isNotNull => cases builder <;> trivial
  | oneOf values =>
      cases builder with
      | duckDBJson | duckDBArrow _ =>
          intro p member
          obtain ⟨_, _, rfl⟩ := List.mem_map.mp member
          exact question
      | _ =>
          intro p member
          obtain ⟨n, _, rfl⟩ := List.mem_map.mp member
          exact lex_placeholder n
  | compare operator value =>
      cases builder with
      | duckDBJson | duckDBArrow _ => exact ⟨spelled, question⟩
      | _ => exact ⟨spelled, lex_placeholder (bound + 1)⟩

theorem Builder.write_placeholders (builder : Builder) (bound : Nat) (asked : Asked α) :
    (builder.write bound asked).placeholders = builder.placeholders bound asked.values.length := by
  cases builder <;> cases asked <;>
    simp [write, placeholders, Asked.numbered, Asked.marked, Test.placeholders, Asked.values]

theorem Builder.placeholders_append (builder : Builder) (bound first second : Nat) :
    builder.placeholders bound (first + second) =
      builder.placeholders bound first ++ builder.placeholders (bound + first) second := by
  cases builder with
  | duckDBJson | duckDBArrow _ => exact (List.replicate_append_replicate).symm
  | _ =>
      have later : bound + 1 + first = bound + first + 1 := by omega
      simp only [placeholders]
      rw [← List.map_append, ← later, List.range'_append_1]

/-- The conditions of tests, with their placeholders in order. -/
theorem conditionsFrom_written (builder : Builder) (bound : Nat)
    {tests : List (SqlExpr × Asked α)} (spelled : ∀ test ∈ tests, test.2.Spelled) :
    (∀ condition ∈ conditionsFrom builder.write bound tests, condition.test.Written) ∧
      (conditionsFrom builder.write bound tests).flatMap (·.test.placeholders) =
        builder.placeholders bound (boundValues tests).length := by
  induction tests generalizing bound with
  | nil =>
      refine ⟨List.forall_mem_nil _, ?_⟩
      cases builder <;> rfl
  | cons test rest ih =>
      obtain ⟨here, others⟩ := List.forall_mem_cons.mp spelled
      obtain ⟨written, placeholders⟩ := ih (bound + test.2.values.length) others
      rw [conditionsFrom]
      refine ⟨List.forall_mem_cons.mpr ⟨builder.write_written bound here, written⟩, ?_⟩
      rw [List.flatMap_cons, placeholders, boundValues_cons, List.length_append,
        builder.placeholders_append, builder.write_placeholders]

end

end Datapress
