import Mathlib.Data.List.Nodup
import Datapress.EnforcementProofs
import Datapress.DuckDB.Repository

/-! The names under which a grouping plan returns its outputs, and what refers to them. -/
namespace Datapress
open QueryRequest (sortName)

/-- The outputs of a plan with the expressions that they are, in `SELECT` order. -/
def AggPlan.outputs (plan : AggPlan) : List (String × Except AppError SqlExpr) :=
  plan.groupCols.map (fun g => (g, .ok (.column g))) ++
    plan.aggs.map fun a => (a.outputAlias, a.sqlExpr)

theorem AggPlan.outputs_names (plan : AggPlan) : plan.outputs.map (·.1) = plan.outputNames := by
  simp [outputs, outputNames, Function.comp_def]

section
variable [ToLowercase]

/-- The output names differ by more than case, every name of `order_by` and `having` that is
accepted refers to one output, and a JSON row has each of its keys once. -/
structure AggPlan.Unambiguous (plan : AggPlan) (schema : DatasetSchema) : Prop where
  distinct : (plan.outputNames.map toLowercase).Nodup
  orderBy : ∀ col name, sortName schema (some plan) col = .ok name →
    ∃ i : Nat, plan.outputNames[i]? = some name ∧
      ∀ (j : Nat) other, plan.outputNames[j]? = some other →
        toLowercase other = toLowercase col → j = i
  having : ∀ name lhs, plan.havingLhs name = .ok lhs →
    ∃ (i : Nat) (output : String), plan.outputs[i]? = some (output, .ok lhs) ∧
      ∀ (j : Nat) other, plan.outputs[j]? = some other →
        toLowercase other.1 = toLowercase name → j = i
  keys : ((DuckDB.groupJsonObjPairs schema plan).map (·.key)).Nodup

/-- No column is grouped by twice, no two aggregations of the request have one name, given
or implied, and none has the name of a group column. -/
structure QueryRequest.NamesApart (request : QueryRequest) : Prop where
  groupBy : (request.groupBy.map toLowercase).Nodup
  aggregations : (request.rawAggs.map fun a => toLowercase a.outputName).Nodup
  apart : ∀ column ∈ request.groupBy, ∀ a ∈ request.rawAggs,
    toLowercase column ≠ toLowercase a.outputName

variable {request : QueryRequest} {schema : DatasetSchema} {plan : AggPlan}

theorem QueryRequest.Planned.lowered (planned : request.Planned plan) :
    plan.outputNames.map toLowercase = request.groupBy.map toLowercase ++
      request.rawAggs.map fun a => toLowercase a.outputName := by
  have groups : request.groupBy.map toLowercase = plan.groupCols.map toLowercase :=
    Lists.map_eq_of_forall₂ planned.groupCols fun _ _ same => same.symm
  have aggs : request.rawAggs.map (fun a => toLowercase a.outputName) =
      plan.aggs.map fun spec => toLowercase spec.outputAlias :=
    Lists.map_eq_of_forall₂ planned.aggs fun _ _ same => by rw [same.1]
  rw [groups, aggs, AggPlan.outputNames, List.map_append, List.map_map]
  rfl

theorem namesApart_iff (planned : request.Planned plan) :
    (plan.outputNames.map toLowercase).Nodup ↔ request.NamesApart := by
  rw [planned.lowered, List.nodup_append]
  constructor
  · rintro ⟨groups, aggs, apart⟩
    refine ⟨groups, aggs, ?_⟩
    intro column grouped a listed
    exact apart _ (List.mem_map_of_mem grouped) _
      (List.mem_map_of_mem (f := fun a => toLowercase a.outputName) listed)
  · rintro ⟨groups, aggs, apart⟩
    refine ⟨groups, aggs, ?_⟩
    simp only [List.forall_mem_map]
    exact apart

theorem sortName_mem {col name : String} (sorted : sortName schema (some plan) col = .ok name) :
    name ∈ plan.outputNames ∧ toLowercase name = toLowercase col := by
  simp only [sortName] at sorted
  split at sorted
  case h_1 n found =>
    cases sorted
    exact ⟨List.mem_of_find?_eq_some found, by simpa using List.find?_some found⟩
  case h_2 => cases sorted

theorem havingLhs_mem {name : String} {lhs : SqlExpr} (resolved : plan.havingLhs name = .ok lhs) :
    ∃ output, (output, .ok lhs) ∈ plan.outputs ∧ toLowercase output = toLowercase name := by
  simp only [AggPlan.havingLhs] at resolved
  split at resolved
  case h_1 g found =>
    cases resolved
    refine ⟨g, List.mem_append_left _ ?_, by simpa using List.find?_some found⟩
    exact List.mem_map.mpr ⟨g, List.mem_of_find?_eq_some found, rfl⟩
  case h_2 =>
    split at resolved
    case h_1 a found =>
      refine ⟨a.outputAlias, List.mem_append_right _ ?_, by simpa using List.find?_some found⟩
      exact List.mem_map.mpr ⟨a, List.mem_of_find?_eq_some found, by rw [resolved]⟩
    case h_2 => cases resolved

theorem keys_outputNames (schema : DatasetSchema) (plan : AggPlan) :
    (DuckDB.groupJsonObjPairs schema plan).map (·.key) = plan.outputNames := by
  simp [DuckDB.groupJsonObjPairs, AggPlan.outputNames, Function.comp_def]

theorem unambiguous_of_distinct (schema : DatasetSchema)
    (distinct : (plan.outputNames.map toLowercase).Nodup) : plan.Unambiguous schema := by
  constructor
  case distinct => exact distinct
  case orderBy =>
    intro col name sorted
    obtain ⟨member, same⟩ := sortName_mem sorted
    rw [← same]
    exact Lists.only_of_distinct distinct member
  case having =>
    intro name lhs resolved
    obtain ⟨output, member, same⟩ := havingLhs_mem resolved
    have keyed : (plan.outputs.map fun output => toLowercase output.1).Nodup := by
      rw [← AggPlan.outputs_names, List.map_map] at distinct
      exact distinct
    obtain ⟨i, here, only⟩ := Lists.only_of_distinct keyed member
    rw [← same]
    exact ⟨i, output, here, only⟩
  case keys =>
    rw [keys_outputNames]
    exact List.Nodup.of_map _ distinct

/-- The outputs of a plan are unambiguous exactly when the request names them apart. -/
theorem agg_outputs_unambiguous_iff (planned : request.aggPlan schema = .ok (some plan)) :
    plan.Unambiguous schema ↔ request.NamesApart := by
  rw [← namesApart_iff (QueryRequest.aggPlan_some planned)]
  constructor
  · exact AggPlan.Unambiguous.distinct
  · exact unambiguous_of_distinct schema

end

section
attribute [local instance] asciiToLowercase

/-- Sales by region. -/
def salesSchema : DatasetSchema :=
  .new "sales" [⟨"Region", .utf8, "Utf8", true⟩, ⟨"Amount", .int, "Int64", true⟩]

def totals (outputAlias : Option String) : QueryRequest where
  groupBy := ["region"]
  aggregations := [{ op := "sum", col := some "Amount" }, { op := "count", outputAlias }]

theorem agg_outputs_unambiguous_totals : ∃ plan,
    (totals none).aggPlan salesSchema = .ok (some plan) ∧ plan.Unambiguous salesSchema := by
  have planned : (totals none).aggPlan salesSchema = .ok (some ⟨["Region"],
      [⟨some "Amount", .sum, "sum_amount"⟩, ⟨none, .count, "count"⟩]⟩) := by decide +kernel
  refine ⟨_, planned, (agg_outputs_unambiguous_iff planned).mpr ⟨?_, ?_, ?_⟩⟩
  all_goals decide +kernel

/-- The count is called like the group column. -/
theorem agg_outputs_ambiguous : ∃ (request : QueryRequest) (plan : AggPlan),
    request.aggPlan salesSchema = .ok (some plan) ∧ ¬ plan.Unambiguous salesSchema := by
  have planned : (totals (some "REGION")).aggPlan salesSchema = .ok (some ⟨["Region"],
      [⟨some "Amount", .sum, "sum_amount"⟩, ⟨none, .count, "REGION"⟩]⟩) := by decide +kernel
  refine ⟨_, _, planned, fun unambiguous => ?_⟩
  exact absurd unambiguous.distinct (by decide +kernel)

end
end Datapress
