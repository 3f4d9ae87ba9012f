import Datapress.Schema

/-! What a successful column lookup says about the name that was looked up. -/
namespace Datapress
variable [ToLowercase] {schema : DatasetSchema} {name : String} {column : ColumnInfo}

/-- A filter does not tell apart names that differ in case only. -/
theorem ColumnFilter.allows_congr (filter : ColumnFilter) {left right : String}
    (same : toLowercase left = toLowercase right) : filter.allows left = filter.allows right := by
  simp only [ColumnFilter.allows, same]

theorem ColumnFilter.allows_of_inactive {filter : ColumnFilter}
    (inactive : filter.isActive = false) (col : String) : filter.allows col = true := by
  simp only [ColumnFilter.isActive, Bool.or_eq_false_iff, Bool.not_eq_false'] at inactive
  simp [ColumnFilter.allows, inactive.1, inactive.2]

namespace DatasetSchema

theorem find_ok_iff :
    schema.find name = .ok column ↔ schema.byName (toLowercase name) = some column := by
  simp only [find]
  split
  · rename_i found same
    rw [same]
    constructor
    · intro ok; cases ok; rfl
    · intro ok; cases ok; rfl
  · rename_i missing
    rw [missing]
    constructor
    · intro impossible; cases impossible
    · intro impossible; cases impossible

theorem byName_mem {lowered : String} (found : schema.byName lowered = some column) :
    column ∈ schema.columns ∧ toLowercase column.name = lowered := by
  have member := List.mem_of_find?_eq_some found
  have same := List.find?_some found
  exact ⟨List.mem_reverse.mp member, by simpa using same⟩

theorem find_lowered (found : schema.find name = .ok column) :
    toLowercase column.name = toLowercase name :=
  (byName_mem (find_ok_iff.mp found)).2

theorem find_mem (found : schema.find name = .ok column) : column ∈ schema.columns :=
  (byName_mem (find_ok_iff.mp found)).1

/-- Every column of the schema is found under its own name, up to case. -/
theorem find_of_mem (member : column ∈ schema.columns) :
    ∃ found, schema.find column.name = .ok found ∧
      toLowercase found.name = toLowercase column.name := by
  have present : (schema.byName (toLowercase column.name)).isSome = true := by
    simp only [byName, List.find?_isSome]
    exact ⟨column, List.mem_reverse.mpr member, by simp⟩
  obtain ⟨found, same⟩ := Option.isSome_iff_exists.mp present
  exact ⟨found, find_ok_iff.mpr same, (byName_mem same).2⟩

theorem findVisible_ok_iff :
    schema.findVisible name = .ok column ↔
      schema.find name = .ok column ∧ schema.projectionFilter.allows name = true := by
  simp only [findVisible, Fallible.bind_ok_iff]
  constructor
  · rintro ⟨found, ok, shown⟩
    have case_blind := schema.projectionFilter.allows_congr (find_lowered ok)
    split at shown
    · rename_i allowed
      cases shown
      exact ⟨ok, case_blind ▸ allowed⟩
    · cases shown
  · rintro ⟨ok, allowed⟩
    refine ⟨column, ok, ?_⟩
    rw [schema.projectionFilter.allows_congr (find_lowered ok), if_pos allowed]

theorem find_error {e : AppError} (missing : schema.find name = .error e) :
    e = .unknownColumn name := by
  simp only [find] at missing
  split at missing
  · cases missing
  · cases missing; rfl

/-- A name that is hidden or absent is reported as unknown, under the name asked for. -/
theorem findVisible_error (unknown : ∀ column, schema.find name = .ok column →
    schema.projectionFilter.allows name = false) :
    schema.findVisible name = .error (.unknownColumn name) := by
  cases found : schema.find name with
  | error e =>
    rw [findVisible, found, find_error found]
    rfl
  | ok column =>
    have denied : schema.projectionFilter.allows column.name = false := by
      rw [schema.projectionFilter.allows_congr (find_lowered found)]
      exact unknown column found
    rw [findVisible, found, Fallible.ok_bind, denied]
    rfl

theorem findForPredicate_error (unknown : ∀ column, schema.find name = .ok column →
    schema.projectionFilter.allows name = false) :
    schema.findForPredicate name = .error (.unknownColumn name) := by
  rw [findForPredicate, findVisible_error unknown]
  rfl

theorem findForPredicate_ok_iff :
    schema.findForPredicate name = .ok column ↔
      schema.find name = .ok column ∧ schema.projectionFilter.allows name = true ∧
        schema.predicateFilter.allows name = true := by
  simp only [findForPredicate, Fallible.bind_ok_iff, findVisible_ok_iff]
  constructor
  · rintro ⟨found, ⟨ok, visible⟩, usable⟩
    have case_blind := schema.predicateFilter.allows_congr (find_lowered ok)
    split at usable
    · rename_i allowed
      cases usable
      exact ⟨ok, visible, case_blind ▸ allowed⟩
    · cases usable
  · rintro ⟨ok, visible, allowed⟩
    refine ⟨column, ⟨ok, visible⟩, ?_⟩
    rw [schema.predicateFilter.allows_congr (find_lowered ok), if_pos allowed]

end DatasetSchema
end Datapress
