import Datapress.SchemaProofs
import Datapress.Sql.Reads

/-!
What the gate guarantees of the statements it accepts.

`visit_ok` says all that one callback does; the properties of a whole walk follow by induction over
the positions, with the names declared so far as the state.
-/

namespace Datapress.Sql

open Fallible

variable [ToLowercase] {parse : Parser} {sql : String} {allowed : List String} {maxDatasets : Nat}
  {validated : ValidatedSql} {stmt : Statement}

/-! ### The walk -/

/-- What a callback lets pass, given the names declared before its position. -/
def Passes (allowed : List String) : List String × Position → Prop
  | (declared, .relation _ name _) => name.last ∈ declared ∨ name.last ∈ allowed
  | (_, .expr (.function name _ _)) => name.last ∉ deniedFunctions
  | _ => True

namespace ScopeCheck

variable {checker next final : ScopeCheck} {position : Position} {positions : List Position}

/-- A callback that does not break. -/
structure Visited (checker : ScopeCheck) (position : Position) (next : ScopeCheck) : Prop where
  passes : Passes checker.allowed (checker.cteNames, position)
  allowed : next.allowed = checker.allowed
  cteNames : next.cteNames = position.declares ++ checker.cteNames
  referenced : ∀ name, name ∈ next.referenced ↔
    name ∈ checker.referenced ∨ unmasked (checker.cteNames, position) = some name

theorem visit_ok (visited : checker.visit position = .ok next) :
    Visited checker position next := by
  cases position with
  | query declared =>
    cases visited
    exact ⟨trivial, rfl, rfl, by simp [unmasked]⟩
  | relation scope name call =>
    simp only [visit] at visited
    split at visited
    · rename_i masked
      cases visited
      exact ⟨.inl masked, rfl, rfl, by simp [unmasked, masked]⟩
    · rename_i free
      split at visited
      · rename_i known
        cases visited
        refine ⟨.inr known, rfl, rfl, fun other => ?_⟩
        simp only [unmasked, if_neg free, List.mem_insert_iff, Option.some.injEq]
        constructor
        · rintro (same | before)
          · exact .inr same.symm
          · exact .inl before
        · rintro (before | same)
          · exact .inr before
          · exact .inl same.symm
      · cases visited
  | expr e =>
    cases e with
    | function name args modifiers =>
      simp only [visit] at visited
      split at visited
      · cases visited
      · rename_i harmless
        cases visited
        exact ⟨harmless, rfl, rfl, by simp [unmasked]⟩
    | identifier | compoundIdentifier | value | operator | subquery | matchAgainst =>
      cases visited
      exact ⟨trivial, rfl, rfl, by simp [unmasked]⟩
  | tableCommand scope name =>
    cases visited
    exact ⟨trivial, rfl, rfl, by simp [unmasked]⟩
  | call name =>
    cases visited
    exact ⟨trivial, rfl, rfl, by simp [unmasked]⟩

theorem run_passes (ran : checker.run positions = .ok final) :
    ∀ entry ∈ trace checker.cteNames positions, Passes checker.allowed entry := by
  induction positions generalizing checker with
  | nil => simp [trace]
  | cons position rest ih =>
    obtain ⟨next, visited, later⟩ := bind_ok_iff.mp ran
    have step := visit_ok visited
    have others := ih later
    rw [step.allowed, step.cteNames] at others
    exact List.forall_mem_cons.mpr ⟨step.passes, others⟩

theorem run_referenced (ran : checker.run positions = .ok final) (name : String) :
    name ∈ final.referenced ↔
      name ∈ checker.referenced ∨ name ∈ (trace checker.cteNames positions).filterMap unmasked := by
  induction positions generalizing checker with
  | nil => cases ran; simp [trace]
  | cons position rest ih =>
    obtain ⟨next, visited, later⟩ := bind_ok_iff.mp ran
    have step := visit_ok visited
    rw [ih later, step.referenced, step.cteNames, or_assoc]
    simp only [trace, List.filterMap_cons]
    cases unmasked (checker.cteNames, position) with
    | none => simp
    | some found =>
      simp only [Option.some.injEq, List.mem_cons]
      rw [eq_comm]

end ScopeCheck

/-! ### Validation -/

/-- All that acceptance says. -/
structure Accepted (parse : Parser) (sql : String) (allowed : List String)
    (validated : ValidatedSql) (stmt : Statement) : Prop where
  text : validated.sql = clean sql
  parsed : parse (clean sql) = .ok [stmt]
  readOnly : stmt.readOnly = true
  passes : ∀ entry ∈ stmt.trace, Passes allowed entry
  datasets : ∀ name, name ∈ validated.datasets ↔ name ∈ stmt.checkedRelations

theorem validate_ok (accepted : validate parse sql allowed maxDatasets = .ok validated) :
    ∃ stmt, Accepted parse sql allowed validated stmt := by
  simp only [validate] at accepted
  split at accepted
  · cases accepted
  · split at accepted
    · cases accepted
    · rename_i stmt parsed
      split at accepted
      · cases accepted
      · rename_i readOnly
        split at accepted
        · cases accepted
        · rename_i checker ran
          split at accepted
          · cases accepted
          · obtain rfl := Except.ok.inj accepted
            have referenced := ScopeCheck.run_referenced ran
            refine ⟨stmt, rfl, parsed, by simpa using readOnly, ScopeCheck.run_passes ran,
              fun name => ?_⟩
            rw [List.mem_insertionSort, referenced]
            simp [Statement.checkedRelations, Statement.trace]
    · cases accepted

/-! ### Another allowlist -/

theorem Accepted.baseTables_subset (accepted : Accepted parse sql allowed validated stmt)
    (compared : Compared parse sql) : baseTables parse sql ⊆ validated.datasets := by
  intro table read
  have checked := compared read
  rw [checkedTables, accepted.parsed] at checked
  exact (accepted.datasets table).mpr checked

/-- What the gate lists is allowed. -/
theorem Accepted.datasets_subset (accepted : Accepted parse sql allowed validated stmt) :
    validated.datasets ⊆ allowed := by
  intro name listed
  obtain ⟨⟨declared, position⟩, reached, same⟩ :=
    List.mem_filterMap.mp ((accepted.datasets name).mp listed)
  cases position with
  | relation scope table call =>
    simp only [unmasked] at same
    split at same
    · cases same
    · rename_i free
      cases same
      exact (accepted.passes _ reached).resolve_left free
  | query | expr | tableCommand | call => cases same


theorem ScopeCheck.visit_within {allowed others ctes referenced : List String}
    {checker : ScopeCheck} {position : Position}
    (visited : (ScopeCheck.mk allowed ctes referenced).visit position = .ok checker)
    (within : checker.referenced ⊆ others) :
    checker.allowed = allowed ∧
      (ScopeCheck.mk others ctes referenced).visit position =
        .ok ⟨others, checker.cteNames, checker.referenced⟩ := by
  cases position with
  | query declared => cases visited; exact ⟨rfl, rfl⟩
  | tableCommand scope name => cases visited; exact ⟨rfl, rfl⟩
  | call name => cases visited; exact ⟨rfl, rfl⟩
  | expr e =>
      cases e with
      | function name args modifiers =>
          simp only [visit] at visited ⊢
          split at visited
          · cases visited
          · rename_i harmless
            cases visited
            rw [if_neg harmless]
            exact ⟨rfl, rfl⟩
      | identifier | compoundIdentifier | value | operator | subquery | matchAgainst =>
          cases visited
          exact ⟨rfl, rfl⟩
  | relation scope name args =>
      simp only [visit] at visited ⊢
      split at visited
      · rename_i masked
        cases visited
        rw [if_pos masked]
        exact ⟨rfl, rfl⟩
      · rename_i bare
        split at visited
        · cases visited
          rw [if_neg bare, if_pos (within List.mem_insert_self)]
          exact ⟨rfl, rfl⟩
        · cases visited

theorem ScopeCheck.run_within {allowed others ctes referenced : List String}
    {checker : ScopeCheck} {positions : List Position}
    (ran : (ScopeCheck.mk allowed ctes referenced).run positions = .ok checker)
    (within : checker.referenced ⊆ others) :
    (ScopeCheck.mk others ctes referenced).run positions =
      .ok ⟨others, checker.cteNames, checker.referenced⟩ := by
  induction positions generalizing ctes referenced with
  | nil => cases ran; rfl
  | cons position rest ih =>
      obtain ⟨⟨same, ctes', referenced'⟩, visited, later⟩ := bind_ok_iff.mp ran
      have grows : referenced' ⊆ checker.referenced := by
        intro name found
        exact (run_referenced later name).mpr (.inl found)
      obtain ⟨rfl, again⟩ := visit_within visited (List.Subset.trans grows within)
      exact bind_ok_iff.mpr ⟨_, again, ih later⟩

/-- What is accepted is accepted alike wherever the datasets it reads are allowed. -/
theorem validate_within {others : List String}
    (accepted : validate parse sql allowed maxDatasets = .ok validated)
    (within : validated.datasets ⊆ others) :
    validate parse sql others maxDatasets = .ok validated := by
  simp only [validate] at accepted ⊢
  split at accepted
  · cases accepted
  · rename_i nonempty
    rw [if_neg nonempty]
    split at accepted
    · cases accepted
    · split at accepted
      · cases accepted
      · rename_i readOnly
        simp only [if_neg readOnly]
        split at accepted
        · cases accepted
        · rename_i checker ran
          have found : checker.referenced ⊆ validated.datasets := by
            split at accepted
            · cases accepted
            · obtain rfl := Except.ok.inj accepted
              intro name member
              exact (List.mem_insertionSort _).mpr member
          simp only [ScopeCheck.run_within ran (List.Subset.trans found within)]
          exact accepted
    · cases accepted

end Datapress.Sql
