import Datapress.Sql.AllowlistProofs
import Datapress.Sql.Noninterference

/-!
Hidden columns and the statements the gate accepts.

A statement that reaches no hidden column past the gate computes the same from any two contents of
the datasets that agree on the visible columns. The gate does not look everywhere: the wildcard of
a derived table on the right of a join goes through.
-/

namespace Datapress.Sql

open Datapress Relational

/-! ### What is compared -/

section Datasets

variable [ToLowercase] {Value : Type}

/-- The published datasets as an engine finds them, under their lower-case names. -/
def Registry.catalog (registry : Registry) : Catalog := fun name =>
  if name ∈ registry.names then (registry.schema name).toOption else none

/-- Two contents agree on every column that no projection filter denies. -/
def Agree (catalog : Catalog) (content other : Content Value) : Prop :=
  ∀ dataset schema, catalog dataset = some schema →
    List.Forall₂ (fun row row' => ∀ index column, schema.columns[index]? = some column →
      schema.projectionFilter.allows column.name = true → row index = row' index)
      (content dataset) (other dataset)

/-- The result does not depend on what is hidden. -/
def Statement.Noninterfering (engine : Engine Value) (catalog : Catalog) (stmt : Statement) :
    Prop :=
  ∀ content other, Agree catalog content other →
    stmt.eval engine catalog content = stmt.eval engine catalog other

/-- No common table expression bears the name of a published dataset. -/
def Unshadowed (registry : Registry) (stmt : Statement) : Prop :=
  ∀ position ∈ stmt.positions, ∀ name ∈ position.declares, name ∉ registry.names

/-- The lowered names of the columns that the datasets of an accepted statement hide. -/
def HiddenName (registry : Registry) (validated : ValidatedSql) (name : String) : Prop :=
  ∃ dataset ∈ validated.datasets, ∃ schema, registry.schema dataset = .ok schema ∧
    ∃ column ∈ schema.columns, schema.projectionFilter.allows column.name = false ∧
      toLowercase column.name = name

end Datasets

section Secrecy

variable [ToLowercase] {Value : Type} {engine : Engine Value} {catalog : Catalog}
  {content other : Content Value} {parse : Parser} {registry : Registry} {sql : String}
  {validated : ValidatedSql} {stmt : Statement}

omit [ToLowercase] in
theorem Registry.catalog_eq_some {name : String} {schema : DatasetSchema}
    (known : registry.catalog name = some schema) :
    name ∈ registry.names ∧ registry.schema name = .ok schema := by
  unfold Registry.catalog at known
  split at known
  · rename_i published
    refine ⟨published, ?_⟩
    cases answer : registry.schema name with
    | error e => rw [answer] at known; cases known
    | ok found =>
      rw [answer] at known
      rw [Option.some.inj known]
  · cases known

/-- Contents that agree are masked to the same content. -/
theorem Agree.mask_eq (agree : Agree catalog content other) (null : Value) :
    content.mask null catalog = other.mask null catalog := by
  funext dataset
  unfold Content.mask
  cases known : catalog dataset with
  | none => rfl
  | some schema =>
    have rows := agree dataset schema known
    generalize content dataset = left at rows ⊢
    generalize other dataset = right at rows ⊢
    induction rows with
    | nil => rfl
    | cons same _ ih =>
      simp only [List.map_cons] at ih ⊢
      rw [ih]
      congr 1
      funext index
      cases at_ : schema.columns[index]? with
      | none => rfl
      | some column =>
        by_cases allowed : schema.projectionFilter.allows column.name = true
        · simp only [allowed, if_true]
          exact same index column at_ allowed
        · simp only [allowed, if_false, Bool.false_eq_true]

/-! ### What acceptance makes sure of -/

/-- What is declared before a position is declared at some position. -/
theorem declared_of_trace {start : List String} {positions : List Position}
    {entry : List String × Position} (member : entry ∈ trace start positions) :
    ∀ name ∈ entry.1, name ∈ start ∨ ∃ position ∈ positions, name ∈ position.declares := by
  induction positions generalizing start with
  | nil => cases member
  | cons position rest ih =>
    intro name declared
    rcases List.mem_cons.mp member with rfl | later
    · exact .inl declared
    · rcases ih later name declared with before | ⟨other, inRest, declares⟩
      · rcases List.mem_append.mp before with here | before
        · exact .inr ⟨position, List.mem_cons_self, here⟩
        · exact .inl before
      · exact .inr ⟨other, List.mem_cons_of_mem _ inRest, declares⟩

namespace Authorized

variable (accepted : Authorized parse registry sql validated stmt)
include accepted

/-- A relation that bears the name of a dataset has been compared. -/
theorem listed_of_relation (free : Unshadowed registry stmt) {scope : List String}
    {name : ObjectName} {call : Bool} (member : .relation scope name call ∈ stmt.positions)
    (published : name.last ∈ registry.names) : name.last ∈ validated.datasets := by
  obtain ⟨declared, inTrace⟩ := mem_positions_iff.mp member
  rw [accepted.datasets]
  refine List.mem_filterMap.mpr ⟨_, inTrace, ?_⟩
  have undeclared : name.last ∉ declared := by
    intro shadowed
    rcases declared_of_trace inTrace name.last shadowed with impossible | ⟨other, inside, declares⟩
    · cases impossible
    · exact free other inside name.last declares published
  simp only [unmasked, if_neg undeclared]

/-- A name in column position is no hidden name. -/
theorem not_hidden {name : String} (named : name ∈ stmt.columnRefs)
    (lowered : ∃ text, name = toLowercase text) : ¬ HiddenName registry validated name := by
  rintro ⟨dataset, listed, schema, found, column, inSchema, denied, rfl⟩
  obtain ⟨column', find, same⟩ := DatasetSchema.find_of_mem inSchema
  have respects := accepted.enforced dataset listed schema found
  have allowed := (respects.columns _ named column' (DatasetSchema.find_ok_iff.mp find)).1
  rw [schema.projectionFilter.allows_congr same, denied] at allowed
  cases allowed

/-- The gate has looked at every position of an accepted statement. -/
theorem guards (free : Unshadowed registry stmt) :
    Guards registry.catalog (HiddenName registry validated) stmt.positions := by
  intro position member
  have named : ∀ name, position.columnRef = some name → name ∈ stmt.columnRefs := fun name same =>
    List.mem_filterMap.mpr ⟨position, member, same⟩
  cases position with
  | relation scope name call =>
    intro schema known column inHeader hides
    obtain ⟨published, found⟩ := Registry.catalog_eq_some known
    obtain ⟨info, inSchema, rfl⟩ := List.mem_map.mp inHeader
    exact ⟨name.last, accepted.listed_of_relation free member published, schema, found, info,
      inSchema, by simpa using hides, rfl⟩
  | expr e =>
    cases e with
    | identifier ident => exact accepted.not_hidden (named _ rfl) ⟨ident, rfl⟩
    | compoundIdentifier idents =>
      intro last isLast
      exact accepted.not_hidden (named _ (by simp [Position.columnRef, isLast])) ⟨last, rfl⟩
    | value | operator | subquery | function | matchAgainst => trivial
  | query | tableCommand | call => trivial

/-- Where something is hidden, the wildcard walk has found no wildcard. -/
theorem excused : Excused (HiddenName registry validated) true stmt.hasWildcard := by
  intro _
  by_cases secrets : ∃ name, HiddenName registry validated name
  · left
    obtain ⟨_, dataset, listed, schema, found, column, _, denied, _⟩ := secrets
    apply (accepted.enforced dataset listed schema found).wildcards
    by_contra inactive
    rw [ColumnFilter.allows_of_inactive (by simpa using inactive)] at denied
    cases denied
  · exact .inr fun name hidden => secrets ⟨name, hidden⟩

/-- A statement that exposes nothing computes the same from masked contents. -/
theorem eval_mask (content : Content Value) (standard : engine.Standard)
    (free : Unshadowed registry stmt) (unexposed : stmt.exposes registry.catalog = false) :
    stmt.eval engine registry.catalog (content.mask engine.null registry.catalog) =
      stmt.eval engine registry.catalog content := by
  have guards := accepted.guards free
  have excused := accepted.excused
  cases stmt with
  | query body =>
    have start : Setting engine (HiddenName registry validated) [] [] [] [] :=
      ⟨standard, rfl, .nil, List.forall_mem_nil _⟩
    exact Query.eval_mask start body guards unexposed excused
  | explainTable | other => rfl

end Authorized

/-- What an accepted statement returns does not depend on hidden columns, unless it exposes them in
a way the gate does not look at. -/
theorem accepted_noninterfering (reparse : parse (clean (clean sql)) = parse (clean sql))
    (accepted : validateAndAuthorize parse registry sql = .ok validated)
    (standard : engine.Standard) :
    ∃ stmt, parse (clean sql) = .ok [stmt] ∧
      (Unshadowed registry stmt → stmt.exposes registry.catalog = false →
        stmt.Noninterfering engine registry.catalog) := by
  obtain ⟨stmt, facts⟩ := validateAndAuthorize_ok reparse accepted
  refine ⟨stmt, facts.parsed, fun free unexposed content other agree => ?_⟩
  rw [← facts.eval_mask content standard free unexposed,
    ← facts.eval_mask other standard free unexposed, agree.mask_eq]

end Secrecy

/-! ### Runs -/

section SecrecyRuns
attribute [local instance] asciiToLowercase

/-- The names a select item gives its columns. -/
private def itemNames (header : List Column) : SelectItem → List String
  | .expr _ (some outputAlias) => [outputAlias]
  | .expr (.identifier ident) none => [ident]
  | .expr (.compoundIdentifier idents) none => [idents.getLast?.getD ""]
  | .expr _ none => ["?column?"]
  | _ => header.map (·.name)

private def itemValues : Bound Nat → List Nat
  | .value value => [value]
  | .node (.cells row :: _) => row.map (·.value)
  | _ => [0]

private def projected : Bound Nat → List Nat
  | .node (_ :: .node items :: _) => items.flatMap itemValues
  | _ => []

private def names (column : Column) (idents : List String) : Bool :=
  idents == [column.name] || idents == [column.qualifier, column.name]

/-- A name is the first column it names, in the innermost scope that has one. -/
private def resolveFirst (scopes : List (List Column)) (idents : List String) :
    Option (Nat × Nat) :=
  scopes.zipIdx.findSome? fun scope =>
    (scope.1.findIdx? (names · idents)).map fun index => (scope.2, index)

/-- An engine for statements without filters, groups and functions. -/
private def plainEngine : Engine Nat where
  null := 0
  coalesce left _ := left
  resolve := resolveFirst
  table _ := {}
  tableFunction _ _ := {}
  sample _ _ rows := List.range rows
  sides _ := .both
  pairs _ _ _ matched rows :=
    (List.range matched.length).flatMap fun i => (List.range rows).map fun j => (some i, some j)
  reshape _ _ _ _ := {}
  select body _ header rows :=
    match body with
    | .select _ _ projection _ _ _ _ _ =>
        { columns := projection.flatMap (itemNames header), rows := rows.map projected }
    | _ => {}
  values _ _ := {}
  lead _ _ table := table
  setOperation _ _ left right := { left with rows := left.rows ++ right.rows }
  order _ table _ := table
  recurse round := round []
  pipe _ table _ _ := table
  dml _ _ _ := {}
  describe _ := {}

private theorem plainEngine_standard : plainEngine.Standard := by
  constructor
  intro scopes parts scope index column resolved found
  obtain ⟨entry, inScopes, here⟩ := List.exists_of_findSome?_eq_some resolved
  obtain ⟨place, atPlace, same⟩ := Option.map_eq_some_iff.mp here
  cases same
  obtain ⟨columns, atScope, atIndex⟩ := Option.bind_eq_some_iff.mp found
  obtain rfl : entry.1 = columns := by
    have := List.mem_zipIdx_iff_getElem?.mp inScopes
    rw [this] at atScope
    exact Option.some.inj atScope
  obtain ⟨bound, isNamed, _⟩ := List.findIdx?_eq_some_iff_getElem.mp atPlace
  obtain ⟨_, rfl⟩ := List.getElem?_eq_some_iff.mp atIndex
  refine ⟨_, ?_, rfl⟩
  simp only [names, Bool.or_eq_true, beq_iff_eq] at isNamed
  rcases isNamed with rfl | rfl
  · exact List.mem_singleton_self _
  · exact List.mem_cons_of_mem _ (List.mem_singleton_self _)

private def peopleSchema : DatasetSchema where
  name := "people"
  columns := [⟨"id", .int, "BIGINT", false⟩, ⟨"salary", .int, "BIGINT", true⟩]
  projectionFilter := { excluded := ["salary"] }

private def people : Registry where
  datasets := ["people"]
  names := ["people"]
  schema asked := if asked = "people" then .ok peopleSchema else .error (.notFound asked)

/-- One person, with this salary. -/
private def paid (salary : Nat) : Content Nat := fun _ =>
  [fun index => if index = 0 then 1 else salary]

private def selectId : Statement :=
  .query (.mk false [] (selectFrom "id" (named "people")) [] [] [])

/-- What is accepted over visible columns returns the same whatever the hidden column holds. -/
theorem select_id_noninterfering :
    selectId.Noninterfering plainEngine people.catalog := by
  have accepted : validateAndAuthorize (onlyParses "SELECT id FROM people" selectId) people
      "SELECT id FROM people" = .ok ⟨"SELECT id FROM people", ["people"]⟩ := by rfl
  obtain ⟨stmt, parsed, noninterfering⟩ :=
    accepted_noninterfering (by rfl) accepted plainEngine_standard
  cases parsed
  exact noninterfering (by unfold Unshadowed; decide) (by rfl)

/-- `SELECT q.pay FROM people AS p CROSS JOIN (SELECT * FROM people) AS q(id, pay)` -/
private def joinedStar : Statement :=
  let everything : Query :=
    .mk false [] (.select .standard [] [.wildcard []] [.mk (named "people") []] [] [] [] [])
      [] [] []
  .query (.mk false []
    (.select .standard [] [.expr (.compoundIdentifier ["q", "pay"]) none]
      [.mk (.table ["people"] (some ⟨"p", []⟩) false [] [])
        [.mk "CROSS JOIN" (.derived false everything (some ⟨"q", ["id", "pay"]⟩)) .conditions []]]
      [] [] [] [])
    [] [] [])

private def joinedText : String :=
  "SELECT q.pay FROM people AS p CROSS JOIN (SELECT * FROM people) AS q(id, pay)"

/-- The wildcard on the right of the join is not looked for, and the statement returns the hidden
column. -/
theorem joined_star_interferes :
    validateAndAuthorize (onlyParses joinedText joinedStar) people joinedText =
        .ok ⟨joinedText, ["people"]⟩ ∧
      (∀ name ∈ people.names, toLowercase name = name) ∧ Unshadowed people joinedStar ∧
      plainEngine.Standard ∧ ¬ joinedStar.Noninterfering plainEngine people.catalog := by
  refine ⟨by rfl, by decide, by unfold Unshadowed; decide, plainEngine_standard, fun same => ?_⟩
  have agree : Agree people.catalog (paid 700) (paid 800) := by
    intro dataset schema known
    obtain ⟨_, found⟩ := Registry.catalog_eq_some known
    obtain rfl : peopleSchema = schema := by
      simp only [people] at found
      split at found
      · exact Except.ok.inj found
      · cases found
    refine .cons (fun index column atIndex allowed => ?_) .nil
    rcases index with _ | _ | index
    · rfl
    · obtain rfl : ⟨"salary", .int, "BIGINT", true⟩ = column := Option.some.inj atIndex
      exact absurd allowed (by decide)
    · cases atIndex
  have differ := same (paid 700) (paid 800) agree
  exact absurd differ (by decide +kernel)

end SecrecyRuns

end Datapress.Sql
