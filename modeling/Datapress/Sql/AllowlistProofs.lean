import Datapress.Sql.GateProofs

/-!
The allowlist, the deny list and the dataset list against the meaning of the statement.

In each of the three the gate is right where it looks; each theorem says which positions it does
not look at, and a run shows a statement that uses one.
-/

namespace Datapress.Sql

open Fallible

/-- A parser that knows one text. -/
def onlyParses (text : String) (stmt : Statement) : Parser := fun sql =>
  if sql = text then .ok [stmt] else .error "unknown text"

/-- `SELECT column FROM source` -/
def selectFrom (column : String) (source : TableFactor) : SetExpr :=
  .select .standard [] [.expr (.identifier column) none] [.mk source []] [] [] [] []

/-- A table by its name. -/
def named (name : String) : TableFactor := .table [name] none false [] []

section Reads

variable [ToLowercase] {parse : Parser} {sql : String} {allowed : List String} {maxDatasets : Nat}
  {validated : ValidatedSql} {stmt : Statement} {registry : Registry}

/-! ### Positions and their trace -/

theorem trace_map_snd (declared : List String) (positions : List Position) :
    (trace declared positions).map Prod.snd = positions := by
  induction positions generalizing declared with
  | nil => rfl
  | cons position rest ih => rw [trace, List.map_cons, ih]

/-- A position is reached with some names declared before it. -/
theorem mem_positions_iff {position : Position} :
    position ∈ stmt.positions ↔ ∃ declared, (declared, position) ∈ stmt.trace := by
  have same : stmt.trace.map Prod.snd = stmt.positions := trace_map_snd [] stmt.positions
  rw [← same, List.mem_map]
  constructor
  · rintro ⟨⟨declared, _⟩, member, rfl⟩
    exact ⟨declared, member⟩
  · rintro ⟨declared, member⟩
    exact ⟨(declared, position), member, rfl⟩

@[simp] theorem ObjectName.last_lowered (name : ObjectName) :
    toLowercase name.last = name.last := by
  rw [ObjectName.last, ToLowercase.idempotent]

/-! ### Reads -/

theorem uncheckedRead_read {entry : List String × Position} {read : Read}
    (unchecked : uncheckedRead entry = some read) : entry.2.read = some read := by
  obtain ⟨declared, position⟩ := entry
  cases position with
  | relation scope name call =>
    cases call with
    | false =>
      simp only [uncheckedRead] at unchecked
      split at unchecked
      · exact unchecked
      · cases unchecked
    | true => cases unchecked
  | tableCommand scope name => exact unchecked
  | query | expr | call => cases unchecked

theorem mem_reads_of_unchecked {read : Read} (unchecked : read ∈ stmt.uncheckedReads) :
    read ∈ stmt.reads := by
  obtain ⟨⟨declared, position⟩, member, same⟩ := List.mem_filterMap.mp unchecked
  refine List.mem_filterMap.mpr ⟨position, mem_positions_iff.mpr ⟨declared, member⟩, ?_⟩
  exact uncheckedRead_read same

/-- A read is one of those the gate leaves unchecked, or a relation it has compared. -/
theorem read_unchecked_or_compared {read : Read} (member : read ∈ stmt.reads) :
    read ∈ stmt.uncheckedReads ∨
      ∃ declared, (declared, .relation read.scope read.name false) ∈ stmt.trace ∧
        read.name.last ∉ declared := by
  obtain ⟨position, inside, same⟩ := List.mem_filterMap.mp member
  obtain ⟨declared, reached⟩ := mem_positions_iff.mp inside
  cases position with
  | relation scope name call =>
    cases call with
    | false =>
      cases same
      by_cases masked : ObjectName.last name ∈ declared
      · refine .inl (List.mem_filterMap.mpr ⟨_, reached, ?_⟩)
        simp [uncheckedRead, masked]
      · exact .inr ⟨declared, reached, masked⟩
    | true => cases same
  | tableCommand scope name =>
    cases same
    exact .inl (List.mem_filterMap.mpr ⟨_, reached, rfl⟩)
  | query | expr | call => cases same

theorem ofDataset_of_last_mem {read : Read} (known : read.name.last ∈ allowed) :
    read.ofDataset allowed = true := by
  refine List.any_eq_true.mpr ⟨read.name.last, known, ?_⟩
  rw [ObjectName.last_lowered, beq_self_eq_true]

theorem Accepted.permitted_of_checked (accepted : Accepted parse sql allowed validated stmt)
    {read : Read} (member : read ∈ stmt.reads) (checked : read ∉ stmt.uncheckedReads) :
    read.permitted allowed = true := by
  rcases read_unchecked_or_compared member with unchecked | ⟨declared, reached, free⟩
  · exact absurd unchecked checked
  · rcases accepted.passes _ reached with masked | known
    · exact absurd masked free
    · rw [Read.permitted, ofDataset_of_last_mem known, Bool.or_true]

/-- Every table an accepted statement reads is in scope or allowed, exactly when this holds of the
reads the gate does not compare: relations that bear the name of a common table expression declared
anywhere before them, and the names of `TABLE` commands. -/
theorem validate_reads_permitted_iff
    (accepted : validate parse sql allowed maxDatasets = .ok validated) :
    ∃ stmt, parse (clean sql) = .ok [stmt] ∧
      ((∀ read ∈ stmt.reads, read.permitted allowed = true) ↔
        ∀ read ∈ stmt.uncheckedReads, read.permitted allowed = true) := by
  obtain ⟨stmt, facts⟩ := validate_ok accepted
  refine ⟨stmt, facts.parsed, ?_, ?_⟩
  · intro all read unchecked
    exact all read (mem_reads_of_unchecked unchecked)
  · intro rest read member
    by_cases unchecked : read ∈ stmt.uncheckedReads
    · exact rest read unchecked
    · exact facts.permitted_of_checked member unchecked

end Reads

section ReadRuns
attribute [local instance] asciiToLowercase

private def plainSelect : Statement :=
  .query (.mk false [] (selectFrom "id" (named "Events")) [] [] [])

theorem validate_reads_permitted_events :
    ∃ stmt, onlyParses "SELECT id FROM Events" plainSelect (clean "SELECT id FROM Events;") =
        .ok [stmt] ∧
      ((∀ read ∈ stmt.reads, read.permitted ["events"] = true) ↔
        ∀ read ∈ stmt.uncheckedReads, read.permitted ["events"] = true) := by
  have accepted : validate (onlyParses "SELECT id FROM Events" plainSelect)
      "SELECT id FROM Events;" ["events"] 1 = .ok ⟨"SELECT id FROM Events", ["events"]⟩ := by rfl
  exact validate_reads_permitted_iff accepted

/-- `WITH secrets AS (SELECT id FROM secrets) SELECT id FROM secrets` -/
private def selfNamed : Statement :=
  .query (.mk false
    [.mk { name := "secrets" } (.mk false [] (selectFrom "id" (named "secrets")) [] [] []) none]
    (selectFrom "id" (named "secrets")) [] [] [])

/-- `SELECT id FROM events UNION ALL TABLE secrets` -/
private def unionTable : Statement :=
  .query (.mk false [] (.setOperation .union "ALL" (selectFrom "id" (named "events"))
    (.table ["secrets"])) [] [] [])

/-- `WITH x AS (SELECT id FROM events) FROM secrets SELECT *` -/
private def fromSecrets : Statement :=
  .query (.mk false
    [.mk { name := "x" } (.mk false [] (selectFrom "id" (named "events")) [] [] [])
      (some "secrets")]
    (.select .standard [] [.wildcard []] [] [] [] [] []) [] [] [])

/-- A common table expression that mentions its own name, a `TABLE` command, and a `FROM` behind a
common table expression read a table that is not allowed. -/
theorem validate_reads_not_permitted :
    (∃ validated,
      validate
        (onlyParses "WITH secrets AS (SELECT id FROM secrets) SELECT id FROM secrets" selfNamed)
        "WITH secrets AS (SELECT id FROM secrets) SELECT id FROM secrets" ["events"] 1 =
        .ok validated ∧ ¬ ∀ read ∈ selfNamed.reads, read.permitted ["events"] = true) ∧
    (∃ validated,
      validate (onlyParses "SELECT id FROM events UNION ALL TABLE secrets" unionTable)
        "SELECT id FROM events UNION ALL TABLE secrets" ["events"] 1 =
        .ok validated ∧ ¬ ∀ read ∈ unionTable.reads, read.permitted ["events"] = true) ∧
    ∃ validated,
      validate
        (onlyParses "WITH x AS (SELECT id FROM events) FROM secrets SELECT *" fromSecrets)
        "WITH x AS (SELECT id FROM events) FROM secrets SELECT *" ["events"] 1 =
        .ok validated ∧ ¬ ∀ read ∈ fromSecrets.reads, read.permitted ["events"] = true := by
  refine ⟨?_, ?_, ?_⟩
  · exact ⟨_, rfl, by decide⟩
  · exact ⟨_, rfl, by decide⟩
  · exact ⟨_, rfl, by decide⟩

end ReadRuns

section Calls

variable [ToLowercase] {parse : Parser} {sql : String} {allowed : List String} {maxDatasets : Nat}
  {validated : ValidatedSql} {stmt : Statement} {registry : Registry}

/-! ### Calls -/

theorem uncheckedCall_called {entry : List String × Position} {name : ObjectName}
    (unchecked : uncheckedCall allowed entry = some name) : entry.2.called = some name := by
  obtain ⟨declared, position⟩ := entry
  cases position with
  | relation scope table call =>
    cases call with
    | true =>
      simp only [uncheckedCall] at unchecked
      split at unchecked
      · exact unchecked
      · cases unchecked
    | false => cases unchecked
  | call table => exact unchecked
  | query | expr | tableCommand => cases unchecked

theorem mem_calls_of_unchecked {name : ObjectName}
    (unchecked : name ∈ stmt.uncheckedCalls allowed) : name ∈ stmt.calls := by
  obtain ⟨⟨declared, position⟩, member, same⟩ := List.mem_filterMap.mp unchecked
  refine List.mem_filterMap.mpr ⟨position, mem_positions_iff.mpr ⟨declared, member⟩, ?_⟩
  exact uncheckedCall_called same

/-- A call of an accepted statement that the gate has compared is not on the deny list. -/
theorem Accepted.harmless_of_checked (accepted : Accepted parse sql allowed validated stmt)
    {name : ObjectName} (member : name ∈ stmt.calls)
    (checked : name ∉ stmt.uncheckedCalls allowed) : name.last ∉ deniedFunctions := by
  obtain ⟨position, inside, same⟩ := List.mem_filterMap.mp member
  obtain ⟨declared, reached⟩ := mem_positions_iff.mp inside
  have passes := accepted.passes _ reached
  cases position with
  | expr e =>
    cases e with
    | function => cases same; exact passes
    | identifier | compoundIdentifier | value | operator | subquery | matchAgainst => cases same
  | relation scope table call =>
    cases call with
    | true =>
      cases same
      refine absurd (List.mem_filterMap.mpr ⟨_, reached, ?_⟩) checked
      exact if_pos passes
    | false => cases same
  | call table =>
    cases same
    have unchecked : uncheckedCall allowed (declared, .call name) = some name := rfl
    exact absurd (List.mem_filterMap.mpr ⟨_, reached, unchecked⟩) checked
  | query | tableCommand => cases same

/-- No call of an accepted statement is on the deny list, exactly when this holds of the calls the
gate does not compare: table functions that bear the name of a common table expression declared
before or of an allowed dataset, and calls for which the visitor has no callback. -/
theorem validate_calls_harmless_iff
    (accepted : validate parse sql allowed maxDatasets = .ok validated) :
    ∃ stmt, parse (clean sql) = .ok [stmt] ∧
      ((∀ name ∈ stmt.calls, name.last ∉ deniedFunctions) ↔
        ∀ name ∈ stmt.uncheckedCalls allowed, name.last ∉ deniedFunctions) := by
  obtain ⟨stmt, facts⟩ := validate_ok accepted
  refine ⟨stmt, facts.parsed, ?_, ?_⟩
  · intro all name unchecked
    exact all name (mem_calls_of_unchecked unchecked)
  · intro rest name member
    by_cases unchecked : name ∈ stmt.uncheckedCalls allowed
    · exact rest name unchecked
    · exact facts.harmless_of_checked member unchecked

end Calls

section CallRuns
attribute [local instance] asciiToLowercase

/-- `SELECT upper(id) FROM events` -/
private def scalarCall : Statement :=
  .query (.mk false [] (.select .standard []
    [.expr (.function ["upper"] [.expr (.identifier "id")] []) none]
    [.mk (named "events") []] [] [] [] []) [] [] [])

theorem validate_calls_harmless_upper :
    ∃ stmt, onlyParses "SELECT upper(id) FROM events" scalarCall
        (clean "SELECT upper(id) FROM events") = .ok [stmt] ∧
      ((∀ name ∈ stmt.calls, name.last ∉ deniedFunctions) ↔
        ∀ name ∈ stmt.uncheckedCalls ["events"], name.last ∉ deniedFunctions) := by
  have accepted : validate (onlyParses "SELECT upper(id) FROM events" scalarCall)
      "SELECT upper(id) FROM events" ["events"] 1 =
      .ok ⟨"SELECT upper(id) FROM events", ["events"]⟩ := by rfl
  exact validate_calls_harmless_iff accepted

/-- `WITH glob AS (SELECT id FROM events) SELECT file FROM glob('/*')` -/
private def maskedCall : Statement :=
  .query (.mk false
    [.mk { name := "glob" } (.mk false [] (selectFrom "id" (named "events")) [] [] []) none]
    (selectFrom "file" (.table ["glob"] none true [.expr (.value "'/*'")] []))
    [] [] [])

/-- A common table expression with the name of a denied function lets a call of the function
through. -/
theorem validate_calls_denied :
    ∃ validated,
      validate (onlyParses
          "WITH glob AS (SELECT id FROM events) SELECT file FROM glob('/*')"
          maskedCall)
        "WITH glob AS (SELECT id FROM events) SELECT file FROM glob('/*')"
        ["events"] 1 = .ok validated ∧
      ¬ ∀ name ∈ maskedCall.calls, name.last ∉ deniedFunctions :=
  ⟨_, rfl, by decide⟩

end CallRuns

section Datasets

variable [ToLowercase] {parse : Parser} {sql : String} {allowed : List String} {maxDatasets : Nat}
  {validated : ValidatedSql} {stmt : Statement} {registry : Registry}

/-! ### Column filters -/

theorem checkColumnRef_ok_iff {schema : DatasetSchema} {lc : String} :
    checkColumnRef schema lc = .ok () ↔ ∀ column, schema.byName lc = some column →
      schema.projectionFilter.allows column.name = true ∧
        schema.predicateFilter.allows column.name = true := by
  simp only [checkColumnRef]
  cases schema.byName lc with
  | none => simp
  | some found =>
    cases visible : schema.projectionFilter.allows found.name with
    | false => simp [visible]
    | true => cases usable : schema.predicateFilter.allows found.name <;> simp [visible, usable]

theorem checkColumns_ok_iff {schema : DatasetSchema} :
    stmt.checkColumns schema = .ok () ↔ stmt.Respects schema := by
  have checked : checkAll (checkColumnRef schema) stmt.columnRefs = .ok () ↔
      ∀ name ∈ stmt.columnRefs, ∀ column, schema.byName name = some column →
        schema.projectionFilter.allows column.name = true ∧
          schema.predicateFilter.allows column.name = true := by
    rw [checkAll_ok_iff]
    refine forall₂_congr fun name _ => ?_
    rw [← checkColumnRef_ok_iff]
    exact ⟨fun ⟨_, ok⟩ => ok, fun ok => ⟨_, ok⟩⟩
  constructor
  · intro ok
    simp only [Statement.checkColumns] at ok
    split at ok
    · cases ok
    · rename_i wildcards
      rw [Bool.and_eq_true, not_and, Bool.not_eq_true] at wildcards
      exact ⟨wildcards, checked.mp ok⟩
  · intro respects
    simp only [Statement.checkColumns]
    rw [if_neg, checked.mpr respects.columns]
    rw [Bool.and_eq_true, not_and, Bool.not_eq_true]
    exact respects.wildcards

/-- A statement respects filters that restrict nothing. -/
theorem respects_of_no_filters {schema : DatasetSchema}
    (inactive : schema.hasColumnFilters = false) : stmt.Respects schema := by
  rw [DatasetSchema.hasColumnFilters, Bool.or_eq_false_iff] at inactive
  constructor
  · intro active
    rw [inactive.2] at active
    cases active
  · intro _ _ column _
    exact ⟨ColumnFilter.allows_of_inactive inactive.2 _,
      ColumnFilter.allows_of_inactive inactive.1 _⟩

theorem enforceColumnAccess_ok_iff {schema : DatasetSchema}
    (parsed : parse (clean sql) = .ok [stmt]) :
    enforceColumnAccess parse sql schema = .ok () ↔ stmt.Respects schema := by
  rw [enforceColumnAccess]
  split
  · rename_i inactive
    exact ⟨fun _ => respects_of_no_filters (by simpa using inactive), fun _ => rfl⟩
  · rw [parsed]
    exact checkColumns_ok_iff

/-! ### Datasets -/

/-- All that acceptance by the whole pipeline says. -/
structure Authorized (parse : Parser) (registry : Registry) (sql : String)
    (validated : ValidatedSql) (stmt : Statement) : Prop
    extends Accepted parse sql (registry.names.map toLowercase).dedup validated stmt where
  enforced : ∀ dataset ∈ validated.datasets, ∀ schema, registry.schema dataset = .ok schema →
    stmt.Respects schema

theorem validateAndAuthorize_ok (reparse : parse (clean (clean sql)) = parse (clean sql))
    (accepted : validateAndAuthorize parse registry sql = .ok validated) :
    ∃ stmt, Authorized parse registry sql validated stmt := by
  simp only [validateAndAuthorize, bind_ok_iff] at accepted
  obtain ⟨_, valid, _, checks, same⟩ := accepted
  cases same
  obtain ⟨stmt, facts⟩ := validate_ok valid
  refine ⟨stmt, facts, fun dataset member schema found => ?_⟩
  obtain ⟨_, passed⟩ := checkAll_ok_iff.mp checks dataset member
  rw [Registry.enforce, found, facts.text] at passed
  exact (enforceColumnAccess_ok_iff (reparse.trans facts.parsed)).mp passed

/-- A dataset is in the list of the statement, and the statement has been checked against it. -/
def Covered (registry : Registry) (validated : ValidatedSql) (stmt : Statement)
    (dataset : String) : Prop :=
  dataset ∈ validated.datasets ∧
    ∃ schema, registry.schema dataset = .ok schema ∧ stmt.Respects schema

/-- What the gate needs to cover a dataset: a lowercase name, a reference that no common table
expression masks, and a schema. -/
def Coverable (registry : Registry) (stmt : Statement) (dataset : String) : Prop :=
  toLowercase dataset = dataset ∧ dataset ∈ stmt.checkedRelations ∧
    ∃ schema, registry.schema dataset = .ok schema

/-- Whether a property holds of every dataset the statement reads as a base relation. -/
def OfBaseReads (registry : Registry) (stmt : Statement) (property : String → Prop) : Prop :=
  ∀ read ∈ stmt.reads, read.inScope = false → ∀ dataset ∈ registry.datasets,
    toLowercase dataset = read.name.last → property dataset

theorem checkedRelation_lowered {name : String} (member : name ∈ stmt.checkedRelations) :
    toLowercase name = name := by
  obtain ⟨⟨declared, position⟩, _, same⟩ := List.mem_filterMap.mp member
  cases position with
  | relation scope table call =>
    simp only [unmasked] at same
    split at same
    · cases same
    · cases same
      exact table.last_lowered
  | query | expr | tableCommand | call => cases same

theorem Authorized.covered_iff (accepted : Authorized parse registry sql validated stmt)
    (dataset : String) :
    Covered registry validated stmt dataset ↔ Coverable registry stmt dataset := by
  constructor
  · rintro ⟨listed, schema, found, _⟩
    have recorded := (accepted.datasets dataset).mp listed
    exact ⟨checkedRelation_lowered recorded, recorded, schema, found⟩
  · rintro ⟨_, recorded, schema, found⟩
    have listed := (accepted.datasets dataset).mpr recorded
    exact ⟨listed, schema, found, accepted.enforced dataset listed schema found⟩

/-- Every dataset an accepted statement reads is listed and its filters are enforced, exactly when
each of them has a lowercase name, a schema at that instant, and a reference in the statement that
is not masked. -/
theorem authorized_datasets_covered_iff (reparse : parse (clean (clean sql)) = parse (clean sql))
    (accepted : validateAndAuthorize parse registry sql = .ok validated) :
    ∃ stmt, parse (clean sql) = .ok [stmt] ∧
      (OfBaseReads registry stmt (Covered registry validated stmt) ↔
        OfBaseReads registry stmt (Coverable registry stmt)) := by
  obtain ⟨stmt, facts⟩ := validateAndAuthorize_ok reparse accepted
  refine ⟨stmt, facts.parsed, ?_⟩
  simp only [OfBaseReads, facts.covered_iff]

end Datasets

section DatasetRuns
attribute [local instance] asciiToLowercase

private def eventsSchema (name : String) : DatasetSchema where
  name := name
  columns := [⟨"id", .int, "BIGINT", false⟩, ⟨"email", .utf8, "VARCHAR", true⟩]
  projectionFilter := { excluded := ["email"] }

/-- A registry of one published dataset. -/
private def oneDataset (name : String) : Registry where
  datasets := [name]
  names := [name]
  schema asked := if asked = name then .ok (eventsSchema name) else .error (.notFound asked)

/-- `SELECT column FROM Events` -/
private def selectEvents (column : String) : Statement :=
  .query (.mk false [] (selectFrom column (named "Events")) [] [] [])

theorem authorized_datasets_covered_events :
    ∃ stmt, onlyParses "SELECT id FROM Events" (selectEvents "id")
        (clean "SELECT id FROM Events") = .ok [stmt] ∧
      (OfBaseReads (oneDataset "events") stmt
          (Covered (oneDataset "events") ⟨"SELECT id FROM Events", ["events"]⟩ stmt) ↔
        OfBaseReads (oneDataset "events") stmt (Coverable (oneDataset "events") stmt)) := by
  have accepted : validateAndAuthorize (onlyParses "SELECT id FROM Events" (selectEvents "id"))
      (oneDataset "events") "SELECT id FROM Events" =
      .ok ⟨"SELECT id FROM Events", ["events"]⟩ := by rfl
  exact authorized_datasets_covered_iff (by rfl) accepted

/-- A dataset registered as `Events` is looked up as `events`, and the failed lookup leaves its
hidden column readable. -/
theorem authorized_dataset_not_covered :
    ∃ validated,
      validateAndAuthorize (onlyParses "SELECT email FROM Events" (selectEvents "email"))
        (oneDataset "Events") "SELECT email FROM Events" = .ok validated ∧
      ¬ OfBaseReads (oneDataset "Events") (selectEvents "email")
          (Covered (oneDataset "Events") validated (selectEvents "email")) := by
  refine ⟨⟨"SELECT email FROM Events", ["events"]⟩, rfl, fun all => ?_⟩
  have covered := all ⟨[], ["Events"]⟩ (by decide) (by decide) "Events" (by decide) (by decide)
  exact absurd covered.1 (by decide)

end DatasetRuns

end Datapress.Sql
