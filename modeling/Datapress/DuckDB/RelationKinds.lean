import Datapress.DuckDB.Course
import Datapress.Library.Machine

/-! Registrations, reloads and removals of one query dataset, each of which meets whatever
relation the one before it has left. -/
namespace Datapress.DuckDB
open Datapress.Storage
open Machine (Run)

/-- The configuration of the query dataset with this name. -/
abbrev QueryConfig (name : String) :=
  { d : BuildConfig // d.name = name ∧ d.kind = .query }

variable {Rows : Type} {name : String}

structure Dataset (Rows : Type) (name : String) extends Registry Rows where
  config : Option (QueryConfig name) := none

/-- What the engine makes of the SQL can differ from one operation to the next. -/
inductive Op (Rows : Type) (name : String) where
  | register (engine : Engine Rows) (outside : Outside) (cfg : QueryConfig name)
  | reload (engine : Engine Rows) (outside : Outside)
  | unregister (engine : Engine Rows) (outside : Outside)

namespace Dataset

section
variable [ToLowercase] (engine : Engine Rows) (storage : Option MaterializationStorage)
  (outside : Outside)

def build (cfg : QueryConfig name) : Build Rows (DatasetSchema × Int) := do
  let schema ← registerDataset engine storage outside cfg.1
  let rows ← countRows engine outside cfg.1
  pure (schema, rows)

def register (cfg : QueryConfig name) (s : Dataset Rows name) :
    Except AppError Unit × Dataset Rows name :=
  match cfg.1.validated with
  | .error e => (.error e, s)
  | .ok () =>
    if s.schema.isSome then
      (.error (.invalidValue s!"dataset '{name}' already exists"), s)
    else
      match build engine storage outside cfg s.db with
      | (.ok (schema, rows), db) =>
        (.ok (), { db, schema := some schema, rowCount := some rows, status := some .published
                   config := some cfg })
      | (.error e, db) => (.error e, { s with db })

def reload (s : Dataset Rows name) : Except AppError Unit × Dataset Rows name :=
  match s.config with
  | none => (.error (.notFound s!"dataset: {name}"), s)
  | some cfg =>
    let (result, registry) := reloadInner engine storage outside cfg.1 s.toRegistry
    (result.map fun _ => (), { s with toRegistry := registry })

/-- The directory of the dataset on local storage goes with it. -/
def removeDir (dir : DatasetDir Rows) : DatasetDir Rows :=
  match storage with
  | some storage =>
    match storage.backend with
    | .local => dir.keepOnly fun id _ => outside.stuck.contains id
    | .s3 => dir
  | none => dir

omit [ToLowercase] in
def unregister (s : Dataset Rows name) : Except AppError Unit × Dataset Rows name :=
  match s.config with
  | none => (.error (.notFound s!"dataset '{name}' not found"), s)
  | some cfg =>
    if cfg.1.managed then
      let db := (dropRelation engine outside name s.db).2
      (.ok (), { db := { db with dir := removeDir storage outside db.dir } })
    else
      (.error (.forbidden s!"dataset '{name}' is not managed and cannot be unregistered"), s)

end

section
variable [ToLowercase] (storage : Option MaterializationStorage)

def apply (s : Dataset Rows name) : Op Rows name → Except AppError Unit × Dataset Rows name
  | .register engine outside cfg => register engine storage outside cfg s
  | .reload engine outside => reload engine storage outside s
  | .unregister engine outside => unregister engine storage outside s

def step (op : Op Rows name) (s : Dataset Rows name) : Option (Dataset Rows name) :=
  some (s.apply storage op).2

end

end Dataset

/-- The rows of a build that comes to evaluate its SQL. -/
def Course.rows : Course Rows → Option Rows
  | .stops => none
  | .replaces rows _ | .renames rows | .spills _ _ rows => some rows

theorem stops_of_rows {course : Course Rows} (none : course.rows = none) : course = .stops := by
  cases course with
  | stops => rfl
  | replaces rows relation => cases none
  | renames rows => cases none
  | spills storage sql rows => cases none

/-- The build succeeded, and the relation serves its rows. -/
structure Publishes (engine : Engine Rows) (rows : Rows)
    (outcome : Except AppError Unit × Dataset Rows name) : Prop where
  returned : outcome.1 = .ok ()
  serves : engine.rows outcome.2.db name = .ok rows
  described : outcome.2.schema.isSome
  counted : outcome.2.rowCount = some (engine.count rows)
  status : outcome.2.status = some .published

/-- No relation of the name is left, and nothing that is cached of one. -/
structure Cleared (s : Dataset Rows name) : Prop where
  relation : s.db.relations.lookup name = none
  schema : s.schema = none
  rowCount : s.rowCount = none
  status : s.status = none
  config : s.config = none

section
variable [ToLowercase] (engine : Engine Rows) (storage : Option MaterializationStorage)
  (outside : Outside) (d : BuildConfig) (db : Db Rows)

/-- The statements that the build comes to find what they need and succeed, and so does
what follows them. -/
def Admits (direct : Bool) (last : Rows → Bool) : Prop :=
  match course engine storage d db with
  | .stops => True
  | .replaces rows _ => outside.faults .replace = none ∧ direct ∧ last rows
  | .renames rows =>
    outside.faults .createTemp = none ∧ tempName d.name outside.genId ∉ db.relations ∧
      makesRoom outside db d.name ∧ outside.faults .rename = none ∧
      describes engine outside d .describe rows ∧ last rows
  | .spills storage _ rows =>
    outside.faults .createTemp = none ∧ tempName d.name outside.genId ∉ db.relations ∧
      outside.faults .copy = none ∧ outside.faults .createView = none ∧
      db.relations.fits d.name false ∧ describes engine outside d .describe rows ∧
      outside.faults .manifest = none ∧ survives outside db storage ∧ last rows

end

section
variable [ToLowercase] (storage : Option MaterializationStorage)

/-- A build whose SQL evaluates publishes its rows, and a removal leaves no relation. -/
def Honours (s : Dataset Rows name) : Op Rows name → Prop
  | .register engine outside cfg => cfg.1.validated.isOk → s.schema = none →
      ∀ rows, (course engine storage cfg.1 s.db).rows = some rows →
        Publishes engine rows (s.register engine storage outside cfg)
  | .reload engine outside => ∀ cfg, s.config = some cfg →
      ∀ rows, (course engine storage cfg.1 s.db).rows = some rows →
        Publishes engine rows (s.reload engine storage outside)
  | .unregister engine outside => ∀ t, s.unregister engine storage outside = (.ok (), t) → Cleared t

/-- The relation that the operation before has left is of the kind that this one needs, and
no statement fails for a reason of its own. -/
def FindsItsKind (s : Dataset Rows name) : Op Rows name → Prop
  | .register engine outside cfg => cfg.1.validated.isOk → s.schema = none →
      Admits engine storage outside cfg.1 s.db (name ∉ s.db.relations)
        fun rows => describes engine outside cfg.1 .describe rows &&
          (outside.faults .countRows).isNone
  | .reload engine outside => ∀ cfg, s.config = some cfg →
      Admits engine storage outside cfg.1 s.db (s.db.relations.fits name true)
        (concludes engine outside cfg.1)
  | .unregister _ outside => ∀ cfg, s.config = some cfg → cfg.1.managed →
      makesRoom outside s.db name

variable {storage} {engine : Engine Rows} {outside : Outside} {d : BuildConfig} {db : Db Rows}
  {rows : Rows} {last : Bool}

theorem keepInMemory_publishes :
    (keepInMemory engine outside d (tempName d.name outside.genId)).wp
        (fun _ t => engine.rows t d.name = .ok rows ∧ last) (fun _ _ => False)
        (db.withTemp outside d rows) ↔
      makesRoom outside db d.name ∧ outside.faults .rename = none ∧
        describes engine outside d .describe rows ∧ last := by
  have apart := tempName_ne d.name outside.genId
  have found : (db.withTemp outside d rows).relations.lookup (tempName d.name outside.genId) =
      some (.table rows) := Db.lookup_put
  obtain ⟨t, u, _, _, served, _, runs⟩ := keepInMemory_wp engine outside apart found
  have reads : engine.rows u d.name = .ok rows := Engine.rows_of_table served
  rw [runs, makesRoom_withTemp, reads]
  simp only [true_and, if_false_right, and_assoc]

theorem spillToStorage_publishes {storage : MaterializationStorage} {sql : String} :
    (spillToStorage engine outside d storage sql (tempName d.name outside.genId)).wp
        (fun _ t => engine.rows t d.name = .ok rows ∧ last) (fun _ _ => False)
        (db.withTemp outside d rows) ↔
      outside.faults .copy = none ∧ outside.faults .createView = none ∧
        db.relations.fits d.name false ∧ describes engine outside d .describe rows ∧
        outside.faults .manifest = none ∧ survives outside db storage ∧ last := by
  have apart := tempName_ne d.name outside.genId
  have found : (db.withTemp outside d rows).relations.lookup (tempName d.name outside.genId) =
      some (.table rows) := Db.lookup_put
  obtain ⟨t, manifest, _, _, _, runs⟩ := spillToStorage_wp engine outside storage sql apart found
  have kept : survives outside (db.withTemp outside d rows) storage = survives outside db storage :=
    rfl
  rw [runs, fits_withTemp, rows_gcStorage rfl Db.lookup_put, kept]
  by_cases survived : survives outside db storage
  · simp only [survived, if_true, true_and, if_false_right, and_assoc]
  · simp only [survived, Bool.false_eq_true, if_false, reduceCtorEq, false_and, and_false,
      if_false_right]

omit [ToLowercase] in
theorem table_of_replaces {storage : Option MaterializationStorage} {relation : Relation Rows}
    (query : d.kind = .query) (taken : course engine storage d db = .replaces rows relation) :
    relation = .table rows := by
  rw [course, if_pos query] at taken
  repeat' split at taken
  all_goals cases taken
  all_goals rfl

omit [ToLowercase] in
theorem countRows_counts :
    (countRows engine outside d).wp
        (fun n t => engine.rows t d.name = .ok rows ∧ n = engine.count rows) (fun _ _ => False) db ↔
      engine.rows db d.name = .ok rows ∧ (outside.faults .countRows).isNone := by
  rw [countRows, Attempt.wp_inspect]
  cases outside.faults .countRows with
  | some e => simp
  | none =>
      cases read : engine.rows db d.name with
      | error e => simp [Except.map]
      | ok served =>
          simp only [Except.map, Except.ok.injEq, Option.isNone_none, and_true]
          exact and_iff_left_of_imp fun same => by rw [same]

theorem build_publishes {storage : Option MaterializationStorage} (cfg : QueryConfig name)
    (evaluated : (course engine storage cfg.1 db).rows = some rows) :
    (Dataset.build engine storage outside cfg).wp
        (fun out t => engine.rows t cfg.1.name = .ok rows ∧ out.2 = engine.count rows)
        (fun _ _ => False) db ↔
      Admits engine storage outside cfg.1 db (cfg.1.name ∉ db.relations)
        fun rows => describes engine outside cfg.1 .describe rows &&
          (outside.faults .countRows).isNone := by
  have tail : (Dataset.build engine storage outside cfg).wp
        (fun out t => engine.rows t cfg.1.name = .ok rows ∧ out.2 = engine.count rows)
        (fun _ _ => False) db ↔
      (registerDataset engine storage outside cfg.1).wp
        (fun _ t => engine.rows t cfg.1.name = .ok rows ∧ (outside.faults .countRows).isNone)
        (fun _ _ => False) db := by
    rw [Dataset.build, Attempt.wp_bind]
    refine Attempt.wp_congr fun schema t => ?_
    rw [← countRows_counts]
    exact Attempt.wp_bind
  rw [tail, registerDataset_wp, Admits]
  cases taken : course engine storage cfg.1 db with
  | stops =>
      rw [taken] at evaluated
      cases evaluated
  | replaces served relation =>
      rw [taken] at evaluated
      obtain rfl := Option.some.inj evaluated
      have reads : engine.rows (db.put cfg.1.name relation) cfg.1.name = .ok served := by
        rw [Engine.rows, Db.lookup_put]
        exact read_of_replaces taken _
      simp only [reads, true_and, if_false_right, and_assoc, Bool.and_eq_true, decide_eq_true_eq]
  | renames served =>
      rw [taken] at evaluated
      obtain rfl := Option.some.inj evaluated
      simp only [keepInMemory_publishes, if_false_right, and_assoc, Bool.and_eq_true, and_self_left]
  | spills storage sql served =>
      rw [taken] at evaluated
      obtain rfl := Option.some.inj evaluated
      simp only [spillToStorage_publishes, if_false_right, and_assoc, Bool.and_eq_true]
      tauto

theorem conclude_counts :
    (introspectSchema engine outside d .describeAgain).wp
        (fun _ t => (countRows engine outside d).wp
          (fun n t => engine.rows t d.name = .ok rows ∧ n = engine.count rows) (fun _ _ => False) t)
        (fun _ _ => False) db ↔
      engine.rows db d.name = .ok rows ∧ concludes engine outside d rows := by
  cases read : engine.rows db d.name with
  | error e =>
      rw [introspectSchema, Attempt.wp_inspect, read]
      cases outside.faults .describeAgain <;> simp [bind, Except.bind]
  | ok served =>
      rw [introspectSchema_wp read, countRows_counts, read, concludes, if_false_right,
        Bool.and_eq_true]
      constructor
      · rintro ⟨described, same, counted⟩
        cases same
        exact ⟨rfl, described, counted⟩
      · rintro ⟨same, described, counted⟩
        cases same
        exact ⟨described, rfl, counted⟩

theorem rebuild_publishes {storage : Option MaterializationStorage} (query : d.kind = .query)
    (evaluated : (course engine storage d db).rows = some rows) :
    (rebuild engine storage outside d).wp
        (fun out t => engine.rows t d.name = .ok rows ∧ out.2.1 = engine.count rows)
        (fun _ _ => False) db ↔
      Admits engine storage outside d db (db.relations.fits d.name true)
        (concludes engine outside d) := by
  have tail : (rebuild engine storage outside d).wp
        (fun out t => engine.rows t d.name = .ok rows ∧ out.2.1 = engine.count rows)
        (fun _ _ => False) db ↔
      (replaceTable engine storage outside d).wp
        (fun _ t => engine.rows t d.name = .ok rows ∧ concludes engine outside d rows)
        (fun _ _ => False) db := by
    rw [rebuild, Attempt.wp_bind]
    refine Attempt.wp_congr fun _ t => ?_
    rw [← conclude_counts]
    simp only [Attempt.wp_bind, Attempt.wp_pure]
  rw [tail, replaceTable_wp, Admits]
  cases taken : course engine storage d db with
  | stops =>
      rw [taken] at evaluated
      cases evaluated
  | replaces served relation =>
      rw [taken] at evaluated
      obtain rfl := Option.some.inj evaluated
      obtain rfl := table_of_replaces query taken
      have reads : engine.rows (db.put d.name (.table served)) d.name = .ok served :=
        Engine.rows_of_table Db.lookup_put
      simp only [reads, true_and, if_false_right, and_assoc, Relation.isTable]
  | renames served =>
      rw [taken] at evaluated
      obtain rfl := Option.some.inj evaluated
      simp only [keepInMemory_publishes, if_false_right, and_assoc]
  | spills storage sql served =>
      rw [taken] at evaluated
      obtain rfl := Option.some.inj evaluated
      simp only [spillToStorage_publishes, if_false_right, and_assoc]

end

/-! ### One operation -/

namespace Dataset
variable [ToLowercase] {storage : Option MaterializationStorage} {engine : Engine Rows}
  {outside : Outside} {rows : Rows} {s : Dataset Rows name} {cfg : QueryConfig name}

theorem register_publishes (valid : cfg.1.validated.isOk) (new : s.schema = none) :
    Publishes engine rows (s.register engine storage outside cfg) ↔
      (build engine storage outside cfg).wp
        (fun out t => engine.rows t cfg.1.name = .ok rows ∧ out.2 = engine.count rows)
        (fun _ _ => False) s.db := by
  obtain ⟨cfg, rfl, query⟩ := cfg
  rw [register]
  cases accepted : cfg.validated with
  | error e =>
      rw [accepted] at valid
      cases valid
  | ok _ =>
      rw [Attempt.wp]
      simp only [new, Option.isSome_none, Bool.false_eq_true, if_false]
      rcases build engine storage outside ⟨cfg, rfl, query⟩ s.db with ⟨e | ⟨schema, n⟩, t⟩
      · exact iff_of_false (fun published => by cases published.returned) id
      · constructor
        · intro published
          exact ⟨published.serves, Option.some.inj published.counted⟩
        · rintro ⟨serves, counted⟩
          exact ⟨rfl, serves, rfl, congrArg some counted, rfl⟩

theorem reload_publishes (configured : s.config = some cfg) :
    Publishes engine rows (s.reload engine storage outside) ↔
      (rebuild engine storage outside cfg.1).wp
        (fun out t => engine.rows t cfg.1.name = .ok rows ∧ out.2.1 = engine.count rows)
        (fun _ _ => False) s.db := by
  obtain ⟨cfg, rfl, query⟩ := cfg
  rw [reload, configured, Attempt.wp]
  simp only [reloadInner]
  rcases rebuild engine storage outside cfg s.db with ⟨e | ⟨schema, n, demoted, override⟩, t⟩
  · exact iff_of_false (fun published => by cases published.returned) id
  · constructor
    · intro published
      exact ⟨published.serves, Option.some.inj published.counted⟩
    · rintro ⟨serves, counted⟩
      exact ⟨rfl, serves, rfl, congrArg some counted, rfl⟩

omit [ToLowercase] in
theorem unregister_clears :
    (∀ t, s.unregister engine storage outside = (.ok (), t) → Cleared t) ↔
      ∀ cfg, s.config = some cfg → cfg.1.managed → makesRoom outside s.db name := by
  obtain ⟨t, _, _, room, drops⟩ := dropRelation_wp engine outside s.db name
  let gone (t : Db Rows) : Prop := t.relations.lookup name = none
  have left : gone (dropRelation engine outside name s.db).2 ↔ makesRoom outside s.db name :=
    Attempt.wp_snd.symm.trans ((@drops gone gone).trans room)
  rw [unregister]
  cases s.config with
  | none =>
      dsimp only
      constructor
      · intro _ cfg impossible
        cases impossible
      · intro _ t impossible
        cases (Prod.mk.inj impossible).1
  | some cfg =>
      dsimp only
      by_cases managed : cfg.1.managed
      · rw [if_pos managed, ← left]
        constructor
        · intro clears _ _ _
          exact (clears _ rfl).relation
        · intro held t removed
          obtain rfl := (Prod.mk.inj removed).2
          exact ⟨held cfg rfl managed, rfl, rfl, rfl, rfl⟩
      · rw [if_neg managed]
        constructor
        · intro _ other same allowed
          cases same
          exact absurd allowed managed
        · intro _ t impossible
          cases (Prod.mk.inj impossible).1

theorem honours_iff (op : Op Rows name) : Honours storage s op ↔ FindsItsKind storage s op := by
  cases op with
  | register engine outside cfg =>
      obtain ⟨cfg, rfl, query⟩ := cfg
      refine forall_congr' fun valid => forall_congr' fun new => ?_
      simp only [register_publishes valid new]
      cases evaluated : (course engine storage cfg s.db).rows with
      | none =>
          refine iff_of_true nofun ?_
          rw [Admits, stops_of_rows evaluated]
          trivial
      | some rows =>
          rw [← build_publishes ⟨cfg, rfl, query⟩ evaluated]
          exact ⟨fun all => all rows rfl, fun held _ same => Option.some.inj same ▸ held⟩
  | reload engine outside =>
      refine forall_congr' fun cfg => ?_
      obtain ⟨cfg, rfl, query⟩ := cfg
      refine forall_congr' fun configured => ?_
      simp only [reload_publishes configured]
      cases evaluated : (course engine storage cfg s.db).rows with
      | none =>
          refine iff_of_true nofun ?_
          rw [Admits, stops_of_rows evaluated]
          trivial
      | some rows =>
          rw [← rebuild_publishes query evaluated]
          exact ⟨fun all => all rows rfl, fun held _ same => Option.some.inj same ▸ held⟩
  | unregister engine outside => exact unregister_clears

end Dataset

/-- Along a run every build whose SQL evaluates publishes its rows, and every removal leaves
no relation, just when each operation finds a relation of the kind that it needs. -/
theorem builds_publish_iff [ToLowercase] {storage : Option MaterializationStorage}
    {s t : Dataset Rows name} {ops : List (Op Rows name)} :
    Run (Dataset.step storage) (Honours storage) s ops t ↔
      Run (Dataset.step storage) (FindsItsKind storage) s ops t :=
  Run.congr fun _ op => Dataset.honours_iff op

/-! A result that grows past the threshold and shrinks again. -/
section
attribute [local instance] asciiToLowercase

/-- A query whose result has this size. -/
def sized (bytes : Nat) : Engine Nat where
  execute _ _ := .ok bytes
  scan _ := .ok 0
  columns _ := []
  count bytes := bytes
  estimatedSize bytes := bytes
  refused := .internal "Catalog Error"

def spillAboveOneMib : MaterializationStorage := { backend := .local, forceLazyAboveMb := 1 }

def dailyTotals : QueryConfig "daily" where
  val := { name := "daily", sql := some "SELECT 1", kind := .query, managed := true
           scanClause := .ok "" }
  property := ⟨rfl, rfl⟩

def registeredTotals : Op Nat "daily" :=
  .register (sized 2000000) { genId := "01JAAAAAAAAAAAAAAAAAAAAAAA" } dailyTotals

/-- The reload finds the view of the registration and cannot rename its table, and the
removal leaves the view. -/
theorem shrunk_result_not_published : ∃ t,
    Run (Dataset.step (some spillAboveOneMib)) (Honours (some spillAboveOneMib))
      { db := { relations := ∅, dir := ∅ } } [registeredTotals] t ∧
    ¬ Honours (some spillAboveOneMib) t
      (.reload (sized 1000) { genId := "01JBBBBBBBBBBBBBBBBBBBBBBB" }) ∧
    ¬ Honours (some spillAboveOneMib) t
      (.unregister (sized 0) { genId := "" }) := by
  refine ⟨_, .single ?_ rfl, ?_, ?_⟩
  · intro _ _ rows evaluated
    cases evaluated
    exact ⟨rfl, rfl, rfl, rfl, rfl⟩
  · intro publishes
    have returned := (publishes dailyTotals rfl 1000 rfl).returned
    revert returned
    decide
  · intro clears
    have gone := (clears _ rfl).relation
    revert gone
    decide

end
end Datapress.DuckDB
