import Datapress.DuckDB.Course

/-! What a reload that fails leaves behind. -/
namespace Datapress.DuckDB
open Datapress.Storage

variable {Rows : Type}

/-- The relations by their names, and the rows that one of them serves. -/
def SameRelations (engine : Engine Rows) (name : String) (db t : Db Rows) : Prop :=
  (∀ other, t.relations.lookup other = db.relations.lookup other) ∧
    engine.rows t name = engine.rows db name

/-- The relations, the rows under the name of the dataset, and what is cached of them. -/
structure Unchanged (engine : Engine Rows) (name : String) (s t : Registry Rows) : Prop where
  relations : SameRelations engine name s.db t.db
  schema : t.schema = s.schema
  rowCount : t.rowCount = s.rowCount

section
variable [ToLowercase] (engine : Engine Rows) (storage : Option MaterializationStorage)
  (outside : Outside) (d : BuildConfig) (db : Db Rows)

/-- Once a statement has changed a relation, every later one succeeds or restores it. -/
def Recovers : Prop :=
  match course engine storage d db with
  | .stops => True
  | .replaces rows relation =>
    outside.faults .replace = none → db.relations.fits d.name relation.isTable →
      concludes engine outside d rows ∨ db.relations.lookup d.name = some relation
  | .renames rows =>
    outside.faults .createTemp = none → tempName d.name outside.genId ∉ db.relations →
      makesRoom outside db d.name ∧ outside.faults .rename = none ∧
        (describes engine outside d .describe rows ∧ concludes engine outside d rows ∨
          db.relations.lookup d.name = some (.table rows))
  | .spills storage _ rows =>
    outside.faults .createTemp = none → tempName d.name outside.genId ∉ db.relations →
      outside.faults .copy = none ∧
        if outside.faults .createView = none ∧ db.relations.fits d.name false then
          describes engine outside d .describe rows ∧ outside.faults .manifest = none ∧
            survives outside db storage ∧ concludes engine outside d rows
        else outside.faults .dropTemp = none

variable {engine storage outside d db} {rows : Rows} {bad : Db Rows → Prop}

variable (engine outside d bad) in
/-- What follows the replacement either succeeds or fails where a failure is fine. -/
def Finishes (db : Db Rows) : Prop :=
  (introspectSchema engine outside d .describeAgain).wp
    (fun _ t => (countRows engine outside d).wp (fun _ _ => True) (fun _ => bad) t)
    (fun _ => bad) db

theorem finishes_iff (readable : engine.rows db d.name = .ok rows) :
    Finishes engine outside d bad db ↔ concludes engine outside d rows ∨ bad db := by
  rw [Finishes, introspectSchema_wp readable, countRows_wp readable, concludes]
  by_cases described : describes engine outside d .describeAgain rows
  · cases counted : outside.faults .countRows <;> simp [described]
  · simp [described]

theorem finishes_iff_of_error {e : AppError} (broken : engine.rows db d.name = .error e) :
    Finishes engine outside d bad db ↔ bad db := by
  rw [Finishes, introspectSchema, Attempt.wp_inspect, broken]
  cases outside.faults .describeAgain <;> exact Iff.rfl

/-! ### What stays the same -/

variable {t : Db Rows} {name : String}

omit [ToLowercase] in
theorem Engine.rows_congr (same : t.relations.lookup name = db.relations.lookup name)
    (dir : t.dir = db.dir) : engine.rows t name = engine.rows db name := by
  have read : engine.read t = engine.read db := by
    funext relation
    cases relation with
    | table rows => rfl
    | view source =>
        cases source with
        | scan clause => rfl
        | generation id => simp only [Engine.read, Engine.readSource, dir]
  rw [Engine.rows, Engine.rows, same, read]

omit [ToLowercase] in
theorem not_sameRelations (other : String)
    (differs : t.relations.lookup other ≠ db.relations.lookup other) :
    ¬ SameRelations engine name db t :=
  fun same => differs (same.1 other)

omit [ToLowercase] in
/-- Only the named relation can have changed. -/
theorem sameRelations_iff (others : ∀ other, other ≠ name →
      t.relations.lookup other = db.relations.lookup other) (dir : t.dir = db.dir) :
    SameRelations engine name db t ↔ t.relations.lookup name = db.relations.lookup name := by
  constructor
  · intro same
    exact same.1 name
  · intro same
    refine ⟨fun other => ?_, Engine.rows_congr same dir⟩
    by_cases here : other = name
    · rw [here, same]
    · exact others other here

omit [ToLowercase] in
theorem sameRelations_put {relation : Relation Rows} :
    SameRelations engine name db (db.put name relation) ↔
      db.relations.lookup name = some relation := by
  rw [sameRelations_iff (fun _ apart => Db.lookup_put_ne apart) rfl, Db.lookup_put]
  exact eq_comm

omit [ToLowercase] in
/-- A generation that the relation does not serve can be written. -/
theorem rows_of_fresh {id : String} {generation : Generation Rows}
    (same : t.relations.lookup name = db.relations.lookup name)
    (dir : t.dir = db.dir.insert id generation)
    (fresh : db.relations.lookup name ≠ some (.view (.generation id))) :
    engine.rows t name = engine.rows db name := by
  rw [Engine.rows, Engine.rows, same]
  cases found : db.relations.lookup name with
  | none => rfl
  | some relation =>
      cases relation with
      | table rows => rfl
      | view source =>
          cases source with
          | scan clause => rfl
          | generation other =>
              have apart : other ≠ id := fun here => fresh (by rw [found, here])
              simp only [Engine.read, Engine.readSource, dir, AList.lookup_insert_ne apart]

/-! ### The courses of a build -/

omit [ToLowercase] in
/-- Nothing but the name of the dataset is as before once the temporary table is renamed. -/
theorem sameRelations_of_renamed {temp : String} {u : Db Rows} (free : temp ∉ db.relations) (dir : u.dir = db.dir)
    (others : ∀ other, other ≠ name → u.relations.lookup other =
      ((db.put temp (.table rows)).drop temp).relations.lookup other) :
    SameRelations engine name db u ↔ u.relations.lookup name = db.relations.lookup name := by
  refine sameRelations_iff (fun other distinct => ?_) dir
  rw [others other distinct]
  by_cases same : other = temp
  · rw [same, Db.lookup_drop, AList.lookup_eq_none.mpr free]
  · rw [Db.lookup_drop_ne same, Db.lookup_put_ne same]

theorem keepInMemory_recovers (free : tempName d.name outside.genId ∉ db.relations) :
    (keepInMemory engine outside d (tempName d.name outside.genId)).wp
        (fun _ => Finishes engine outside d (SameRelations engine d.name db))
        (fun _ => SameRelations engine d.name db) (db.withTemp outside d rows) ↔
      makesRoom outside db d.name ∧ outside.faults .rename = none ∧
        (describes engine outside d .describe rows ∧ concludes engine outside d rows ∨
          db.relations.lookup d.name = some (.table rows)) := by
  have apart := tempName_ne d.name outside.genId
  have found : (db.withTemp outside d rows).relations.lookup (tempName d.name outside.genId) =
      some (.table rows) := Db.lookup_put
  obtain ⟨t, u, left, dir, served, others, runs⟩ := keepInMemory_wp engine outside apart found
  have changed : ¬ SameRelations engine d.name db t := by
    refine not_sameRelations (tempName d.name outside.genId) ?_
    rw [left _ apart, Db.lookup_put, AList.lookup_eq_none.mpr free]
    nofun
  have same : SameRelations engine d.name db u ↔
      db.relations.lookup d.name = some (.table rows) := by
    rw [sameRelations_of_renamed free dir others, served]
    exact eq_comm
  rw [runs, makesRoom_withTemp, finishes_iff (Engine.rows_of_table served), same]
  by_cases renamed : makesRoom outside db d.name ∧ outside.faults .rename = none
  · rw [if_pos renamed]
    simp only [renamed, true_and]
    by_cases described : describes engine outside d .describe rows
    · simp only [described, if_true, true_and]
    · simp only [described, Bool.false_eq_true, if_false, false_and, false_or]
  · rw [if_neg renamed]
    exact iff_of_false changed fun held => renamed ⟨held.1, held.2.1⟩

theorem spillToStorage_recovers {sql : String} {storage : MaterializationStorage}
    (free : tempName d.name outside.genId ∉ db.relations)
    (fresh : db.relations.lookup d.name ≠ some (.view (.generation outside.genId))) :
    (spillToStorage engine outside d storage sql (tempName d.name outside.genId)).wp
        (fun _ => Finishes engine outside d (SameRelations engine d.name db))
        (fun _ => SameRelations engine d.name db) (db.withTemp outside d rows) ↔
      outside.faults .copy = none ∧
        if outside.faults .createView = none ∧ db.relations.fits d.name false then
          describes engine outside d .describe rows ∧ outside.faults .manifest = none ∧
            survives outside db storage ∧ concludes engine outside d rows
        else outside.faults .dropTemp = none := by
  have apart := tempName_ne d.name outside.genId
  have found : (db.withTemp outside d rows).relations.lookup (tempName d.name outside.genId) =
      some (.table rows) := Db.lookup_put
  obtain ⟨t, manifest, dir, others, gone, runs⟩ :=
    spillToStorage_wp engine outside storage sql apart found
  have uncopied : ¬ SameRelations engine d.name db (db.withTemp outside d rows) := by
    refine not_sameRelations (tempName d.name outside.genId) ?_
    rw [Db.lookup_put, AList.lookup_eq_none.mpr free]
    nofun
  have others (other : String) (distinct : other ≠ tempName d.name outside.genId) :
      t.relations.lookup other = db.relations.lookup other :=
    (others other distinct).trans (Db.lookup_put_ne distinct)
  have unviewed : SameRelations engine d.name db t ↔ outside.faults .dropTemp = none := by
    rw [← gone]
    constructor
    · intro same
      exact (same.1 _).trans (AList.lookup_eq_none.mpr free)
    · intro dropped
      refine ⟨fun other => ?_, rows_of_fresh (others _ apart.symm) dir fresh⟩
      by_cases same : other = tempName d.name outside.genId
      · rw [same, dropped, AList.lookup_eq_none.mpr free]
      · exact others other same
  have viewed {w : Db Rows} (serves : w.relations.lookup d.name =
      some (.view (.generation outside.genId))) : ¬ SameRelations engine d.name db w :=
    not_sameRelations d.name (by rw [serves]; exact fresh.symm)
  rw [runs, fits_withTemp, Db.put_dir]
  by_cases copied : outside.faults .copy = none
  · rw [if_pos copied]
    by_cases shown : outside.faults .createView = none ∧ db.relations.fits d.name false
    · rw [if_pos shown, if_pos shown]
      by_cases written : describes engine outside d .describe rows ∧ outside.faults .manifest = none
      · rw [if_pos written]
        let w : Db Rows := gcStorage storage outside.stuck
          { relations := (t.put d.name (.view (.generation outside.genId))).relations
            dir := db.dir.insert outside.genId { rows, manifest := some manifest } }
        have serves : w.relations.lookup d.name = some (.view (.generation outside.genId)) := by
          rw [gcStorage_relations]
          exact Db.lookup_put
        have read : engine.rows w d.name = if survives outside db storage then .ok rows
            else .error engine.refused := rows_gcStorage rfl Db.lookup_put
        by_cases kept : survives outside db storage
        · rw [if_pos kept] at read
          show Finishes engine outside d _ w ↔ _
          rw [finishes_iff read, or_iff_left (viewed serves)]
          simp only [copied, written, kept, true_and]
        · rw [if_neg kept] at read
          show Finishes engine outside d _ w ↔ _
          rw [finishes_iff_of_error read]
          exact iff_of_false (viewed serves) fun held => kept held.2.2.2.1
      · rw [if_neg written]
        exact iff_of_false (viewed Db.lookup_put) fun held => written ⟨held.2.1, held.2.2.1⟩
    · rw [if_neg shown, if_neg shown, unviewed]
      exact (and_iff_right copied).symm
  · rw [if_neg copied]
    exact iff_of_false uncopied fun held => copied held.1

theorem rebuild_recovers
    (fresh : db.relations.lookup d.name ≠ some (.view (.generation outside.genId))) :
    (rebuild engine storage outside d).wp (fun _ _ => True)
        (fun _ => SameRelations engine d.name db) db ↔
      Recovers engine storage outside d db := by
  have same : SameRelations engine d.name db db := ⟨fun _ => rfl, rfl⟩
  have split : (rebuild engine storage outside d).wp (fun _ _ => True)
        (fun _ => SameRelations engine d.name db) db ↔
      (replaceTable engine storage outside d).wp
        (fun _ => Finishes engine outside d (SameRelations engine d.name db))
        (fun _ => SameRelations engine d.name db) db := by
    rw [rebuild, Attempt.wp_bind]
    refine Attempt.wp_congr fun _ t => ?_
    simp only [Attempt.wp_bind, Attempt.wp_pure, Finishes]
  rw [split, replaceTable_wp, Recovers]
  cases taken : course engine storage d db with
  | stops => exact iff_of_true same trivial
  | replaces rows relation =>
      dsimp only
      by_cases runs : outside.faults .replace = none ∧ db.relations.fits d.name relation.isTable
      · have read : engine.rows (db.put d.name relation) d.name = .ok rows := by
          rw [Engine.rows, Db.lookup_put]
          exact read_of_replaces taken _
        rw [if_pos runs, finishes_iff read, sameRelations_put]
        exact ⟨fun held _ _ => held, fun held => held runs.1 runs.2⟩
      · rw [if_neg runs]
        exact iff_of_true same fun fault fits => absurd ⟨fault, fits⟩ runs
  | renames rows =>
      dsimp only
      by_cases runs : outside.faults .createTemp = none ∧ tempName d.name outside.genId ∉ db.relations
      · rw [if_pos runs, keepInMemory_recovers runs.2]
        exact ⟨fun held _ _ => held, fun held => held runs.1 runs.2⟩
      · rw [if_neg runs]
        exact iff_of_true same fun fault free => absurd ⟨fault, free⟩ runs
  | spills storage sql rows =>
      dsimp only
      by_cases runs : outside.faults .createTemp = none ∧ tempName d.name outside.genId ∉ db.relations
      · rw [if_pos runs, spillToStorage_recovers runs.2 fresh]
        exact ⟨fun held _ _ => held, fun held => held runs.1 runs.2⟩
      · rw [if_neg runs]
        exact iff_of_true same fun fault free => absurd ⟨fault, free⟩ runs

end

section
variable [ToLowercase] {engine : Engine Rows} {storage : Option MaterializationStorage}
  {outside : Outside} {d : BuildConfig} {s : Registry Rows}

/-- A reload that fails changes nothing, just when its statements recover. -/
theorem reload_unchanged_iff
    (fresh : s.db.relations.lookup d.name ≠ some (.view (.generation outside.genId))) :
    (∀ e t, reloadInner engine storage outside d s = (.error e, t) →
      Unchanged engine d.name s t) ↔ Recovers engine storage outside d s.db := by
  rw [← rebuild_recovers fresh, Attempt.wp_iff]
  constructor
  · intro unchanged
    refine ⟨fun _ _ _ => trivial, fun e t ran => ?_⟩
    have failed : reloadInner engine storage outside d s = (.error e, { s with
        db := t, status := some (if s.schema.isSome then .published else .failed) }) := by
      rw [reloadInner, ran]
    exact (unchanged e _ failed).relations
  · rintro ⟨_, kept⟩ e t failed
    rw [reloadInner] at failed
    rcases ran : rebuild engine storage outside d s.db with ⟨_ | _, db⟩
    · rw [ran] at failed
      cases failed
      exact ⟨kept _ _ ran, rfl, rfl⟩
    · rw [ran] at failed
      cases failed

end

/-! A file that has lost a column which the filters of its dataset name. -/
section
attribute [local instance] asciiToLowercase

/-- The rows of a source are known by the names of their columns. -/
def columnsOnly (file : List String) : Engine (List String) where
  execute _ _ := .ok file
  scan _ := .ok file
  columns names := names.map fun name => { name, logical := .utf8, sqlType := "VARCHAR", nullable := true }
  count names := names.length
  estimatedSize names := names.length
  refused := .internal "Catalog Error"

def filteredEvents : BuildConfig where
  name := "events"
  sql := none
  kind := .parquet
  scanClause := .ok "read_parquet(['events/*.parquet'])"
  projectionFilter := { excluded := ["secret"] }

def servedEvents : Registry (List String) where
  db := { relations := AList.singleton "events" (.table ["id", "secret"]), dir := ∅ }
  rowCount := some 2

theorem lost_column_replaces : ¬ ∀ e t,
    reloadInner (columnsOnly ["id"]) none { genId := "01J" } filteredEvents servedEvents =
      (.error e, t) → Unchanged (columnsOnly ["id"]) "events" servedEvents t := by
  intro unchanged
  have changed := (unchanged _ _ rfl).relations.1 "events"
  revert changed
  decide

theorem kept_columns_recover : ¬ ∃ e t,
    reloadInner (columnsOnly ["id", "secret"]) none { genId := "01J" } filteredEvents servedEvents =
      (.error e, t) ∧ ¬ Unchanged (columnsOnly ["id", "secret"]) "events" servedEvents t := by
  have unchanged : ∀ e t,
      reloadInner (columnsOnly ["id", "secret"]) none { genId := "01J" } filteredEvents servedEvents =
        (.error e, t) → Unchanged (columnsOnly ["id", "secret"]) "events" servedEvents t :=
    (reload_unchanged_iff (by decide)).mpr fun _ _ => .inl (by decide)
  rintro ⟨e, t, failed, changed⟩
  exact changed (unchanged e t failed)

end
end Datapress.DuckDB
