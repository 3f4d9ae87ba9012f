import Datapress.DuckDB.Builds

/-! What a build comes to, by the kind of its dataset and the place of its result. -/
namespace Datapress.DuckDB
open Datapress.Storage

/-- The source fails, its rows replace the relation in one statement, or a temporary table
of them takes its place or is written to storage. -/
inductive Course (Rows : Type) where
  | stops
  | replaces (rows : Rows) (relation : Relation Rows)
  | renames (rows : Rows)
  | spills (storage : MaterializationStorage) (sql : String) (rows : Rows)

variable {Rows : Type} [ToLowercase] (engine : Engine Rows)
  (storage : Option MaterializationStorage) (outside : Outside) (d : BuildConfig) (db : Db Rows)

omit [ToLowercase] in
def course : Course Rows :=
  if d.kind = .query then
    match d.sql with
    | none => .stops
    | some sql =>
      match engine.execute (sql ++ d.orderByClause) db with
      | .error _ => .stops
      | .ok rows =>
        match d.residency, storage with
        | .lazy, none => .stops
        | .memory, _ | .auto, none => .replaces rows (.table rows)
        | residency, some storage =>
          if residency == .lazy || storage.threshold < engine.estimatedSize rows then
            .spills storage sql rows
          else .renames rows
  else
    match d.scanClause with
    | .error _ => .stops
    | .ok scan =>
      match engine.scan scan with
      | .error _ => .stops
      | .ok rows => .replaces rows (if d.lazy then .view (.scan scan) else .table rows)

omit [ToLowercase] in
/-- The result of a query stays in memory without being measured. -/
def StaysInMemory : Prop := d.residency = .memory ∨ d.residency = .auto ∧ storage = none

instance : Decidable (StaysInMemory storage d) := inferInstanceAs (Decidable (_ ∨ _))

variable {engine storage outside d db}

omit [ToLowercase] in
/-- A relation that replaces the old one in one statement serves the rows of the source. -/
theorem read_of_replaces {rows : Rows} {relation : Relation Rows}
    (taken : course engine storage d db = .replaces rows relation) (t : Db Rows) :
    engine.read t relation = .ok rows := by
  rw [course] at taken
  by_cases query : d.kind = .query
  · rw [if_pos query] at taken
    repeat' split at taken
    all_goals cases taken
    all_goals rfl
  · rw [if_neg query] at taken
    cases clause : d.scanClause with
    | error e => rw [clause] at taken; cases taken
    | ok scan =>
        rw [clause] at taken
        dsimp only at taken
        cases read : engine.scan scan with
        | error e => rw [read] at taken; cases taken
        | ok rows =>
            rw [read] at taken
            cases taken
            cases d.lazy with
            | true => exact read
            | false => rfl

omit [ToLowercase] in
theorem course_ne_replaces {rows : Rows} {relation : Relation Rows} (query : d.kind = .query)
    (leaves : ¬ StaysInMemory storage d) : course engine storage d db ≠ .replaces rows relation := by
  rw [course, if_pos query]
  cases d.sql with
  | none => exact nofun
  | some sql =>
      dsimp only
      cases engine.execute (sql ++ d.orderByClause) db with
      | error e => exact nofun
      | ok rows =>
          cases resides : d.residency with
          | memory => exact absurd (.inl resides) leaves
          | auto =>
              cases storage with
              | none => exact absurd (.inr ⟨resides, rfl⟩) leaves
              | some storage => dsimp only; split <;> exact nofun
          | «lazy» => cases storage <;> exact nofun

variable {ok bad : Db Rows → Prop}

/-- The state of a build after its temporary table. -/
abbrev Db.withTemp (db : Db Rows) (outside : Outside) (d : BuildConfig) (rows : Rows) : Db Rows :=
  db.put (tempName d.name outside.genId) (.table rows)

theorem registerQueryWithStorage_wp {sql : String} {ok : Option DatasetSchema × Bool → Db Rows → Prop}
    {storage : MaterializationStorage} {rows : Rows} (away : d.residency ≠ .memory)
    (evaluated : engine.execute (sql ++ d.orderByClause) db = .ok rows) :
    (registerQueryWithStorage engine (some storage) outside d sql).wp ok (fun _ => bad) db ↔
      if outside.faults .createTemp = none ∧ tempName d.name outside.genId ∉ db.relations then
        if d.residency == .lazy || storage.threshold < engine.estimatedSize rows then
          (spillToStorage engine outside d storage sql (tempName d.name outside.genId)).wp
            (fun schema => ok (some schema, true)) (fun _ => bad) (db.withTemp outside d rows)
        else
          (keepInMemory engine outside d (tempName d.name outside.genId)).wp
            (fun schema => ok (some schema, false)) (fun _ => bad) (db.withTemp outside d rows)
      else bad db := by
  have body : registerQueryWithStorage engine (some storage) outside d sql = (do
      createTable engine outside.faults .createTemp (tempName d.name outside.genId)
        (engine.execute (sql ++ d.orderByClause))
      let useStorage ← Attempt.inspect fun db => .ok (d.residency == .lazy ||
        decide (storage.threshold < estimatedTableBytes engine db (tempName d.name outside.genId)))
      if useStorage then
        (fun schema => (some schema, true)) <$>
          spillToStorage engine outside d storage sql (tempName d.name outside.genId)
      else
        (fun schema => (some schema, false)) <$>
          keepInMemory engine outside d (tempName d.name outside.genId)) := by
    unfold registerQueryWithStorage
    cases resides : d.residency with
    | memory => exact absurd resides away
    | auto => rfl
    | «lazy» => rfl
  have size : estimatedTableBytes engine (db.withTemp outside d rows)
      (tempName d.name outside.genId) = engine.estimatedSize rows := by
    rw [estimatedTableBytes, Db.lookup_put]
  rw [body, Attempt.wp_bind, createTable_wp evaluated]
  refine iff_of_eq (if_congr Iff.rfl (propext ?_) rfl)
  rw [Attempt.wp_bind, Attempt.wp_inspect, size]
  cases d.residency == .lazy || decide (storage.threshold < engine.estimatedSize rows) with
  | true => exact Attempt.wp_map
  | false => exact Attempt.wp_map

theorem registerQueryWithStorage_wp_of_error {sql : String} {e : AppError}
    {ok : Option DatasetSchema × Bool → Db Rows → Prop} {storage : MaterializationStorage}
    (away : d.residency ≠ .memory)
    (failed : engine.execute (sql ++ d.orderByClause) db = .error e) :
    (registerQueryWithStorage engine (some storage) outside d sql).wp ok (fun _ => bad) db ↔
      bad db := by
  unfold registerQueryWithStorage
  cases resides : d.residency with
  | memory => exact absurd resides away
  | auto => exact Attempt.wp_bind.trans (createTable_wp_of_error failed)
  | «lazy» => exact Attempt.wp_bind.trans (createTable_wp_of_error failed)

omit [ToLowercase] in
/-- The storage path leaves the result to its caller. -/
theorem course_of_staysInMemory {sql : String} (query : d.kind = .query) (given : d.sql = some sql)
    (stays : StaysInMemory storage d) :
    course engine storage d db =
      match engine.execute (sql ++ d.orderByClause) db with
      | .error _ => .stops
      | .ok rows => .replaces rows (.table rows) := by
  rw [course, if_pos query, given]
  obtain resides | ⟨resides, rfl⟩ := stays <;> rw [resides]

theorem registerQueryWithStorage_of_staysInMemory {sql : String} (stays : StaysInMemory storage d) :
    registerQueryWithStorage engine storage outside d sql = pure (none, false) := by
  unfold registerQueryWithStorage
  obtain resides | ⟨resides, rfl⟩ := stays <;> rw [resides]

omit [ToLowercase] in
theorem course_of_storage {sql : String} {storage : MaterializationStorage}
    (query : d.kind = .query) (given : d.sql = some sql) (away : d.residency ≠ .memory) :
    course engine (some storage) d db =
      match engine.execute (sql ++ d.orderByClause) db with
      | .error _ => .stops
      | .ok rows =>
        if d.residency == .lazy || storage.threshold < engine.estimatedSize rows then
          .spills storage sql rows
        else .renames rows := by
  rw [course, if_pos query, given]
  cases resides : d.residency with
  | memory => exact absurd resides away
  | auto => rfl
  | «lazy» => rfl

/-- The storage path makes the relation itself. -/
theorem registerQueryWithStorage_course {sql : String}
    {ok : Option DatasetSchema × Bool → Db Rows → Prop} (query : d.kind = .query)
    (given : d.sql = some sql) (leaves : ¬ StaysInMemory storage d) :
    (registerQueryWithStorage engine storage outside d sql).wp ok (fun _ => bad) db ↔
      match course engine storage d db with
      | .stops => bad db
      | .replaces _ _ => False
      | .renames rows =>
        if outside.faults .createTemp = none ∧ tempName d.name outside.genId ∉ db.relations then
          (keepInMemory engine outside d (tempName d.name outside.genId)).wp
            (fun schema => ok (some schema, false)) (fun _ => bad) (db.withTemp outside d rows)
        else bad db
      | .spills storage sql rows =>
        if outside.faults .createTemp = none ∧ tempName d.name outside.genId ∉ db.relations then
          (spillToStorage engine outside d storage sql (tempName d.name outside.genId)).wp
            (fun schema => ok (some schema, true)) (fun _ => bad) (db.withTemp outside d rows)
        else bad db := by
  have away : d.residency ≠ .memory := fun resides => leaves (.inl resides)
  cases storage with
  | none =>
      cases resides : d.residency with
      | memory => exact absurd resides away
      | auto => exact absurd (.inr ⟨resides, rfl⟩) leaves
      | «lazy» =>
          rw [course, if_pos query, given]
          unfold registerQueryWithStorage
          rw [resides]
          dsimp only
          cases engine.execute (sql ++ d.orderByClause) db <;> exact Iff.rfl
  | some storage =>
      rw [course_of_storage query given away]
      cases evaluated : engine.execute (sql ++ d.orderByClause) db with
      | error e => exact registerQueryWithStorage_wp_of_error away evaluated
      | ok rows =>
          rw [registerQueryWithStorage_wp away evaluated]
          by_cases big : d.residency == .lazy || storage.threshold < engine.estimatedSize rows
          · simp only [if_pos big]
          · simp only [if_neg big]

/-- What a reload does to the relations. -/
theorem replaceTable_wp :
    (replaceTable engine storage outside d).wp (fun _ => ok) (fun _ => bad) db ↔
      match course engine storage d db with
      | .stops => bad db
      | .replaces _ relation =>
        if outside.faults .replace = none ∧ db.relations.fits d.name relation.isTable then
          ok (db.put d.name relation)
        else bad db
      | .renames rows =>
        if outside.faults .createTemp = none ∧ tempName d.name outside.genId ∉ db.relations then
          (keepInMemory engine outside d (tempName d.name outside.genId)).wp
            (fun _ => ok) (fun _ => bad) (db.withTemp outside d rows)
        else bad db
      | .spills storage sql rows =>
        if outside.faults .createTemp = none ∧ tempName d.name outside.genId ∉ db.relations then
          (spillToStorage engine outside d storage sql (tempName d.name outside.genId)).wp
            (fun _ => ok) (fun _ => bad) (db.withTemp outside d rows)
        else bad db := by
  by_cases query : d.kind = .query
  · rw [replaceTable, if_pos query, Attempt.wp_bind, Attempt.wp_lift, BuildConfig.sqlOrError]
    cases given : d.sql with
    | none => rw [course, if_pos query, given]
    | some sql =>
        dsimp only
        rw [Attempt.wp_bind]
        by_cases stays : StaysInMemory storage d
        · rw [registerQueryWithStorage_of_staysInMemory stays,
            course_of_staysInMemory query given stays]
          cases evaluated : engine.execute (sql ++ d.orderByClause) db with
          | error e => exact Attempt.wp_bind.trans (createOrReplaceTable_wp_of_error evaluated)
          | ok rows => exact Attempt.wp_bind.trans (createOrReplaceTable_wp evaluated)
        · refine (registerQueryWithStorage_course query given stays).trans ?_
          cases taken : course engine storage d db with
          | replaces rows relation => exact absurd taken (course_ne_replaces query stays)
          | stops => exact Iff.rfl
          | renames rows => exact Iff.rfl
          | spills storage sql rows => exact Iff.rfl
  · rw [replaceTable, if_neg query, course, if_neg query, Attempt.wp_bind, Attempt.wp_lift]
    cases d.scanClause with
    | error e => exact Iff.rfl
    | ok scan =>
        have readable (db : Db Rows) : engine.readSource db (.scan scan) = engine.scan scan := rfl
        dsimp only
        cases read : engine.scan scan with
        | error e =>
            rw [read] at readable
            cases d.lazy with
            | true => exact Attempt.wp_bind.trans (createOrReplaceView_wp_of_error (readable db))
            | false => exact Attempt.wp_bind.trans (createOrReplaceTable_wp_of_error rfl)
        | ok rows =>
            rw [read] at readable
            cases d.lazy with
            | true => exact Attempt.wp_bind.trans (createOrReplaceView_wp (readable db))
            | false => exact Attempt.wp_bind.trans (createOrReplaceTable_wp rfl)

/-! ### What follows the temporary table -/

section
variable (engine outside d db)

/-- The engine describes the rows and the column filters accept their columns. -/
def describes (point : Point) (rows : Rows) : Bool :=
  (outside.faults point).isNone &&
    ((DatasetSchema.new d.name (engine.columns rows)).withFilters d.predicateFilter
      d.projectionFilter).isOk

/-- What follows the replacement succeeds on the rows. -/
def concludes (rows : Rows) : Bool :=
  describes engine outside d .describeAgain rows && (outside.faults .countRows).isNone

/-- The old relation gives way to the temporary table. -/
def makesRoom (name : String) : Bool :=
  match db.relations.lookup name with
  | none => true
  | some (.table _) => (outside.faults .dropTable).isNone
  | some (.view _) => false

/-- The collector leaves the generation of this build. -/
def survives (storage : MaterializationStorage) : Bool :=
  storage.backend == .s3 || outside.stuck.contains outside.genId ||
    decide (db.dir.complete.countP (outside.genId < ·) < 2)

end

omit [ToLowercase] in
theorem tempName_ne (name genId : String) : tempName name genId ≠ name := by
  intro same
  have length := congrArg String.length same
  simp only [tempName, String.length_append, String.length_ofList, List.length_map] at length
  have prefixed : "__dp_tmp_".length = 9 := rfl
  have : name.toList.length = name.length := rfl
  omega

variable {rows : Rows}

omit [ToLowercase] in
theorem fits_withTemp {isTable : Bool} :
    (db.withTemp outside d rows).relations.fits d.name isTable = db.relations.fits d.name isTable := by
  rw [Relations.fits, Relations.fits, Db.lookup_put_ne (tempName_ne d.name outside.genId).symm]

omit [ToLowercase] in
theorem makesRoom_withTemp :
    makesRoom outside (db.withTemp outside d rows) d.name = makesRoom outside db d.name := by
  rw [makesRoom, makesRoom, Db.lookup_put_ne (tempName_ne d.name outside.genId).symm]

theorem introspectSchema_wp {point : Point}
    (readable : engine.rows db d.name = .ok rows) :
    (introspectSchema engine outside d point).wp (fun _ => ok) (fun _ => bad) db ↔
      if describes engine outside d point rows then ok db else bad db := by
  rw [introspectSchema, Attempt.wp_inspect, describes, readable]
  cases outside.faults point with
  | some e => exact Iff.rfl
  | none =>
      dsimp only [bind, Except.bind]
      cases (DatasetSchema.new d.name (engine.columns rows)).withFilters d.predicateFilter
        d.projectionFilter <;> exact Iff.rfl

omit [ToLowercase] in
theorem countRows_wp (readable : engine.rows db d.name = .ok rows) :
    (countRows engine outside d).wp (fun _ => ok) (fun _ => bad) db ↔
      if outside.faults .countRows = none then ok db else bad db := by
  rw [countRows, Attempt.wp_inspect, readable]
  cases outside.faults .countRows <;> exact Iff.rfl

omit [ToLowercase] in
theorem makesRoom_iff {name : String} : makesRoom outside db name ↔
    db.relations.lookup name = none ∨
      outside.faults .dropTable = none ∧ db.relations.fits name true := by
  rw [makesRoom, Relations.fits]
  cases db.relations.lookup name with
  | none => simp
  | some relation => cases relation <;> simp [Relation.isTable]

omit [ToLowercase] in
theorem dropIfExists_wp {ok : Unit → Db Rows → Prop} {bad : Db Rows → Prop} {point : Point}
    {name : String} {isTable : Bool} :
    (dropIfExists engine outside.faults point name isTable).wp ok (fun _ => bad) db ↔
      if outside.faults point = none ∧ db.relations.fits name isTable then ok () (db.drop name)
      else bad db := by
  rw [dropIfExists, statement_wp]
  cases outside.faults point with
  | some e => simp
  | none => by_cases fitting : db.relations.fits name isTable <;> simp [fitting]

omit [ToLowercase] in
theorem renameTable_wp {old new : String} {ok : Unit → Db Rows → Prop} {bad : Db Rows → Prop}
    (found : db.relations.lookup old = some (.table rows)) :
    (renameTable engine outside.faults old new).wp ok (fun _ => bad) db ↔
      if outside.faults .rename = none ∧ db.relations.lookup new = none then
        ok () ((db.drop old).put new (.table rows))
      else bad db := by
  rw [renameTable, statement_wp, found]
  cases outside.faults .rename with
  | some e => simp
  | none => cases db.relations.lookup new <;> simp

variable (engine outside db) in
omit [ToLowercase] in
theorem dropRelation_wp (name : String) : ∃ t : Db Rows, t.dir = db.dir ∧
    (∀ other, other ≠ name → t.relations.lookup other = db.relations.lookup other) ∧
    (t.relations.lookup name = none ↔ makesRoom outside db name) ∧
    ∀ {ok bad : Db Rows → Prop},
      (dropRelation engine outside name).wp (fun _ => ok) (fun _ => bad) db ↔ ok t := by
  by_cases drops : outside.faults .dropTable = none ∧ db.relations.fits name true
  · have room := makesRoom_iff.mpr (.inr drops)
    have once (other : String) (apart : other ≠ name) :
        (db.drop name).relations.lookup other = db.relations.lookup other := Db.lookup_drop_ne apart
    by_cases fault : outside.faults .dropView = none
    · refine ⟨(db.drop name).drop name, rfl, fun other apart => ?_,
        iff_of_true Db.lookup_drop room, fun {ok bad} => ?_⟩
      · rw [Db.lookup_drop_ne apart, once other apart]
      · rw [dropRelation, Attempt.wp_ignore, Attempt.wp_bind, dropIfExists_wp, if_pos drops,
          dropIfExists_wp, if_pos ⟨fault, fits_of_none Db.lookup_drop⟩]
    · refine ⟨db.drop name, rfl, once, iff_of_true Db.lookup_drop room, fun {ok bad} => ?_⟩
      rw [dropRelation, Attempt.wp_ignore, Attempt.wp_bind, dropIfExists_wp, if_pos drops,
        dropIfExists_wp, if_neg fun held => fault held.1]
  · refine ⟨db, rfl, fun _ _ => rfl, ?_, fun {ok bad} => ?_⟩
    · rw [makesRoom_iff, or_iff_left drops]
    · rw [dropRelation, Attempt.wp_ignore, Attempt.wp_bind, dropIfExists_wp, if_neg drops]

variable (engine outside) in
/-- The temporary table takes the name of the dataset, or stays beside what was there. -/
theorem keepInMemory_wp {temp : String} (apart : temp ≠ d.name)
    (found : db.relations.lookup temp = some (.table rows)) : ∃ t u : Db Rows,
    (∀ other, other ≠ d.name → t.relations.lookup other = db.relations.lookup other) ∧
    u.dir = db.dir ∧ u.relations.lookup d.name = some (.table rows) ∧
    (∀ other, other ≠ d.name → u.relations.lookup other = (db.drop temp).relations.lookup other) ∧
    ∀ {ok bad : Db Rows → Prop},
      (keepInMemory engine outside d temp).wp (fun _ => ok) (fun _ => bad) db ↔
        if makesRoom outside db d.name ∧ outside.faults .rename = none then
          if describes engine outside d .describe rows then ok u else bad u
        else bad t := by
  obtain ⟨t, dir, others, room, dropped⟩ := dropRelation_wp engine outside db d.name
  have here : t.relations.lookup temp = some (.table rows) := (others temp apart).trans found
  refine ⟨t, (t.drop temp).put d.name (.table rows), others, dir, Db.lookup_put, ?_, ?_⟩
  · intro other distinct
    rw [Db.lookup_put_ne distinct]
    by_cases same : other = temp
    · rw [same, Db.lookup_drop, Db.lookup_drop]
    · rw [Db.lookup_drop_ne same, Db.lookup_drop_ne same, others other distinct]
  · intro ok bad
    rw [keepInMemory, Attempt.wp_bind, dropped, Attempt.wp_bind,
      renameTable_wp here, introspectSchema_wp (Engine.rows_of_table Db.lookup_put)]
    exact iff_of_eq (if_congr (by rw [room, and_comm]) rfl rfl)

theorem introspectSchema_wp_of_ok {schema : DatasetSchema} {point : Point}
    {ok : DatasetSchema → Db Rows → Prop} (readable : engine.rows db d.name = .ok rows)
    (accepted : (DatasetSchema.new d.name (engine.columns rows)).withFilters d.predicateFilter
      d.projectionFilter = .ok schema) :
    (introspectSchema engine outside d point).wp ok (fun _ => bad) db ↔
      if describes engine outside d point rows then ok schema db else bad db := by
  rw [introspectSchema, Attempt.wp_inspect, describes, readable, accepted]
  cases outside.faults point with
  | some e => exact Iff.rfl
  | none =>
      dsimp only [bind, Except.bind]
      rw [accepted]
      exact Iff.rfl

omit [ToLowercase] in
theorem writeManifestForStorage_wp {manifest : GenerationManifest} {generation : Generation Rows}
    {ok : Unit → Db Rows → Prop} (found : db.dir.lookup outside.genId = some generation) :
    (writeManifestForStorage engine outside manifest).wp ok (fun _ => bad) db ↔
      if outside.faults .manifest = none then
        ok () { db with
          dir := db.dir.insert outside.genId { generation with manifest := some manifest } }
      else bad db := by
  rw [writeManifestForStorage, statement_wp, found]
  cases outside.faults .manifest <;> exact Iff.rfl

theorem introspectSchema_wp_of_error {e : AppError} {point : Point}
    {ok : DatasetSchema → Db Rows → Prop} (readable : engine.rows db d.name = .ok rows)
    (refused : (DatasetSchema.new d.name (engine.columns rows)).withFilters d.predicateFilter
      d.projectionFilter = .error e) :
    (introspectSchema engine outside d point).wp ok (fun _ => bad) db ↔ bad db := by
  rw [introspectSchema, Attempt.wp_inspect, readable]
  cases outside.faults point with
  | some e => exact Iff.rfl
  | none =>
      dsimp only [bind, Except.bind]
      rw [refused]

omit [ToLowercase] in
theorem gcStorage_relations {storage : MaterializationStorage} {stuck : List String} :
    (gcStorage storage stuck db).relations = db.relations := by
  rw [gcStorage]
  cases storage.backend <;> rfl

omit [ToLowercase] in
/-- What the collector of the build leaves of the generation that it has sealed. -/
theorem lookup_gcStorage {storage : MaterializationStorage} {relations : Relations Rows}
    {generation : Generation Rows} (isSealed : generation.manifest.isSome) :
    (gcStorage storage outside.stuck
      { relations, dir := db.dir.insert outside.genId generation }).dir.lookup outside.genId =
      if survives outside db storage then some generation else none := by
  have newest : outside.genId ∈ DatasetDir.newestTwo (db.dir.insert outside.genId generation) ↔
      db.dir.complete.countP (outside.genId < ·) < 2 := by
    rw [DatasetDir.mem_newestTwo, DatasetDir.countP_complete_insert (by simp)]
    refine and_iff_right (DatasetDir.mem_complete.mpr ⟨generation, ?_, isSealed⟩)
    exact AList.lookup_insert _
  rw [gcStorage, survives]
  cases storage.backend with
  | s3 => exact AList.lookup_insert _
  | «local» =>
      have kept : (generation.manifest.isSome &&
          (DatasetDir.newestTwo (db.dir.insert outside.genId generation)).contains outside.genId ||
            outside.stuck.contains outside.genId) =
          (outside.stuck.contains outside.genId ||
            decide (db.dir.complete.countP (outside.genId < ·) < 2)) := by
        rw [isSealed, Bool.true_and, Bool.or_comm, ← decide_eq_decide.mpr newest,
          ← List.contains_eq_mem outside.genId]
      simp only [DatasetDir.gcGenerations, DatasetDir.lookup_keepOnly, AList.lookup_insert,
        Option.filter_some, kept]
      rfl

omit [ToLowercase] in
theorem rows_gcStorage {storage : MaterializationStorage} {relations : Relations Rows}
    {generation : Generation Rows} (isSealed : generation.manifest.isSome)
    (serves : relations.lookup d.name = some (.view (.generation outside.genId))) :
    engine.rows (gcStorage storage outside.stuck
      { relations, dir := db.dir.insert outside.genId generation }) d.name =
      if survives outside db storage then .ok generation.rows else .error engine.refused := by
  rw [Engine.rows_of_view (by rw [gcStorage_relations]; exact serves), Engine.readSource,
    lookup_gcStorage isSealed]
  by_cases kept : survives outside db storage
  · rw [if_pos kept, if_pos kept]
  · rw [if_neg kept, if_neg kept]

/-- The generation gets its manifest once its schema is accepted. -/
theorem seal_wp (storage : MaterializationStorage) (sql : String) {generation : Generation Rows}
    (readable : engine.rows db d.name = .ok rows)
    (found : db.dir.lookup outside.genId = some generation) :
    ∃ manifest : GenerationManifest, ∀ {ok bad : Db Rows → Prop},
      (introspectSchema engine outside d .describe).wp (fun schema t =>
        (writeManifestForStorage engine outside (generationManifest schema sql)).wp
          (fun _ t => ok (gcStorage storage outside.stuck t)) (fun _ => bad) t) (fun _ => bad) db ↔
        if describes engine outside d .describe rows ∧ outside.faults .manifest = none then
          ok (gcStorage storage outside.stuck { db with
            dir := db.dir.insert outside.genId { generation with manifest := some manifest } })
        else bad db := by
  cases accepted : (DatasetSchema.new d.name (engine.columns rows)).withFilters d.predicateFilter
      d.projectionFilter with
  | error e =>
      have undescribed : ¬ describes engine outside d .describe rows := by
        rw [describes, accepted]
        simp [Except.isOk, Except.toBool]
      refine ⟨{ sqlHash := 0, schemaHash := 0 }, fun {ok bad} => ?_⟩
      rw [introspectSchema_wp_of_error readable accepted, if_neg fun held => undescribed held.1]
  | ok schema =>
      refine ⟨generationManifest schema sql, fun {ok bad} => ?_⟩
      rw [introspectSchema_wp_of_ok readable accepted, writeManifestForStorage_wp found]
      by_cases described : describes engine outside d .describe rows
      · simp only [described, true_and, if_true]
      · rw [if_neg described, if_neg fun held => described held.1]

variable (engine outside) in
/-- The rows become a generation that a view serves once its data is written. -/
theorem spillToStorage_wp (storage : MaterializationStorage) (sql : String) {temp : String}
    (apart : temp ≠ d.name) (found : db.relations.lookup temp = some (.table rows)) :
    ∃ (t : Db Rows) (manifest : GenerationManifest), t.dir = db.dir.insert outside.genId { rows } ∧
    (∀ other, other ≠ temp → t.relations.lookup other = db.relations.lookup other) ∧
    (t.relations.lookup temp = none ↔ outside.faults .dropTemp = none) ∧
    ∀ {ok bad : Db Rows → Prop},
      (spillToStorage engine outside d storage sql temp).wp (fun _ => ok) (fun _ => bad) db ↔
        if outside.faults .copy = none then
          if outside.faults .createView = none ∧ db.relations.fits d.name false then
            if describes engine outside d .describe rows ∧ outside.faults .manifest = none then
              ok (gcStorage storage outside.stuck
                { relations := (t.put d.name (.view (.generation outside.genId))).relations
                  dir := db.dir.insert outside.genId { rows, manifest := some manifest } })
            else bad (t.put d.name (.view (.generation outside.genId)))
          else bad t
        else bad db := by
  let copied : Db Rows := { db with dir := db.dir.insert outside.genId { rows } }
  let t : Db Rows := if outside.faults .dropTemp = none then copied.drop temp else copied
  have dir : t.dir = db.dir.insert outside.genId { rows } := by
    simp only [t]
    split <;> rfl
  have others (other : String) (distinct : other ≠ temp) :
      t.relations.lookup other = db.relations.lookup other := by
    simp only [t]
    split
    · exact Db.lookup_drop_ne distinct
    · rfl
  have gone : t.relations.lookup temp = none ↔ outside.faults .dropTemp = none := by
    simp only [t]
    split
    · rename_i dropped
      exact iff_of_true Db.lookup_drop dropped
    · rename_i stays
      exact iff_of_false (by rw [show copied.relations.lookup temp = _ from found]; nofun) stays
  have dropping {ok : Db Rows → Prop} :
      (dropIfExists engine outside.faults .dropTemp temp true).wp (fun _ => ok) (fun _ => ok) copied ↔
        ok t := by
    have fitting : copied.relations.fits temp true := by
      rw [fits_iff]
      intro relation there
      cases Option.some.inj (there.symm.trans found)
      rfl
    rw [dropIfExists_wp]
    simp only [fitting, and_true, t]
    split <;> exact Iff.rfl
  have written : t.dir.lookup outside.genId = some { rows } := by
    rw [dir, AList.lookup_insert]
  have readable : engine.readSource t (.generation outside.genId) = .ok rows := by
    rw [Engine.readSource, written]
  have fits : t.relations.fits d.name false = db.relations.fits d.name false := by
    rw [Relations.fits, Relations.fits, others d.name apart.symm]
  have served : engine.rows (t.put d.name (.view (.generation outside.genId))) d.name = .ok rows :=
    (Engine.rows_of_view Db.lookup_put).trans readable
  obtain ⟨manifest, sealing⟩ := seal_wp storage sql served written
  refine ⟨t, manifest, dir, others, gone, fun {ok bad} => ?_⟩
  rw [spillToStorage, Attempt.wp_bind, copyTo_wp (Engine.rows_of_table found), Attempt.wp_bind,
    Attempt.wp_ignore, dropping, Attempt.wp_bind, createOrReplaceView_wp readable, fits,
    Attempt.wp_bind]
  simp only [Attempt.wp_bind, Attempt.wp_modify, Attempt.wp_pure, sealing, Db.put_dir, dir,
    AList.insert_insert]

/-- What a registration does to the relations. -/
theorem registerDataset_wp :
    (registerDataset engine storage outside d).wp (fun _ => ok) (fun _ => bad) db ↔
      match course engine storage d db with
      | .stops => bad db
      | .replaces rows relation =>
        if outside.faults .replace = none ∧ d.name ∉ db.relations then
          if describes engine outside d .describe rows then ok (db.put d.name relation)
          else bad (db.put d.name relation)
        else bad db
      | .renames rows =>
        if outside.faults .createTemp = none ∧ tempName d.name outside.genId ∉ db.relations then
          (keepInMemory engine outside d (tempName d.name outside.genId)).wp
            (fun _ => ok) (fun _ => bad) (db.withTemp outside d rows)
        else bad db
      | .spills storage sql rows =>
        if outside.faults .createTemp = none ∧ tempName d.name outside.genId ∉ db.relations then
          (spillToStorage engine outside d storage sql (tempName d.name outside.genId)).wp
            (fun _ => ok) (fun _ => bad) (db.withTemp outside d rows)
        else bad db := by
  have described {rows : Rows} {relation : Relation Rows}
      (read : engine.read (db.put d.name relation) relation = .ok rows) :
      (introspectSchema engine outside d .describe).wp (fun _ => ok) (fun _ => bad)
        (db.put d.name relation) ↔
        if describes engine outside d .describe rows then ok (db.put d.name relation)
        else bad (db.put d.name relation) := by
    refine introspectSchema_wp ?_
    rw [Engine.rows, Db.lookup_put]
    exact read
  by_cases query : d.kind = .query
  · rw [registerDataset, if_pos query, Attempt.wp_bind, Attempt.wp_lift, BuildConfig.sqlOrError]
    cases given : d.sql with
    | none => rw [course, if_pos query, given]
    | some sql =>
        dsimp only
        rw [Attempt.wp_bind]
        by_cases stays : StaysInMemory storage d
        · rw [registerQueryWithStorage_of_staysInMemory stays,
            course_of_staysInMemory query given stays]
          cases evaluated : engine.execute (sql ++ d.orderByClause) db with
          | error e => exact Attempt.wp_bind.trans (createTable_wp_of_error evaluated)
          | ok rows =>
              refine Attempt.wp_bind.trans ((createTable_wp evaluated).trans ?_)
              rw [described rfl]
        · refine (registerQueryWithStorage_course query given stays).trans ?_
          cases taken : course engine storage d db with
          | replaces rows relation => exact absurd taken (course_ne_replaces query stays)
          | stops => exact Iff.rfl
          | renames rows => exact Iff.rfl
          | spills storage sql rows => exact Iff.rfl
  · rw [registerDataset, if_neg query, course, if_neg query, Attempt.wp_bind, Attempt.wp_lift]
    cases d.scanClause with
    | error e => exact Iff.rfl
    | ok scan =>
        have readable (db : Db Rows) : engine.readSource db (.scan scan) = engine.scan scan := rfl
        dsimp only
        cases read : engine.scan scan with
        | error e =>
            rw [read] at readable
            cases d.lazy with
            | true => exact Attempt.wp_bind.trans (createView_wp_of_error (readable db))
            | false => exact Attempt.wp_bind.trans (createTable_wp_of_error rfl)
        | ok rows =>
            rw [read] at readable
            cases d.lazy with
            | true =>
                have shown : engine.read (db.put d.name (.view (.scan scan))) (.view (.scan scan)) =
                    .ok rows := readable db
                refine Attempt.wp_bind.trans ((createView_wp (readable db)).trans ?_)
                rw [described shown]
                exact Iff.rfl
            | false =>
                refine Attempt.wp_bind.trans ((createTable_wp rfl).trans ?_)
                rw [described rfl]
                exact Iff.rfl

end Datapress.DuckDB
