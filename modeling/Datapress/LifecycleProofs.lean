import Datapress.Lifecycle
import Datapress.ColumnAccessProofs

/-!
The column filters over the whole life of a dataset.

A request that needs no check stays harmless whatever generation it is planned against, since all
generations of a dataset carry its configured filters; enforcement makes a request harmless. The
invariant of a run keeps this for the requests in flight.
-/

namespace Datapress

section Main
variable [ToLowercase] {config : DatasetConfig} {schema : DatasetSchema}

/-- The schemas of a dataset: their columns may change from build to build, their filters not. -/
structure DatasetConfig.Governs (config : DatasetConfig) (schema : DatasetSchema) : Prop where
  predicate : schema.predicateFilter = config.predicateFilter
  projection : schema.projectionFilter = config.projectionFilter

/-- The columns of an answer are visible, and what it filters on is permitted. -/
structure DatasetConfig.Respects (config : DatasetConfig) (used : ColumnUse) : Prop where
  visible : ∀ c ∈ used.named, config.projectionFilter.allows c = true
  permitted : ∀ c ∈ used.filtered, config.predicateFilter.allows c = true

theorem DatasetConfig.Governs.respects (governs : config.Governs schema) {used : ColumnUse}
    (respects : RespectsFilters schema used) : config.Respects used :=
  ⟨governs.projection ▸ respects.visible, governs.predicate ▸ respects.permitted⟩

theorem DatasetConfig.governs_build {columns : List ColumnInfo} {lazy : Bool} {built : DatasetState}
    (ok : config.build columns lazy = .ok built) : config.Governs built.schema := by
  simp only [build, DatasetSchema.withFilters, Fallible.bind_ok_iff] at ok
  obtain ⟨_, ⟨_, _, _, _, attached⟩, same⟩ := ok
  cases attached
  cases same
  exact ⟨rfl, rfl⟩

/-! ### Harmless requests -/

def DatasetConfig.PredicatesPass (config : DatasetConfig) (predicates : List Predicate) : Prop :=
  ∀ p ∈ predicates, config.projectionFilter.allows p.col = true ∧
    config.predicateFilter.allows p.col = true

/-- A request that names nothing the filters deny, and asks for columns by name if any is hidden. -/
structure QueryRequest.Harmless (config : DatasetConfig) (request : QueryRequest) : Prop where
  predicates : config.PredicatesPass request.predicates
  groupBy : ∀ c ∈ request.groupBy, config.projectionFilter.allows c = true
  aggregations : ∀ a ∈ request.aggregations, ∀ c, a.col = some c →
    config.projectionFilter.allows c = true
  orderBy : request.groupBy = [] → ∀ o ∈ request.orderBy,
    config.projectionFilter.allows o.col = true
  columns : ∀ c ∈ request.columns, config.projectionFilter.allows c = true
  lists : config.projectionFilter.isActive = true → request.groupBy = [] → request.columns ≠ []
  having : ∀ p ∈ request.having, ∀ c, request.havingColumn p.col = some c →
    config.predicateFilter.allows c = true

def Call.Harmless (config : DatasetConfig) : Call → Prop
  | query request => request.Harmless config
  | queryArrowStream request => request.Harmless config
  | queryArrowStreamAll request => request.Harmless config
  | count request => config.PredicatesPass request.predicates

/-- What the check against a schema leaves to the request: a list of columns or a visible column to
fill it with, and `having` entries on permitted columns. -/
structure QueryRequest.Sufficient (config : DatasetConfig) (schema : DatasetSchema)
    (request : QueryRequest) : Prop where
  shows : config.projectionFilter.isActive = true → request.groupBy = [] → request.columns = [] →
    ∃ c ∈ schema.columns, config.projectionFilter.allows c.name = true
  having : ∀ p ∈ request.having, ∀ c, request.havingColumn p.col = some c →
    config.predicateFilter.allows c = true

def Call.Sufficient (config : DatasetConfig) (schema : DatasetSchema) : Call → Prop
  | query request => request.Sufficient config schema
  | queryArrowStream request => request.Sufficient config schema
  | queryArrowStreamAll request => request.Sufficient config schema
  | count _ => True

/-- When the checks cover a request: its schema was found and leaves no gap, or the request needs no
check. -/
def InFlight.Covered (config : DatasetConfig) (flight : InFlight) : Prop :=
  match flight.lookup with
  | .ok schema => flight.asked.Sufficient config schema
  | .error _ => flight.asked.Harmless config

/-! ### Enforcement makes a request harmless -/

theorem harmless_of_enforced {request enforced : QueryRequest} (governs : config.Governs schema)
    (accepted : request.enforceColumnFilters schema = .ok enforced)
    (sufficient : request.Sufficient config schema) : enforced.Harmless config := by
  have checked := QueryRequest.enforceColumnFilters_ok accepted
  have projection := governs.projection
  have predicate := governs.predicate
  rw [checked.frame]
  refine {
    predicates := fun p member => ?_
    groupBy := projection ▸ checked.groupBy
    aggregations := projection ▸ checked.aggregations
    orderBy := projection ▸ checked.orderBy
    columns := projection ▸ checked.columns
    lists := fun active ungrouped empty => ?_
    having := sufficient.having }
  · rw [← projection, ← predicate]
    exact checked.predicates p member
  · obtain ⟨unlisted, inactive | none⟩ := checked.unlisted ungrouped empty
    · rw [projection, active] at inactive
      cases inactive
    · obtain ⟨c, member, visible⟩ := sufficient.shows active ungrouped unlisted
      rw [← projection, none c member] at visible
      cases visible

theorem predicatesPass_of_enforced {request : CountRequest} (governs : config.Governs schema)
    (accepted : request.enforceColumnFilters schema = .ok ()) :
    config.PredicatesPass request.predicates := by
  intro p member
  rw [← governs.projection, ← governs.predicate]
  simp only [CountRequest.enforceColumnFilters] at accepted
  split at accepted
  · rename_i inactive
    have both := DatasetSchema.filters_inactive (by simpa using inactive)
    exact ⟨ColumnFilter.allows_of_inactive both.2 _, ColumnFilter.allows_of_inactive both.1 _⟩
  · obtain ⟨column, found⟩ := Fallible.checkAll_ok_iff.mp accepted p member
    exact (DatasetSchema.findForPredicate_ok_iff.mp found).2

/-! ### Admission -/

theorem QueryRequest.Harmless.clampPage {request : QueryRequest} (harmless : request.Harmless config)
    (maxPageSize : UInt64) : (request.clampPage maxPageSize).Harmless config :=
  ⟨harmless.predicates, harmless.groupBy, harmless.aggregations, harmless.orderBy,
    harmless.columns, harmless.lists, harmless.having⟩

theorem QueryRequest.Sufficient.clampPage {request : QueryRequest}
    (sufficient : request.Sufficient config schema) (maxPageSize : UInt64) :
    (request.clampPage maxPageSize).Sufficient config schema :=
  ⟨sufficient.shows, sufficient.having⟩

/-- A failed lookup lets a request through as it is, or not at all. -/
theorem enforce_of_error {request admitted : QueryRequest} {e : AppError}
    (ok : request.enforce (.error e) = .ok admitted) : admitted = request := by
  cases e with
  | notReady | notFound => cases ok; rfl
  | unknownColumn | unknownOperator | invalidValue | unauthorized | forbidden | unavailable
  | conflict | emptyDataset | internal => cases ok

/-- A request the handlers let through is harmless when the checks cover it. -/
theorem harmless_of_admitted {flight : InFlight} {maxPageSize : UInt64}
    (admitted : flight.asked.enforce maxPageSize flight.lookup = .ok flight.call)
    (governs : ∀ schema, flight.lookup = .ok schema → config.Governs schema)
    (covered : flight.Covered config) : flight.call.Harmless config := by
  obtain ⟨asked, lookup, call, phase⟩ := flight
  cases lookup with
  | ok schema =>
    have governed := governs schema rfl
    cases asked with
    | query request | queryArrowStream request =>
      obtain ⟨enforced, accepted, rfl⟩ := Fallible.map_ok_iff.mp admitted
      have sufficient : request.Sufficient config schema := covered
      exact harmless_of_enforced governed accepted (sufficient.clampPage maxPageSize)
    | queryArrowStreamAll request =>
      obtain ⟨enforced, accepted, rfl⟩ := Fallible.map_ok_iff.mp admitted
      exact harmless_of_enforced governed accepted covered
    | count request =>
      obtain ⟨_, accepted, rfl⟩ := Fallible.map_ok_iff.mp admitted
      exact predicatesPass_of_enforced governed accepted
  | error e =>
    cases asked with
    | query request | queryArrowStream request =>
      obtain ⟨passed, accepted, rfl⟩ := Fallible.map_ok_iff.mp admitted
      have harmless : request.Harmless config := covered
      rw [enforce_of_error accepted]
      exact harmless.clampPage maxPageSize
    | queryArrowStreamAll request | count request =>
      cases admitted
      exact covered

/-! ### Answers to harmless requests -/

theorem QueryRequest.Harmless.enforced {request : QueryRequest} (harmless : request.Harmless config)
    (governs : config.Governs schema) : request.Enforced schema request := by
  have projection := governs.projection
  have predicate := governs.predicate
  refine {
    frame := rfl
    predicates := fun p member => ?_
    groupBy := projection ▸ harmless.groupBy
    aggregations := projection ▸ harmless.aggregations
    orderBy := projection ▸ harmless.orderBy
    columns := projection ▸ harmless.columns
    unlisted := fun ungrouped empty => ⟨empty, .inl ?_⟩
    listed := fun present empty => absurd empty present
    kept := fun _ => rfl }
  · rw [projection, predicate]
    exact harmless.predicates p member
  · rw [projection, Bool.eq_false_iff]
    intro active
    exact harmless.lists active ungrouped empty

theorem QueryRequest.Harmless.suffices {request : QueryRequest} (harmless : request.Harmless config)
    (governs : config.Governs schema) : FiltersSuffice schema request := by
  constructor
  · intro ungrouped empty present
    obtain ⟨c, member⟩ := List.exists_mem_of_ne_nil _ present
    obtain ⟨_, inactive | none⟩ := (harmless.enforced governs).unlisted ungrouped empty
    · exact ⟨c, member, ColumnFilter.allows_of_inactive inactive _⟩
    · by_cases active : config.projectionFilter.isActive = true
      · exact absurd empty (harmless.lists active ungrouped)
      · rw [Bool.not_eq_true, ← governs.projection] at active
        exact ⟨c, member, ColumnFilter.allows_of_inactive active _⟩
  · rw [governs.predicate]
    exact harmless.having

theorem QueryRequest.Harmless.respects_emitted [JsonText] {request : QueryRequest}
    {used : ColumnUse} (harmless : request.Harmless config) (governs : config.Governs schema)
    (emitted : Emits schema request used) : config.Respects used :=
  governs.respects
    ((emitted.respects_iff (harmless.enforced governs)).mpr (harmless.suffices governs))

theorem respects_conditions {predicates : List Predicate} {statement : CountStatement}
    (passes : config.PredicatesPass predicates) (governs : config.Governs schema)
    (matched : List.Forall₂ (fun p c => ∃ info, schema.find p.col = .ok info ∧
      c.lhs = .column info.name) predicates statement.conditions) :
    config.Respects statement.columnUse := by
  have allowed := conditions_allowed matched fun p member => by
    rw [governs.projection, governs.predicate]
    exact passes p member
  rw [governs.projection, governs.predicate] at allowed
  constructor
  · intro c member
    obtain ⟨condition, emitted, used⟩ := List.mem_flatMap.mp member
    exact (allowed condition emitted c used).1
  · intro c member
    obtain ⟨condition, emitted, used⟩ := List.mem_flatMap.mp member
    exact (allowed condition emitted c used).2

theorem respects_resident {columns : List String} {predicates : List Predicate}
    (shown : ∀ c ∈ columns, config.projectionFilter.allows c = true)
    (passes : config.PredicatesPass predicates) :
    config.Respects (residentUse columns predicates) := by
  constructor
  · intro c member
    rcases List.mem_append.mp member with column | filtered
    · exact shown c column
    · obtain ⟨p, present, rfl⟩ := List.mem_map.mp filtered
      exact (passes p present).1
  · intro c member
    obtain ⟨p, present, rfl⟩ := List.mem_map.mp member
    exact (passes p present).2

/-- The columns of resident rows are those of the request, or all where none is hidden. -/
theorem project_visible {request : QueryRequest} {columns : List String}
    (harmless : request.Harmless config) (ungrouped : request.groupBy = [])
    (projected : DataFusion.project schema request.columns = .ok columns) :
    ∀ c ∈ columns, config.projectionFilter.allows c = true := by
  intro c member
  simp only [DataFusion.project] at projected
  split at projected
  · rename_i empty
    refine ColumnFilter.allows_of_inactive ?_ c
    rw [Bool.eq_false_iff]
    intro active
    exact harmless.lists active ungrouped (List.isEmpty_iff.mp empty)
  · obtain ⟨name, requested, named⟩ :=
      Lists.exists_of_mem_right (Fallible.mapM_ok_iff.mp projected) member
    obtain ⟨column, found, rfl⟩ := Fallible.map_ok_iff.mp named
    rw [config.projectionFilter.allows_congr (DatasetSchema.find_lowered found)]
    exact harmless.columns name requested

theorem Call.Harmless.of_rows {call : Call} {request : QueryRequest} {paged : Bool}
    (harmless : call.Harmless config) (rows : call.rows = some (request, paged)) :
    request.Harmless config := by
  cases call with
  | query | queryArrowStream | queryArrowStreamAll => cases rows; exact harmless
  | count => cases rows

/-- Whatever generation of the dataset it is planned against, the answer to a harmless call respects
the filters. -/
theorem harmless_answers_respect [JsonText] {backend : Backend} {maxPageSize : UInt64}
    {state : DatasetState} {call : Call} {used : ColumnUse} (harmless : call.Harmless config)
    (governs : config.Governs state.schema)
    (answered : backend.Answers maxPageSize state call used) : config.Respects used := by
  cases backend with
  | dataFusion =>
    cases answered with
    | resident rows fast projected =>
      have quiet := harmless.of_rows rows
      simp only [DataFusion.canFastPath, Bool.and_eq_true, List.isEmpty_iff] at fast
      exact respects_resident (project_visible quiet fast.1.2 projected) quiet.predicates
    | sql rows built =>
      exact (harmless.of_rows rows).respects_emitted governs (.dataFusion built)
    | countResident =>
      exact respects_resident (fun _ impossible => by cases impossible) harmless
    | countSql built =>
      simp only [DataFusion.buildCountSql, Fallible.bind_ok_iff] at built
      obtain ⟨⟨conditions, _⟩, rendered, same⟩ := built
      cases same
      exact respects_conditions harmless governs (DataFusion.conditions_lhs rendered)
  | duckdb =>
    cases answered with
    | query built => exact harmless.respects_emitted governs (.duckdbJson _ rfl built)
    | queryArrowStream built => exact harmless.respects_emitted governs (.duckdbArrow _ rfl built)
    | queryArrowStreamAll built =>
      exact harmless.respects_emitted governs (.duckdbArrow _ rfl built)
    | count built =>
      simp only [DuckDB.DatasetRepository.count, Fallible.bind_ok_iff] at built
      obtain ⟨⟨conditions, _⟩, rendered, same⟩ := built
      cases same
      exact respects_conditions harmless governs (DuckDB.DatasetRepository.conditions_lhs rendered)

/-! ### Runs -/

variable {backend : Backend} {maxPageSize : UInt64} {s t : System}

/-- The invariant of a run. -/
structure System.Sound (config : DatasetConfig) (s : System) : Prop where
  live : ∀ state, s.dataset.live = some state → config.Governs state.schema
  inFlight : ∀ flight ∈ s.inFlight, flight.Covered config → flight.call.Harmless config
  answered : ∀ answer ∈ s.answered, answer.flight.Covered config → config.Respects answer.used

theorem Change.live {before after : Lifecycle} (change : Change config before after)
    (governed : ∀ state, before.live = some state → config.Governs state.schema) :
    ∀ state, after.live = some state → config.Governs state.schema := by
  cases change with
  | swap _ built =>
    intro state live
    cases live
    exact config.governs_build built
  | start | publish | failReload | failFirst | unavailable => exact governed

omit [ToLowercase] in
theorem Lifecycle.dataset_ok {lifecycle : Lifecycle} {state : DatasetState}
    (ok : lifecycle.dataset config = .ok state) : lifecycle.live = some state := by
  simp only [dataset] at ok
  split at ok
  · rename_i live
    cases ok
    exact live
  · cases ok

omit [ToLowercase] in
theorem Backend.schema_ok {lifecycle : Lifecycle}
    (ok : backend.schema config lifecycle = .ok schema) :
    ∃ state, lifecycle.live = some state ∧ state.schema = schema := by
  have found : (·.schema) <$> lifecycle.dataset config = .ok schema := by
    cases backend with
    | dataFusion => exact ok
    | duckdb =>
      simp only [Backend.schema, Fallible.bind_ok_iff] at ok
      exact ok.choose_spec.2
  obtain ⟨state, live, same⟩ := Fallible.map_ok_iff.mp found
  exact ⟨state, Lifecycle.dataset_ok live, same⟩

variable [JsonText]

theorem System.Sound.step (sound : s.Sound config) (step : Step backend config maxPageSize s t) :
    t.Sound config := by
  cases step with
  | change change => exact ⟨change.live sound.live, sound.inFlight, sound.answered⟩
  | receive admitted =>
    refine ⟨sound.live, ?_, sound.answered⟩
    intro flight member covered
    rcases List.mem_cons.mp member with rfl | earlier
    · refine harmless_of_admitted admitted (fun schema found => ?_) covered
      obtain ⟨state, live, rfl⟩ := Backend.schema_ok found
      exact sound.live state live
    · exact sound.inFlight flight earlier covered
  | @advance before flight after phase present _ =>
    refine ⟨sound.live, ?_, sound.answered⟩
    intro other member covered
    have kept := sound.inFlight flight (by rw [present]; simp)
    rcases List.mem_append.mp member with first | last
    · exact sound.inFlight other (by rw [present]; simp [first]) covered
    · rcases List.mem_cons.mp last with rfl | second
      · exact kept covered
      · exact sound.inFlight other (by rw [present]; simp [second]) covered
  | @answer before flight after state used present _ live planned =>
    refine ⟨sound.live, ?_, ?_⟩
    · intro other member
      refine sound.inFlight other ?_
      rw [present]
      rcases List.mem_append.mp member with first | last
      · exact List.mem_append_left _ first
      · exact List.mem_append_right _ (List.mem_cons_of_mem _ last)
    · intro answer member covered
      rcases List.mem_cons.mp member with rfl | earlier
      · have harmless := sound.inFlight flight (by rw [present]; simp) covered
        have governs := sound.live state (Lifecycle.dataset_ok live)
        exact harmless_answers_respect harmless governs planned
      · exact sound.answered answer earlier covered
  | drop present =>
    refine ⟨sound.live, ?_, sound.answered⟩
    intro other member
    refine sound.inFlight other ?_
    rw [present]
    rcases List.mem_append.mp member with first | last
    · exact List.mem_append_left _ first
    · exact List.mem_append_right _ (List.mem_cons_of_mem _ last)

theorem Reachable.sound (run : Reachable backend config maxPageSize s) : s.Sound config := by
  induction run with
  | refl =>
    constructor
    · intro _ impossible; cases impossible
    · intro _ impossible; cases impossible
    · intro _ impossible; cases impossible
  | tail _ step ih => exact ih.step step

/-- In every state a run reaches, whatever builds and requests are interleaved, the answer to a
request that its checks covered respects the column filters of the dataset. -/
theorem answers_respect_filters (run : Reachable backend config maxPageSize s) :
    ∀ answer ∈ s.answered, answer.flight.Covered config → config.Respects answer.used :=
  run.sound.answered

/-- A build from start to publication, whatever else is going on. -/
theorem Reachable.published {columns : List ColumnInfo} {lazy : Bool} {built : DatasetState}
    (run : Reachable backend config maxPageSize s)
    (ok : config.build columns lazy = .ok built) :
    Reachable backend config maxPageSize { s with
      dataset := { status := .published, live := some built, builds := s.dataset.builds } } := by
  have started : Change config s.dataset
      { s.dataset with status := .building, builds := s.dataset.builds + 1 } := .start
  have swapped : Change config
      { s.dataset with status := .building, builds := s.dataset.builds + 1 }
      { status := .building, live := some built, builds := s.dataset.builds + 1 } := .swap rfl ok
  have published : Change config
      { status := .building, live := some built, builds := s.dataset.builds + 1 }
      { status := .published, live := some built, builds := s.dataset.builds } := .publish rfl rfl
  exact ((run.tail (.change started)).tail (.change swapped)).tail (.change published)

end Main

section Runs
attribute [local instance] asciiToLowercase unusedJsonText

/-- A dataset that hides `email`. -/
private def hidesEmail (onStart : OnStart) : DatasetConfig where
  name := "staff"
  projectionFilter := { excluded := ["email"] }
  onStart := onStart

private def builtStaff : DatasetState where
  schema := { staff with projectionFilter := { excluded := ["email"] } }
  lazy := false

private theorem hidesEmail_build (onStart : OnStart) :
    (hidesEmail onStart).build staff.columns false = .ok builtStaff := rfl

/-- A stream of `id` from a published dataset. -/
private def streamedId : InFlight where
  asked := .queryArrowStreamAll { columns := ["id"] }
  lookup := .ok builtStaff.schema
  call := .queryArrowStreamAll { columns := ["id"] }

theorem answers_respect_filters_id :
    ∃ s answer, Reachable .duckdb (hidesEmail .eager) 1000 s ∧ answer ∈ s.answered ∧
      answer.flight.Covered (hidesEmail .eager) ∧
      (hidesEmail .eager).Respects answer.used := by
  have published : Reachable .duckdb (hidesEmail .eager) 1000
      { dataset := { status := .published, live := some builtStaff } } :=
    Reachable.published .refl (hidesEmail_build .eager)
  have admitted : Reachable .duckdb (hidesEmail .eager) 1000
      { dataset := { status := .published, live := some builtStaff }, inFlight := [streamedId] } :=
    published.tail (.receive rfl)
  have served : Backend.duckdb.Answers 1000 builtStaff streamedId.call
      ((staffStatement (.list [.column "id"])).columnUse builtStaff.schema) :=
    .queryArrowStreamAll rfl
  have present : [streamedId] = [] ++ streamedId :: [] := rfl
  have answered := admitted.tail (.answer present (by decide) rfl served)
  have covered : streamedId.Covered (hidesEmail .eager) := by
    constructor
    · intro _ _ impossible; cases impossible
    · intro _ impossible; cases impossible
  exact ⟨_, _, answered, List.mem_cons_self, covered,
    answers_respect_filters answered _ List.mem_cons_self covered⟩

/-- The first query of a lazy dataset is admitted before there is a schema, builds the dataset
and returns the hidden column. -/
private theorem firstTouch_shows_email :
    ∃ s, Reachable .dataFusion (hidesEmail .lazy) 1000 s ∧
      ∃ answer ∈ s.answered, ¬ (hidesEmail .lazy).Respects answer.used := by
  let asked : InFlight := ⟨.query {}, .error (.notFound "dataset: staff"), .query {}, .admitted⟩
  have admitted : Reachable .dataFusion (hidesEmail .lazy) 1000 { inFlight := [asked] } :=
    Relation.ReflTransGen.refl.tail (.receive rfl)
  have present : [asked] = [] ++ asked :: [] := rfl
  have touched := admitted.tail (.advance present (.touch rfl))
  have built := Reachable.published touched (hidesEmail_build .lazy)
  have waiting : [{ asked with phase := .touching }] = [] ++ { asked with phase := .touching } :: [] :=
    rfl
  have ready := built.tail (.advance waiting (.touched rfl))
  have last : [{ asked with phase := .ready }] = [] ++ { asked with phase := .ready } :: [] := rfl
  have fast : DataFusion.canFastPath builtStaff {} true = true := rfl
  have shows : DataFusion.project builtStaff.schema [] = .ok ["id", "email"] := rfl
  have served : Backend.dataFusion.Answers 1000 builtStaff (.query {})
      (residentUse ["id", "email"] []) := DataFusion.Answers.resident rfl fast shows
  have answered := ready.tail (.answer last (fun _ => rfl) rfl served)
  refine ⟨_, answered, _, List.mem_cons_self, fun respects => ?_⟩
  have shown := respects.visible "email" (by decide)
  exact absurd shown (by decide)

/-- While DuckDB reloads a dataset its schema lookup fails, and a stream is served unchecked. -/
private theorem reload_shows_email :
    ∃ s, Reachable .duckdb (hidesEmail .eager) 1000 s ∧
      ∃ answer ∈ s.answered, ¬ (hidesEmail .eager).Respects answer.used := by
  let asked : InFlight := ⟨.queryArrowStreamAll {}, .error (.notReady "staff" "building"),
    .queryArrowStreamAll {}, .admitted⟩
  have published : Reachable .duckdb (hidesEmail .eager) 1000
      { dataset := { status := .published, live := some builtStaff } } :=
    Reachable.published .refl (hidesEmail_build .eager)
  have reloading := published.tail (.change .start)
  have admitted : Reachable .duckdb (hidesEmail .eager) 1000
      { dataset := { status := .building, live := some builtStaff, builds := 1 }
        inFlight := [asked] } := reloading.tail (.receive rfl)
  have present : [asked] = [] ++ asked :: [] := rfl
  have served : Backend.duckdb.Answers 1000 builtStaff (.queryArrowStreamAll {})
      ((staffStatement .all).columnUse builtStaff.schema) := .queryArrowStreamAll rfl
  have answered := admitted.tail (.answer present (by decide) rfl served)
  refine ⟨_, answered, _, List.mem_cons_self, fun respects => ?_⟩
  have shown := respects.visible "email" (by decide)
  exact absurd shown (by decide)

theorem answers_show_email :
    (∃ s, Reachable .dataFusion (hidesEmail .lazy) 1000 s ∧
      ∃ answer ∈ s.answered, ¬ (hidesEmail .lazy).Respects answer.used) ∧
    ∃ s, Reachable .duckdb (hidesEmail .eager) 1000 s ∧
      ∃ answer ∈ s.answered, ¬ (hidesEmail .eager).Respects answer.used :=
  ⟨firstTouch_shows_email, reload_shows_email⟩

end Runs
end Datapress
