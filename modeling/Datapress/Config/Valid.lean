import Datapress.Config.Dataset
import Datapress.Refresh.DependenciesProofs

/-! What the two validators accept. -/
namespace Datapress.Config
open Refresh (topoOrder)

variable {around : Surroundings} {storage : Option StorageConfig} {cfg : AppConfig}

namespace DatasetConfig

/-- The checks of a dataset by itself, at the start. -/
structure Sound (around : Surroundings) (storage : Option StorageConfig) (d : DatasetConfig) :
    Prop where
  name : Refresh.checkName .internal d.name = .ok ()
  index : d.checkIndex .internal = .ok ()
  location : d.checkLocation around = .ok ()
  refresh : d.refreshView.checkRefresh = .ok ()
  materialize : d.checkMaterialize storage = .ok ()

variable {d : DatasetConfig} {seen : List String}

theorem check_ok_iff :
    d.check around storage seen = .ok () ↔ d.name ∉ seen ∧ d.Sound around storage := by
  simp only [check, List.contains_iff_mem]
  by_cases again : d.name ∈ seen
  · rw [if_pos again]
    exact iff_of_false nofun fun accepted => accepted.1 again
  · simp only [if_neg again, Fallible.check_bind_ok_iff]
    constructor
    · rintro ⟨name, index, location, refresh, materialize⟩
      exact ⟨again, name, index, location, refresh, materialize⟩
    · rintro ⟨_, name, index, location, refresh, materialize⟩
      exact ⟨name, index, location, refresh, materialize⟩

end DatasetConfig

theorem checkEach_ok_iff {seen : List String} {datasets : List DatasetConfig} :
    checkEach around storage seen datasets = .ok () ↔
      (datasets.map (·.name)).Nodup ∧ (∀ d ∈ datasets, d.name ∉ seen) ∧
        ∀ d ∈ datasets, d.Sound around storage := by
  induction datasets generalizing seen with
  | nil => simp [checkEach]
  | cons d rest ih =>
      rw [checkEach, Fallible.check_bind_ok_iff, DatasetConfig.check_ok_iff, ih, List.map_cons,
        List.nodup_cons, List.forall_mem_cons, List.forall_mem_cons]
      constructor
      · rintro ⟨⟨fresh, sound⟩, distinct, unseen, all⟩
        refine ⟨⟨fun again => ?_, distinct⟩, ⟨fresh, fun other member inside => ?_⟩, sound, all⟩
        · obtain ⟨other, member, same⟩ := List.mem_map.mp again
          exact unseen other member (same ▸ List.mem_cons_self)
        · exact unseen other member (List.mem_cons_of_mem _ inside)
      · rintro ⟨⟨apart, distinct⟩, ⟨fresh, unseen⟩, sound, all⟩
        refine ⟨⟨fresh, sound⟩, distinct, fun other member inside => ?_, all⟩
        obtain same | before := List.mem_cons.mp inside
        · exact apart (same ▸ List.mem_map_of_mem member)
        · exact unseen other member before

variable [ToLowercase]

/-- What the loader has found out about a query dataset, given all names. -/
structure DatasetConfig.Answerable (around : Surroundings) (names : List String)
    (d : DatasetConfig) (statement : String) : Prop where
  sql : d.source.sql = some statement
  depends : d.source.dependsOn ≠ []
  self : ∀ dep ∈ d.source.dependsOn, eqIgnoreAsciiCase dep d.name = false
  known : ∀ dep ∈ d.source.dependsOn, toLowercase dep ∈ names
  tables : ∃ validated, Sql.validate around.parse statement names usizeMax = .ok validated ∧
    ∀ table, table ∈ validated.datasets ↔ table ∈ d.source.dependsOn.map toLowercase

omit [ToLowercase] in
theorem find?_not_contains {items known : List String} :
    items.find? (fun item => !known.contains item) = none ↔ ∀ item ∈ items, item ∈ known := by
  simp

/-- The tables of the statement are the declared dependencies. -/
theorem checkReferences_ok_iff {env : Refresh.Environment} {names : List String} {sql : String}
    {d : Refresh.DatasetConfig} : d.checkReferences env names sql = .ok () ↔
      ∃ tables, env.tables sql names = .ok tables ∧
        ∀ table, table ∈ tables ↔ table ∈ d.dependsOn.map toLowercase := by
  rw [Refresh.DatasetConfig.checkReferences]
  cases env.tables sql names with
  | error e => simp
  | ok tables =>
      simp only [Except.ok.injEq, exists_eq_left']
      cases undeclared : tables.find? fun table => !(d.dependsOn.map toLowercase).contains table with
      | some table =>
          refine iff_of_false nofun fun same => ?_
          have missing := List.find?_some undeclared
          have member := (same table).mp (List.mem_of_find?_eq_some undeclared)
          simp [member] at missing
      | none =>
          have left := find?_not_contains.mp undeclared
          cases unread : (d.dependsOn.map toLowercase).find? fun dep => !tables.contains dep with
          | some dep =>
              refine iff_of_false nofun fun same => ?_
              have missing := List.find?_some unread
              have member := (same dep).mpr (List.mem_of_find?_eq_some unread)
              simp [member] at missing
          | none => exact iff_of_true rfl fun table => ⟨left table, find?_not_contains.mp unread table⟩

theorem answerable_iff {names : List String} {d : DatasetConfig} {statement : String}
    (sql : d.source.sql = some statement) :
    d.Answerable around names statement ↔ d.source.dependsOn ≠ [] ∧
      (∀ dep ∈ d.source.dependsOn, eqIgnoreAsciiCase dep d.name = false) ∧
      (∀ dep ∈ d.source.dependsOn, toLowercase dep ∈ names) ∧
      ∃ validated, Sql.validate around.parse statement names usizeMax = .ok validated ∧
        ∀ table, table ∈ validated.datasets ↔ table ∈ d.source.dependsOn.map toLowercase := by
  constructor
  · rintro ⟨_, depends, self, known, tables⟩
    exact ⟨depends, self, known, tables⟩
  · rintro ⟨depends, self, known, tables⟩
    exact ⟨sql, depends, self, known, tables⟩

theorem checkQuery_ok_iff {names : List String} {d : DatasetConfig} :
    d.refreshView.checkQuery (AppConfig.environment around) names = .ok () ↔
      (d.source.kind = .query → ∃ statement, d.Answerable around names statement) := by
  by_cases kind : d.source.kind = .query
  · have kind' : d.refreshView.kind = .query := kind
    simp only [Refresh.DatasetConfig.checkQuery, kind', kind, not_true_eq_false, if_false,
      forall_const, ne_eq]
    cases sql : d.source.sql with
    | none =>
        have sql' : d.refreshView.sql = none := sql
        simp only [sql']
        exact iff_of_false nofun fun ⟨_, answerable⟩ => nomatch sql ▸ answerable.sql
    | some statement =>
        have sql' : d.refreshView.sql = some statement := sql
        have depends : d.refreshView.dependsOn = d.source.dependsOn := rfl
        simp only [sql', depends, Fallible.refuse_ok_iff]
        have only : (∃ statement, d.Answerable around names statement) ↔
            d.Answerable around names statement :=
          ⟨fun ⟨_, answerable⟩ => Option.some.inj (answerable.sql ▸ sql) ▸ answerable, fun h => ⟨_, h⟩⟩
        rw [only, answerable_iff sql]
        refine and_congr (by simp) (and_congr (by simp; rfl) ?_)
        cases unknown : d.source.dependsOn.find? fun dep => !names.contains (toLowercase dep) with
        | some dep =>
            refine iff_of_false nofun fun accepted => ?_
            have missing := List.find?_some unknown
            have member := accepted.1 dep (List.mem_of_find?_eq_some unknown)
            simp [member] at missing
        | none =>
            have known : ∀ dep ∈ d.source.dependsOn, toLowercase dep ∈ names := by
              simpa using unknown
            simp only [checkReferences_ok_iff, AppConfig.environment, Fallible.map_ok_iff, depends]
            constructor
            · rintro ⟨_, ⟨validated, accepted, rfl⟩, same⟩
              exact ⟨known, validated, accepted, same⟩
            · rintro ⟨_, validated, accepted, same⟩
              exact ⟨_, ⟨validated, accepted, rfl⟩, same⟩
  · simp only [Refresh.DatasetConfig.checkQuery]
    have kind' : d.refreshView.kind ≠ .query := kind
    rw [if_pos kind']
    exact iff_of_true rfl fun impossible => absurd impossible kind

namespace AppConfig

/-- The configuration is accepted. -/
structure Valid (around : Surroundings) (cfg : AppConfig) : Prop where
  nonempty : cfg.datasets ≠ []
  others : cfg.others = .ok ()
  distinct : (cfg.datasets.map (·.name)).Nodup
  each : ∀ d ∈ cfg.datasets, d.Sound around cfg.storage
  storage : ∀ sc, cfg.storage = some sc → sc.check = .ok ()
  queries : ∀ d ∈ cfg.datasets, d.source.kind = .query →
    ∃ statement, d.Answerable around cfg.allNames statement
  ordered : (topoOrder (cfg.views.map (·.node))).length = cfg.datasets.length

omit [ToLowercase] in
theorem storage_ok_iff {storage : Option StorageConfig} :
    (storage.map StorageConfig.check).getD (.ok ()) = .ok () ↔
      ∀ sc, storage = some sc → sc.check = .ok () := by
  cases storage with
  | none => simp
  | some sc => simp

theorem queries_ok_iff :
    Fallible.checkAll (Refresh.DatasetConfig.checkQuery (environment around) cfg.allNames)
        cfg.views = .ok () ↔
      ∀ d ∈ cfg.datasets, d.source.kind = .query →
        ∃ statement, d.Answerable around cfg.allNames statement := by
  rw [Fallible.checkAll_ok_iff, views, List.forall_mem_map]
  refine forall₂_congr fun d _ => ?_
  rw [← checkQuery_ok_iff]
  exact ⟨fun ⟨(), passed⟩ => passed, fun passed => ⟨(), passed⟩⟩

omit [ToLowercase] in
theorem ordered_ok_iff {env : Refresh.Environment} :
    (match Refresh.topologicalDatasetOrder env cfg.views with
      | .ok _ => Except.ok ()
      | .error e =>
        let reason := e.display
        Except.error (AppError.internal s!"dataset dependency error: {reason}")) = .ok () ↔
      (topoOrder (cfg.views.map (·.node))).length = cfg.datasets.length := by
  have same : cfg.views.length = cfg.datasets.length := List.length_map ..
  rw [Refresh.topologicalDatasetOrder, ← same]
  by_cases short : (topoOrder (cfg.views.map (·.node))).length ≠ cfg.views.length
  · rw [if_pos short]
    exact iff_of_false nofun short
  · rw [if_neg short]
    exact iff_of_true rfl (not_not.mp short)

theorem validate_ok_iff : cfg.validate around = .ok () ↔ cfg.Valid around := by
  unfold validate
  by_cases empty : cfg.datasets = []
  · simp only [empty, List.isEmpty_nil, if_true]
    exact iff_of_false nofun fun valid => valid.nonempty empty
  · have nonempty : ¬ cfg.datasets.isEmpty = true := fun h => empty (List.isEmpty_iff.mp h)
    rw [if_neg nonempty]
    simp only [Fallible.check_bind_ok_iff, checkEach_ok_iff, storage_ok_iff, queries_ok_iff]
    constructor
    · rintro ⟨others, ⟨distinct, -, each⟩, storage, queries, ordered⟩
      exact ⟨empty, others, distinct, each, storage, queries, ordered_ok_iff.mp ordered⟩
    · rintro ⟨_, others, distinct, each, storage, queries, ordered⟩
      exact ⟨others, ⟨distinct, fun _ _ => List.not_mem_nil, each⟩, storage, queries,
        ordered_ok_iff.mpr ordered⟩

end AppConfig
end Datapress.Config
