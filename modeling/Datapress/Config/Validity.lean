import Datapress.Config.Registrations
import Datapress.Config.Startup
import Datapress.Library.Rank

/-! Whether the datasets of a running server would pass the checks of the loader. -/
namespace Datapress.Config
open Machine (Run Anything)
open Refresh (Edge Ranked SavedQueriesSettings topoOrder)
open Relation (TransGen)

section
variable {datasets others all : List DatasetConfig} {config : DatasetConfig}

/-- One dataset lists another among its dependencies, in the exact spelling. -/
def Lists (datasets : List DatasetConfig) (u d : String) : Prop :=
  ∃ config ∈ datasets, config.name = d ∧ u ∈ config.node.2 ∧ u ∈ datasets.map (·.name)

theorem names_nodes : (datasets.map DatasetConfig.node).map (·.1) = datasets.map (·.name) := by
  rw [List.map_map]
  rfl

theorem lists_iff {u d : String} :
    Lists datasets u d ↔ Edge (datasets.map DatasetConfig.node) u d := by
  rw [Edge, names_nodes]
  constructor
  · rintro ⟨config, inside, rfl, listed, named⟩
    exact ⟨_, List.mem_map_of_mem inside, rfl, listed, named⟩
  · rintro ⟨node, member, rfl, listed, named⟩
    obtain ⟨config, inside, rfl⟩ := List.mem_map.mp member
    exact ⟨config, inside, rfl, listed, named⟩

theorem lists_eq : Lists datasets = Edge (datasets.map DatasetConfig.node) :=
  funext fun _ => funext fun _ => propext lists_iff

theorem grows_iff_ranked {rank : String → Nat} :
    Rank.Grows (Lists datasets) rank ↔ Ranked rank (datasets.map DatasetConfig.node) := by
  rw [lists_eq]
  exact Refresh.grows_edge_iff

/-- The loader finds an order when the datasets can be ranked, and only then. -/
theorem AppConfig.ordered_iff {cfg : AppConfig} (distinct : (cfg.datasets.map (·.name)).Nodup) :
    (topoOrder (cfg.views.map (·.node))).length = cfg.datasets.length ↔
      ∃ rank, Rank.Grows (Lists cfg.datasets) rank := by
  have nodes : cfg.views.map (·.node) = cfg.datasets.map DatasetConfig.node := List.map_map
  have whole : (topoOrder (cfg.datasets.map DatasetConfig.node)).length = _ ↔ _ :=
    Refresh.complete_iff_ranked (names_nodes ▸ distinct)
  rw [List.length_map] at whole
  rw [nodes, whole]
  exact exists_congr fun rank => grows_iff_ranked.symm

theorem ordered_cons_iff (config : DatasetConfig) {rank : String → Nat}
    (ranked : Rank.Grows (Lists all) rank) (subset : others ⊆ all) :
    (∃ rank, Rank.Grows (Lists (config :: others)) rank) ↔
      ¬ TransGen (Lists (config :: others)) config.name config.name := by
  rw [exists_congr fun rank => grows_iff_ranked, lists_eq]
  exact Refresh.ranked_cons_iff config.node (grows_iff_ranked.mp ranked) (List.map_subset _ subset)

end

theorem checkName_ok_iff {error error' : String → AppError} {name : String} :
    Refresh.checkName error name = .ok () ↔ Refresh.checkName error' name = .ok () := by
  simp only [Refresh.checkName, Fallible.refuse_ok_iff]

theorem checkIndex_ok_iff {error error' : String → AppError} {d : DatasetConfig} :
    d.checkIndex error = .ok () ↔ d.checkIndex error' = .ok () := by
  simp only [DatasetConfig.checkIndex, Fallible.refuse_ok_iff]

/-- The names and the index are what both validators check. -/
theorem validateForRegister_ok {d : DatasetConfig} (passed : d.validateForRegister = .ok ()) :
    Refresh.checkName .internal d.name = .ok () ∧ d.checkIndex .internal = .ok () := by
  obtain ⟨name, index, _⟩ := by
    simpa only [DatasetConfig.validateForRegister, Fallible.check_bind_ok_iff] using passed
  exact ⟨checkName_ok_iff.mp name, checkIndex_ok_iff.mp index⟩

section
variable [ToLowercase] {around : Surroundings} {cfg : AppConfig}

/-- The names matter as far as they are dependencies. -/
theorem DatasetConfig.Answerable.within {names others : List String} {d : DatasetConfig}
    {statement : String} (answerable : d.Answerable around names statement)
    (known : ∀ dep ∈ d.source.dependsOn, toLowercase dep ∈ others) :
    d.Answerable around others statement where
  sql := answerable.sql
  depends := answerable.depends
  self := answerable.self
  known := known
  tables := by
    obtain ⟨validated, accepted, same⟩ := answerable.tables
    have inside : validated.datasets ⊆ others := by
      intro table found
      obtain ⟨dep, member, rfl⟩ := List.mem_map.mp ((same table).mp found)
      exact known dep member
    exact ⟨validated, Sql.validate_within accepted inside, same⟩

theorem DatasetConfig.Answerable.mono {names larger : List String} {d : DatasetConfig}
    {statement : String} (subset : names ⊆ larger) (answerable : d.Answerable around names statement) :
    d.Answerable around larger statement :=
  answerable.within fun dep member => subset (answerable.known dep member)

/-- The loader's checks of a dataset that `validate_for_register` leaves out, beside the
datasets of the other names. -/
structure DatasetConfig.Fits (around : Surroundings) (storage : Option StorageConfig)
    (others : List DatasetConfig) (d : DatasetConfig) : Prop where
  location : d.checkLocation around = .ok ()
  refresh : d.refreshView.checkRefresh = .ok ()
  materialize : d.checkMaterialize storage = .ok ()
  query : d.source.kind = .query → ∃ statement,
    d.Answerable around ((d :: others).map fun d => toLowercase d.name) statement
  acyclic : ¬ TransGen (Lists (d :: others)) d.name d.name

theorem AppConfig.Valid.perm {datasets datasets' : List DatasetConfig}
    (valid : (cfg.withDatasets datasets).Valid around) (same : datasets.Perm datasets') :
    (cfg.withDatasets datasets').Valid around where
  nonempty := fun empty => valid.nonempty (List.perm_nil.mp (empty ▸ same))
  others := valid.others
  distinct := (same.map _).nodup_iff.mp valid.distinct
  each d member := valid.each d (same.mem_iff.mpr member)
  storage := valid.storage
  queries d member kind := by
    obtain ⟨statement, answerable⟩ := valid.queries d (same.mem_iff.mpr member) kind
    exact ⟨statement, answerable.mono (same.map _).subset⟩
  ordered := by
    apply (AppConfig.ordered_iff ((same.map _).nodup_iff.mp valid.distinct)).mpr
    obtain ⟨rank, grows⟩ := (AppConfig.ordered_iff valid.distinct).mp valid.ordered
    refine ⟨rank, grows_iff_ranked.mpr ?_⟩
    exact (grows_iff_ranked.mp grows).subset (same.symm.map _).subset

/-- A dataset that `register` accepts keeps the configuration valid just when it fits. -/
theorem AppConfig.Valid.cons_iff {all others : List DatasetConfig} {d : DatasetConfig}
    (valid : (cfg.withDatasets all).Valid around) (subset : others ⊆ all)
    (whole : all.map (·.name) ⊆ d.name :: others.map (·.name))
    (distinct : ((d :: others).map (·.name)).Nodup) (passed : d.validateForRegister = .ok ()) :
    (cfg.withDatasets (d :: others)).Valid around ↔ d.Fits around cfg.storage others := by
  have names : all.map (fun d => toLowercase d.name) ⊆
      (d :: others).map fun d => toLowercase d.name := by
    have lowered := List.map_subset toLowercase whole
    rw [← List.map_cons (f := fun d : DatasetConfig => d.name), List.map_map, List.map_map] at lowered
    exact lowered
  obtain ⟨rank, grows⟩ := (AppConfig.ordered_iff valid.distinct).mp valid.ordered
  have acyclic := ordered_cons_iff d grows subset
  constructor
  · intro after
    have sound := after.each d List.mem_cons_self
    refine ⟨sound.location, sound.refresh, sound.materialize, ?_, ?_⟩
    · exact after.queries d List.mem_cons_self
    · exact acyclic.mp ((AppConfig.ordered_iff after.distinct).mp after.ordered)
  · intro fits
    have checked := validateForRegister_ok passed
    refine ⟨List.cons_ne_nil _ _, valid.others, distinct, ?_, valid.storage, ?_, ?_⟩
    · refine List.forall_mem_cons.mpr ⟨⟨checked.1, checked.2, fits.location, fits.refresh,
        fits.materialize⟩, fun other member => valid.each other (subset member)⟩
    · refine List.forall_mem_cons.mpr ⟨fits.query, fun other member kind => ?_⟩
      obtain ⟨statement, answerable⟩ := valid.queries other (subset member) kind
      exact ⟨statement, answerable.mono names⟩
    · exact (AppConfig.ordered_iff distinct).mpr (acyclic.mpr fits.acyclic)

end

/-! ### Along a run -/

namespace Registry
variable {δ : Type} {r : Registry δ} {config : DatasetConfig} {data : δ}

/-- The configurations stand under their own names. -/
def Keyed (r : Registry δ) : Prop := ∀ entry ∈ r.configs.entries, entry.2.name = entry.1

/-- The datasets of the other names. -/
def others (r : Registry δ) (name : String) : List DatasetConfig :=
  (r.configs.erase name).entries.map (·.2)

theorem all_put : (r.put config data).all = config :: r.others config.name := by
  rw [all, put, AList.entries_insert]
  rfl

theorem kerase_subset {name : String} : r.configs.entries.kerase name ⊆ r.configs.entries :=
  (List.kerase_sublist name r.configs.entries).subset

theorem Keyed.put (keyed : r.Keyed) : (r.put config data).Keyed := by
  unfold Keyed Registry.put
  rw [AList.entries_insert]
  exact List.forall_mem_cons.mpr ⟨rfl, fun entry member => keyed entry (kerase_subset member)⟩

theorem Keyed.names (keyed : r.Keyed) : r.all.map (·.name) = r.configs.keys := by
  rw [all, AList.keys, List.keys, List.map_map]
  exact List.map_congr_left keyed

theorem Keyed.others_names (keyed : r.Keyed) {name : String} :
    (r.others name).map (·.name) = r.configs.keys.erase name := by
  have same : (r.others name).map (·.name) = (r.configs.erase name).keys := by
    rw [others, AList.keys, List.keys, List.map_map]
    exact List.map_congr_left fun entry member => keyed entry (kerase_subset member)
  rw [same, AList.keys_erase]

theorem others_subset {name : String} : r.others name ⊆ r.all :=
  List.map_subset _ kerase_subset

theorem keyed_start {datasets : List DatasetConfig} {data : AList fun _ : String => δ}
    {status : String → DatasetStatus} (distinct : (datasets.map (·.name)).Nodup) :
    (start datasets data status).Keyed := by
  rw [Keyed, start, entries_map distinct]
  intro entry member
  obtain ⟨d, _, rfl⟩ := List.mem_map.mp member
  rfl

end Registry

section
variable {δ : Type} [ToLowercase] {around : Surroundings} {settings : SavedQueriesSettings}
  {cfg : AppConfig}

/-- The loader accepts the datasets that are registered, in any order. -/
def Server.Loadable (around : Surroundings) (cfg : AppConfig) (s : Server δ) : Prop :=
  ∀ datasets, datasets.Perm s.registry.all →
    (cfg.withDatasets datasets).validate around = .ok ()

theorem Server.loadable_iff {s : Server δ} :
    s.Loadable around cfg ↔ (cfg.withDatasets s.registry.all).Valid around := by
  constructor
  · intro loadable
    exact AppConfig.validate_ok_iff.mp (loadable _ (.refl _))
  · intro valid datasets same
    exact AppConfig.validate_ok_iff.mpr (valid.perm same.symm)

/-- What a step registers passes the loader's checks beside the other datasets. -/
def Server.Fitting (around : Surroundings) (settings : SavedQueriesSettings)
    (storage : Option StorageConfig) (s : Server δ) (a : Registration δ) : Prop :=
  ∀ config data, s.registered around.parse settings a = some (config, data) →
    config.Fits around storage (s.registry.others config.name)

theorem Server.fitting_iff {s t : Server δ} {a : Registration δ} (keyed : s.registry.Keyed)
    (loadable : s.Loadable around cfg) (stepped : step around.parse settings a s = some t) :
    t.Loadable around cfg ↔ s.Fitting around settings cfg.storage a := by
  rw [loadable_iff] at loadable ⊢
  obtain ⟨nothing, same⟩ | ⟨config, data, found, put⟩ := step_registry stepped
  · rw [same]
    refine iff_of_true loadable fun config data found => ?_
    rw [nothing] at found
    cases found
  · have whole : s.registry.all.map (·.name) ⊆
        config.name :: (s.registry.others config.name).map (·.name) := by
      rw [keyed.names, keyed.others_names]
      intro name member
      by_cases same : name = config.name
      · exact List.mem_cons.mpr (.inl same)
      · exact List.mem_cons_of_mem _ ((List.mem_erase_of_ne same).mpr member)
    have distinct : ((config :: s.registry.others config.name).map (·.name)).Nodup := by
      rw [List.map_cons, keyed.others_names, List.nodup_cons]
      exact ⟨s.registry.configs.keys_nodup.not_mem_erase, s.registry.configs.keys_nodup.erase _⟩
    rw [put, Registry.all_put, loadable.cons_iff Registry.others_subset whole distinct
      (registered_accepted found).1]
    constructor
    · intro fits config' data' found'
      obtain ⟨rfl, rfl⟩ := Prod.mk.inj (Option.some.inj (found.symm.trans found'))
      exact fits
    · intro fitting
      exact fitting config data found

theorem Server.keyed_step {parse : Sql.Parser} {s t : Server δ} {a : Registration δ}
    (keyed : s.registry.Keyed) (stepped : step parse settings a s = some t) :
    t.registry.Keyed := by
  obtain ⟨_, same⟩ | ⟨config, data, _, put⟩ := step_registry stepped
  · exact same ▸ keyed
  · exact put ▸ keyed.put

/-- From an accepted configuration the registered datasets stay what the loader accepts just
when each registration passes the checks that `validate_for_register` leaves out. -/
theorem registrations_loadable_iff (accepted : cfg.validate around = .ok ())
    {data : AList fun _ : String => δ} {status : String → DatasetStatus}
    {labels : List (Registration δ)} {t : Server δ}
    (run : Run (Server.step around.parse settings) Anything
      ⟨Registry.start cfg.datasets data status, []⟩ labels t) :
    (∀ before u, before <+: labels → Run (Server.step around.parse settings) Anything
        ⟨Registry.start cfg.datasets data status, []⟩ before u → u.Loadable around cfg) ↔
      Run (Server.step around.parse settings) (Server.Fitting around settings cfg.storage)
        ⟨Registry.start cfg.datasets data status, []⟩ labels t := by
  have valid := AppConfig.validate_ok_iff.mp accepted
  rw [run.always_iff (P := Server.Loadable around cfg) (J := fun s => s.registry.Keyed)
    (Registry.keyed_start valid.distinct) Server.keyed_step Server.fitting_iff]
  apply and_iff_right
  apply Server.loadable_iff.mpr
  rw [Registry.all_start valid.distinct]
  exact valid

end

section Runs
attribute [local instance] asciiToLowercase

theorem registrations_loadable_items : ∃ t, posting (file "items") = some t ∧
    ((∀ before u, before <+: [.register (file "items") (.ok ())] →
      Run (Server.step noFiles.parse noQueries) Anything serving before u →
        u.Loadable noFiles orders) ↔
      Run (Server.step noFiles.parse noQueries) (Server.Fitting noFiles noQueries orders.storage)
        serving [.register (file "items") (.ok ())] t) :=
  have accepted : orders.validate noFiles = .ok () := by rfl
  ⟨_, rfl, registrations_loadable_iff accepted (posted (file "items") rfl)⟩

/-- A parquet dataset that asks for refreshes. -/
private def refreshed : DatasetConfig :=
  { file "items" with refresh := some ⟨some 60, false, 30, false, 0⟩ }

/-- `POST /datasets` registers what keeps the server from starting again. -/
theorem registrations_not_loadable : orders.validate noFiles = .ok () ∧
    ∃ t, Run (Server.step noFiles.parse noQueries) Anything serving
      [.register refreshed (.ok ())] t ∧ ¬ t.Loadable noFiles orders := by
  refine ⟨by rfl, _, posted refreshed rfl, fun loadable => ?_⟩
  have accepted := loadable _ (.refl _)
  exact absurd (AppConfig.validate_ok_iff.mp accepted).each fun each =>
    nomatch (each refreshed List.mem_cons_self).refresh

end Runs
end Datapress.Config
