import Datapress.Config.SavedQueriesSteps
import Datapress.Config.Validity
import Datapress.Refresh.ReloadAllProofs

/-! Whether `reload-all` takes all configured datasets of a running server. -/
namespace Datapress.Config
open Machine (Run Anything)
open Refresh (Edge Ranked ReloadAllResponse SavedQueriesSettings StatusEntry reloadAllDatasets)
open Relation (TransGen)

namespace Registry
variable {δ : Type}

/-- What `dataset_statuses` says of a name. -/
def statusEntry (r : Registry δ) (entry : Sigma fun _ : String => DatasetStatus × OnStart) :
    StatusEntry where
  name := entry.1
  status := entry.2.1
  onStart := entry.2.2
  dependsOn := ((r.configs.lookup entry.1).map (·.source.dependsOn)).getD []

/-- `dataset_statuses`, as far as `reload-all` reads it. -/
def datasetStatuses (r : Registry δ) : List StatusEntry :=
  (r.statuses.entries.map r.statusEntry).mergeSort fun a b => a.name ≤ b.name

def reloadAll (r : Registry δ) : ReloadAllResponse := reloadAllDatasets r.datasetStatuses

def setStatus (r : Registry δ) (name : String) (status : DatasetStatus) : Registry δ :=
  match r.statuses.lookup name with
  | some (_, onStart) => { r with statuses := r.statuses.insert name (status, onStart) }
  | none => r

/-- Each configured dataset is in one of the two lists, once, and is enqueued after the
dependencies that are enqueued. -/
structure Partitioned (r : Registry δ) : Prop where
  whole : (r.reloadAll.enqueued ++ r.reloadAll.skipped).Perm r.configs.keys
  ordered : ∀ first d rest, r.reloadAll.enqueued = first ++ d :: rest →
    ∀ config, r.configs.lookup d = some config →
      ∀ u ∈ config.source.dependsOn, u ∈ r.reloadAll.enqueued → u ∈ first

/-- The statuses are those of the configured datasets, which stand under their own names. -/
structure Tracked (r : Registry δ) : Prop where
  keyed : r.Keyed
  statuses : r.statuses.keys.Perm r.configs.keys

variable {r : Registry δ}

theorem names_datasetStatuses : (r.datasetStatuses.map (·.name)).Perm r.statuses.keys := by
  apply ((List.mergeSort_perm _ _).map _).trans
  rw [List.map_map]
  exact .refl _

theorem distinct_datasetStatuses : (r.datasetStatuses.map (·.name)).Nodup :=
  names_datasetStatuses.nodup_iff.mpr r.statuses.keys_nodup

theorem Keyed.lookup (keyed : r.Keyed) {name : String} {config : DatasetConfig} :
    r.configs.lookup name = some config ↔ config ∈ r.all ∧ config.name = name := by
  rw [← Option.mem_def, AList.mem_lookup_iff, all, List.mem_map]
  constructor
  · intro member
    exact ⟨⟨_, member, rfl⟩, keyed _ member⟩
  · rintro ⟨⟨entry, member, rfl⟩, rfl⟩
    obtain ⟨name, other⟩ := entry
    obtain rfl : other.name = name := keyed _ member
    exact member

/-- The nodes of `reload-all` are the configured datasets with their dependencies. -/
theorem Tracked.mem_nodes (tracked : r.Tracked) {node : Refresh.Node} :
    node ∈ r.datasetStatuses.map StatusEntry.node ↔ node ∈ r.all.map DatasetConfig.statusNode := by
  have member {name : String} : name ∈ r.statuses.keys ↔ ∃ config ∈ r.all, config.name = name := by
    rw [tracked.statuses.mem_iff, ← tracked.keyed.names, List.mem_map]
  have found {name : String} {config : DatasetConfig} (inside : config ∈ r.all)
      (named : config.name = name) :
      ((r.configs.lookup name).map (·.source.dependsOn)).getD [] = config.source.dependsOn := by
    rw [← named, tracked.keyed.lookup.mpr ⟨inside, rfl⟩]
    rfl
  rw [List.mem_map, List.mem_map]
  constructor
  · rintro ⟨s, among, rfl⟩
    obtain ⟨entry, inside, rfl⟩ := List.mem_map.mp (List.mem_mergeSort.mp among)
    obtain ⟨config, configured, named⟩ := member.mp (List.mem_map_of_mem inside)
    exact ⟨config, configured, Prod.ext named (found configured named).symm⟩
  · rintro ⟨config, configured, rfl⟩
    obtain ⟨entry, inside, named⟩ := List.mem_map.mp (member.mpr ⟨config, configured, rfl⟩)
    refine ⟨_, List.mem_mergeSort.mpr (List.mem_map_of_mem inside), ?_⟩
    exact Prod.ext named (found configured named.symm)

/-- The answer names all configured datasets when no dataset leads to itself, and only then. -/
theorem Tracked.partitioned_iff (tracked : r.Tracked) :
    r.Partitioned ↔ ∃ rank, Ranked rank (r.all.map DatasetConfig.statusNode) := by
  have ranked : (∃ rank, Ranked rank (r.datasetStatuses.map StatusEntry.node)) ↔
      ∃ rank, Ranked rank (r.all.map DatasetConfig.statusNode) := by
    apply exists_congr
    intro rank
    constructor
    · exact fun ranked => ranked.subset fun node => tracked.mem_nodes.mpr
    · exact fun ranked => ranked.subset fun node => tracked.mem_nodes.mp
  have names := names_datasetStatuses.trans tracked.statuses
  rw [← ranked, ← Refresh.reloadAll_perm_iff distinct_datasetStatuses]
  constructor
  · intro partitioned
    exact partitioned.whole.trans names.symm
  · intro whole
    refine ⟨whole.trans names, fun first d rest split config found u listed queued => ?_⟩
    obtain ⟨inside, rfl⟩ := tracked.keyed.lookup.mp found
    obtain ⟨s, among, same⟩ := List.mem_map.mp
      (tracked.mem_nodes.mpr (List.mem_map_of_mem (f := DatasetConfig.statusNode) inside))
    obtain ⟨named, lists⟩ : s.name = config.name ∧ s.dependsOn = config.source.dependsOn :=
      Prod.mk.inj same
    rw [← named] at split
    exact Refresh.reloadAll_before distinct_datasetStatuses among split (lists ▸ listed) queued

end Registry

/-! ### Along a run -/

/-- The steps of the server with the changes of the statuses: what is built, published and fails. -/
inductive Course where
  | act (a : Action)
  | set (name : String) (status : DatasetStatus)

def Course.step [ToLowercase] (parse : Sql.Parser) (settings : SavedQueriesSettings) :
    Course → System → Option System
  | .act a, s => s.step parse settings a
  | .set name status, s => some { s with registry := s.registry.setStatus name status }

/-- One dataset lists another, whatever its kind. -/
def ListsAny (datasets : List DatasetConfig) : String → String → Prop :=
  Edge (datasets.map DatasetConfig.statusNode)

/-- A dataset that is registered does not lead to itself. -/
def System.ClosesNoCycle (s : System) : Course → Prop
  | .act a => ∀ config, s.puts a = some config →
      ¬ TransGen (ListsAny (config :: s.registry.others config.name)) config.name config.name
  | .set .. => True

namespace Registry
variable {δ : Type} {r t : Registry δ}

theorem Tracked.put {config : DatasetConfig} {data : δ} (tracked : r.Tracked) :
    (r.put config data).Tracked where
  keyed := tracked.keyed.put
  statuses := by
    rw [Registry.put, AList.keys_insert, AList.keys_insert]
    exact (tracked.statuses.erase _).cons _

theorem Tracked.drop {name : String} (tracked : r.Tracked) : (r.drop name).Tracked where
  keyed entry member := tracked.keyed entry (kerase_subset member)
  statuses := by
    rw [Registry.drop, AList.keys_erase, AList.keys_erase]
    exact tracked.statuses.erase _

theorem Tracked.setStatus {name : String} {status : DatasetStatus} (tracked : r.Tracked) :
    (r.setStatus name status).Tracked := by
  rw [Registry.setStatus]
  cases found : r.statuses.lookup name with
  | none => exact tracked
  | some entry =>
      have known : name ∈ r.statuses.keys := AList.mem_keys.mp (AList.lookup_isSome.mp (by rw [found]; rfl))
      constructor
      · exact tracked.keyed
      · rw [AList.keys_insert]
        exact (List.perm_cons_erase known).symm.trans tracked.statuses

theorem all_setStatus {name : String} {status : DatasetStatus} :
    (r.setStatus name status).all = r.all := by
  rw [setStatus]
  split <;> rfl

theorem ranked_put_iff {config : DatasetConfig} {data : δ}
    (ranked : ∃ rank, Ranked rank (r.all.map DatasetConfig.statusNode)) :
    (∃ rank, Ranked rank ((r.put config data).all.map DatasetConfig.statusNode)) ↔
      ¬ TransGen (ListsAny (config :: r.others config.name)) config.name config.name := by
  obtain ⟨rank, ranked⟩ := ranked
  rw [all_put]
  exact Refresh.ranked_cons_iff config.statusNode ranked (List.map_subset _ others_subset)

end Registry

section
variable [ToLowercase] {parse : Sql.Parser} {settings : SavedQueriesSettings} {s t : System}
  {c : Course}

theorem Course.tracked_step (tracked : s.registry.Tracked)
    (stepped : c.step parse settings s = some t) : t.registry.Tracked := by
  cases c with
  | set name status =>
      cases stepped
      exact tracked.setStatus
  | act a =>
      have stepped : s.step parse settings a = some t := stepped
      cases System.step_changes stepped with
      | keep _ _ same => exact same ▸ tracked
      | put config _ _ put => exact put ▸ tracked.put
      | drop name _ _ drop => exact drop ▸ tracked.drop
      | publish name _ _ _ _ published => exact published ▸ ⟨tracked.keyed, tracked.statuses⟩

theorem Course.partitioned_step (tracked : s.registry.Tracked) (partitioned : s.registry.Partitioned)
    (stepped : c.step parse settings s = some t) : t.registry.Partitioned ↔ s.ClosesNoCycle c := by
  rw [(Course.tracked_step tracked stepped).partitioned_iff]
  have ranked := tracked.partitioned_iff.mp partitioned
  cases c with
  | set name status =>
      cases stepped
      rw [Registry.all_setStatus]
      exact iff_of_true ranked trivial
  | act a =>
      have spared (nothing : s.puts a = none) : s.ClosesNoCycle (.act a) :=
        fun config puts => nomatch nothing.symm.trans puts
      have stepped : s.step parse settings a = some t := stepped
      cases System.step_changes stepped with
      | keep puts _ same =>
          rw [same]
          exact iff_of_true ranked (spared puts)
      | put config puts _ put =>
          rw [put, Registry.ranked_put_iff ranked]
          constructor
          · intro free other puts'
            obtain rfl := Option.some.inj (puts.symm.trans puts')
            exact free
          · intro closes
            exact closes config puts
      | drop name puts _ drop =>
          obtain ⟨rank, ranked⟩ := ranked
          refine iff_of_true ⟨rank, ?_⟩ (spared puts)
          rw [drop]
          exact ranked.subset (List.map_subset _ Registry.others_subset)
      | publish name puts _ _ _ published =>
          rw [published]
          exact iff_of_true ranked (spared puts)

end

section
variable [ToLowercase] {around : Surroundings} {settings : SavedQueriesSettings} {cfg : AppConfig}

omit [ToLowercase] in
theorem tracked_start {data : AList fun _ : String => Nat} {status : String → DatasetStatus}
    (distinct : (cfg.datasets.map (·.name)).Nodup) :
    (Registry.start cfg.datasets data status).Tracked where
  keyed := Registry.keyed_start distinct
  statuses := by
    rw [Registry.keys_start distinct]
    exact .of_eq (Registry.keys_map distinct _)

/-- From an accepted configuration `reload-all` takes every configured dataset, in order, just
when no configured dataset leads to itself, and none that is registered does. -/
theorem reload_all_partition_iff (accepted : cfg.validate around = .ok ())
    {data : AList fun _ : String => Nat} {status : String → DatasetStatus} {incarnations : Nat}
    {files : AList fun _ : String => ManagedFile} {labels : List Course} {t : System}
    (run : Run (Course.step around.parse settings) Anything
      (.boot (.start cfg.datasets data status) incarnations files) labels t) :
    (∀ before u, before <+: labels → Run (Course.step around.parse settings) Anything
        (.boot (.start cfg.datasets data status) incarnations files) before u →
        u.registry.Partitioned) ↔
      (∀ name, ¬ TransGen (ListsAny cfg.datasets) name name) ∧
      Run (Course.step around.parse settings) System.ClosesNoCycle
        (.boot (.start cfg.datasets data status) incarnations files) labels t := by
  have distinct := (AppConfig.validate_ok_iff.mp accepted).distinct
  have tracked : (Registry.start cfg.datasets data status).Tracked := tracked_start distinct
  rw [run.always_iff (P := fun u : System => u.registry.Partitioned)
    (J := fun u => u.registry.Tracked) tracked Course.tracked_step Course.partitioned_step]
  apply and_congr_left'
  apply tracked.partitioned_iff.trans
  rw [Registry.all_start distinct, ← exists_congr fun rank => @Refresh.grows_edge_iff _ rank]
  constructor
  · rintro ⟨rank, grows⟩ name
    exact grows.acyclic name
  · intro acyclic
    have inside {u d : String} (edge : ListsAny cfg.datasets u d) :
        u ∈ (cfg.datasets.map DatasetConfig.statusNode).map (·.1) := by
      obtain ⟨_, _, _, _, named⟩ := edge
      exact named
    exact Rank.exists_grows inside acyclic

end
section Runs
attribute [local instance] asciiToLowercase

private def createsBig : List Course := (creates "big" "orders" none).map .act

theorem reload_all_partition_created : ∃ t,
    Run (Course.step twoTables.parse allowed) Anything booted createsBig t ∧
    ((∀ before u, before <+: createsBig →
      Run (Course.step twoTables.parse allowed) Anything booted before u →
        u.registry.Partitioned) ↔
      (∀ name, ¬ TransGen (ListsAny orders.datasets) name name) ∧
      Run (Course.step twoTables.parse allowed) System.ClosesNoCycle booted createsBig t) := by
  have accepted : orders.validate twoTables = .ok () := by rfl
  have run : Run (Course.step twoTables.parse allowed) Anything booted createsBig _ :=
    Machine.run_of_exec rfl
  exact ⟨_, run, reload_all_partition_iff accepted run⟩

/-- A parquet dataset that lists itself. -/
private def selfish : DatasetConfig :=
  { name := "items"
    source := { kind := .parquet, location := "data.parquet", dependsOn := ["items"] } }

/-- `reload-all` neither enqueues nor skips what `POST /datasets` has registered. -/
theorem reload_all_not_partitioned : orders.validate twoTables = .ok () ∧
    ∃ t, Run (Course.step twoTables.parse allowed) Anything booted
      [.act (.post selfish (.ok ())), .act (.precheck 0), .act (.acquire 0),
        .act (.finish 0 (.ok ()))] t ∧
      ¬ t.registry.Partitioned := by
  refine ⟨by rfl, _, Machine.run_of_exec rfl, fun partitioned => ?_⟩
  have start : (Registry.start orders.datasets (AList.singleton "orders" 0)
      fun _ => .published).Tracked := tracked_start (by decide)
  have tracked : (Registry.put _ selfish 1).Tracked := start.put
  obtain ⟨rank, ranked⟩ := tracked.partitioned_iff.mp partitioned
  exact absurd (ranked _ List.mem_cons_self "items" List.mem_cons_self List.mem_cons_self)
    (Nat.lt_irrefl _)

end Runs
end Datapress.Config
