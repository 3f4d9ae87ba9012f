import Datapress.Config.Valid
import Datapress.Lifecycle
import Datapress.Refresh.Runtime

/-! The maps of a running backend, and the three ways in which a dataset comes to be
registered while the server runs: `register_dataset`, `create_query` and `reload_config`. -/
namespace Datapress.Config
open DataFusion.Resident (IndexConfig)
open Refresh (RefreshConfig Refusal SavedQueriesSettings)
open Storage (MaterializeConfig)

/-- `δ` is what a build leaves behind. -/
structure Registry (δ : Type) where
  configs : AList fun _ : String => DatasetConfig
  datasets : AList fun _ : String => δ
  statuses : AList fun _ : String => DatasetStatus × OnStart

namespace Registry
variable {δ : Type}

/-- The server as it starts: `data` holds what has been built, and `status` how far the other
datasets have come. -/
def start (datasets : List DatasetConfig) (data : AList fun _ : String => δ)
    (status : String → DatasetStatus) : Registry δ where
  configs := (datasets.map fun d => (⟨d.name, d⟩ : Sigma fun _ : String => DatasetConfig)).toAList
  datasets := data
  statuses := (datasets.map fun d =>
    (⟨d.name, status d.name, d.onStart⟩ : Sigma fun _ : String => DatasetStatus × OnStart)).toAList

/-- The published datasets. -/
def names (r : Registry δ) : List String := r.datasets.keys

def all (r : Registry δ) : List DatasetConfig := r.configs.entries.map (·.2)

def isManaged (r : Registry δ) (name : String) : Bool :=
  ((r.configs.lookup name).map (·.managed)).getD false

/-- The checks of `register` with the build. A dataset exists when it is published. The build ends
with the engine's catalog, which compares without case: it also fails when a published table has
the name in another case. -/
def mayRegister (r : Registry δ) (config : DatasetConfig) (built : Except AppError δ) :
    Except AppError δ := do
  config.validateForRegister
  if r.datasets.keys.contains config.name then
    .error (.invalidValue s!"dataset '{config.name}' already exists")
  else built

theorem mayRegister_of_fresh {r : Registry δ} {config : DatasetConfig}
    {built : Except AppError δ} (checked : config.validateForRegister = .ok ())
    (fresh : config.name ∉ r.datasets) : r.mayRegister config built = built := by
  have unknown : r.datasets.keys.contains config.name = false := by
    simpa [AList.mem_keys] using fresh
  simp only [mayRegister, checked, unknown]
  rfl

def put (r : Registry δ) (config : DatasetConfig) (data : δ) : Registry δ where
  configs := r.configs.insert config.name config
  datasets := r.datasets.insert config.name data
  statuses := r.statuses.insert config.name (.published, .eager)

def register (r : Registry δ) (config : DatasetConfig) (built : Except AppError δ) :
    Except AppError (Registry δ) :=
  r.put config <$> r.mayRegister config built

def mayUnregister (r : Registry δ) (name : String) : Except AppError Unit :=
  match r.configs.lookup name with
  | none => .error (.notFound s!"dataset '{name}' not found")
  | some config =>
    if config.managed then .ok ()
    else .error (.forbidden s!"dataset '{name}' is not managed and cannot be unregistered")

def drop (r : Registry δ) (name : String) : Registry δ where
  configs := r.configs.erase name
  datasets := r.datasets.erase name
  statuses := r.statuses.erase name

def unregister (r : Registry δ) (name : String) : Except AppError (Registry δ) :=
  (fun _ => r.drop name) <$> r.mayUnregister name

/-- A call that fails leaves the registry as it was. -/
def after {ε : Type} (r : Registry δ) : Except ε (Registry δ) → Registry δ
  | .ok t => t
  | .error _ => r

theorem dedupKeys_eq {β : String → Type} {entries : List (Sigma β)}
    (distinct : entries.NodupKeys) : entries.dedupKeys = entries := by
  induction entries with
  | nil => rfl
  | cons entry rest ih =>
      obtain ⟨fresh, others⟩ := List.nodupKeys_cons.mp distinct
      rw [List.dedupKeys_cons, ih others, List.kinsert_def, List.kerase_of_notMem_keys fresh]

section
variable {datasets : List DatasetConfig} {data : AList fun _ : String => δ}
  {status : String → DatasetStatus}

/-- A map that is filled from the datasets has their entries when their names differ. -/
theorem entries_map {β : Type} (distinct : (datasets.map (·.name)).Nodup) (value : DatasetConfig → β) :
    (datasets.map fun d => (⟨d.name, value d⟩ : Sigma fun _ : String => β)).toAList.entries =
      datasets.map fun d => ⟨d.name, value d⟩ := by
  apply dedupKeys_eq
  rw [List.NodupKeys, List.keys, List.map_map]
  exact distinct

theorem all_start (distinct : (datasets.map (·.name)).Nodup) :
    (start datasets data status).all = datasets := by
  rw [all, start, entries_map distinct, List.map_map]
  exact List.map_id _

theorem keys_map {β : Type} (distinct : (datasets.map (·.name)).Nodup) (value : DatasetConfig → β) :
    (datasets.map fun d => (⟨d.name, value d⟩ : Sigma fun _ : String => β)).toAList.keys =
      datasets.map (·.name) := by
  rw [AList.keys, entries_map distinct, List.keys, List.map_map]
  rfl

theorem keys_start (distinct : (datasets.map (·.name)).Nodup) :
    (start datasets data status).configs.keys = datasets.map (·.name) :=
  keys_map distinct _

end

end Registry

/-! ### `reload_config` -/

structure ReloadReport where
  registered : List String := []
  skipped : List String := []
  errors : List (String × AppError) := []
deriving Repr

/-- The loop over the datasets of the file. `existing` was read before it. -/
def reloadLoop {δ : Type} (built : DatasetConfig → Except AppError δ) (existing : List String) :
    List DatasetConfig → ReloadReport → Registry δ → ReloadReport × Registry δ
  | [], report, r => (report, r)
  | d :: rest, report, r =>
    if existing.contains d.name then
      reloadLoop built existing rest { report with skipped := report.skipped ++ [d.name] } r
    else
      match r.register d (built d) with
      | .ok t =>
        reloadLoop built existing rest { report with registered := report.registered ++ [d.name] } t
      | .error e =>
        reloadLoop built existing rest { report with errors := report.errors ++ [(d.name, e)] } r

/-- `file` is what `AppConfig::load` says of the configuration on disk. -/
def reloadConfig {δ : Type} (file : Except AppError AppConfig)
    (built : DatasetConfig → Except AppError δ) (r : Registry δ) :
    Except AppError (ReloadReport × Registry δ) :=
  (fun cfg => reloadLoop built r.names cfg.datasets {} r) <$> file

/-! ### `delete_query` -/

namespace Registry
variable {δ : Type}

/-- The datasets that depend on a name, in the order of the statuses. -/
def dependents (r : Registry δ) (name : String) : List String :=
  (r.statuses.keys.filter fun other =>
    ((r.configs.lookup other).map fun config => config.source.dependsOn.contains name).getD
      false).mergeSort fun a b => a ≤ b

/-- The checks before the removal. -/
def mayDelete (settings : SavedQueriesSettings) (authorized : Except AppError Unit)
    (r : Registry δ) (name : String) : Except Refusal Unit := do
  settings.check { authorized }
  if !r.isManaged name then
    if !r.statuses.keys.contains name then
      .error (.error (.notFound s!"dataset '{name}' not found"))
    else .error (.error (.forbidden
      s!"dataset '{name}' is defined in the server config and cannot be deleted via the API"))
  else if !(r.dependents name).isEmpty then
    let listed := ", ".intercalate (r.dependents name)
    .error (.error (.conflict s!"dataset '{name}' has dependents: {listed}; delete them first"))
  else .ok ()

def deleteQuery (settings : SavedQueriesSettings) (authorized : Except AppError Unit)
    (r : Registry δ) (name : String) : Except Refusal (Registry δ) := do
  r.mayDelete settings authorized name
  (r.unregister name).mapError .error

theorem mayDelete_managed {settings : SavedQueriesSettings} {authorized : Except AppError Unit}
    {r : Registry δ} {name : String} (passed : r.mayDelete settings authorized name = .ok ()) :
    ∃ config, r.configs.lookup name = some config ∧ config.managed = true := by
  obtain ⟨_, guarded⟩ := Fallible.check_bind_ok_iff.mp passed
  by_cases managed : r.isManaged name = true
  · rw [isManaged] at managed
    cases found : r.configs.lookup name with
    | none => rw [found] at managed; cases managed
    | some config =>
        rw [found] at managed
        exact ⟨config, rfl, managed⟩
  · rw [if_pos (by simpa using managed)] at guarded
    split at guarded <;> cases guarded

theorem mayDelete_of_alone {settings : SavedQueriesSettings} {authorized : Except AppError Unit}
    {r : Registry δ} {name : String} (allowed : settings.check { authorized } = .ok ())
    (managed : r.isManaged name = true) (alone : r.dependents name = []) :
    r.mayDelete settings authorized name = .ok () := by
  rw [mayDelete, allowed, managed, alone]
  rfl

/-- A delete that passes its checks removes the dataset. -/
theorem deleteQuery_of_mayDelete {settings : SavedQueriesSettings}
    {authorized : Except AppError Unit} {r : Registry δ} {name : String}
    (passed : r.mayDelete settings authorized name = .ok ()) :
    r.deleteQuery settings authorized name = .ok (r.drop name) := by
  obtain ⟨config, found, managed⟩ := mayDelete_managed passed
  simp only [deleteQuery, passed, unregister, mayUnregister, found, managed, if_true]
  rfl

end Registry

/-! ### `create_query` -/

/-- The body of `POST /api/v1/queries`. -/
structure CreateQueryRequest where
  name : String
  kind : Refresh.SavedQueryKind := .temp
  sql : String
  refresh : Option RefreshConfig := none
  ttl : Option Nat := none
  materialize : Option MaterializeConfig := none
  index : Option IndexConfig := none

def CreateQueryRequest.config (request : CreateQueryRequest) (depends : List String) :
    DatasetConfig where
  name := request.name
  source := { kind := .query, sql := some request.sql, dependsOn := depends }
  s3 := none
  index := request.index.getD {}
  refresh := if request.kind = .temp then none else request.refresh
  materialize := request.materialize
  managed := true
  temp := request.kind = .temp

namespace Registry
variable {δ : Type} [ToLowercase]

/-- The part of `create_query` before its first effect, from the request to the dataset. -/
def prepareQuery (parse : Sql.Parser) (settings : SavedQueriesSettings)
    (authorized : Except AppError Unit) (r : Registry δ) (request : CreateQueryRequest) :
    Except Refusal DatasetConfig := do
  settings.check { authorized }
  if Refresh.reservedDatasetNames.contains request.name then
    .error (.error (.invalidValue
      s!"dataset name '{request.name}' is reserved and cannot be used"))
  else if r.names.contains request.name || r.statuses.keys.contains request.name then
    .error (.error (.invalidValue s!"dataset '{request.name}' already exists"))
  else
    match Sql.validate parse request.sql (r.names.map toLowercase) usizeMax with
    | .error e =>
      let reason := e.display
      .error (.error (.invalidValue s!"sql is invalid: {reason}"))
    | .ok validated => do
      let config := request.config validated.datasets
      config.validateForRegister.mapError .error
      if !config.temp && settings.dir.isNone then
        .error (.error (.invalidValue
          "kind = \"query\" requires a server config file (cannot persist)"))
      else .ok config

/-- The entries of what `create_query` accepts are the datasets that the gate finds. -/
theorem prepareQuery_config {parse : Sql.Parser} {settings : SavedQueriesSettings}
    {authorized : Except AppError Unit} {r : Registry δ} {request : CreateQueryRequest}
    {config : DatasetConfig}
    (prepared : r.prepareQuery parse settings authorized request = .ok config) :
    ∃ validated, Sql.validate parse request.sql (r.names.map toLowercase) usizeMax =
      .ok validated ∧ config = request.config validated.datasets := by
  obtain ⟨_, rest⟩ := Fallible.check_bind_ok_iff.mp prepared
  obtain ⟨_, rest⟩ := Fallible.refuse_ok_iff.mp rest
  obtain ⟨_, rest⟩ := Fallible.refuse_ok_iff.mp rest
  split at rest
  case h_1 => cases rest
  case h_2 validated accepted =>
    obtain ⟨_, rest⟩ := Fallible.check_bind_ok_iff.mp rest
    obtain ⟨_, rest⟩ := Fallible.refuse_ok_iff.mp rest
    cases rest
    exact ⟨validated, accepted, rfl⟩

/-- What `create_query` accepts is managed and would pass the checks of `register`. -/
theorem prepareQuery_accepted {parse : Sql.Parser} {settings : SavedQueriesSettings}
    {authorized : Except AppError Unit} {r : Registry δ} {request : CreateQueryRequest}
    {config : DatasetConfig}
    (prepared : r.prepareQuery parse settings authorized request = .ok config) :
    config.managed = true ∧ config.validateForRegister = .ok () ∧ config.name ∉ r.datasets := by
  obtain ⟨_, rest⟩ := Fallible.check_bind_ok_iff.mp prepared
  obtain ⟨_, rest⟩ := Fallible.refuse_ok_iff.mp rest
  obtain ⟨unknown, rest⟩ := Fallible.refuse_ok_iff.mp rest
  split at rest
  case h_1 => cases rest
  case h_2 validated _ =>
    obtain ⟨checked, rest⟩ := Fallible.check_bind_ok_iff.mp rest
    obtain ⟨_, rest⟩ := Fallible.refuse_ok_iff.mp rest
    cases rest
    have fresh : request.name ∉ r.datasets := by
      intro inside
      exact unknown (Bool.or_eq_true_iff.mpr (.inl (List.contains_iff_mem.mpr inside)))
    exact ⟨rfl, Fallible.mapError_ok_iff.mp checked, fresh⟩

end Registry
end Datapress.Config
