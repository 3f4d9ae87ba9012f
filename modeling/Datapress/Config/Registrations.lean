import Datapress.Config.Registry
import Datapress.Library.Machine

/-! Datasets that are registered one after the other while the server runs. -/
namespace Datapress.Config
open Machine (Run Anything)
open Refresh (SavedQueriesSettings)

/-- A backend with the registrations that go on after their request was answered. -/
structure Server (δ : Type) where
  registry : Registry δ
  spawned : List DatasetConfig := []

/-- One registration. The loop of `reload_config` takes one for each dataset of the file; other
requests may come in between. -/
inductive Registration (δ : Type) where
  /-- `register_dataset` -/
  | register (config : DatasetConfig) (built : Except AppError δ)
  | createQuery (request : CreateQueryRequest) (asyncMode : Bool)
      (authorized persisted : Except AppError Unit) (built : Except AppError δ)
  | runSpawned (i : Nat) (built : Except AppError δ)
  | reloadTurn (existing : List String) (config : DatasetConfig) (built : Except AppError δ)

namespace Server
variable {δ : Type} [ToLowercase]

/-- The dataset that `create_query` registers, or has registered in the background. Only a
persisted dataset is written to the managed directory. -/
def createsQuery (parse : Sql.Parser) (settings : SavedQueriesSettings) (s : Server δ)
    (request : CreateQueryRequest) (authorized persisted : Except AppError Unit) :
    Option DatasetConfig :=
  match s.registry.prepareQuery parse settings authorized request with
  | .error _ => none
  | .ok config =>
    if config.temp then some config
    else match persisted with
      | .ok _ => some config
      | .error _ => none

/-- The call of `Backend::register` with what comes of its build. -/
def tries (parse : Sql.Parser) (settings : SavedQueriesSettings) (s : Server δ) :
    Registration δ → Option (DatasetConfig × Except AppError δ)
  | .register config built => some (config, built)
  | .createQuery request asyncMode authorized persisted built =>
    if asyncMode then none
    else (s.createsQuery parse settings request authorized persisted).map (·, built)
  | .runSpawned i built => s.spawned[i]?.map (·, built)
  | .reloadTurn existing config built =>
    if existing.contains config.name then none else some (config, built)

/-- The registrations in the background after the step. -/
def background (parse : Sql.Parser) (settings : SavedQueriesSettings) (s : Server δ) :
    Registration δ → Option (List DatasetConfig)
  | .createQuery request asyncMode authorized persisted _ =>
    if asyncMode then
      some (s.spawned ++ (s.createsQuery parse settings request authorized persisted).toList)
    else some s.spawned
  | .runSpawned i _ => if i < s.spawned.length then some (s.spawned.eraseIdx i) else none
  | .register .. | .reloadTurn .. => some s.spawned

def step (parse : Sql.Parser) (settings : SavedQueriesSettings) (a : Registration δ)
    (s : Server δ) : Option (Server δ) :=
  (s.background parse settings a).map fun spawned => {
    registry := match s.tries parse settings a with
      | some (config, built) => s.registry.after (s.registry.register config built)
      | none => s.registry
    spawned }

/-- The dataset a step puts into the maps, with its data: its checks pass and it is built. -/
def registered (parse : Sql.Parser) (settings : SavedQueriesSettings) (s : Server δ)
    (a : Registration δ) : Option (DatasetConfig × δ) :=
  (s.tries parse settings a).bind fun (config, built) =>
    (s.registry.mayRegister config built).toOption.map (config, ·)

variable {parse : Sql.Parser} {settings : SavedQueriesSettings} {s t : Server δ}
  {a : Registration δ}

/-- A step registers one dataset, or leaves the registry as it is. -/
theorem step_registry (stepped : step parse settings a s = some t) :
    (s.registered parse settings a = none ∧ t.registry = s.registry) ∨
    ∃ config data, s.registered parse settings a = some (config, data) ∧
      t.registry = s.registry.put config data := by
  obtain ⟨spawned, _, rfl⟩ := Option.map_eq_some_iff.mp stepped
  unfold registered
  cases tried : s.tries parse settings a with
  | none => exact .inl ⟨rfl, rfl⟩
  | some call =>
      obtain ⟨config, built⟩ := call
      simp only [Registry.register, Option.bind_some]
      cases s.registry.mayRegister config built with
      | error e => exact .inl ⟨rfl, rfl⟩
      | ok data => exact .inr ⟨config, data, rfl, rfl⟩

/-- What is registered has passed the checks of `register`, and was not published. -/
theorem registered_accepted {config : DatasetConfig} {data : δ}
    (found : s.registered parse settings a = some (config, data)) :
    config.validateForRegister = .ok () ∧ config.name ∉ s.registry.datasets := by
  obtain ⟨⟨other, built⟩, _, made⟩ := Option.bind_eq_some_iff.mp found
  simp only at made
  cases result : s.registry.mayRegister other built with
  | error e => rw [result] at made; cases made
  | ok _ =>
      rw [result] at made
      cases made
      obtain ⟨checked, rest⟩ := Fallible.check_bind_ok_iff.mp result
      obtain ⟨unknown, _⟩ := Fallible.refuse_ok_iff.mp rest
      exact ⟨checked, fun known => unknown (List.contains_iff_mem.mpr known)⟩

end Server

/-- The turns of the loop over the datasets of a file. -/
def reloadTurns {δ : Type} (built : DatasetConfig → Except AppError δ) (existing : List String)
    (file : List DatasetConfig) : List (Registration δ) :=
  file.map fun d => .reloadTurn existing d (built d)

/-- `reload_config` is a run of its turns. -/
theorem reloadLoop_run {δ : Type} [ToLowercase] {parse : Sql.Parser}
    {settings : SavedQueriesSettings} {built : DatasetConfig → Except AppError δ}
    {existing : List String} {file : List DatasetConfig} {report : ReloadReport}
    {spawned : List DatasetConfig} {r : Registry δ} :
    Run (Server.step parse settings) Anything ⟨r, spawned⟩ (reloadTurns built existing file)
      ⟨(reloadLoop built existing file report r).2, spawned⟩ := by
  induction file generalizing report r with
  | nil => exact .nil _
  | cons d rest ih =>
      have first {t : Registry δ} (stepped : Server.step parse settings
          (.reloadTurn existing d (built d)) ⟨r, spawned⟩ = some ⟨t, spawned⟩)
          (others : Run (Server.step parse settings) Anything ⟨t, spawned⟩
            (reloadTurns built existing rest)
            ⟨(reloadLoop built existing (d :: rest) report r).2, spawned⟩) :
          Run (Server.step parse settings) Anything ⟨r, spawned⟩
            (reloadTurns built existing (d :: rest))
            ⟨(reloadLoop built existing (d :: rest) report r).2, spawned⟩ :=
        (Run.single trivial stepped).append others
      rw [reloadLoop] at first ⊢
      by_cases known : existing.contains d.name = true
      · rw [if_pos known] at first ⊢
        apply first _ ih
        simp only [Server.step, Server.background, Server.tries, if_pos known, Option.map_some]
      · rw [if_neg known] at first ⊢
        cases result : r.register d (built d) with
        | ok t =>
            rw [result] at first
            apply first _ ih
            simp only [Server.step, Server.background, Server.tries, if_neg known, result,
              Option.map_some, Registry.after]
        | error e =>
            rw [result] at first
            apply first _ ih
            simp only [Server.step, Server.background, Server.tries, if_neg known, result,
              Option.map_some, Registry.after]

section Runs
attribute [local instance] asciiToLowercase

/-- The saved-queries API is off. -/
def noQueries : SavedQueriesSettings := { enabled := false, dir := none }

/-- Every file is there, and no statement parses. -/
def noFiles : Surroundings where
  parse _ := .error "not read"
  cycle _ := []
  parquetFiles _ := .ok ()
  pathExists _ := true

def file (name : String) : DatasetConfig where
  name := name
  source := { kind := .parquet, location := "data.parquet" }

def orders : AppConfig := { datasets := [file "orders"] }

def serving : Server Unit :=
  ⟨.start orders.datasets (AList.singleton "orders" ()) fun _ => .published, []⟩

/-- `POST /datasets` -/
def posting (config : DatasetConfig) : Option (Server Unit) :=
  Server.step noFiles.parse noQueries (.register config (.ok ())) serving

theorem posted (config : DatasetConfig) {t : Server Unit} (stepped : posting config = some t) :
    Run (Server.step noFiles.parse noQueries) Anything serving
      [.register config (.ok ())] t :=
  Run.single trivial stepped

end Runs
end Datapress.Config
