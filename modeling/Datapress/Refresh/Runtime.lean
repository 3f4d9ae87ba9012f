import Datapress.Library.Machine
import Datapress.Refresh.DependenciesProofs

/-! Datasets that come and go while the server runs: the saved-queries API, `register` and
the expiry of temporary datasets, beside the schedules and the cascade graph that the
server derives once, when it starts. -/
namespace Datapress.Refresh

structure DatasetSchedule where
  name : String
  interval : Nat
  timeout : Nat
  jitter : Bool
deriving Repr, DecidableEq

namespace DatasetConfig

/-- The schedule a dataset asks for. -/
def schedule (d : DatasetConfig) : Option DatasetSchedule := do
  let refresh ← d.refresh
  let interval ← refresh.interval
  some { name := d.name, interval, timeout := refresh.timeout, jitter := refresh.jitter }

def cascades (d : DatasetConfig) : Bool := d.refresh.any (·.onUpstreamReload)

end DatasetConfig

inductive SavedQueryKind where
  | query
  | temp
deriving Repr, DecidableEq

/-- The body of `POST /api/v1/queries`. -/
structure CreateQueryRequest where
  name : String
  kind : SavedQueryKind
  sql : String
  refresh : Option RefreshConfig := none
  ttl : Option Nat := none
deriving Repr, DecidableEq

def CreateQueryRequest.config (request : CreateQueryRequest) (depends : List String) :
    DatasetConfig where
  name := request.name
  kind := .query
  sql := some request.sql
  dependsOn := depends
  refresh := if request.kind = .temp then none else request.refresh
  managed := true
  temp := request.kind = .temp

structure SavedQueriesSettings where
  enabled : Bool
  dir : Option String
deriving Repr, DecidableEq

/-- What an operation asks the rest of the system: whether the caller may do it, the checks
of an index, of column filters and of a bucket, the write of the managed file, and the
build. -/
structure Outside where
  authorized : Except AppError Unit := .ok ()
  checked : Except AppError Unit := .ok ()
  persisted : Except AppError Unit := .ok ()
  built : Except AppError Unit := .ok ()

/-- Why a request of the saved-queries API is turned down. -/
inductive Refusal where
  | disabled
  | error (e : AppError)
deriving Repr, DecidableEq

def Refusal.text : Refusal → String
  | disabled => "queries API is disabled — set ADMIN_TOKEN or configure auth"
  | error e => e.display

def SavedQueriesSettings.check (settings : SavedQueriesSettings) (outside : Outside) :
    Except Refusal Unit :=
  if settings.enabled then outside.authorized.mapError .error else .error .disabled

def validateForRegister (config : DatasetConfig) (outside : Outside) : Except AppError Unit := do
  checkName .invalidValue config.name
  outside.checked

/-- The registry of a running server with the tasks beside it. -/
structure Runtime where
  configs : AList fun _ : String => DatasetConfig
  /-- The names that have a generation. -/
  published : List String
  /-- The entries of the scheduler's heap. -/
  schedules : List DatasetSchedule
  dag : CascadeDag
  /-- Registrations that go on after their request was answered. -/
  spawned : List DatasetConfig := []
  /-- The pending deletions, with their instants. -/
  ttlPending : List (Nat × String) := []

inductive Operation where
  | createQuery (request : CreateQueryRequest) (asyncMode : Bool) (now : Nat) (outside : Outside)
  /-- `register_dataset`, and each dataset of a reloaded configuration. -/
  | register (config : DatasetConfig) (outside : Outside)
  | runSpawned (config : DatasetConfig) (outside : Outside)
  | deleteQuery (name : String) (outside : Outside)
  | expire (fireAt : Nat) (name : String) (now : Nat)
  /-- A reload or a first query publishes a dataset. -/
  | publish (name : String)

namespace Runtime

/-- The server as it starts, with the datasets that were built at the start. -/
def serve (datasets : List DatasetConfig) (published : List String) : Runtime where
  configs := (datasets.map fun d => (⟨d.name, d⟩ : Sigma fun _ : String => DatasetConfig)).toAList
  published
  schedules := datasets.filterMap DatasetConfig.schedule
  dag := configuredDag datasets

def mayRegister (s : Runtime) (config : DatasetConfig) (outside : Outside) :
    Except AppError Unit := do
  validateForRegister config outside
  if s.published.contains config.name then
    .error (.invalidValue s!"dataset '{config.name}' already exists")
  else outside.built

def put (s : Runtime) (config : DatasetConfig) : Runtime :=
  { s with configs := s.configs.insert config.name config
           published := config.name :: s.published }

def register (s : Runtime) (config : DatasetConfig) (outside : Outside) :
    Except AppError Runtime :=
  (fun _ => s.put config) <$> s.mayRegister config outside

def mayUnregister (s : Runtime) (name : String) : Except AppError Unit :=
  match s.configs.lookup name with
  | none => .error (.notFound s!"dataset '{name}' not found")
  | some config =>
    if config.managed then .ok ()
    else .error (.forbidden s!"dataset '{name}' is not managed and cannot be unregistered")

def drop (s : Runtime) (name : String) : Runtime :=
  { s with configs := s.configs.erase name, published := s.published.filter (· ≠ name) }

def unregister (s : Runtime) (name : String) : Except AppError Runtime :=
  (fun _ => s.drop name) <$> s.mayUnregister name

section
variable [ToLowercase]

/-- The part of `create_query` before the build, from the request to the dataset. -/
def prepareQuery (env : Environment) (settings : SavedQueriesSettings) (s : Runtime)
    (request : CreateQueryRequest) (outside : Outside) : Except Refusal DatasetConfig := do
  settings.check outside
  if reservedDatasetNames.contains request.name then
    .error (.error (.invalidValue
      s!"dataset name '{request.name}' is reserved and cannot be used"))
  else if s.published.contains request.name || request.name ∈ s.configs then
    .error (.error (.invalidValue s!"dataset '{request.name}' already exists"))
  else
    match env.tables request.sql (s.published.map toLowercase) with
    | .error e =>
      let reason := e.display
      .error (.error (.invalidValue s!"sql is invalid: {reason}"))
    | .ok depends => do
      let config := request.config depends
      (validateForRegister config outside).mapError .error
      match config.temp, settings.dir with
      | true, _ => .ok config
      | false, none => .error (.error (.invalidValue
          "kind = \"query\" requires a server config file (cannot persist)"))
      | false, some _ => (fun _ => config) <$> outside.persisted.mapError .error

def createQuery (env : Environment) (settings : SavedQueriesSettings) (s : Runtime)
    (request : CreateQueryRequest) (asyncMode : Bool) (now : Nat) (outside : Outside) :
    Except Refusal Runtime := do
  let config ← s.prepareQuery env settings request outside
  if asyncMode then .ok { s with spawned := config :: s.spawned }
  else do
    let t ← (s.register config outside).mapError .error
    match config.temp, request.ttl with
    | true, some ttl => .ok { t with ttlPending := (now + ttl, request.name) :: t.ttlPending }
    | _, _ => .ok t

end

/-- The datasets that depend on a name, in the order of the statuses. -/
def dependents (s : Runtime) (name : String) : List String :=
  ((s.configs.entries.filter fun entry => entry.2.dependsOn.contains name).map
    (·.1)).mergeSort fun a b => a ≤ b

def mayDelete (settings : SavedQueriesSettings) (s : Runtime) (name : String)
    (outside : Outside) : Except Refusal Unit := do
  settings.check outside
  match s.configs.lookup name with
  | none => .error (.error (.notFound s!"dataset '{name}' not found"))
  | some config =>
    if !config.managed then
      .error (.error (.forbidden
        s!"dataset '{name}' is defined in the server config and cannot be deleted via the API"))
    else if !(s.dependents name).isEmpty then
      let listed := ", ".intercalate (s.dependents name)
      .error (.error (.conflict
        s!"dataset '{name}' has dependents: {listed}; delete them first"))
    else .ok ()

def deleteQuery (settings : SavedQueriesSettings) (s : Runtime) (name : String)
    (outside : Outside) : Except Refusal Runtime := do
  s.mayDelete settings name outside
  (s.unregister name).mapError .error

/-- An operation that fails leaves the registry as it was. -/
def after {ε : Type} (s : Runtime) : Except ε Runtime → Runtime
  | .ok t => t
  | .error _ => s

def step [ToLowercase] (env : Environment) (settings : SavedQueriesSettings) :
    Operation → Runtime → Option Runtime
  | .createQuery request asyncMode now outside, s =>
    some (s.after (s.createQuery env settings request asyncMode now outside))
  | .register config outside, s =>
    match outside.authorized with
    | .ok _ => some (s.after (s.register config outside))
    | .error _ => some s
  | .runSpawned config outside, s =>
    if config ∈ s.spawned then
      let s := { s with spawned := s.spawned.erase config }
      some (s.after (s.register config outside))
    else none
  | .deleteQuery name outside, s => some (s.after (s.deleteQuery settings name outside))
  | .expire fireAt name now, s =>
    if (fireAt, name) ∈ s.ttlPending ∧ fireAt ≤ now then
      let s := { s with ttlPending := s.ttlPending.erase (fireAt, name) }
      some (s.after (s.unregister name))
    else none
  | .publish name, s =>
    if name ∈ s.configs then some { s with published := name :: s.published } else none

/-- Runtime datasets take part in refresh. -/
structure TakesPart (s : Runtime) : Prop where
  scheduled : ∀ {name config}, s.configs.lookup name = some config → config.kind = .query →
    ∀ schedule, config.schedule = some schedule →
      s.schedules.filter (·.name = name) = [schedule]
  cascades : ∀ u d, s.dag.Upstream u d ↔
    ∃ config, s.configs.lookup d = some config ∧ config.cascades ∧ u ∈ config.dependsOn
  gone : ∀ name, s.configs.lookup name = none →
    (∀ schedule ∈ s.schedules, schedule.name ≠ name) ∧
      ∀ other, ¬ s.dag.Upstream name other ∧ ¬ s.dag.Upstream other name

/-- The server has, since it started, the schedule and the edges a dataset asks for. -/
def Serves (s : Runtime) (config : DatasetConfig) : Prop :=
  (config.kind = .query → ∀ schedule, config.schedule = some schedule →
    s.schedules.filter (·.name = config.name) = [schedule]) ∧
  ∀ u, s.dag.Upstream u config.name ↔ config.cascades ∧ u ∈ config.dependsOn

/-- The server has had neither a schedule nor an edge for a name since it started. -/
def Free (s : Runtime) (name : String) : Prop :=
  (∀ schedule ∈ s.schedules, schedule.name ≠ name) ∧
    ∀ other, ¬ s.dag.Upstream name other ∧ ¬ s.dag.Upstream other name

/-- An operation that passes its checks registers what the server already serves, or
removes what it never served. -/
def Keeps [ToLowercase] (env : Environment) (settings : SavedQueriesSettings) (s : Runtime) :
    Operation → Prop
  | .createQuery request asyncMode _ outside =>
    ∀ config, s.prepareQuery env settings request outside = .ok config → asyncMode = false →
      s.mayRegister config outside = .ok () → s.Serves config
  | .register config outside =>
    outside.authorized = .ok () → s.mayRegister config outside = .ok () → s.Serves config
  | .runSpawned config outside => s.mayRegister config outside = .ok () → s.Serves config
  | .deleteQuery name outside => s.mayDelete settings name outside = .ok () → s.Free name
  | .expire _ name _ => s.mayUnregister name = .ok () → s.Free name
  | .publish _ => True

end Runtime

/-- The datasets that refresh on a reload of their upstreams spell these as they are
registered. -/
def Spelled (datasets : List DatasetConfig) : Prop :=
  ∀ d ∈ datasets, d.cascades → ∀ u ∈ d.dependsOn, u ∈ datasets.map (·.name)

end Datapress.Refresh
