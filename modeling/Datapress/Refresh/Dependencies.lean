import Datapress.Errors
import Datapress.Library.Fallible
import Datapress.Library.Kahn
import Datapress.Refresh.Cascade
import Datapress.Text

/-! The datasets of a configuration as far as their dependencies and their refreshes go:
what `AppConfig::validate` checks of them, and the schedules and the cascade graph the
server derives from them. -/
namespace Datapress.Refresh

inductive SourceKind where
  | parquet
  | delta
  | query
deriving Repr, DecidableEq

structure RefreshConfig where
  interval : Option Nat
  onUpstreamReload : Bool
  timeout : Nat
  jitter : Bool
  debounce : Nat
deriving Repr, DecidableEq

/-- A `[[dataset]]` block, or a dataset that was registered at runtime. -/
structure DatasetConfig where
  name : String
  kind : SourceKind
  sql : Option String := none
  dependsOn : List String := []
  refresh : Option RefreshConfig := none
  managed : Bool := false
  temp : Bool := false
deriving Repr, DecidableEq

def reservedDatasetNames : List String := ["reload-all"]

/-- The checks of a dataset's name, at startup and at runtime. -/
def checkName (error : String → AppError) (name : String) : Except AppError Unit :=
  if name.isEmpty then .error (error "dataset name must not be empty")
  else if !name.toList.all fun c => c.isAlphanum || c == '_' || c == '-' || c == '.' then
    .error (error s!"dataset name '{name}' must be alphanumeric (plus _ - .)")
  else if reservedDatasetNames.contains name then
    .error (error s!"dataset name '{name}' is reserved and cannot be used")
  else .ok ()

/-- What validation asks the rest of the system: `source` stands for the checks of a
dataset's index, location and materialization, `tables` for the tables that `sql::validate`
finds in a statement, and `cycle` for the cycle that an error names. -/
structure Environment where
  source : DatasetConfig → Except AppError Unit
  tables : String → List String → Except AppError (List String)
  cycle : List DatasetConfig → List String

namespace DatasetConfig

/-- `[dataset.refresh]` belongs to query datasets. -/
def checkRefresh (d : DatasetConfig) : Except AppError Unit :=
  match d.refresh with
  | none => .ok ()
  | some refresh =>
    if d.kind ≠ .query then
      .error (.internal
        s!"dataset '{d.name}': [dataset.refresh] is only valid for kind = \"query\" datasets")
    else if refresh.interval = some 0 then
      .error (.internal s!"dataset '{d.name}': refresh.interval must be greater than zero")
    else .ok ()

/-- One turn of the loop over the datasets, with the names seen before. -/
def check (env : Environment) (seen : List String) (d : DatasetConfig) : Except AppError Unit :=
  if seen.contains d.name then .error (.internal s!"duplicate dataset name: {d.name}")
  else do
    checkName .internal d.name
    env.source d
    d.checkRefresh

section
variable [ToLowercase]

/-- The tables of the statement are the declared dependencies. -/
def checkReferences (env : Environment) (allNames : List String) (sql : String)
    (d : DatasetConfig) : Except AppError Unit :=
  match env.tables sql allNames with
  | .error e =>
    let reason := e.display
    .error (.internal s!"dataset '{d.name}': source.sql is invalid: {reason}")
  | .ok referenced =>
    let declared := d.dependsOn.map toLowercase
    match referenced.find? fun table => !declared.contains table with
    | some table => .error (.internal
        s!"dataset '{d.name}': SQL references '{table}' which is not listed in depends_on")
    | none =>
      match declared.find? fun dep => !referenced.contains dep with
      | some dep => .error (.internal
          s!"dataset '{d.name}': depends_on lists '{dep}' but it is not referenced in sql")
      | none => .ok ()

/-- The checks of a query dataset against all names, in lower case. -/
def checkQuery (env : Environment) (allNames : List String) (d : DatasetConfig) :
    Except AppError Unit :=
  if d.kind ≠ .query then .ok ()
  else
    match d.sql with
    | none => .error (.internal
        s!"dataset '{d.name}': source.sql is required for kind = \"query\"")
    | some sql =>
      if d.dependsOn.isEmpty then
        .error (.internal s!"dataset '{d.name}': depends_on is required for kind = \"query\" and must list every dataset referenced in sql")
      else if d.dependsOn.any (eqIgnoreAsciiCase · d.name) then
        .error (.internal s!"dataset '{d.name}': a query dataset cannot depend on itself")
      else
        match d.dependsOn.find? fun dep => !allNames.contains (toLowercase dep) with
        | some dep => .error (.internal
            s!"dataset '{d.name}': depends_on '{dep}' is not a defined dataset")
        | none => d.checkReferences env allNames sql

end
end DatasetConfig

/-- A dataset's name and the names it depends on. -/
abbrev Node := String × List String

/-- The index that the name map has for a name: that of the last dataset of the name. -/
def nameToIdx (nodes : List Node) (name : String) : Option Nat :=
  (nodes.findIdxs (·.1 == name)).getLast?

/-- The edges of the dependency graph, from a dependency to its dependent. Names that no
dataset has are skipped. -/
def dependencyEdges (nodes : List Node) : List (Nat × Nat) :=
  nodes.zipIdx.flatMap fun (node, i) => (node.2.filterMap (nameToIdx nodes)).map (·, i)

def topoOrder (nodes : List Node) : List Nat :=
  Kahn.order (List.range nodes.length) (dependencyEdges nodes)

/-- Only query datasets have dependencies. -/
def DatasetConfig.node (d : DatasetConfig) : Node :=
  (d.name, if d.kind = .query then d.dependsOn else [])

def topologicalDatasetOrder (env : Environment) (datasets : List DatasetConfig) :
    Except AppError (List Nat) :=
  let order := topoOrder (datasets.map DatasetConfig.node)
  if order.length ≠ datasets.length then
    let path := " → ".intercalate (env.cycle datasets)
    .error (.internal s!"dependency cycle detected: {path}")
  else .ok order

def checkEach (env : Environment) : List String → List DatasetConfig → Except AppError Unit
  | _, [] => .ok ()
  | seen, d :: rest => do
    d.check env seen
    checkEach env (d.name :: seen) rest

/-- The checks of `AppConfig::validate` on the datasets. -/
def validateDatasets [ToLowercase] (env : Environment) (datasets : List DatasetConfig) :
    Except AppError Unit := do
  checkEach env [] datasets
  Fallible.checkAll (DatasetConfig.checkQuery env (datasets.map fun d => toLowercase d.name)) datasets
  match topologicalDatasetOrder env datasets with
  | .ok _ => .ok ()
  | .error e =>
    let reason := e.display
    .error (.internal s!"dataset dependency error: {reason}")

/-- What the cascade graph takes from a dataset. -/
def DatasetConfig.cascadeSource (d : DatasetConfig) : Option CascadeSource :=
  d.refresh.map fun refresh => {
    name := d.name, dependsOn := d.dependsOn, onUpstreamReload := refresh.onUpstreamReload
    debounce := refresh.debounce, timeout := refresh.timeout }

/-- The cascade graph of the server. -/
def configuredDag (datasets : List DatasetConfig) : CascadeDag :=
  cascadeDag (datasets.filterMap DatasetConfig.cascadeSource)

end Datapress.Refresh
