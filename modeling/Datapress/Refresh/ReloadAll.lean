import Mathlib.Logic.Relation
import Datapress.Lifecycle
import Datapress.Refresh.Dependencies
import Datapress.Refresh.Scheduler

/-! `reload-all`: the handler orders the registered datasets by their dependencies and says
which ones it enqueues, and a detached task then reloads these one after the other. -/
namespace Datapress.Refresh
open Relation (ReflTransGen)

/-- What `dataset_statuses` says of a dataset. -/
structure StatusEntry where
  name : String
  status : DatasetStatus
  onStart : OnStart
  dependsOn : List String
deriving Repr, DecidableEq

/-- A dataset is left out while it is being built, and when it has not been asked for yet. -/
def StatusEntry.skipped (s : StatusEntry) : Bool :=
  s.status == .building || s.status == .pending && (s.onStart == .lazy || s.onStart == .skip)

structure ReloadAllResponse where
  enqueued : List String
  skipped : List String
deriving Repr, DecidableEq

/-- The datasets in the order of their dependencies; those in a cycle are in neither list. -/
def reloadAllDatasets (statuses : List StatusEntry) : ReloadAllResponse :=
  let ordered := (topoOrder (statuses.map fun s => (s.name, s.dependsOn))).filterMap (statuses[·]?)
  { enqueued := (ordered.filter fun s => !s.skipped).map (·.name)
    skipped := (ordered.filter StatusEntry.skipped).map (·.name) }

/-- A registered dataset. -/
structure Registered where
  config : DatasetConfig
  status : DatasetStatus
  onStart : OnStart
deriving Repr, DecidableEq

def Registered.entry (r : Registered) : StatusEntry :=
  ⟨r.config.name, r.status, r.onStart, r.config.dependsOn⟩

structure Registry where
  datasets : List Registered
  distinct : (datasets.map (·.config.name)).Nodup

namespace Registry

def dag (registry : Registry) : CascadeDag := configuredDag (registry.datasets.map (·.config))

def enqueued (registry : Registry) : List String :=
  (reloadAllDatasets (registry.datasets.map Registered.entry)).enqueued

end Registry

/-- The scheduler and the engine with the task of one `reload-all`. -/
structure Bulk where
  system : System
  /-- The names the task has still to try. -/
  rest : List String
  /-- The dataset the task is building. -/
  current : Option String

inductive BulkAction where
  /-- A step of the scheduler, of the engine or of the holder of a reload lock. -/
  | inner (action : Action)
  /-- The task calls `try_reload` for its next name. -/
  | tryNext
deriving Repr, DecidableEq

namespace Bulk

def start (now : Nat) (enqueued : List String) : Bulk where
  system := .initial now
  rest := enqueued
  current := none

/-- The task goes on when its build has ended. -/
def leave (b : Bulk) : Action → Option String
  | .release name => if b.current = some name then none else b.current
  | _ => b.current

/-- The task drops no build: it gives a lock back after its build has begun. -/
def mayStep (b : Bulk) : Action → Bool
  | .release name => !(b.current = some name && b.system.locks.lookup name = some .locked)
  | _ => true

def step (dag : CascadeDag) : BulkAction → Bulk → Option Bulk
  | .inner action, b =>
    if b.mayStep action then
      (System.step dag action b.system).map fun system =>
        { b with system, current := b.leave action }
    else none
  | .tryNext, b =>
    match b.current, b.rest with
    | none, name :: rest =>
      match b.system.locks.lookup name with
      | some _ => some { b with rest }
      | none => some {
          system := { b.system with locks := b.system.locks.insert name .locked }
          rest, current := some name }
    | _, _ => none

/-- The builds of a dataset that have begun. -/
def builds (actions : List BulkAction) (d : String) : Nat := actions.count (.inner (.start d))

def Over (b : Bulk) : Prop := b.rest = [] ∧ b.current = none

/-- No reload but that of the task and those of cascade requests. -/
def Alone : BulkAction → Prop
  | .inner (.lock _) | .inner (.tick _) => False
  | _ => True

instance : (action : BulkAction) → Decidable (Alone action)
  | .inner (.lock _) | .inner (.tick _) => inferInstanceAs (Decidable False)
  | .inner (.advance _) | .inner (.start _) | .inner (.publish _) | .inner (.release _)
  | .inner .processEvent | .inner (.timer _) | .inner .receive | .inner .tryReload
  | .inner .giveUp | .tryNext => inferInstanceAs (Decidable True)

/-- A publish of the dataset leads to a cascade that reaches an enqueued one. -/
def Feeds (dag : CascadeDag) (enqueued : List String) (d : String) : Prop :=
  ∃ e ∈ enqueued, ReflTransGen (fun u d => d ∈ (dag.dependents u).map (·.name)) d e

/-- The engine has read every publish upstream of an enqueued dataset before its build begins, and no
timer expires for a dataset that leads to an enqueued one before the publish of its own
build has been read. -/
def InTime (dag : CascadeDag) (enqueued : List String) (b : Bulk) : BulkAction → Prop
  | .inner (.start d) => d ∈ enqueued →
      ∀ event ∈ b.system.events, d ∉ (dag.dependents event.name).map (·.name)
  | .inner (.timer sent) => ∀ request ∈ sent, Feeds dag enqueued request.name →
      ∃ event ∈ b.system.processed, event.name = request.name
  | _ => True

/-- A check on a step that implies `InTime`. -/
def Punctual (dag : CascadeDag) (b : Bulk) : BulkAction → Prop
  | .inner (.start d) => ∀ event ∈ b.system.events, d ∉ (dag.dependents event.name).map (·.name)
  | .inner (.timer sent) => ∀ request ∈ sent,
      ∃ event ∈ b.system.processed, event.name = request.name
  | _ => True

instance (dag : CascadeDag) (b : Bulk) : (action : BulkAction) → Decidable (b.Punctual dag action)
  | .inner (.start _) => inferInstanceAs (Decidable (∀ event ∈ b.system.events, _))
  | .inner (.timer sent) => inferInstanceAs (Decidable (∀ request ∈ sent, ∃ event ∈ _, _))
  | .inner (.advance _) | .inner (.lock _) | .inner (.publish _) | .inner (.release _)
  | .inner .processEvent | .inner .receive | .inner (.tick _) | .inner .tryReload
  | .inner .giveUp | .tryNext => inferInstanceAs (Decidable True)

end Bulk
end Datapress.Refresh
