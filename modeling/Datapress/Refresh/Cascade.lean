import Mathlib.Data.List.AList
import Mathlib.Data.List.MinMax
import Datapress.Library.Machine

/-! The cascade engine: publish events set debounce timers for the dependents of a
dataset, and an expired timer sends one refresh request to the scheduler. Instants and
durations are counted in the ticks of the clock. -/
namespace Datapress.Refresh

/-- A dependent of an upstream, from its own `refresh` block. -/
structure CascadeDep where
  name : String
  debounce : Nat
  timeout : Nat
deriving Repr, DecidableEq

/-- The dependents of the upstream names. -/
abbrev CascadeDag := AList fun _ : String => List CascadeDep

def CascadeDag.dependents (dag : CascadeDag) (upstream : String) : List CascadeDep :=
  (dag.lookup upstream).getD []

structure CascadeRequest where
  name : String
  timeout : Nat
deriving Repr, DecidableEq

/-- A pending refresh: when it fires, and when its last trigger arrived. -/
structure Pending where
  fireAt : Nat
  timeout : Nat
  triggerAt : Nat
deriving Repr, DecidableEq

abbrev PendingMap := AList fun _ : String => Pending

namespace PendingMap

/-- Drops the entry of a published dataset whose build started no earlier than its last
trigger. -/
def clear (pending : PendingMap) (published : String) (buildStart : Nat) : PendingMap :=
  match pending.lookup published with
  | some entry => if entry.triggerAt ≤ buildStart then pending.erase published else pending
  | none => pending

/-- Sets or resets the debounce timer of a dependent. -/
def trigger (now : Nat) (pending : PendingMap) (dep : CascadeDep) : PendingMap :=
  pending.insert dep.name { fireAt := now + dep.debounce, timeout := dep.timeout, triggerAt := now }

def nextFire (pending : PendingMap) : Option Nat :=
  (pending.entries.map fun entry => entry.2.fireAt).min?

/-- The requests whose timers have expired. -/
def due (pending : PendingMap) (now : Nat) : List CascadeRequest :=
  (pending.entries.filter fun entry => entry.2.fireAt ≤ now).map fun entry =>
    { name := entry.1, timeout := entry.2.timeout }

def eraseAll (pending : PendingMap) (fired : List CascadeRequest) : PendingMap :=
  fired.foldl (fun rest request => rest.erase request.name) pending

end PendingMap

/-- What the loop processes: a publish event with its build start, read at `now`, or the
timer, read at `now`, with the requests it sends. A hash map is iterated in no particular
order, so the requests may come in any order. -/
inductive EngineStep where
  | publish (name : String) (buildStart now : Nat)
  | timer (now : Nat) (sent : List CascadeRequest)
deriving Repr, DecidableEq

/-- One turn of `cascade_engine_loop`. A shutdown or a closed channel ends the loop and
has no step. -/
def cascadeEngine (dag : CascadeDag) : EngineStep → PendingMap → Option PendingMap
  | .publish name buildStart now, pending =>
    some ((dag.dependents name).foldl (PendingMap.trigger now) (pending.clear name buildStart))
  | .timer now sent, pending =>
    match pending.nextFire with
    | some fireAt =>
      if fireAt ≤ now ∧ sent.Perm (pending.due now) then some (pending.eraseAll sent) else none
    | none => none

/-- A dataset of the configuration with the parts of its `source` and `refresh` blocks the
cascade graph is built from. -/
structure CascadeSource where
  name : String
  dependsOn : List String
  onUpstreamReload : Bool
  debounce : Nat
  timeout : Nat
deriving Repr, DecidableEq

def CascadeDag.push (dep : CascadeDep) (dag : CascadeDag) (upstream : String) : CascadeDag :=
  dag.insert upstream (dag.dependents upstream ++ [dep])

/-- The edges one dataset contributes. -/
def CascadeDag.extend (dag : CascadeDag) (d : CascadeSource) : CascadeDag :=
  if d.onUpstreamReload then
    d.dependsOn.foldl (push { name := d.name, debounce := d.debounce, timeout := d.timeout }) dag
  else dag

/-- The graph the server builds from its datasets. -/
def cascadeDag (datasets : List CascadeSource) : CascadeDag :=
  datasets.foldl CascadeDag.extend ∅

end Datapress.Refresh
