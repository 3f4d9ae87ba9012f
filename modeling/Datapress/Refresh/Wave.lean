import Mathlib.Logic.Relation
import Datapress.Refresh.Scheduler

/-! A cascade wave: one publish from outside, and then only what the engine and the
scheduler make of it. -/
namespace Datapress.Refresh
open Relation (TransGen)

namespace CascadeDag

/-- A publish of `u` triggers `d`. -/
def Upstream (dag : CascadeDag) (u d : String) : Prop := d ∈ (dag.dependents u).map (·.name)

def Acyclic (dag : CascadeDag) : Prop := ∀ d, ¬ TransGen dag.Upstream d d

/-- Every name that is a dependent of some upstream. -/
def names (dag : CascadeDag) : List String :=
  dag.entries.flatMap fun entry => entry.2.map (·.name)

end CascadeDag

namespace System

/-- The system right after a publish from outside. -/
def wave (now : Nat) (root : Publish) : System :=
  { initial now with events := [root], published := [root] }

/-- The steps of a wave: no caller takes a lock, no heap entry fires, and every build
succeeds within its timeout. -/
def Internal (s : System) : Action → Prop
  | .release name => s.locks.lookup name = some .published
  | .lock _ | .tick _ | .giveUp => False
  | _ => True

instance (s : System) : (action : Action) → Decidable (s.Internal action)
  | .release name => inferInstanceAs (Decidable (s.locks.lookup name = some .published))
  | .lock _ | .tick _ | .giveUp => inferInstanceAs (Decidable False)
  | .advance _ | .start _ | .publish _ | .processEvent | .timer _ | .receive | .tryReload =>
    inferInstanceAs (Decidable True)

/-- Something about `d` is under way: a trigger, a request, a build or an event. -/
def Active (s : System) (d : String) : Prop :=
  d ∈ s.pending ∨ s.Queued d ∨ s.Serves d ∨ ∃ event ∈ s.events, event.name = d

/-- The wave is over. -/
def Complete (s : System) : Prop :=
  s.events = [] ∧ s.pending = ∅ ∧ s.requests = [] ∧ s.loop = .idle

/-- A build starts only when nothing upstream of its dataset, at any distance, is active;
and no request is sent for a dataset whose last request is still at work. -/
def Settled (dag : CascadeDag) (s : System) : Action → Prop
  | .start d => ∀ u, TransGen dag.Upstream u d → ¬ s.Active u
  | .timer sent => ∀ request ∈ sent, ¬ s.Queued request.name ∧ ¬ s.Serves request.name ∧
      ∀ event ∈ s.events, event.name ≠ request.name
  | _ => True

/-- The names something is under way for. -/
def activeNames (s : System) : List String :=
  s.pending.keys ++ s.requests.map (·.name) ++ s.events.map (·.name) ++
    match s.loop with
    | .idle => []
    | .trying name _ | .building name _ => [name]

/-- A check on a step that implies `Settled` where the ranks rise along the edges: a build starts
while nothing of a lower rank is active. -/
def Ranked (s : System) (rank : String → Nat) : Action → Prop
  | .start d => ∀ u ∈ s.activeNames, rank d ≤ rank u
  | .timer sent => ∀ request ∈ sent, ¬ s.Queued request.name ∧ ¬ s.Serves request.name ∧
      ∀ event ∈ s.events, event.name ≠ request.name
  | _ => True

instance (s : System) (rank : String → Nat) : (action : Action) → Decidable (s.Ranked rank action)
  | .start d => inferInstanceAs (Decidable (∀ u ∈ s.activeNames, rank d ≤ rank u))
  | .timer sent => inferInstanceAs (Decidable (∀ request ∈ sent, _ ∧ _ ∧ ∀ event ∈ s.events, _))
  | .advance _ | .lock _ | .publish _ | .release _ | .processEvent | .receive | .tick _
  | .tryReload | .giveUp => inferInstanceAs (Decidable True)

/-- The condition on the steps of a wave. -/
def InOrder (dag : CascadeDag) (s : System) (action : Action) : Prop :=
  s.Internal action ∧ s.Settled dag action

def HasPublished (s : System) (d : String) : Prop := ∃ build ∈ s.published, build.name = d

def publishes (s : System) (d : String) : List Publish := s.published.filter (·.name = d)

/-- The actions of a run other than the passing of time. -/
def work (actions : List Action) : List Action :=
  actions.filter fun action => !(action matches .advance _)

end System
end Datapress.Refresh
