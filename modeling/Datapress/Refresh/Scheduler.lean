import Datapress.Refresh.Cascade

/-! The scheduler loop, the cascade engine and the per-dataset reload locks as one
system of labelled steps. Builds run for any time and end in any way. -/
namespace Datapress.Refresh

/-- A successful publish: its build start travels in the event; `time` is when the new
generation became visible. -/
structure Publish where
  name : String
  buildStart : Nat
  time : Nat
deriving Repr, DecidableEq

/-- How far the holder of a reload lock has come: `reload_inner` reads the build start
after taking the lock, and the guard is dropped some time after the publish. -/
inductive Phase where
  | locked
  | building (start : Nat)
  | published
deriving Repr, DecidableEq

/-- What `run_loop` is doing. `cascade` tells a cascade request from a scheduled tick. -/
inductive Loop where
  | idle
  | trying (name : String) (cascade : Bool)
  | building (name : String) (cascade : Bool)
deriving Repr, DecidableEq

/-- The loop goes on when the build it awaits has ended. -/
def Loop.leave (name : String) : Loop → Loop
  | .building current cascade => if current = name then .idle else .building current cascade
  | other => other

structure System where
  now : Nat
  /-- The publish channel, oldest event first. -/
  events : List Publish
  pending : PendingMap
  /-- The request channel, oldest request first. -/
  requests : List CascadeRequest
  /-- The reload locks that are held. -/
  locks : AList fun _ : String => Phase
  loop : Loop
  /-- The events the engine has processed. -/
  processed : List Publish
  /-- Every publish so far. -/
  published : List Publish

inductive Action where
  | advance (ticks : Nat)
  /-- A caller outside the scheduler takes a free reload lock. -/
  | lock (name : String)
  /-- The holder of the lock reads its build start. -/
  | start (name : String)
  /-- The build of the holder succeeds and its event is sent. -/
  | publish (name : String)
  /-- The guard is dropped: after a publish, after a failure, or with a future that timed
  out. -/
  | release (name : String)
  | processEvent
  | timer (sent : List CascadeRequest)
  /-- The loop takes the next cascade request. -/
  | receive
  /-- A heap entry fires. -/
  | tick (name : String)
  /-- The `try_lock` of `try_reload`. -/
  | tryReload
  /-- `try_reload` finds no configuration for the name. -/
  | giveUp
deriving Repr, DecidableEq

namespace System

def initial (now : Nat) : System where
  now
  events := []
  pending := ∅
  requests := []
  locks := ∅
  loop := .idle
  processed := []
  published := []

def step (dag : CascadeDag) : Action → System → Option System
  | .advance ticks, s => some { s with now := s.now + ticks }
  | .lock name, s =>
    match s.locks.lookup name with
    | some _ => none
    | none => some { s with locks := s.locks.insert name .locked }
  | .start name, s =>
    match s.locks.lookup name with
    | some .locked => some { s with locks := s.locks.insert name (.building s.now) }
    | _ => none
  | .publish name, s =>
    match s.locks.lookup name with
    | some (.building start) =>
      let event := { name, buildStart := start, time := s.now }
      some { s with
        locks := s.locks.insert name .published
        events := s.events ++ [event]
        published := s.published ++ [event] }
    | _ => none
  | .release name, s =>
    match s.locks.lookup name with
    | some _ => some { s with locks := s.locks.erase name, loop := s.loop.leave name }
    | none => none
  | .processEvent, s =>
    match s.events with
    | [] => none
    | event :: rest =>
      (cascadeEngine dag (.publish event.name event.buildStart s.now) s.pending).map fun pending =>
        { s with events := rest, pending, processed := s.processed ++ [event] }
  | .timer sent, s =>
    (cascadeEngine dag (.timer s.now sent) s.pending).map fun pending =>
      { s with pending, requests := s.requests ++ sent }
  | .receive, s =>
    match s.loop, s.requests with
    | .idle, request :: rest => some { s with loop := .trying request.name true, requests := rest }
    | _, _ => none
  | .tick name, s =>
    match s.loop with
    | .idle => some { s with loop := .trying name false }
    | _ => none
  | .tryReload, s =>
    match s.loop with
    | .trying name cascade =>
      match s.locks.lookup name with
      | some _ => some { s with loop := .idle }
      | none => some { s with
          locks := s.locks.insert name .locked, loop := .building name cascade }
    | _ => none
  | .giveUp, s =>
    match s.loop with
    | .trying _ _ => some { s with loop := .idle }
    | _ => none

/-- A request for `d` waits in the channel. -/
abbrev Queued (s : System) (d : String) : Prop := d ∈ s.requests.map (·.name)

/-- The loop is at work on a cascade request for `d`. -/
def Serves (s : System) (d : String) : Prop :=
  s.loop = .trying d true ∨ s.loop = .building d true

instance (s : System) (d : String) : Decidable (s.Serves d) :=
  inferInstanceAs (Decidable (_ ∨ _))

/-- A build of `d` that started no earlier than the publish has succeeded. -/
def RebuiltSince (s : System) (event : Publish) (d : String) : Prop :=
  ∃ build ∈ s.published, build.name = d ∧ event.time ≤ build.buildStart

instance (s : System) (event : Publish) (d : String) : Decidable (s.RebuiltSince event d) :=
  inferInstanceAs (Decidable (∃ build ∈ s.published, _ ∧ _))

/-- `d` is still owed a refresh for the publish, or has had it. -/
def Covered (s : System) (event : Publish) (d : String) : Prop :=
  d ∈ s.pending ∨ s.Queued d ∨ s.Serves d ∨ s.RebuiltSince event d

def NoLostCascade (dag : CascadeDag) (s : System) : Prop :=
  ∀ event ∈ s.processed, ∀ d ∈ (dag.dependents event.name).map (·.name), s.Covered event d

/-- The dataset whose cascade request ends with this step and without a publish: the
request coalesces with a held lock, finds no configuration, fails or times out. -/
def dropped (s : System) : Action → Option String
  | .tryReload =>
    match s.loop with
    | .trying name true => if (s.locks.lookup name).isSome then some name else none
    | _ => none
  | .giveUp =>
    match s.loop with
    | .trying name true => some name
    | _ => none
  | .release name =>
    if s.loop = .building name true ∧ s.locks.lookup name ≠ some .published then some name else none
  | _ => none

/-- The drop of a request for `d` does no harm: another trigger or request is waiting, or
`d` has been rebuilt since every processed publish of its upstreams. -/
def Dispensable (dag : CascadeDag) (s : System) (d : String) : Prop :=
  d ∈ s.pending ∨ s.Queued d ∨ ∀ event ∈ s.processed,
    d ∈ (dag.dependents event.name).map (·.name) → s.RebuiltSince event d

instance (dag : CascadeDag) (s : System) (d : String) : Decidable (s.Dispensable dag d) :=
  inferInstanceAs (Decidable (_ ∨ _ ∨ ∀ event ∈ s.processed, _ → _))

def DropsHarmlessly (dag : CascadeDag) (s : System) (action : Action) : Prop :=
  ∀ d ∈ s.dropped action, s.Dispensable dag d

instance (dag : CascadeDag) (s : System) (action : Action) :
    Decidable (s.DropsHarmlessly dag action) :=
  inferInstanceAs (Decidable (∀ d ∈ s.dropped action, _))

end System
end Datapress.Refresh
