import Datapress.Library.PriorityQueue
import Datapress.Refresh.Delays
import Datapress.Refresh.FailureRecord
import Datapress.Refresh.Runtime
import Datapress.Timestamps

/-! `run_loop`: the heap of the schedules, beside the arms for cascade requests and for deletions.
Instants are nanoseconds; the durations of a schedule are milliseconds, as they are configured. -/
namespace Datapress.Refresh
open Delays

def secondsOf (ns : Nat) : Nat := ns / 10 ^ 9

/-! ### Draws -/

/-- `Rng`, whose state is the last number drawn. -/
def nextU64 (x : UInt64) : UInt64 :=
  let x := x ^^^ (x <<< 13)
  let x := x ^^^ (x >>> 7)
  x ^^^ (x <<< 17)

/-- The generator as `jittered` leaves it. -/
def drawn (base : Nat) (apply : Bool) (rng : UInt64) : UInt64 :=
  if !apply || base = 0 then rng else nextU64 rng

/-! ### The heap -/

structure Entry where
  fireAt : Nat
  name : String
  interval : Nat
  timeout : Nat
  jitter : Bool
  consecutiveFailures : UInt32
deriving DecidableEq, Repr

namespace Entry

/-- The earliest deadline is the greatest. -/
def cmp (a b : Entry) : Ordering := (compare b.fireAt a.fireAt).then (compare a.name b.name)

/-- The schedule that an entry is of. -/
def schedule (e : Entry) : DatasetSchedule :=
  { name := e.name, interval := e.interval, timeout := e.timeout, jitter := e.jitter }

end Entry

/-- The first entries of the schedules, or nothing where an instant overflows. -/
def setup (now : Nat) : List DatasetSchedule → UInt64 → Option (List Entry × UInt64)
  | [], rng => some ([], rng)
  | s :: rest, rng => do
    let rng := drawn (ofMillis s.interval) s.jitter rng
    let fireAt ← after now (← jittered (ofMillis s.interval) s.jitter rng)
    let entry := { fireAt, name := s.name, interval := s.interval, timeout := s.timeout
                   jitter := s.jitter, consecutiveFailures := 0 }
    let (entries, rng) ← setup now rest rng
    some (entry :: entries, rng)

/-! ### The loop -/

/-- Why the task of the loop panics. -/
inductive Fault where
  /-- A slice ends inside a character. -/
  | slice
  /-- A duration or an instant overflows. -/
  | arithmetic
deriving DecidableEq, Repr

/-- What the loop is doing. -/
inductive Turn where
  | selecting
  /-- An entry has been popped and waits for a permit. -/
  | acquiring (entry : Entry)
  | building (entry : Entry) (tickStart : Nat)
  | cascading (request : CascadeRequest)
  | returned
  | panicked (fault : Fault)
deriving DecidableEq, Repr

structure RunLoop where
  now : Nat
  heap : List Entry
  turn : Turn
  rng : UInt64
  ttlPending : List (Nat × String) := []
  ttlOpen : Bool := true
  /-- The calls of `record_refresh`, oldest first. -/
  recorded : List (String × RefreshRecord) := []
  /-- The datasets whose deletion was spawned, oldest first. -/
  expired : List String := []
deriving DecidableEq, Repr

inductive LoopEvent where
  | advance (ns : Nat)
  /-- A request for a deletion, or the end of their channel. -/
  | ttl (request : Option (Nat × String))
  /-- The next deletion is due. -/
  | wake
  /-- A cascade request, or the end of their channel. -/
  | cascade (request : Option CascadeRequest)
  /-- The build for a cascade request ends, at a wall-clock time. -/
  | cascadeDone (outcome : TickOutcome) (wall : Nat)
  /-- The deadline of the top entry has come. -/
  | fire
  | acquired
  /-- The build of a tick ends, at a wall-clock time. -/
  | done (outcome : TickOutcome) (wall : Nat)
  | shutdown
deriving DecidableEq, Repr

namespace RunLoop

/-- The top of the loop: the deletions that are due are spawned. -/
def select (s : RunLoop) : RunLoop :=
  { s with
    turn := .selecting
    ttlPending := s.ttlPending.filter fun ttl => s.now < ttl.1
    expired := s.expired ++ (s.ttlPending.filter fun ttl => ttl.1 ≤ s.now).map (·.2) }

/-- The heap goes with the task. -/
def stop (turn : Turn) (s : RunLoop) : RunLoop := { s with heap := [], ttlPending := [], turn }

def record (name : String) (record : RefreshRecord) (s : RunLoop) : RunLoop :=
  { s with recorded := s.recorded ++ [(name, record)] }

/-- The next deadline of an entry, on both clocks, with the generator as it is left; none for the
interval where it overflows. -/
def deadline (rng : UInt64) (now : Nat) (jitter : Bool) (tickStart wall : Nat)
    (next : Option Nat) : Option (Nat × Nat × UInt64) := do
  let next ← next
  let delay ← jittered next jitter (drawn next jitter rng)
  let fireAt ← after tickStart delay
  let fireWall ← after wall (fireAt - now)
  some (fireAt, fireWall, drawn next jitter rng)

/-- The end of a tick: the entry is pushed again. -/
def reschedule (entry : Entry) (tickStart wall : Nat) (next : Option Nat) (s : RunLoop) : RunLoop :=
  match deadline s.rng s.now entry.jitter tickStart wall next with
  | none => s.stop (.panicked .arithmetic)
  | some (fireAt, fireWall, rng) =>
    let nextAt := formatRfc3339Secs (secondsOf fireWall)
    let s := s.record entry.name { nextRefreshAt := some nextAt }
    select { s with rng, heap := { entry with fireAt } :: s.heap }

/-- A tick that times out or whose build fails. The count wraps, as in a release build. -/
def fail (entry : Entry) (tickStart wall : Nat) (message : String) (s : RunLoop) : RunLoop :=
  let consecutiveFailures := entry.consecutiveFailures + 1
  match truncateError message with
  | none => s.stop (.panicked .slice)
  | some error =>
    let s := s.record entry.name { consecutiveFailures, lastError := some error }
    s.reschedule { entry with consecutiveFailures } tickStart wall
      (backoffInterval (ofMillis entry.interval) consecutiveFailures)

/-- What a build that succeeds has recorded. -/
def publishRecord (stats : ReloadStats) (wall : Nat) (source : RefreshSource) : RefreshRecord :=
  { lastRefreshAt := some (Storage.nowRfc3339 (secondsOf wall))
    lastRefreshDurationMs := some stats.elapsedMs
    refreshSource := some source }

/-- The arm for a heap entry, once its build has ended. -/
def tick (entry : Entry) (tickStart wall : Nat) (s : RunLoop) : TickOutcome → RunLoop
  | .timeout => s.fail entry tickStart wall s!"timed out after {debugDuration entry.timeout}"
  | .failed error => s.fail entry tickStart wall error
  | .coalesced =>
    (s.record entry.name {}).reschedule { entry with consecutiveFailures := 0 } tickStart wall
      (some (ofMillis entry.interval))
  | .published stats =>
    (s.record entry.name (publishRecord stats wall .schedule)).reschedule
      { entry with consecutiveFailures := 0 } tickStart wall (some (ofMillis entry.interval))

def step : LoopEvent → RunLoop → Option RunLoop
  | .advance ns, s => some { s with now := s.now + ns }
  | .ttl request, s =>
    if s.turn = .selecting ∧ s.ttlOpen then
      match request with
      | some request => some (select { s with ttlPending := s.ttlPending ++ [request] })
      | none => some (select { s with ttlOpen := false })
    else none
  | .wake, s =>
    if s.turn = .selecting ∧ s.ttlPending.any (·.1 ≤ s.now) then some s.select else none
  | .cascade request, s =>
    if s.turn = .selecting then
      match request with
      | some request => some { s with turn := .cascading request }
      | none => some (s.stop .returned)
    else none
  | .cascadeDone outcome wall, s =>
    match s.turn, outcome with
    | .cascading request, .published stats =>
      some (s.record request.name (publishRecord stats wall .cascade)).select
    | .cascading _, _ => some s.select
    | _, _ => none
  | .fire, s =>
    match s.turn, PriorityQueue.pop Entry.cmp s.heap with
    | .selecting, some (entry, heap) =>
      if entry.fireAt ≤ s.now then some { s with heap, turn := .acquiring entry } else none
    | _, _ => none
  | .acquired, s =>
    match s.turn with
    | .acquiring entry => some { s with turn := .building entry s.now }
    | _ => none
  | .done outcome wall, s =>
    match s.turn with
    | .building entry tickStart => some (s.tick entry tickStart wall outcome)
    | _ => none
  | .shutdown, s => if s.turn = .selecting then some (s.stop .returned) else none

/-- The loop as it starts, with the seed of its generator. -/
def start (schedules : List DatasetSchedule) (now : Nat) (rng : UInt64) : RunLoop :=
  match setup now schedules (rng ||| 1) with
  | none => { now, heap := [], turn := .panicked .arithmetic, rng }
  | some (heap, rng) => { now, heap, turn := .selecting, rng }

/-- The entries in the heap or in execution. -/
def pending (s : RunLoop) : List Entry :=
  match s.turn with
  | .acquiring entry | .building entry _ => entry :: s.heap
  | _ => s.heap

end RunLoop
end Datapress.Refresh
