import Datapress.Library.Machine
import Datapress.Refresh.Record

/-! The record of one scheduled dataset over the ticks of its schedule and the other builds. -/
namespace Datapress.Refresh
open Machine (Run Anything)
open RefreshRecords

/-- How `try_reload` under the timeout of the schedule ends. -/
inductive TickOutcome where
  | timeout
  | failed (error : String)
  | coalesced
  | published (stats : ReloadStats)
deriving DecidableEq, Repr

/-- What is said of a tick that fails. -/
def TickOutcome.message (timeout : Nat) : TickOutcome → Option String
  | .timeout => some s!"timed out after {debugDuration timeout}"
  | .failed error => some error
  | .coalesced | .published _ => none

/-- Those who write the record of the dataset. -/
inductive RecordEvent where
  /-- A tick of the schedule, with the times it writes. -/
  | tick (outcome : TickOutcome) (now next : String)
  /-- A build outside the scheduler succeeds. -/
  | publish (now : String) (elapsedMs : Nat) (source : RefreshSource) (generationId : Option String)
  /-- A cascade build succeeds. -/
  | cascade (now : String) (stats : ReloadStats)
  /-- A build of a `reload-all` wave fails. -/
  | reloadFailed (error : String)
  | unregister
deriving DecidableEq, Repr

/-- The records with the heap entry of the schedule. The loop is gone once it has panicked. -/
structure Scheduled where
  records : RefreshRecords
  consecutiveFailures : UInt32 := 0
  panicked : Bool := false

/-- A build that succeeds records its publish, and the loop then the source of its request. -/
def recordBuild (records : RefreshRecords) (name now : String) (stats : ReloadStats)
    (source : RefreshSource) : RefreshRecords :=
  (records.recordPublish name now stats.elapsedMs .manual none).recordRefresh name
    { lastRefreshAt := some now, lastRefreshDurationMs := some stats.elapsedMs
      refreshSource := some source }

/-- The end of a tick: the schedule has its next fire time. -/
def Scheduled.reschedule (name next : String) (s : Scheduled) : Scheduled :=
  { s with records := s.records.recordRefresh name { nextRefreshAt := some next } }

/-- A tick that times out or whose build fails. -/
def Scheduled.fail (name next message : String) (s : Scheduled) : Scheduled :=
  let consecutiveFailures := s.consecutiveFailures + 1
  match truncateError message with
  | none => { s with consecutiveFailures, panicked := true }
  | some error =>
    let records := s.records.recordRefresh name { consecutiveFailures, lastError := some error }
    Scheduled.reschedule name next { s with records, consecutiveFailures }

/-- The arm of `run_loop` for a heap entry. -/
def Scheduled.tick (name : String) (timeout : Nat) (now next : String) (s : Scheduled) :
    TickOutcome → Scheduled
  | .timeout => s.fail name next s!"timed out after {debugDuration timeout}"
  | .failed error => s.fail name next error
  | .coalesced =>
    let records := s.records.recordRefresh name {}
    Scheduled.reschedule name next { s with records, consecutiveFailures := 0 }
  | .published stats =>
    let records := recordBuild s.records name now stats .schedule
    Scheduled.reschedule name next { s with records, consecutiveFailures := 0 }

def Scheduled.step (name : String) (timeout : Nat) : RecordEvent → Scheduled → Option Scheduled
  | .tick outcome now next, s =>
    if s.panicked then none else some (s.tick name timeout now next outcome)
  | .publish now elapsedMs source generationId, s =>
    some { s with records := s.records.recordPublish name now elapsedMs source generationId }
  | .cascade now stats, s =>
    if s.panicked then none
    else some { s with records := recordBuild s.records name now stats .cascade }
  | .reloadFailed error, s => some { s with records := s.records.recordReloadFailure name error }
  | .unregister, s => some { s with records := s.records.erase name }

/-- The run of the schedule as it is watched: the failed ticks since one that did not fail, and
the count that the record has to show. -/
structure Watched where
  inner : Scheduled
  streak : Nat := 0
  owed : Option Nat := none

/-- The error of a failed tick that comes to its end, as it is recorded. -/
def RecordEvent.failure (timeout : Nat) : RecordEvent → Option String
  | .tick outcome _ _ => (outcome.message timeout).bind truncateError
  | _ => none

/-- A failed tick comes to its end, which a panic does not let it. -/
abbrev RecordEvent.EndsInFailure (timeout : Nat) (event : RecordEvent) : Prop :=
  (event.failure timeout).isSome

namespace Watched

def count (timeout : Nat) (w : Watched) (event : RecordEvent) : Nat × Option Nat :=
  match event with
  | .tick outcome _ _ =>
    if (outcome.message timeout).isNone then (0, none)
    else if event.EndsInFailure timeout then (w.streak + 1, some (w.streak + 1))
    else (w.streak, w.owed)
  | .publish .. | .cascade .. => (w.streak, none)
  | .reloadFailed _ | .unregister => (w.streak, w.owed)

def step (name : String) (timeout : Nat) (event : RecordEvent) (w : Watched) : Option Watched :=
  (w.inner.step name timeout event).map fun inner =>
    { inner, streak := (w.count timeout event).1, owed := (w.count timeout event).2 }

/-- The loop as it starts. -/
def start (records : RefreshRecords) : Watched where
  inner := { records }

/-- The record shows the failures of the last tick. -/
def Kept (name : String) (w : Watched) : Prop :=
  ∀ k ∈ w.owed, ∃ record, w.inner.records.lookup name = some record ∧
    record.consecutiveFailures.toNat = k ∧ record.lastError.isSome

variable {name : String} {timeout : Nat}

theorem kept_of_none {w : Watched} (nothing : w.owed = none) : w.Kept name := by
  intro k member
  rw [nothing] at member
  cases member

/-- The next fire time is recorded as by a tick without failures. -/
theorem not_kept_fail {w : Watched} {s : Scheduled} {next message : String} {k : Nat}
    (ends : (truncateError message).isSome) (failed : w.inner = s.fail name next message)
    (owed : w.owed = some (k + 1)) : ¬ w.Kept name := by
  intro kept
  obtain ⟨error, cut⟩ := Option.isSome_iff_exists.mp ends
  obtain ⟨record, found, shown, _⟩ := kept (k + 1) owed
  simp only [failed, Scheduled.fail, cut, Scheduled.reschedule] at found
  obtain ⟨stored, found', fresh, _⟩ := @lookup_recordRefresh
    (s.records.recordRefresh name
      { consecutiveFailures := s.consecutiveFailures + 1, lastError := some error }) name
    { nextRefreshAt := some next }
  obtain rfl := Option.some.inj (found.symm.trans found')
  rw [fresh] at shown
  cases shown

theorem owed_of_spared {w u : Watched} {event : RecordEvent} (nothing : w.owed = none)
    (spared : ¬ event.EndsInFailure timeout) (stepped : w.step name timeout event = some u) :
    u.owed = none := by
  obtain ⟨inner, _, rfl⟩ := Option.map_eq_some_iff.mp stepped
  cases event with
  | tick outcome now next =>
      simp only [count, if_neg spared]
      split
      · rfl
      · exact nothing
  | publish => rfl
  | cascade => rfl
  | reloadFailed => exact nothing
  | unregister => exact nothing

/-- After a failed tick the record is wrong. -/
theorem not_kept_of_failure {w u : Watched} {event : RecordEvent}
    (ends : event.EndsInFailure timeout) (stepped : w.step name timeout event = some u) :
    ¬ u.Kept name := by
  obtain ⟨inner, ran, rfl⟩ := Option.map_eq_some_iff.mp stepped
  cases event with
  | tick outcome now next =>
      simp only [Scheduled.step, Option.ite_none_left_eq_some, Option.some.injEq] at ran
      obtain ⟨_, rfl⟩ := ran
      have owed (failure : ¬ (outcome.message timeout).isNone) :
          (w.count timeout (.tick outcome now next)).2 = some (w.streak + 1) := by
        simp only [count, if_neg failure, if_pos ends]
      cases outcome with
      | coalesced => cases ends
      | published stats => cases ends
      | timeout => exact not_kept_fail ends rfl (owed nofun)
      | failed error => exact not_kept_fail ends rfl (owed nofun)
  | publish => cases ends
  | cascade => cases ends
  | reloadFailed => cases ends
  | unregister => cases ends

theorem kept_step_iff {w u : Watched} {event : RecordEvent} (nothing : w.owed = none)
    (stepped : w.step name timeout event = some u) :
    u.Kept name ↔ ¬ event.EndsInFailure timeout := by
  constructor
  · intro kept ends
    exact not_kept_of_failure ends stepped kept
  · intro spared
    exact kept_of_none (owed_of_spared nothing spared stepped)

end Watched

/-- The record shows the failures of the ticks as long as no tick fails. -/
theorem failure_record_kept_iff {name : String} {timeout : Nat} {records : RefreshRecords}
    {events : List RecordEvent} {t : Watched}
    (run : Run (Watched.step name timeout) Anything (.start records) events t) :
    (∀ before u, before <+: events →
      Run (Watched.step name timeout) Anything (.start records) before u → u.Kept name) ↔
    Run (Watched.step name timeout) (fun _ event => ¬ event.EndsInFailure timeout)
      (.start records) events t := by
  rw [run.always_iff_while (P := Watched.Kept name) (J := fun w => w.owed = none) rfl]
  · exact and_iff_right (Watched.kept_of_none rfl)
  · intro w event u nothing _ kept stepped
    exact Watched.owed_of_spared nothing ((Watched.kept_step_iff nothing stepped).mp kept) stepped
  · intro w event u nothing _ _ stepped
    exact Watched.kept_step_iff nothing stepped

/-- A publish and a coalesced tick leave nothing to show. -/
theorem failure_record_kept_coalesced : ∃ t,
    Run (Watched.step "orders" 30000) Anything (.start ∅)
      [.publish "2024-05-01T00:00:00Z" 12 .startup none,
        .tick .coalesced "2024-05-01T00:01:00Z" "2024-05-01T00:02:00Z"] t ∧
    ∀ before u, before <+: [RecordEvent.publish "2024-05-01T00:00:00Z" 12 .startup none,
        .tick .coalesced "2024-05-01T00:01:00Z" "2024-05-01T00:02:00Z"] →
      Run (Watched.step "orders" 30000) Anything (.start ∅) before u → u.Kept "orders" := by
  have ran : Run (Watched.step "orders" 30000) (fun _ event => ¬ event.EndsInFailure 30000)
      (.start ∅) [.publish "2024-05-01T00:00:00Z" 12 .startup none,
        .tick .coalesced "2024-05-01T00:01:00Z" "2024-05-01T00:02:00Z"] _ := Machine.run_of_exec rfl
  have run : Run (Watched.step "orders" 30000) Anything _ _ _ := ran.weaken fun _ _ _ => trivial
  exact ⟨_, run, (failure_record_kept_iff run).mpr ran⟩

/-- After one tick that times out the record has no failure. -/
theorem failure_record_erased : ¬ ∀ (name : String) (timeout : Nat) (records : RefreshRecords)
    (events : List RecordEvent) (t : Watched),
    Run (Watched.step name timeout) Anything (.start records) events t → t.Kept name := by
  intro kept
  have run : Run (Watched.step "orders" 30000) Anything (.start ∅)
      [.tick .timeout "2024-05-01T00:01:00Z" "2024-05-01T00:03:00Z"] _ := Machine.run_of_exec rfl
  obtain ⟨record, found, shown, _⟩ := kept _ _ _ _ _ run 1 rfl
  obtain rfl : ({ nextRefreshAt := some "2024-05-01T00:03:00Z" } : RefreshRecord) = record :=
    Option.some.inj found
  cases shown

end Datapress.Refresh
