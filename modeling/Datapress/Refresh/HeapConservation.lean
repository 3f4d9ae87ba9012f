import Datapress.Refresh.RunLoop
import Datapress.Refresh.Truncation

/-! The entries of the heap over the runs of the loop: none is lost, they fire in the order of
their deadlines, and each counts the failed ticks of its schedule. -/
namespace Datapress.Refresh
open Delays
open Machine (Run Anything)

namespace RunLoop

/-- The tick that an event ends. -/
def finishes (s : RunLoop) : LoopEvent → Option (Entry × TickOutcome)
  | .done outcome _ =>
    match s.turn with
    | .building entry _ => some (entry, outcome)
    | _ => none
  | _ => none

/-- The deadline that an event serves. -/
def fires (s : RunLoop) : LoopEvent → Option Nat
  | .fire => (PriorityQueue.peek Entry.cmp s.heap).map (·.fireAt)
  | _ => none

end RunLoop

/-- A run of the loop as it is watched. -/
structure Traced where
  loop : RunLoop
  /-- The deadlines that were served, each with the instant, oldest first. -/
  fired : List (Nat × Nat) := []
  /-- The ticks of a schedule that failed since one that did not. -/
  streak : String → Nat := fun _ => 0
  /-- The datasets and the messages of the ticks that failed, oldest first. -/
  failed : List (String × String) := []

namespace Traced

def count (streak : String → Nat) (tick : Entry × TickOutcome) : String → Nat :=
  let failed := (tick.2.message tick.1.timeout).isSome
  Function.update streak tick.1.name (if failed then streak tick.1.name + 1 else 0)

def step (event : LoopEvent) (w : Traced) : Option Traced :=
  (w.loop.step event).map fun loop =>
    let tick := w.loop.finishes event
    { loop
      fired := w.fired ++ ((w.loop.fires event).map (·, w.loop.now)).toList
      streak := tick.elim w.streak (count w.streak)
      failed := w.failed ++ (tick.bind fun tick =>
        (tick.2.message tick.1.timeout).map (tick.1.name, ·)).toList }

def start (schedules : List DatasetSchedule) (now : Nat) (rng : UInt64) : Traced where
  loop := .start schedules now rng

end Traced

/-! ### Ticks -/

namespace RunLoop

/-- The times of the standard library carry the interval, its jitter, and the next deadline on both
clocks. -/
def Carries (rng : UInt64) (now : Nat) (jitter : Bool) (tickStart wall : Nat)
    (next : Option Nat) : Prop :=
  ∃ base ∈ next, ∃ delay ∈ jittered base jitter (drawn base jitter rng),
    tickStart + delay < instantEnd ∧ wall + (tickStart + delay - now) < instantEnd

/-- The interval to the next tick, before jitter. -/
def interval (entry : Entry) (outcome : TickOutcome) : Option Nat :=
  if (outcome.message entry.timeout).isSome then
    backoffInterval (ofMillis entry.interval) (entry.consecutiveFailures + 1)
  else some (ofMillis entry.interval)

/-- The end of a tick goes through: its message is cut between characters, and no time overflows. -/
def Completes (s : RunLoop) (entry : Entry) (tickStart wall : Nat) (outcome : TickOutcome) : Prop :=
  (∀ message ∈ outcome.message entry.timeout, Cuts message) ∧
    Carries s.rng s.now entry.jitter tickStart wall (interval entry outcome)

/-- A tick that ends goes through, and the count does not overflow. -/
def Spared (s : RunLoop) : LoopEvent → Prop
  | .done outcome wall =>
    match s.turn with
    | .building entry tickStart =>
      s.Completes entry tickStart wall outcome ∧
        ((outcome.message entry.timeout).isSome →
          entry.consecutiveFailures.toNat + 1 < UInt32.size)
    | _ => True
  | _ => True

theorem spared_done {s : RunLoop} {entry : Entry} {tickStart wall : Nat} {outcome : TickOutcome}
    (building : s.turn = .building entry tickStart) :
    s.Spared (.done outcome wall) ↔ s.Completes entry tickStart wall outcome ∧
      ((outcome.message entry.timeout).isSome →
        entry.consecutiveFailures.toNat + 1 < UInt32.size) := by
  rw [Spared, building]

theorem after_eq_some_iff {instant delay later : Nat} :
    after instant delay = some later ↔ instant + delay < instantEnd ∧ instant + delay = later := by
  rw [after, Option.ite_none_right_eq_some, Option.some.injEq]

section
variable {rng : UInt64} {jitter : Bool} {now tickStart wall : Nat} {next : Option Nat}

theorem deadline_isSome_iff :
    (deadline rng now jitter tickStart wall next).isSome ↔
      Carries rng now jitter tickStart wall next := by
  simp only [deadline, Option.isSome_iff_exists, Option.bind_eq_bind, Option.bind_eq_some_iff,
    after_eq_some_iff, Option.some.injEq]
  constructor
  · rintro ⟨_, base, interval, delay, drew, _, ⟨fits, rfl⟩, _, ⟨shown, rfl⟩, _⟩
    exact ⟨base, interval, delay, drew, fits, shown⟩
  · rintro ⟨base, interval, delay, drew, fits, shown⟩
    exact ⟨_, base, interval, delay, drew, _, ⟨fits, rfl⟩, _, ⟨shown, rfl⟩, rfl⟩

theorem le_of_deadline {fires : Nat × Nat × UInt64}
    (found : deadline rng now jitter tickStart wall next = some fires) : tickStart ≤ fires.1 := by
  simp only [deadline, Option.bind_eq_bind, Option.bind_eq_some_iff, after_eq_some_iff,
    Option.some.injEq] at found
  obtain ⟨_, _, delay, _, _, ⟨_, rfl⟩, _, _, rfl⟩ := found
  exact Nat.le_add_right ..

end

/-- Where a tick leaves its entry: in the heap again, with a deadline no earlier than its start. -/
structure Pushed (s u : RunLoop) (entry : Entry) (tickStart : Nat) : Prop where
  heap : ∃ fireAt, tickStart ≤ fireAt ∧ u.heap = { entry with fireAt } :: s.heap
  turn : u.turn = .selecting
  now : u.now = s.now

/-- The end of the task in the middle of a tick. -/
structure Stopped (s u : RunLoop) (fault : Fault) : Prop where
  heap : u.heap = []
  turn : u.turn = .panicked fault
  now : u.now = s.now

section
variable {s : RunLoop} {entry : Entry} {tickStart wall : Nat}

theorem reschedule_carried {next : Option Nat}
    (carries : Carries s.rng s.now entry.jitter tickStart wall next) :
    Pushed s (s.reschedule entry tickStart wall next) entry tickStart := by
  obtain ⟨fires, found⟩ := Option.isSome_iff_exists.mp (deadline_isSome_iff.mpr carries)
  simp only [reschedule, found]
  exact ⟨⟨fires.1, le_of_deadline found, rfl⟩, rfl, rfl⟩

theorem reschedule_stopped {next : Option Nat}
    (overflows : ¬ Carries s.rng s.now entry.jitter tickStart wall next) :
    Stopped s (s.reschedule entry tickStart wall next) .arithmetic := by
  rw [← deadline_isSome_iff, Option.not_isSome_iff_eq_none] at overflows
  simp only [reschedule, overflows]
  exact ⟨rfl, rfl, rfl⟩

/-- The count of an entry after a tick. -/
def recount (entry : Entry) (outcome : TickOutcome) : UInt32 :=
  if (outcome.message entry.timeout).isSome then entry.consecutiveFailures + 1 else 0

/-- What was recorded stays, and the text of an error is not cut again. -/
theorem reschedule_recorded (next : Option Nat) :
    s.recorded <+: (s.reschedule entry tickStart wall next).recorded ∧
      (s.reschedule entry tickStart wall next).turn ≠ .panicked .slice := by
  rw [reschedule]
  split
  case h_1 => exact ⟨List.prefix_refl _, nofun⟩
  case h_2 => exact ⟨List.prefix_append .., nofun⟩

/-- A failed tick whose message is cut between characters. -/
theorem fail_eq {message error : String} (cut : truncateError message = some error) :
    s.fail entry tickStart wall message =
      (s.record entry.name { consecutiveFailures := entry.consecutiveFailures + 1
                             lastError := some error }).reschedule
        { entry with consecutiveFailures := entry.consecutiveFailures + 1 } tickStart wall
        (backoffInterval (ofMillis entry.interval) (entry.consecutiveFailures + 1)) := by
  rw [fail, cut]

theorem interval_failed {outcome : TickOutcome} {message : String}
    (said : outcome.message entry.timeout = some message) : interval entry outcome =
      backoffInterval (ofMillis entry.interval) (entry.consecutiveFailures + 1) :=
  if_pos (said ▸ rfl)

theorem recount_failed {outcome : TickOutcome} {message : String}
    (said : outcome.message entry.timeout = some message) :
    recount entry outcome = entry.consecutiveFailures + 1 :=
  if_pos (said ▸ rfl)

/-- What a tick records before it sets its next deadline. -/
theorem tick_eq {outcome : TickOutcome}
    (cuts : ∀ message ∈ outcome.message entry.timeout, Cuts message) :
    ∃ record, (∀ message ∈ outcome.message entry.timeout,
        record.lastError = truncateError message) ∧
      s.tick entry tickStart wall outcome = (s.record entry.name record).reschedule
        { entry with consecutiveFailures := recount entry outcome } tickStart wall
        (interval entry outcome) := by
  have failing {message : String} (said : outcome.message entry.timeout = some message)
      (ticked : s.tick entry tickStart wall outcome = s.fail entry tickStart wall message) :
      ∃ record, (∀ message ∈ outcome.message entry.timeout,
          record.lastError = truncateError message) ∧
        s.tick entry tickStart wall outcome = (s.record entry.name record).reschedule
          { entry with consecutiveFailures := recount entry outcome } tickStart wall
          (interval entry outcome) := by
    obtain ⟨error, cut⟩ := Option.isSome_iff_exists.mp
      (truncateError_isSome_iff.mpr (cuts message said))
    rw [ticked, fail_eq cut, interval_failed said, recount_failed said, said]
    refine ⟨_, ?_, rfl⟩
    rintro _ ⟨⟩
    exact cut.symm
  cases outcome with
  | timeout => exact failing rfl (tick.eq_1 ..)
  | failed error => exact failing rfl (tick.eq_2 ..)
  | coalesced =>
      rw [tick.eq_3, interval, recount]
      exact ⟨_, nofun, rfl⟩
  | published stats =>
      rw [tick.eq_4, interval, recount]
      exact ⟨_, nofun, rfl⟩

theorem tick_sliced {outcome : TickOutcome} {message : String}
    (said : outcome.message entry.timeout = some message) (torn : ¬ Cuts message) :
    s.tick entry tickStart wall outcome = s.stop (.panicked .slice) := by
  rw [← truncateError_isSome_iff, Option.not_isSome_iff_eq_none] at torn
  have failing : s.fail entry tickStart wall message = s.stop (.panicked .slice) := by
    rw [fail, torn]
  cases outcome with
  | timeout =>
      obtain rfl := Option.some.inj said
      exact failing
  | failed error =>
      obtain rfl := Option.some.inj said
      exact failing
  | coalesced => cases said
  | published stats => cases said

/-- A tick that goes through pushes its entry again. -/
theorem tick_completes {outcome : TickOutcome}
    (completes : s.Completes entry tickStart wall outcome) :
    Pushed s (s.tick entry tickStart wall outcome)
      { entry with consecutiveFailures := recount entry outcome } tickStart := by
  obtain ⟨record, _, ticked⟩ := @tick_eq s entry tickStart wall outcome completes.1
  have pushed := @reschedule_carried (s.record entry.name record)
    { entry with consecutiveFailures := recount entry outcome } tickStart wall _ completes.2
  rw [← ticked] at pushed
  exact ⟨pushed.heap, pushed.turn, pushed.now⟩

/-- A tick that does not go through ends the task. -/
theorem tick_panics {outcome : TickOutcome}
    (broken : ¬ s.Completes entry tickStart wall outcome) :
    ∃ fault, Stopped s (s.tick entry tickStart wall outcome) fault := by
  by_cases cuts : ∀ message ∈ outcome.message entry.timeout, Cuts message
  · obtain ⟨record, _, ticked⟩ := @tick_eq s entry tickStart wall outcome cuts
    have stopped := @reschedule_stopped (s.record entry.name record)
      { entry with consecutiveFailures := recount entry outcome } tickStart wall _
      fun carries => broken ⟨cuts, carries⟩
    rw [← ticked] at stopped
    exact ⟨_, stopped.heap, stopped.turn, stopped.now⟩
  · simp only [not_forall, Option.mem_def] at cuts
    obtain ⟨message, said, torn⟩ := cuts
    rw [tick_sliced said torn]
    exact ⟨_, rfl, rfl, rfl⟩

end

/-! ### Steps -/

/-- A step that leaves the heap and the entry in execution alone. -/
structure Idle (s u : RunLoop) (event : LoopEvent) : Prop where
  pending : u.pending = s.pending
  heap : u.heap = s.heap
  now : s.now ≤ u.now
  returned : s.turn = .returned → u.turn = .returned
  panicked : ∀ {fault}, u.turn = .panicked fault → s.turn = .panicked fault
  building : ∀ {entry tickStart}, u.turn = .building entry tickStart →
    s.turn = .building entry tickStart ∨ tickStart = s.now
  recorded : s.recorded <+: u.recorded
  finishes : s.finishes event = none
  fires : s.fires event = none

/-- What a step does to the entries. -/
inductive Effect (s u : RunLoop) : LoopEvent → Prop where
  | idle {event} : Idle s u event → Effect s u event
  | returns {event} : u = s.stop .returned → s.finishes event = none → s.fires event = none →
      Effect s u event
  | pops {entry rest} : s.turn = .selecting →
      PriorityQueue.pop Entry.cmp s.heap = some (entry, rest) → entry.fireAt ≤ s.now →
      u = { s with heap := rest, turn := .acquiring entry } → Effect s u .fire
  | ends {entry tickStart outcome wall} : s.turn = .building entry tickStart →
      u = s.tick entry tickStart wall outcome → Effect s u (.done outcome wall)

theorem pending_of_selecting {s : RunLoop} (selecting : s.turn = .selecting) :
    s.pending = s.heap := by
  rw [pending, selecting]

theorem idle_select {s u : RunLoop} {event : LoopEvent} (running : s.turn ≠ .returned)
    (quiet : s.pending = s.heap) (heap : u.heap = s.heap) (now : u.now = s.now)
    (recorded : s.recorded <+: u.recorded) (finishes : s.finishes event = none)
    (fires : s.fires event = none) : Idle s u.select event where
  pending := (pending_of_selecting rfl).trans (heap.trans quiet.symm)
  heap := heap
  now := now.ge
  returned := by
    intro returned
    exact absurd returned running
  panicked := nofun
  building := nofun
  recorded := recorded
  finishes := finishes
  fires := fires

theorem idle_of_selecting {s u : RunLoop} {event : LoopEvent} (selecting : s.turn = .selecting)
    (heap : u.heap = s.heap) (now : u.now = s.now) (recorded : u.recorded = s.recorded)
    (finishes : s.finishes event = none) (fires : s.fires event = none) :
    Idle s u.select event := by
  apply idle_select _ (pending_of_selecting selecting) heap now (recorded ▸ List.prefix_refl _)
    finishes fires
  rw [selecting]
  nofun

theorem effect {s u : RunLoop} {event : LoopEvent} (stepped : s.step event = some u) :
    Effect s u event := by
  cases event with
  | advance ns =>
      obtain rfl := Option.some.inj stepped
      exact .idle ⟨rfl, rfl, Nat.le_add_right .., id, id, .inl, List.prefix_refl _, rfl, rfl⟩
  | ttl request =>
      obtain ⟨⟨selecting, _⟩, received⟩ := Option.ite_none_right_eq_some.mp stepped
      cases request with
      | none =>
          obtain rfl := Option.some.inj received
          exact .idle (idle_of_selecting selecting rfl rfl rfl rfl rfl)
      | some request =>
          obtain rfl := Option.some.inj received
          exact .idle (idle_of_selecting selecting rfl rfl rfl rfl rfl)
  | wake =>
      obtain ⟨⟨selecting, _⟩, woken⟩ := Option.ite_none_right_eq_some.mp stepped
      obtain rfl := Option.some.inj woken
      exact .idle (idle_of_selecting selecting rfl rfl rfl rfl rfl)
  | cascade request =>
      obtain ⟨selecting, received⟩ := Option.ite_none_right_eq_some.mp stepped
      cases request with
      | none =>
          obtain rfl := Option.some.inj received
          exact .returns rfl rfl rfl
      | some request =>
          obtain rfl := Option.some.inj received
          refine .idle ⟨(pending_of_selecting selecting).symm, rfl, Nat.le_refl _, ?_, nofun, nofun,
            List.prefix_refl _, rfl, rfl⟩
          intro returned
          cases selecting.symm.trans returned
  | cascadeDone outcome wall =>
      have running {request : CascadeRequest} (turn : s.turn = .cascading request) :
          s.turn ≠ .returned := by
        rw [turn]
        nofun
      have quiet {request : CascadeRequest} (turn : s.turn = .cascading request) :
          s.pending = s.heap := by
        rw [pending, turn]
      simp only [step] at stepped
      split at stepped
      case h_1 request stats turn =>
          obtain rfl := Option.some.inj stepped
          exact .idle (idle_select (running turn) (quiet turn) rfl rfl (List.prefix_append ..) rfl
            rfl)
      case h_2 request turn _ =>
          obtain rfl := Option.some.inj stepped
          exact .idle (idle_select (running turn) (quiet turn) rfl rfl (List.prefix_refl _) rfl rfl)
      case h_3 => cases stepped
  | fire =>
      simp only [step] at stepped
      split at stepped
      case h_1 entry rest selecting popped =>
          obtain ⟨due, moved⟩ := Option.ite_none_right_eq_some.mp stepped
          exact .pops selecting popped due (Option.some.inj moved).symm
      case h_2 => cases stepped
  | acquired =>
      simp only [step] at stepped
      split at stepped
      case h_1 entry turn =>
          obtain rfl := Option.some.inj stepped
          refine .idle ⟨?_, rfl, Nat.le_refl _, ?_, nofun, ?_, List.prefix_refl _, rfl, rfl⟩
          · simp only [pending, turn]
          · intro returned
            cases turn.symm.trans returned
          · rintro _ _ ⟨⟩
            exact .inr rfl
      case h_2 => cases stepped
  | done outcome wall =>
      simp only [step] at stepped
      split at stepped
      case h_1 entry tickStart turn => exact .ends turn (Option.some.inj stepped).symm
      case h_2 => cases stepped
  | shutdown =>
      obtain ⟨_, stopped⟩ := Option.ite_none_right_eq_some.mp stepped
      obtain rfl := Option.some.inj stopped
      exact .returns rfl rfl rfl

end RunLoop

/-- An entry that is not above the top has no earlier deadline. -/
theorem Entry.le_of_cmp {top other : Entry} (below : Entry.cmp other top ≠ .gt) :
    top.fireAt ≤ other.fireAt := by
  by_contra early
  apply below
  rw [Entry.cmp, Nat.compare_eq_gt.mpr (Nat.lt_of_not_le early)]
  rfl

namespace Traced

/-- Every schedule has its one entry, the deadlines are served in order and on time, and every entry
counts the failed ticks of its schedule. -/
structure Conserved (schedules : List DatasetSchedule) (w : Traced) : Prop where
  pending : w.loop.turn ≠ .returned → (w.loop.pending.map Entry.schedule).Perm schedules
  counted : ∀ e ∈ w.loop.pending, e.consecutiveFailures.toNat = w.streak e.name
  sorted : w.fired.Pairwise (·.1 ≤ ·.1)
  due : ∀ f ∈ w.fired, f.1 ≤ f.2

/-- What was served lies before everything that waits. -/
structure Ordered (w : Traced) : Prop where
  waiting : ∀ f ∈ w.fired, ∀ e ∈ w.loop.heap, f.1 ≤ e.fireAt
  passed : ∀ f ∈ w.fired, f.1 ≤ w.loop.now
  building : ∀ {entry tickStart}, w.loop.turn = .building entry tickStart →
    ∀ f ∈ w.fired, f.1 ≤ tickStart
  sorted : w.fired.Pairwise (·.1 ≤ ·.1)
  due : ∀ f ∈ w.fired, f.1 ≤ f.2

theorem step_eq_some {w u : Traced} {event : LoopEvent} (stepped : w.step event = some u) :
    w.loop.Effect u.loop event ∧
      u.fired = w.fired ++ ((w.loop.fires event).map (·, w.loop.now)).toList ∧
      u.streak = (w.loop.finishes event).elim w.streak (count w.streak) := by
  obtain ⟨loop, moved, rfl⟩ := Option.map_eq_some_iff.mp stepped
  exact ⟨RunLoop.effect moved, rfl, rfl⟩

/-- A step that serves no deadline. -/
theorem Ordered.silent {w u : Traced} (ordered : w.Ordered) (fired : u.fired = w.fired)
    (heap : ∀ e ∈ u.loop.heap, e ∈ w.loop.heap ∨ ∀ f ∈ w.fired, f.1 ≤ e.fireAt)
    (now : w.loop.now ≤ u.loop.now)
    (building : ∀ {entry tickStart}, u.loop.turn = .building entry tickStart →
      ∀ f ∈ w.fired, f.1 ≤ tickStart) : u.Ordered where
  waiting := by
    rw [fired]
    intro f served e member
    rcases heap e member with old | new
    · exact ordered.waiting f served e old
    · exact new f served
  passed := by
    rw [fired]
    exact fun f served => Nat.le_trans (ordered.passed f served) now
  building := by
    rw [fired]
    exact building
  sorted := fired ▸ ordered.sorted
  due := fired ▸ ordered.due

theorem ordered_step {w u : Traced} {event : LoopEvent} (ordered : w.Ordered)
    (stepped : w.step event = some u) : u.Ordered := by
  obtain ⟨effect, fired, _⟩ := step_eq_some stepped
  have same (silent : w.loop.fires event = none) : u.fired = w.fired := by
    rw [fired, silent]
    exact List.append_nil _
  cases effect with
  | idle idle =>
      apply ordered.silent (same idle.fires) _ idle.now
      · intro entry tickStart building f served
        rcases idle.building building with before | rfl
        · exact ordered.building before f served
        · exact ordered.passed f served
      · intro e member
        exact .inl (idle.heap ▸ member)
  | returns stopped _ silent =>
      apply ordered.silent (same silent)
      · intro e member
        rw [stopped] at member
        cases member
      · rw [stopped]
        exact Nat.le_refl _
      · intro entry tickStart building
        rw [stopped] at building
        cases building
  | @pops entry rest selecting popped due moved =>
      have peeked := PriorityQueue.peek_of_pop popped
      have perm := PriorityQueue.perm_of_pop popped
      have served : u.fired = w.fired ++ [(entry.fireAt, w.loop.now)] := by
        rw [fired, RunLoop.fires, peeked]
        rfl
      have least {e : Entry} (member : e ∈ w.loop.heap) : entry.fireAt ≤ e.fireAt :=
        Entry.le_of_cmp (PriorityQueue.not_gt_of_peek peeked member)
      have inside : entry ∈ w.loop.heap := PriorityQueue.mem_of_peek peeked
      refine ⟨?_, ?_, ?_, ?_, ?_⟩
      · rw [moved, served]
        intro f member e later
        have old : e ∈ w.loop.heap := perm.mem_iff.mpr (List.mem_cons_of_mem _ later)
        rcases List.mem_append.mp member with before | now
        · exact ordered.waiting f before e old
        · obtain rfl := List.mem_singleton.mp now
          exact least old
      · rw [moved, served]
        intro f member
        rcases List.mem_append.mp member with before | now
        · exact ordered.passed f before
        · obtain rfl := List.mem_singleton.mp now
          exact due
      · rw [moved]
        nofun
      · rw [served, List.pairwise_append]
        refine ⟨ordered.sorted, List.pairwise_singleton .., ?_⟩
        intro f before g now
        obtain rfl := List.mem_singleton.mp now
        exact ordered.waiting f before entry inside
      · rw [served]
        intro f member
        rcases List.mem_append.mp member with before | now
        · exact ordered.due f before
        · obtain rfl := List.mem_singleton.mp now
          exact due
  | @ends entry tickStart outcome wall building ticked =>
      by_cases completes : w.loop.Completes entry tickStart wall outcome
      · have pushed := RunLoop.tick_completes completes
        rw [← ticked] at pushed
        obtain ⟨fireAt, later, heap⟩ := pushed.heap
        apply ordered.silent (same rfl) _ pushed.now.ge
        · intro entry tickStart building
          cases pushed.turn.symm.trans building
        · rw [heap]
          intro e member
          rcases List.mem_cons.mp member with rfl | old
          · exact .inr fun f served => Nat.le_trans (ordered.building building f served) later
          · exact .inl old
      · obtain ⟨fault, stopped⟩ := @RunLoop.tick_panics w.loop entry tickStart wall outcome completes
        rw [← ticked] at stopped
        apply ordered.silent (same rfl) _ stopped.now.ge
        · intro entry tickStart building
          cases stopped.turn.symm.trans building
        · rw [stopped.heap]
          nofun

/-! ### Runs -/

variable {schedules : List DatasetSchedule}

/-- No two entries are of one dataset. -/
theorem names_nodup {w : Traced} (distinct : (schedules.map (·.name)).Nodup)
    (conserved : w.Conserved schedules) (running : w.loop.turn ≠ .returned) :
    (w.loop.pending.map (·.name)).Nodup := by
  have perm := (conserved.pending running).map (·.name)
  rw [List.map_map] at perm
  exact perm.nodup_iff.mpr distinct

theorem count_other {streak : String → Nat} {tick : Entry × TickOutcome} {name : String}
    (other : name ≠ tick.1.name) : count streak tick name = streak name :=
  Function.update_of_ne other ..

theorem count_self {streak : String → Nat} {entry : Entry} {outcome : TickOutcome} :
    count streak (entry, outcome) entry.name =
      if (outcome.message entry.timeout).isSome then streak entry.name + 1 else 0 :=
  Function.update_self ..

/-- The count of an entry is that of its schedule as long as it does not overflow. -/
theorem recount_iff {streak : String → Nat} {entry : Entry} {outcome : TickOutcome}
    (counted : entry.consecutiveFailures.toNat = streak entry.name) :
    (RunLoop.recount entry outcome).toNat = count streak (entry, outcome) entry.name ↔
      ((outcome.message entry.timeout).isSome →
        entry.consecutiveFailures.toNat + 1 < UInt32.size) := by
  rw [count_self, RunLoop.recount, ← counted]
  by_cases failed : (outcome.message entry.timeout).isSome
  · have small := (entry.consecutiveFailures + 1).toNat_lt_size
    rw [if_pos failed, if_pos failed, UInt32.toNat_add]
    change _ % 4294967296 = _ ↔ (_ → _ < 4294967296)
    constructor
    · intro same _
      omega
    · intro fits
      exact Nat.mod_eq_of_lt (fits failed)
  · rw [if_neg failed, if_neg failed]
    exact iff_of_true rfl fun some => absurd some failed

theorem pending_pushed {s u : RunLoop} {entry : Entry} {tickStart : Nat}
    (pushed : RunLoop.Pushed s u entry tickStart) :
    ∃ fireAt, u.pending = { entry with fireAt } :: s.heap := by
  obtain ⟨fireAt, _, heap⟩ := pushed.heap
  exact ⟨fireAt, (RunLoop.pending_of_selecting pushed.turn).trans heap⟩

/-- A tick keeps the entries just when it goes through. -/
theorem conserved_tick_iff {w u : Traced} {entry : Entry} {tickStart wall : Nat}
    {outcome : TickOutcome} (distinct : (schedules.map (·.name)).Nodup)
    (conserved : w.Conserved schedules) (ordered : u.Ordered)
    (building : w.loop.turn = .building entry tickStart)
    (ticked : u.loop = w.loop.tick entry tickStart wall outcome)
    (streak : u.streak = count w.streak (entry, outcome)) :
    u.Conserved schedules ↔ w.loop.Spared (.done outcome wall) := by
  have running : w.loop.turn ≠ .returned := by
    rw [building]
    nofun
  have before : w.loop.pending = entry :: w.loop.heap := by
    rw [RunLoop.pending, building]
  have perm := conserved.pending running
  rw [before] at perm
  have counted := conserved.counted entry (before ▸ List.mem_cons_self)
  rw [RunLoop.spared_done building]
  by_cases completes : w.loop.Completes entry tickStart wall outcome
  · rw [and_iff_right completes, ← recount_iff counted]
    have pushed := RunLoop.tick_completes completes
    rw [← ticked] at pushed
    obtain ⟨fireAt, after⟩ := pending_pushed pushed
    constructor
    · intro conserved
      have again := conserved.counted _ (after ▸ List.mem_cons_self)
      rwa [streak] at again
    · intro same
      refine ⟨fun _ => ?_, ?_, ordered.sorted, ordered.due⟩
      · rw [after]
        exact perm
      · rw [after, streak, List.forall_mem_cons]
        refine ⟨same, fun e member => ?_⟩
        have names := names_nodup distinct conserved running
        rw [before, List.map_cons, List.nodup_cons] at names
        have other : e.name ≠ entry.name := by
          intro equal
          exact names.1 (equal ▸ List.mem_map_of_mem member)
        rw [count_other other]
        exact conserved.counted e (before ▸ List.mem_cons_of_mem _ member)
  · refine iff_of_false (fun conserved => ?_) fun spared => completes spared.1
    obtain ⟨fault, stopped⟩ := RunLoop.tick_panics completes
    rw [← ticked] at stopped
    have nothing := conserved.pending (by rw [stopped.turn]; nofun)
    rw [RunLoop.pending, stopped.turn, stopped.heap] at nothing
    have length := (perm.trans nothing.symm).length_eq
    cases length

theorem conserved_step_iff {w u : Traced} {event : LoopEvent}
    (distinct : (schedules.map (·.name)).Nodup) (ordered : w.Ordered)
    (conserved : w.Conserved schedules) (stepped : w.step event = some u) :
    u.Conserved schedules ↔ w.loop.Spared event := by
  have after := ordered_step ordered stepped
  obtain ⟨effect, _, streak⟩ := step_eq_some stepped
  have spared (event : LoopEvent) (silent : w.loop.finishes event = none) :
      w.loop.Spared event := by
    cases event with
    | done outcome wall =>
        rw [RunLoop.finishes] at silent
        rw [RunLoop.Spared]
        split
        case h_1 entry tickStart building =>
            rw [building] at silent
            cases silent
        case h_2 => trivial
    | _ => trivial
  cases effect with
  | idle idle =>
      rw [idle.finishes] at streak
      refine iff_of_true ⟨?_, ?_, after.sorted, after.due⟩ (spared event idle.finishes)
      · intro running
        rw [idle.pending]
        exact conserved.pending fun returned => running (idle.returned returned)
      · rw [idle.pending, streak]
        exact conserved.counted
  | returns stopped silent _ =>
      refine iff_of_true ⟨?_, ?_, after.sorted, after.due⟩ (spared event silent)
      · intro running
        rw [stopped] at running
        exact absurd rfl running
      · rw [stopped]
        nofun
  | @pops entry rest selecting popped due moved =>
      have perm := PriorityQueue.perm_of_pop popped
      have before : w.loop.pending.Perm u.loop.pending := by
        rw [RunLoop.pending_of_selecting selecting, moved]
        exact perm
      refine iff_of_true ⟨?_, ?_, after.sorted, after.due⟩ (spared .fire rfl)
      · intro _
        refine (before.symm.map Entry.schedule).trans (conserved.pending ?_)
        rw [selecting]
        nofun
      · intro e member
        rw [streak]
        exact conserved.counted e (before.mem_iff.mpr member)
  | ends building ticked =>
      apply conserved_tick_iff distinct conserved after building ticked
      rw [streak, RunLoop.finishes, building]
      rfl

end Traced

/-! ### The start -/

/-- The times of the standard library carry the first deadlines. -/
def SetsUp (now : Nat) : List DatasetSchedule → UInt64 → Prop
  | [], _ => True
  | s :: rest, rng =>
    let rng := drawn (ofMillis s.interval) s.jitter rng
    (∃ delay ∈ jittered (ofMillis s.interval) s.jitter rng, now + delay < instantEnd) ∧
      SetsUp now rest rng

theorem setup_isSome_iff {now : Nat} {schedules : List DatasetSchedule} {rng : UInt64} :
    (setup now schedules rng).isSome ↔ SetsUp now schedules rng := by
  induction schedules generalizing rng with
  | nil => exact iff_of_true rfl trivial
  | cons s rest ih =>
      rw [SetsUp, ← ih]
      simp only [setup, Option.isSome_iff_exists, Option.bind_eq_bind, Option.bind_eq_some_iff,
        RunLoop.after_eq_some_iff, Option.some.injEq, Option.mem_def]
      constructor
      · rintro ⟨_, delay, drew, _, ⟨fits, rfl⟩, made, others, _⟩
        exact ⟨⟨delay, drew, fits⟩, made, others⟩
      · rintro ⟨⟨delay, drew, fits⟩, made, others⟩
        exact ⟨_, delay, drew, _, ⟨fits, rfl⟩, made, others, rfl⟩

/-- Every schedule has its entry at the start, without a failure. -/
theorem setup_spec {now : Nat} {schedules : List DatasetSchedule} {rng rng' : UInt64}
    {heap : List Entry} (made : setup now schedules rng = some (heap, rng')) :
    heap.map Entry.schedule = schedules ∧ ∀ e ∈ heap, e.consecutiveFailures = 0 := by
  induction schedules generalizing rng heap with
  | nil =>
      cases made
      exact ⟨rfl, nofun⟩
  | cons s rest ih =>
      simp only [setup, Option.bind_eq_bind, Option.bind_eq_some_iff, Option.some.injEq] at made
      obtain ⟨delay, _, fireAt, _, ⟨entries, last⟩, others, same⟩ := made
      obtain ⟨rfl, rfl⟩ := Prod.mk.inj same
      obtain ⟨schedules, fresh⟩ := ih others
      exact ⟨by rw [List.map_cons, schedules]; rfl, List.forall_mem_cons.mpr ⟨rfl, fresh⟩⟩

namespace Traced

theorem start_ordered (schedules : List DatasetSchedule) (now : Nat) (rng : UInt64) :
    (start schedules now rng).Ordered where
  waiting := nofun
  passed := nofun
  building _ := nofun
  sorted := .nil
  due := nofun

theorem start_conserved_iff (schedules : List DatasetSchedule) (now : Nat) (rng : UInt64) :
    (start schedules now rng).Conserved schedules ↔ SetsUp now schedules (rng ||| 1) := by
  rw [← setup_isSome_iff]
  cases made : setup now schedules (rng ||| 1) with
  | none =>
      refine iff_of_false (fun conserved => ?_) Bool.false_ne_true
      have loop : (start schedules now rng).loop =
          { now, heap := [], turn := .panicked .arithmetic, rng } := by
        rw [start, RunLoop.start, made]
      have nothing := conserved.pending (by rw [loop]; nofun)
      rw [loop] at nothing
      obtain rfl := List.nil_perm.mp nothing
      cases made
  | some made' =>
      obtain ⟨heap, rng'⟩ := made'
      obtain ⟨same, fresh⟩ := setup_spec made
      have loop : (start schedules now rng).loop =
          { now, heap, turn := .selecting, rng := rng' } := by
        rw [start, RunLoop.start, made]
      refine iff_of_true ⟨?_, ?_, .nil, nofun⟩ rfl
      · intro _
        rw [loop]
        exact .of_eq same
      · rw [loop]
        intro e member
        rw [fresh e member]
        rfl

end Traced

/-- Every schedule keeps its one entry, the deadlines are served in order and on time, and the
entries count the failed ticks, in every state of a run just when the first deadlines do not
overflow and every tick that ends goes through. -/
theorem heap_conserved_iff {schedules : List DatasetSchedule} {now : Nat} {rng : UInt64}
    {events : List LoopEvent} {t : Traced} (distinct : (schedules.map (·.name)).Nodup)
    (run : Run Traced.step Anything (.start schedules now rng) events t) :
    (∀ before u, before <+: events → Run Traced.step Anything (.start schedules now rng) before u →
      u.Conserved schedules) ↔
    SetsUp now schedules (rng ||| 1) ∧
      Run Traced.step (fun w event => w.loop.Spared event) (.start schedules now rng) events t := by
  rw [run.always_iff_within (P := Traced.Conserved schedules) (J := Traced.Ordered)
    (Traced.start_ordered schedules now rng)]
  · exact and_congr_left' (Traced.start_conserved_iff schedules now rng)
  · exact Traced.ordered_step
  · intro w event u ordered conserved _ stepped
    exact Traced.conserved_step_iff distinct ordered conserved stepped

/-- One tick that publishes. -/
theorem heap_conserved_publish : ∃ t,
    Run Traced.step Anything (.start [⟨"orders", 60000, 30000, false⟩] 0 0)
      [.advance 60000000000, .fire, .acquired, .done (.published ⟨1, 1, false, false⟩) 0] t ∧
    ∀ before u, before <+: [LoopEvent.advance 60000000000, .fire, .acquired,
        .done (.published ⟨1, 1, false, false⟩) 0] →
      Run Traced.step Anything (.start [⟨"orders", 60000, 30000, false⟩] 0 0) before u →
      u.Conserved [⟨"orders", 60000, 30000, false⟩] := by
  have waits : 60000000000 + 60000000000 < instantEnd := by decide
  have built : Run Traced.step (fun w event => w.loop.Spared event)
      (.start [⟨"orders", 60000, 30000, false⟩] 0 0)
      [.advance 60000000000, .fire, .acquired] _ :=
    .snoc (.snoc (.snoc (.nil _) trivial rfl) trivial rfl) trivial rfl
  have ran := built.snoc (a := .done (.published ⟨1, 1, false, false⟩) 0)
    ((RunLoop.spared_done rfl).mpr
      ⟨⟨by nofun, _, rfl, _, rfl, by exact waits, by decide⟩, by nofun⟩) rfl
  have run : Run Traced.step Anything _ _ _ := ran.weaken fun _ _ _ => trivial
  exact ⟨_, run, (heap_conserved_iff (by decide) run).mpr
    ⟨⟨⟨_, rfl, by decide⟩, trivial⟩, ran⟩⟩

/-- A build whose error has a character across the cut takes all entries away. -/
theorem heap_lost : ¬ ∀ (schedules : List DatasetSchedule) (now : Nat) (rng : UInt64)
    (events : List LoopEvent) (t : Traced), (schedules.map (·.name)).Nodup →
    Run Traced.step Anything (.start schedules now rng) events t → t.Conserved schedules := by
  intro conserved
  have built : Run Traced.step Anything (.start [⟨"orders", 60000, 30000, false⟩] 0 0)
      [.advance 60000000000, .fire, .acquired] _ :=
    .snoc (.snoc (.snoc (.nil _) trivial rfl) trivial rfl) trivial rfl
  have run := built.snoc (a := .done (.failed (tornError 498)) 0) trivial rfl
  have kept := (conserved _ _ _ _ _ (by decide) run).pending
  have torn (s : RunLoop) (entry : Entry) (tickStart : Nat) :
      s.tick entry tickStart 0 (.failed (tornError 498)) = s.stop (.panicked .slice) :=
    RunLoop.tick_sliced rfl tornError_torn
  simp only [torn] at kept
  cases (kept nofun).length_eq

end Datapress.Refresh
