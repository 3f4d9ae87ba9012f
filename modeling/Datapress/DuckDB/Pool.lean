import Mathlib.Algebra.Order.Group.Multiset
import Mathlib.Algebra.Ring.Nat
import Datapress.Library.Progress
import Datapress.Library.Tally

/-!
The connection pool: requests check connections out, wait on a condition variable while there is
none, and return them on drop.

A step is what a thread does under the mutex, or one notification. A thread that waits may also
wake up without having been notified.
-/
namespace Datapress.DuckDB

open Machine

variable {Connection : Type}

/-- Where a thread is in `DbPool::get` and in the drop of its `PooledConn`. -/
inductive PoolThread (Connection : Type) where
  /-- Before the first look at the connections. -/
  | entering
  /-- In `available.wait`. -/
  | waiting
  /-- Woken up, before it looks again. -/
  | woken
  | holding (conn : Connection)
  /-- Has pushed its connection and not yet notified. -/
  | returned
  | finished
deriving Repr, DecidableEq

namespace PoolThread

def isWaiting : PoolThread Connection → Bool
  | .waiting => true
  | _ => false

/-- The connection the thread holds. -/
def held : PoolThread Connection → Multiset Connection
  | .holding conn => {conn}
  | _ => 0

/-- The thread will look at the connections, or make another one look. -/
def pending : PoolThread Connection → Nat
  | .woken | .returned => 1
  | _ => 0

/-- What the thread still has to do. -/
def remaining : PoolThread Connection → Nat
  | .entering | .woken => 4
  | .waiting | .holding _ => 3
  | .returned => 2
  | .finished => 0

end PoolThread

structure DbPool (Connection : Type) where
  conns : List Connection
  threads : List (PoolThread Connection) := []
deriving Repr, DecidableEq

inductive PoolEvent where
  /-- Another thread calls `get`. -/
  | call
  | get (i : Nat)
  | drop (i : Nat)
  /-- `notify_one`, with the thread it wakes. -/
  | notify (i : Nat) (woken : Option Nat)
  /-- `wait` returns without a notification. -/
  | spurious (i : Nat)
deriving Repr, DecidableEq

namespace DbPool

/-- The size comes from `DB_POOL_SIZE` or from the number of CPUs, which it divides. -/
def init (size : Nat) (clone : Nat → Connection) : Option (DbPool Connection) :=
  if size = 0 then none else some { conns := (List.range size).map clone }

/-- One round of the loop in `get`. -/
def get (pool : DbPool Connection) (i : Nat) : DbPool Connection :=
  match pool.conns.getLast? with
  | some conn =>
    { conns := pool.conns.dropLast, threads := pool.threads.set i (.holding conn) }
  | none => { pool with threads := pool.threads.set i .waiting }

def drop (pool : DbPool Connection) (i : Nat) (conn : Connection) : DbPool Connection :=
  { conns := pool.conns ++ [conn], threads := pool.threads.set i .returned }

def step : PoolEvent → DbPool Connection → Option (DbPool Connection)
  | .call, pool => some { pool with threads := pool.threads ++ [.entering] }
  | .get i, pool =>
    match pool.threads[i]? with
    | some .entering | some .woken => some (pool.get i)
    | _ => none
  | .drop i, pool =>
    match pool.threads[i]? with
    | some (.holding conn) => some (pool.drop i conn)
    | _ => none
  | .notify i woken, pool =>
    match pool.threads[i]?, woken with
    | some .returned, none =>
      if pool.threads.any PoolThread.isWaiting then none
      else some { pool with threads := pool.threads.set i .finished }
    | some .returned, some j =>
      match pool.threads[j]? with
      | some .waiting => some { pool with threads := (pool.threads.set i .finished).set j .woken }
      | _ => none
    | _, _ => none
  | .spurious i, pool =>
    match pool.threads[i]? with
    | some .waiting => some { pool with threads := pool.threads.set i .woken }
    | _ => none

/-- All a step can do. -/
inductive Moves (pool : DbPool Connection) : PoolEvent → DbPool Connection → Prop where
  | call : Moves pool .call { pool with threads := pool.threads ++ [.entering] }
  | take (before : thread = .entering ∨ thread = .woken) (here : pool.threads[i]? = some thread)
      (idle : pool.conns = rest ++ [conn]) :
      Moves pool (.get i) { conns := rest, threads := pool.threads.set i (.holding conn) }
  | wait (before : thread = .entering ∨ thread = .woken) (here : pool.threads[i]? = some thread)
      (busy : pool.conns = []) :
      Moves pool (.get i) { conns := [], threads := pool.threads.set i .waiting }
  | drop (here : pool.threads[i]? = some (.holding conn)) :
      Moves pool (.drop i)
        { conns := pool.conns ++ [conn], threads := pool.threads.set i .returned }
  | unheard (here : pool.threads[i]? = some .returned)
      (nobody : ∀ thread ∈ pool.threads, thread.isWaiting = false) :
      Moves pool (.notify i none) { pool with threads := pool.threads.set i .finished }
  | wake (here : pool.threads[i]? = some .returned)
      (there : (pool.threads.set i .finished)[j]? = some .waiting) :
      Moves pool (.notify i (some j))
        { pool with threads := (pool.threads.set i .finished).set j .woken }
  | spurious (here : pool.threads[i]? = some .waiting) :
      Moves pool (.spurious i) { pool with threads := pool.threads.set i .woken }

variable {pool after : DbPool Connection}

theorem moves_get {thread : PoolThread Connection} {i : Nat}
    (before : thread = .entering ∨ thread = .woken) (here : pool.threads[i]? = some thread) :
    Moves pool (.get i) (pool.get i) := by
  unfold get
  split
  case h_1 conn last =>
    obtain ⟨rest, idle⟩ := List.getLast?_eq_some_iff.mp last
    rw [idle, List.dropLast_concat]
    exact .take before here idle
  case h_2 empty =>
    have busy := List.getLast?_eq_none_iff.mp empty
    simpa only [busy] using Moves.wait before here busy

theorem moves_of_step {e : PoolEvent} (stepped : step e pool = some after) :
    Moves pool e after := by
  cases e with
  | call => cases stepped; exact .call
  | get i =>
      simp only [step] at stepped
      split at stepped
      case h_1 here => cases stepped; exact moves_get (.inl rfl) here
      case h_2 here => cases stepped; exact moves_get (.inr rfl) here
      case h_3 => cases stepped
  | drop i =>
      simp only [step] at stepped
      split at stepped
      case h_1 here => cases stepped; exact .drop here
      case h_2 => cases stepped
  | notify i woken =>
      simp only [step] at stepped
      split at stepped
      case h_1 here =>
        split at stepped
        case isTrue => cases stepped
        case isFalse nobody =>
          cases stepped
          exact .unheard here (by simpa using nobody)
      case h_2 j here =>
        split at stepped
        case h_1 there =>
          cases stepped
          have other : i ≠ j := by
            rintro rfl
            exact absurd (here.symm.trans there) (by simp)
          exact .wake here (by rwa [List.getElem?_set_ne other])
        case h_2 => cases stepped
      case h_3 => cases stepped
  | spurious i =>
      simp only [step] at stepped
      split at stepped
      case h_1 here => cases stepped; exact .spurious here
      case h_2 => cases stepped

open Tally PoolThread

/-- The connections in the pool and in the hands of threads. -/
def all (pool : DbPool Connection) : Multiset Connection :=
  (pool.conns : Multiset Connection) + total held pool.threads

/-- No step makes, loses or copies a connection. -/
theorem all_step {e : PoolEvent} (stepped : step e pool = some after) : after.all = pool.all := by
  cases moves_of_step stepped with
  | call => simp only [all, total_append, total_singleton, held, add_zero]
  | @take thread i rest conn before here idle =>
      have moved := total_set held here (.holding conn)
      have free : held thread = 0 := by rcases before with rfl | rfl <;> rfl
      rw [free, add_zero] at moved
      simp only [all, moved, held, idle, ← Multiset.coe_add, Multiset.coe_singleton]
      rw [add_assoc, add_comm (total _ _)]
  | @wait thread i before here busy =>
      have moved := total_set held here .waiting
      have free : held thread = 0 := by rcases before with rfl | rfl <;> rfl
      rw [free, add_zero] at moved
      simp only [all, moved, held, busy, add_zero]
  | @drop i conn here =>
      have moved := total_set held here .returned
      simp only [held, add_zero] at moved
      simp only [all, ← moved, ← Multiset.coe_add, Multiset.coe_singleton]
      rw [add_assoc, add_comm ({conn} : Multiset Connection)]
  | @unheard i here nobody =>
      have moved := total_set held here .finished
      simp only [held, add_zero] at moved
      simp only [all, moved]
  | @wake i j here there =>
      have first := total_set held here .finished
      have second := total_set held there .woken
      simp only [held, add_zero] at first second
      simp only [all, second, first]
  | @spurious i here =>
      have moved := total_set held here .woken
      simp only [held, add_zero] at moved
      simp only [all, moved]

/-- While a thread waits, every connection in the pool has somebody who will look for it. -/
def Heard (pool : DbPool Connection) : Prop :=
  (∃ thread ∈ pool.threads, thread.isWaiting = true) →
    pool.conns.length ≤ total pending pool.threads

/-- The waiting threads of a changed list were waiting before, unless the new entry waits. -/
theorem waiting_of_set {threads : List (PoolThread Connection)} {i : Nat}
    {thread : PoolThread Connection} (awake : thread.isWaiting = false)
    (waits : ∃ other ∈ threads.set i thread, other.isWaiting = true) :
    ∃ other ∈ threads, other.isWaiting = true := by
  obtain ⟨other, member, waiting⟩ := waits
  rcases List.mem_or_eq_of_mem_set member with old | rfl
  · exact ⟨other, old, waiting⟩
  · exact absurd waiting (by simp [awake])

theorem heard_step {e : PoolEvent} (heard : pool.Heard) (stepped : step e pool = some after) :
    after.Heard := by
  cases moves_of_step stepped with
  | call =>
      rintro ⟨thread, member, waiting⟩
      rcases List.mem_append.mp member with old | new
      · simpa only [total_append, total_singleton, pending, add_zero] using heard ⟨thread, old, waiting⟩
      · rw [List.mem_singleton.mp new] at waiting
        cases waiting
  | @take thread i rest conn before here idle =>
      intro waits
      have bound := heard (waiting_of_set rfl waits)
      have moved := total_set pending here (.holding conn)
      have one : pending thread ≤ 1 := by rcases before with rfl | rfl <;> simp [pending]
      have size := congrArg List.length idle
      simp only [List.length_append, List.length_singleton] at size
      simp only [pending] at moved one ⊢
      omega
  | wait => exact fun _ => Nat.zero_le _
  | @drop i conn here =>
      intro waits
      have bound := heard (waiting_of_set rfl waits)
      have moved := total_set pending here .returned
      simp only [pending, List.length_append, List.length_singleton] at moved ⊢
      omega
  | @unheard i here nobody =>
      intro waits
      obtain ⟨thread, member, waiting⟩ := waiting_of_set rfl waits
      exact absurd waiting (by simp [nobody thread member])
  | @wake i j here there =>
      intro _
      have member := List.mem_of_getElem? there
      have bound := heard (waiting_of_set rfl ⟨_, member, rfl⟩)
      have first := total_set pending here .finished
      have second := total_set pending there .woken
      simp only [pending] at first second ⊢
      omega
  | @spurious i here =>
      intro _
      have bound := heard ⟨_, List.mem_of_getElem? here, rfl⟩
      have moved := total_set pending here .woken
      simp only [pending] at moved ⊢
      omega

variable {size : Nat} {clone : Nat → Connection} {start : DbPool Connection}
  {events more : List PoolEvent}

theorem init_spec (created : init size clone = some start) :
    0 < size ∧ start.conns = (List.range size).map clone ∧ start.threads = [] := by
  unfold init at created
  split at created
  case isTrue => cases created
  case isFalse positive => cases created; exact ⟨Nat.pos_of_ne_zero positive, rfl, rfl⟩

/-- Connections never get lost or copied: at every moment those in the pool and those that threads
hold are the ones the pool was made with. -/
theorem conserved (created : init size clone = some start)
    (run : Run step Anything start events pool) :
    pool.all = ((List.range size).map clone : Multiset Connection) := by
  obtain ⟨_, conns, threads⟩ := init_spec created
  refine run.keeps (P := fun pool => pool.all = _) ?_ fun same _ stepped =>
    (all_step stepped).trans same
  simp only [all, conns, threads, total, List.map_nil, List.sum_nil, add_zero]

theorem heard_of_run (created : init size clone = some start)
    (run : Run step Anything start events pool) : pool.Heard := by
  obtain ⟨_, _, threads⟩ := init_spec created
  refine run.keeps (P := Heard) ?_ fun heard _ stepped => heard_step heard stepped
  rintro ⟨thread, member, _⟩
  rw [threads] at member
  cases member

/-- A connection that one thread holds is neither in the pool nor in the hands of another. -/
theorem exclusive (created : init size clone = some start) (distinct : clone.Injective)
    (run : Run step Anything start events pool) {i j : Nat} {conn : Connection}
    (one : pool.threads[i]? = some (.holding conn)) :
    conn ∉ pool.conns ∧ (pool.threads[j]? = some (.holding conn) → i = j) := by
  have once : pool.all.Nodup := by
    rw [conserved created run]
    exact Multiset.coe_nodup.mpr (List.nodup_range.map distinct)
  -- Putting `finished` in the place of a holder takes its connection away.
  have without := total_set held one .finished
  simp only [held, add_zero] at without
  have apart : conn ∉ (pool.conns : Multiset Connection) + total held (pool.threads.set i .finished) := by
    have whole : pool.all = conn ::ₘ
        ((pool.conns : Multiset Connection) + total held (pool.threads.set i .finished)) := by
      rw [all, ← without, ← Multiset.singleton_add, ← add_assoc,
        add_comm ({conn} : Multiset Connection)]
    exact (Multiset.nodup_cons.mp (whole ▸ once)).1
  rw [Multiset.mem_add, not_or] at apart
  refine ⟨by simpa using apart.1, fun two => ?_⟩
  by_contra different
  have there : (pool.threads.set i .finished)[j]? = some (.holding conn) := by
    rwa [List.getElem?_set_ne different]
  have again := total_set held there .finished
  simp only [held, add_zero] at again
  exact apart.2 (again ▸ Multiset.mem_add.mpr (.inr (Multiset.mem_singleton_self conn)))

/-- Two threads that call `get` one after the other. -/
def callers : List PoolEvent := [.call, .call, .get 0, .get 1]

theorem exclusive_two : ∃ pool : DbPool Nat,
    (2 ∉ pool.conns ∧ (pool.threads[1]? = some (.holding 2) → 0 = 1)) := by
  have created : init 3 id = some { conns := [0, 1, 2] } := rfl
  have run : Run step Anything { conns := [0, 1, 2] } callers
      { conns := [0], threads := [.holding 2, .holding 1] } := run_of_exec rfl
  exact ⟨_, exclusive created Function.injective_id run rfl⟩

/-- What threads do that neither hold a connection nor wait. -/
def Looks : PoolEvent → Prop
  | .get _ | .notify _ _ => True
  | .call | .drop _ | .spurious _ => False

/-- Nobody is left to look at the connections or to notify. -/
theorem calm_of_rests {kind : PoolEvent → Prop} (looks : ∀ e, Looks e → kind e)
    (rests : Rests step kind pool) {thread : PoolThread Connection}
    (member : thread ∈ pool.threads) :
    thread = .waiting ∨ thread = .finished ∨ ∃ conn, thread = .holding conn := by
  obtain ⟨i, here⟩ := List.mem_iff_getElem?.mp member
  cases thread with
  | entering => exact absurd (rests (.get i) (looks _ trivial)) (by simp [step, here])
  | waiting => exact .inl rfl
  | woken => exact absurd (rests (.get i) (looks _ trivial)) (by simp [step, here])
  | holding conn => exact .inr (.inr ⟨conn, rfl⟩)
  | returned =>
      by_cases somebody : ∃ other ∈ pool.threads, other.isWaiting = true
      · obtain ⟨other, among, waits⟩ := somebody
        obtain ⟨j, there⟩ := List.mem_iff_getElem?.mp among
        cases other with
        | waiting =>
            exact absurd (rests (.notify i (some j)) (looks _ trivial)) (by simp [step, here, there])
        | _ => cases waits
      · have nobody : pool.threads.any isWaiting = false := by simpa using somebody
        exact absurd (rests (.notify i none) (looks _ trivial)) (by simp [step, here, nobody])
  | finished => exact .inr (.inl rfl)

theorem quiet_of_rests {kind : PoolEvent → Prop} (looks : ∀ e, Looks e → kind e)
    (rests : Rests step kind pool) : total pending pool.threads = 0 :=
  total_eq_zero fun thread member => by
    rcases calm_of_rests looks rests member with rfl | rfl | ⟨conn, rfl⟩ <;> rfl

/-- No wake-up is lost: once nobody is on the way to the connections, a thread that still waits
finds none in the pool, and those that the threads hold are all of them. -/
theorem waits_while_busy (created : init size clone = some start)
    (run : Run step Anything start events pool) (rests : Rests step Looks pool)
    (waits : .waiting ∈ pool.threads) :
    pool.conns = [] ∧ total held pool.threads = ((List.range size).map clone : Multiset Connection) := by
  have bound := heard_of_run created run ⟨_, waits, rfl⟩
  rw [quiet_of_rests (fun _ => id) rests] at bound
  have empty : pool.conns = [] := List.length_eq_zero_iff.mp (Nat.le_zero.mp bound)
  have kept := conserved created run
  rw [all, empty, Multiset.coe_nil, zero_add] at kept
  exact ⟨empty, kept⟩

/-- What goes on without new callers and without unprompted wake-ups. -/
def Serves : PoolEvent → Prop
  | .get _ | .drop _ | .notify _ _ => True
  | .call | .spurious _ => False

instance : DecidablePred Serves := fun e => by
  cases e <;> unfold Serves <;> infer_instance

theorem serves_of_looks (e : PoolEvent) (looks : Looks e) : Serves e := by
  cases e with
  | get | notify => trivial
  | call | drop | spurious => cases looks

def remaining (pool : DbPool Connection) : Nat := total PoolThread.remaining pool.threads

theorem remaining_decreases {e : PoolEvent} (serves : Serves e)
    (stepped : step e pool = some after) : after.remaining < pool.remaining := by
  cases moves_of_step stepped with
  | call => cases serves
  | @take thread i rest conn before here idle =>
      have moved := total_set PoolThread.remaining here (.holding conn)
      rcases before with rfl | rfl <;> simp only [PoolThread.remaining] at moved <;>
        exact Nat.lt_of_succ_le (by simp only [remaining]; omega)
  | @wait thread i before here busy =>
      have moved := total_set PoolThread.remaining here .waiting
      rcases before with rfl | rfl <;> simp only [PoolThread.remaining] at moved <;>
        exact Nat.lt_of_succ_le (by simp only [remaining]; omega)
  | @drop i conn here =>
      have moved := total_set PoolThread.remaining here .returned
      simp only [PoolThread.remaining] at moved
      simp only [remaining]
      omega
  | @unheard i here nobody =>
      have moved := total_set PoolThread.remaining here .finished
      simp only [PoolThread.remaining] at moved
      simp only [remaining]
      omega
  | @wake i j here there =>
      have first := total_set PoolThread.remaining here .finished
      have second := total_set PoolThread.remaining there .woken
      simp only [PoolThread.remaining] at first second
      simp only [remaining]
      omega
  | spurious => cases serves

/-- Threads that have nothing left to do without the help of others wait or are done. -/
theorem settled_of_rests (rests : Rests step Serves pool) {thread : PoolThread Connection}
    (member : thread ∈ pool.threads) : thread = .waiting ∨ thread = .finished := by
  rcases calm_of_rests serves_of_looks rests member with waiting | finished | ⟨conn, rfl⟩
  · exact .inl waiting
  · exact .inr finished
  · obtain ⟨i, here⟩ := List.mem_iff_getElem?.mp member
    exact absurd (rests (.drop i) trivial) (by simp [step, here])

/-- No thread waits forever: however the threads are scheduled, and whatever happened before, the
steps that are left are bounded, and when none is left every thread has had its connection and
all connections are back. -/
theorem all_served (created : init size clone = some start)
    (run : Run step Anything start events pool)
    (rest : Run step (fun _ => Serves) pool more after) :
    more.length ≤ pool.remaining ∧ (Rests step Serves after →
      (∀ thread ∈ after.threads, thread = .finished) ∧ after.conns.Perm ((List.range size).map clone)) := by
  have used : more.length + after.remaining ≤ pool.remaining :=
    rest.length_add_le remaining_decreases
  refine ⟨by omega, fun rests => ?_⟩
  have whole := run.append (rest.weaken fun _ _ _ => trivial)
  have kept := conserved created whole
  have calm : ∀ thread ∈ after.threads, thread = .waiting ∨ thread = .finished :=
    fun _ => settled_of_rests rests
  have nothing : total held after.threads = 0 := total_eq_zero fun thread member => by
    rcases calm thread member with rfl | rfl <;> rfl
  have quiet := quiet_of_rests serves_of_looks rests
  rw [all, nothing, add_zero] at kept
  have back := Multiset.coe_eq_coe.mp kept
  refine ⟨fun thread member => (calm thread member).resolve_left ?_, back⟩
  rintro rfl
  have bound := heard_of_run created whole ⟨_, member, rfl⟩
  have size := back.length_eq
  have positive := (init_spec created).1
  simp only [List.length_map, List.length_range] at size
  omega

/-- Two requests share one connection: the second waits until the first returns it. -/
def handover : List PoolEvent :=
  [.drop 0, .notify 0 (some 1), .get 1, .drop 1, .notify 1 none]

def contended : DbPool Nat :=
  { conns := [], threads := [.holding 0, .waiting] }

theorem contended_run : Run step Anything { conns := [0] } callers contended := run_of_exec rfl

theorem waits_while_busy_contended :
    contended.conns = [] ∧ total held contended.threads = ((List.range 1).map id : Multiset Nat) := by
  refine waits_while_busy rfl contended_run (fun e looks => ?_) (by decide)
  rcases e with _ | i | i | ⟨i, woken⟩ | i
  · cases looks
  · rcases i with _ | _ | i <;> rfl
  · cases looks
  · rcases i with _ | _ | i <;> rfl
  · cases looks

theorem all_served_contended : ∃ after : DbPool Nat,
    handover.length ≤ contended.remaining ∧ (Rests step Serves after →
      (∀ thread ∈ after.threads, thread = .finished) ∧ after.conns.Perm ((List.range 1).map id)) :=
  ⟨_, all_served rfl contended_run (run_of_exec rfl)⟩

end DbPool
end Datapress.DuckDB
