import Datapress.Library.Interleaving
import Datapress.Library.Progress

/-!
A bounded channel between a program that sends messages and a receiver that takes them in
order and may close the channel at any time.

A message that is sent while the channel is open waits for room; once the channel is closed
the sender is told so, and what had not been received is lost.
-/
namespace Channel

open Interleaving Machine

variable {α ρ β : Type}

/-- A program that sends messages. The answer says whether the message was accepted. -/
abbrev Sender (α ρ : Type) := Prog (fun _ : α => Bool) ρ

namespace Sender

/-- What the program sends to a channel that stays open. -/
def messages : Sender α ρ → List α
  | .done _ => []
  | .act a next => a :: messages (next true)

/-- What it returns there. -/
def result : Sender α ρ → ρ
  | .done result => result
  | .act _ next => result (next true)

/-- How often it sends at most, whatever the answers. -/
def length : Sender α ρ → Nat
  | .done _ => 0
  | .act _ next => max (length (next true)) (length (next false)) + 1

@[simp] theorem messages_pure (r : ρ) : messages (pure r : Sender α ρ) = [] := rfl

@[simp] theorem result_pure (r : ρ) : result (pure r : Sender α ρ) = r := rfl

@[simp] theorem messages_perform (a : α) :
    messages (Prog.perform a : Sender α Bool) = [a] := rfl

@[simp] theorem result_perform (a : α) : result (Prog.perform a : Sender α Bool) = true := rfl

@[simp] theorem messages_bind (p : Sender α ρ) (rest : ρ → Sender α β) :
    messages (p >>= rest) = messages p ++ messages (rest (result p)) := by
  induction p with
  | done r => rfl
  | act a next ih => exact congrArg (a :: ·) (ih true)

@[simp] theorem result_bind (p : Sender α ρ) (rest : ρ → Sender α β) :
    result (p >>= rest) = result (rest (result p)) := by
  induction p with
  | done r => rfl
  | act a next ih => exact ih true

end Sender

structure State (α ρ : Type) where
  sender : Sender α ρ
  /-- Sent and not yet received, the oldest first. -/
  queue : List α
  received : List α
  closed : Bool

inductive Event where
  | send | receive | close
deriving Repr, DecidableEq

def initial (program : Sender α ρ) : State α ρ where
  sender := program
  queue := []
  received := []
  closed := false

def step (capacity : Nat) : Event → State α ρ → Option (State α ρ)
  | .send, s =>
    match s.sender with
    | .done _ => none
    | .act a next =>
      if s.closed then some { s with sender := next false }
      else if s.queue.length < capacity then
        some { s with sender := next true, queue := s.queue ++ [a] }
      else none
  | .receive, s =>
    match s.queue with
    | [] => none
    | a :: rest => some { s with queue := rest, received := s.received ++ [a] }
  | .close, s => if s.closed then none else some { s with queue := [], closed := true }

/-- All a step can do. -/
inductive Moves (capacity : Nat) (s : State α ρ) : Event → State α ρ → Prop where
  | refused (ready : s.sender = .act a next) (closed : s.closed = true) :
      Moves capacity s .send { s with sender := next false }
  | accepted (ready : s.sender = .act a next) (opened : s.closed = false)
      (room : s.queue.length < capacity) :
      Moves capacity s .send { s with sender := next true, queue := s.queue ++ [a] }
  | received (waiting : s.queue = a :: rest) :
      Moves capacity s .receive { s with queue := rest, received := s.received ++ [a] }
  | closed (opened : s.closed = false) :
      Moves capacity s .close { s with queue := [], closed := true }

variable {capacity : Nat} {s t : State α ρ} {program : Sender α ρ} {events : List Event}

theorem moves_of_step {e : Event} (stepped : step capacity e s = some t) :
    Moves capacity s e t := by
  cases e with
  | send =>
      simp only [step] at stepped
      split at stepped
      case h_1 => cases stepped
      case h_2 ready =>
        split at stepped
        case isTrue closed => cases stepped; exact .refused ready closed
        case isFalse opened =>
          split at stepped
          case isTrue room => cases stepped; exact .accepted ready (by simpa using opened) room
          case isFalse => cases stepped
  | receive =>
      simp only [step] at stepped
      split at stepped
      case h_1 => cases stepped
      case h_2 waiting => cases stepped; exact .received waiting
  | close =>
      simp only [step] at stepped
      split at stepped
      case isTrue => cases stepped
      case isFalse opened => cases stepped; exact .closed (by simpa using opened)

/-- What has been received, what waits and what is still to be sent make up the messages of
the program as long as the channel is open. -/
structure Sound (capacity : Nat) (program : Sender α ρ) (s : State α ρ) : Prop where
  bounded : s.queue.length ≤ capacity
  whole : s.closed = false → s.received ++ s.queue ++ s.sender.messages = program.messages
  outcome : s.closed = false → s.sender.result = program.result
  part : s.received <+: program.messages
  emptied : s.closed = true → s.queue = []

theorem sound_initial : Sound capacity program (initial program) where
  bounded := Nat.zero_le _
  whole _ := rfl
  outcome _ := rfl
  part := List.nil_prefix
  emptied closed := by cases closed

theorem Sound.step {e : Event} (sound : Sound capacity program s)
    (stepped : step capacity e s = some t) : Sound capacity program t := by
  cases moves_of_step stepped with
  | @refused a next ready closed =>
      have shut : ¬ s.closed = false := by simp [closed]
      exact ⟨sound.bounded, fun opened => absurd opened shut, fun opened => absurd opened shut,
        sound.part, sound.emptied⟩
  | @accepted a next ready opened room =>
      have whole := sound.whole opened
      have outcome := sound.outcome opened
      rw [ready] at whole outcome
      refine ⟨?_, fun _ => ?_, fun _ => outcome, sound.part, fun closed => ?_⟩
      · simpa only [List.length_append, List.length_singleton] using Nat.succ_le_of_lt room
      · simpa only [Sender.messages, List.append_assoc, List.singleton_append] using whole
      · exact absurd (closed.symm.trans opened) Bool.noConfusion
  | @received a rest waiting =>
      have opened : s.closed = false := by
        by_contra shut
        have empty := sound.emptied (by simpa using shut)
        rw [waiting] at empty
        cases empty
      have whole := sound.whole opened
      have bounded := sound.bounded
      rw [waiting] at whole bounded
      have same : s.received ++ [a] ++ rest ++ s.sender.messages = program.messages := by
        simpa only [List.append_assoc, List.singleton_append] using whole
      refine ⟨?_, fun _ => same, sound.outcome, ?_, fun closed => ?_⟩
      · exact Nat.le_of_succ_le bounded
      · exact ⟨rest ++ s.sender.messages, by rw [← same, List.append_assoc (s.received ++ [a])]⟩
      · exact absurd (closed.symm.trans opened) Bool.noConfusion
  | closed opened =>
      exact ⟨Nat.zero_le _, fun still => absurd still Bool.noConfusion,
        fun still => absurd still Bool.noConfusion, sound.part, fun _ => rfl⟩

theorem sound_of_run {ok : State α ρ → Event → Prop}
    (run : Run (step capacity) ok (initial program) events s) : Sound capacity program s :=
  run.keeps sound_initial fun sound _ stepped => sound.step stepped

/-- The receiver takes or the sender sends: what goes on without anybody's choice. -/
def Flows (e : Event) : Prop := e ≠ .close

instance : DecidablePred Flows := fun e => inferInstanceAs (Decidable (e ≠ .close))

theorem closed_of_flows {e : Event} (flows : Flows e) (stepped : step capacity e s = some t)
    (opened : s.closed = false) : t.closed = false := by
  cases moves_of_step stepped with
  | refused _ closed => exact opened
  | accepted => exact opened
  | received => exact opened
  | closed => exact absurd rfl flows

/-- When nothing is left to send or to receive over an open channel, all has been received. -/
theorem Sound.delivered (sound : Sound capacity program s) (positive : 0 < capacity)
    (opened : s.closed = false) (rests : Rests (Channel.step capacity) Flows s) :
    s.received = program.messages ∧ s.sender = .done program.result := by
  have empty : s.queue = [] := by
    have idle := rests .receive Event.noConfusion
    simp only [Channel.step] at idle
    split at idle
    case h_1 empty => exact empty
    case h_2 => cases idle
  have idle := rests .send Event.noConfusion
  have whole := sound.whole opened
  have outcome := sound.outcome opened
  cases ready : s.sender with
  | done r =>
      simp only [ready, empty, Sender.messages, List.append_nil] at whole
      simp only [ready, Sender.result] at outcome
      exact ⟨whole, by rw [outcome]⟩
  | act a next =>
      simp [Channel.step, ready, opened, empty, positive] at idle

/-- What a run still has to do: each message is sent and received, and the channel closes
at most once. -/
def remaining (s : State α ρ) : Nat :=
  2 * s.sender.length + s.queue.length + if s.closed then 0 else 1

theorem remaining_decreases {e : Event} (stepped : step capacity e s = some t) :
    remaining t < remaining s := by
  cases moves_of_step stepped with
  | @refused a next ready closed =>
      simp only [remaining, ready, Sender.length]
      omega
  | @accepted a next ready opened room =>
      simp only [remaining, ready, Sender.length, List.length_append, List.length_singleton]
      omega
  | @received a rest waiting =>
      simp only [remaining, waiting, List.length_cons]
      omega
  | closed opened =>
      simp only [remaining, opened, if_true, Bool.false_eq_true, if_false, List.length_nil]
      omega

/-- Over an open channel no run goes on forever, and one that has nothing left to do has
delivered every message. -/
theorem delivers {ok : State α ρ → Event → Prop} {more : List Event} (positive : 0 < capacity)
    (run : Run (step capacity) ok (initial program) events s) (opened : s.closed = false)
    (rest : Run (step capacity) (fun _ => Flows) s more t) :
    more.length ≤ remaining s ∧ (Rests (step capacity) Flows t →
      t.received = program.messages ∧ t.sender = .done program.result) := by
  have used : more.length + remaining t ≤ remaining s :=
    rest.length_add_le fun _ stepped => remaining_decreases stepped
  refine ⟨by omega, fun rests => ?_⟩
  have still : t.closed = false := rest.keeps opened fun opened flows stepped =>
    closed_of_flows flows stepped opened
  have sound : Sound capacity program t :=
    rest.keeps (sound_of_run run) fun sound _ stepped => sound.step stepped
  exact sound.delivered positive still rests

end Channel
