import Mathlib.Logic.Function.Basic
import Datapress.Library.Machine

/-! Programs of atomic acts, and threads that take turns at running them over one shared
state. What an act does is a parameter, as is what a thread leaves behind when its
program is dropped at an act that awaits. -/
namespace Interleaving

variable {Act : Type} {Ans : Act → Type} {α β ρ χ ι σ ℓ ν : Type}

/-- A program returns, or performs an act and goes on with the answer. -/
inductive Prog (Ans : Act → Type) (ρ : Type) where
  | done (result : ρ)
  | act (a : Act) (next : Ans a → Prog Ans ρ)

namespace Prog

def bind : Prog Ans α → (α → Prog Ans β) → Prog Ans β
  | .done result, rest => rest result
  | .act a next, rest => .act a fun answer => (next answer).bind rest

instance : Monad (Prog Ans) where
  pure := .done
  bind := .bind

/-- The program that performs one act and returns its answer. -/
def perform (a : Act) : Prog Ans (Ans a) := .act a .done

@[simp] theorem pure_eq (result : α) : (pure result : Prog Ans α) = .done result := rfl

@[simp] theorem done_bind (result : α) (rest : α → Prog Ans β) :
    (Prog.done result >>= rest) = rest result := rfl

@[simp] theorem act_bind (a : Act) (next : Ans a → Prog Ans α) (rest : α → Prog Ans β) :
    (Prog.act a next >>= rest) = .act a fun answer => next answer >>= rest := rfl

@[simp] theorem perform_bind (a : Act) (rest : Ans a → Prog Ans β) :
    (perform a >>= rest) = .act a rest := rfl

/-- Every act of the program, whatever the answers, is allowed. -/
def Uses (allowed : Act → Prop) : Prog Ans ρ → Prop
  | .done _ => True
  | .act a next => allowed a ∧ ∀ answer, (next answer).Uses allowed

theorem Uses.bind {allowed : Act → Prop} {p : Prog Ans α} {rest : α → Prog Ans β}
    (first : p.Uses allowed) (others : ∀ result, (rest result).Uses allowed) :
    (p >>= rest).Uses allowed := by
  induction p with
  | done result => exact others result
  | act a next ih => exact ⟨first.1, fun answer => ih answer (first.2 answer)⟩

/-- The program meets the postcondition when every act follows the rule, which says what
an act does to a context. -/
def Meets (rule : (a : Act) → χ → (Ans a → χ → Prop) → Prop) :
    Prog Ans ρ → χ → (ρ → χ → Prop) → Prop
  | .done result, context, post => post result context
  | .act a next, context, post =>
      rule a context fun answer context => (next answer).Meets rule context post

section
variable {rule : (a : Act) → χ → (Ans a → χ → Prop) → Prop} {context : χ}

@[simp] theorem meets_done {result : ρ} {post : ρ → χ → Prop} :
    (Prog.done result : Prog Ans ρ).Meets rule context post ↔ post result context := Iff.rfl

@[simp] theorem meets_act {a : Act} {next : Ans a → Prog Ans ρ} {post : ρ → χ → Prop} :
    (Prog.act a next).Meets rule context post ↔
      rule a context fun answer context => (next answer).Meets rule context post := Iff.rfl

@[simp] theorem meets_perform {a : Act} {post : Ans a → χ → Prop} :
    (perform a).Meets rule context post ↔ rule a context post := Iff.rfl

/-- Sequencing: the first program meets the precondition of the rest. -/
theorem meets_bind {p : Prog Ans α} {rest : α → Prog Ans β} {post : β → χ → Prop} :
    (p >>= rest).Meets rule context post ↔
      p.Meets rule context fun result context => (rest result).Meets rule context post := by
  induction p generalizing context with
  | done result => exact Iff.rfl
  | act a next ih =>
      simp only [act_bind, meets_act]
      refine iff_of_eq (congrArg _ ?_)
      funext answer after
      exact propext (ih answer)

theorem Meets.mono {p : Prog Ans ρ} {post weaker : ρ → χ → Prop}
    (grows : ∀ (a : Act) (context : χ) (P Q : Ans a → χ → Prop),
      (∀ answer after, P answer after → Q answer after) → rule a context P → rule a context Q)
    (meets : p.Meets rule context post)
    (implies : ∀ result after, post result after → weaker result after) :
    p.Meets rule context weaker := by
  induction p generalizing context with
  | done result => exact implies _ _ meets
  | act a next ih => exact grows a _ _ _ (fun answer _ held => ih answer held) meets

end

/-- The result when every act is answered by a function of a private state. -/
def evaluate (respond : (a : Act) → ν → Ans a × ν) : Prog Ans ρ → ν → ρ × ν
  | .done result, v => (result, v)
  | .act a next, v => (next (respond a v).1).evaluate respond (respond a v).2

end Prog

/-- What the acts of thread `i` do to the shared state and to the state of its own. An act
without a result is blocked. -/
structure Semantics (Ans : Act → Type) (ι σ ℓ : Type) where
  perform : ι → (a : Act) → σ → ℓ → Option (Ans a × σ × ℓ)
  /-- The acts at which the program of a thread can be dropped. -/
  awaits : Act → Bool
  /-- What a drop changes. -/
  abandon : ι → σ → σ

/-- Runs a program alone. -/
def Prog.exec (sem : Semantics Ans ι σ ℓ) (i : ι) : Prog Ans ρ → σ → ℓ → Option (ρ × σ × ℓ)
  | .done result, shared, own => some (result, shared, own)
  | .act a next, shared, own =>
      (sem.perform i a shared own).bind fun (answer, shared, own) =>
        (next answer).exec sem i shared own

inductive Thread (Ans : Act → Type) (ρ ℓ : Type) where
  | idle
  | running (rest : Prog Ans ρ) (own : ℓ)
  | returned (result : ρ)
  | dropped

/-- The thread has been started and has neither returned nor been dropped. -/
def Thread.inFlight : Thread Ans ρ ℓ → Bool
  | .running _ _ => true
  | _ => false

/-- The acts that are left to the thread are allowed. -/
def Thread.Within (allowed : Act → Prop) : Thread Ans ρ ℓ → Prop
  | .running rest _ => rest.Uses allowed
  | _ => True

inductive Event (ι : Type) where
  | start (i : ι)
  | step (i : ι)
  | drop (i : ι)
deriving Repr, DecidableEq

structure Pool (Ans : Act → Type) (ι ρ σ ℓ : Type) where
  shared : σ
  threads : ι → Thread Ans ρ ℓ

namespace Pool
variable [DecidableEq ι] [Inhabited ℓ]

def initial (shared : σ) : Pool Ans ι ρ σ ℓ where
  shared
  threads _ := .idle

def set (s : Pool Ans ι ρ σ ℓ) (i : ι) (thread : Thread Ans ρ ℓ) : Pool Ans ι ρ σ ℓ :=
  { s with threads := Function.update s.threads i thread }

def step (sem : Semantics Ans ι σ ℓ) (program : ι → Prog Ans ρ) :
    Event ι → Pool Ans ι ρ σ ℓ → Option (Pool Ans ι ρ σ ℓ)
  | .start i, s =>
    match s.threads i with
    | .idle => some (s.set i (.running (program i) default))
    | _ => none
  | .step i, s =>
    match s.threads i with
    | .running (.done result) _ => some (s.set i (.returned result))
    | .running (.act a next) own =>
      (sem.perform i a s.shared own).map fun (answer, shared, own) =>
        { s with shared }.set i (.running (next answer) own)
    | _ => none
  | .drop i, s =>
    match s.threads i with
    | .running (.act a _) _ =>
      if sem.awaits a then some ({ s with shared := sem.abandon i s.shared }.set i .dropped)
      else none
    | _ => none

/-- All a step can do. -/
inductive Moves (sem : Semantics Ans ι σ ℓ) (program : ι → Prog Ans ρ)
    (s : Pool Ans ι ρ σ ℓ) : Event ι → Pool Ans ι ρ σ ℓ → Prop where
  | start (idle : s.threads i = .idle) :
      Moves sem program s (.start i) (s.set i (.running (program i) default))
  | ret (ready : s.threads i = .running (.done result) own) :
      Moves sem program s (.step i) (s.set i (.returned result))
  | act (ready : s.threads i = .running (.act a next) own)
      (performed : sem.perform i a s.shared own = some (answer, changed, after)) :
      Moves sem program s (.step i)
        ({ s with shared := changed }.set i (.running (next answer) after))
  | drop (ready : s.threads i = .running (.act a next) own) (awaits : sem.awaits a = true) :
      Moves sem program s (.drop i)
        ({ s with shared := sem.abandon i s.shared }.set i .dropped)

variable {sem : Semantics Ans ι σ ℓ} {program : ι → Prog Ans ρ} {s t : Pool Ans ι ρ σ ℓ}

theorem moves_of_step {e : Event ι} (stepped : step sem program e s = some t) :
    Moves sem program s e t := by
  cases e with
  | start i =>
      simp only [step] at stepped
      split at stepped
      case h_1 idle => cases stepped; exact .start idle
      case h_2 => cases stepped
  | step i =>
      simp only [step] at stepped
      split at stepped
      case h_1 ready => cases stepped; exact .ret ready
      case h_2 ready =>
        obtain ⟨⟨answer, shared, after⟩, performed, rfl⟩ := Option.map_eq_some_iff.mp stepped
        exact .act ready performed
      case h_3 => cases stepped
  | drop i =>
      simp only [step] at stepped
      split at stepped
      case h_1 ready =>
        split at stepped
        case isTrue awaits => cases stepped; exact .drop ready awaits
        case isFalse => cases stepped
      case h_2 => cases stepped

omit [Inhabited ℓ] in
@[simp] theorem set_shared (i : ι) (thread : Thread Ans ρ ℓ) :
    (s.set i thread).shared = s.shared := rfl

omit [Inhabited ℓ] in
@[simp] theorem set_threads_same (i : ι) (thread : Thread Ans ρ ℓ) :
    (s.set i thread).threads i = thread := Function.update_self ..

omit [Inhabited ℓ] in
theorem set_threads_of_ne {i j : ι} (other : j ≠ i) (thread : Thread Ans ρ ℓ) :
    (s.set i thread).threads j = s.threads j := Function.update_of_ne other ..

omit [Inhabited ℓ] in
/-- What holds of every thread after one of them changes. -/
theorem forall_set {P : ι → Thread Ans ρ ℓ → Prop} {i : ι} {thread : Thread Ans ρ ℓ} :
    (∀ j, P j ((s.set i thread).threads j)) ↔ P i thread ∧ ∀ j, j ≠ i → P j (s.threads j) :=
  Function.forall_update_iff s.threads P

/-- What every allowed act keeps of the shared state. -/
theorem shared_of_run {ok : Pool Ans ι ρ σ ℓ → Event ι → Prop} {allowed : ι → Act → Prop}
    {P : σ → Prop} {start : σ} {events : List (Event ι)}
    (run : Machine.Run (step sem program) ok (initial start) events t)
    (uses : ∀ i, (program i).Uses (allowed i)) (initially : P start)
    (acts : ∀ {s : Pool Ans ι ρ σ ℓ} {i a next own answer changed after}, ok s (.step i) →
      s.threads i = .running (.act a next) own → allowed i a →
      sem.perform i a s.shared own = some (answer, changed, after) → P s.shared → P changed)
    (drops : ∀ i before, P before → P (sem.abandon i before)) : P t.shared := by
  have kept := run.keeps (P := fun (s : Pool Ans ι ρ σ ℓ) =>
    P s.shared ∧ ∀ i, (s.threads i).Within (allowed i)) ⟨initially, fun _ => trivial⟩ ?_
  · exact kept.1
  intro s e u held permitted stepped
  obtain ⟨shared, usage⟩ := held
  cases moves_of_step stepped with
  | @start i idle => exact ⟨shared, forall_set.mpr ⟨uses i, fun j _ => usage j⟩⟩
  | @ret i result own ready => exact ⟨shared, forall_set.mpr ⟨trivial, fun j _ => usage j⟩⟩
  | @act i a next own answer changed after ready performed =>
      have use := usage i
      rw [ready] at use
      exact ⟨acts permitted ready use.1 performed shared,
        forall_set.mpr ⟨use.2 answer, fun j _ => usage j⟩⟩
  | @drop i a next own ready awaits =>
      exact ⟨drops i _ shared, forall_set.mpr ⟨trivial, fun j _ => usage j⟩⟩

/-! ### Threads that do not meet -/

section
variable (respond : (a : Act) → ν → Ans a × ν) (allowed : Act → Prop)

/-- The thread uses allowed acts only, and what it still has to do takes its view to where
the whole program takes the view it began with. -/
def Follows (whole : Prog Ans ρ) (start now : ν) : Thread Ans ρ ℓ → Prop
  | .idle => now = start
  | .running rest _ => rest.Uses allowed ∧
      rest.evaluate respond now = whole.evaluate respond start
  | .returned result => (result, now) = whole.evaluate respond start
  | .dropped => True

end

/-- When every act of a thread changes its own view only, and by the answering function,
each thread that returns has done what it does alone. -/
theorem follows_of_run {ok : Pool Ans ι ρ σ ℓ → Event ι → Prop} (view : ι → σ → ν)
    (respond : (a : Act) → ν → Ans a × ν) {allowed : ι → Act → Prop}
    {start : σ} {events : List (Event ι)}
    (run : Machine.Run (step sem program) ok (initial start) events t)
    (uses : ∀ i, (program i).Uses (allowed i))
    (acts : ∀ {s : Pool Ans ι ρ σ ℓ} {i a next own answer changed after}, ok s (.step i) →
      s.threads i = .running (.act a next) own → allowed i a →
      sem.perform i a s.shared own = some (answer, changed, after) →
      respond a (view i s.shared) = (answer, view i changed) ∧
        ∀ j, j ≠ i → view j changed = view j s.shared)
    (drops : ∀ i j before, j ≠ i → view j (sem.abandon i before) = view j before) (i : ι) :
    Follows respond (allowed i) (program i) (view i start) (view i t.shared) (t.threads i) := by
  refine run.keeps (P := fun (s : Pool Ans ι ρ σ ℓ) => ∀ i, Follows respond (allowed i) (program i)
    (view i start) (view i s.shared) (s.threads i)) (fun _ => rfl) ?_ i
  intro s e u held permitted stepped
  cases moves_of_step stepped with
  | @start i idle =>
      refine forall_set.mpr ⟨?_, fun j _ => held j⟩
      have begun := held i
      rw [idle] at begun
      exact ⟨uses i, congrArg _ begun⟩
  | @ret i result own ready =>
      refine forall_set.mpr ⟨?_, fun j _ => held j⟩
      have before := held i
      rw [ready] at before
      exact before.2
  | @act i a next own answer changed after ready performed =>
      have before := held i
      rw [ready] at before
      obtain ⟨use, evaluated⟩ := before
      obtain ⟨answered, others⟩ := acts permitted ready use.1 performed
      refine forall_set.mpr ⟨⟨use.2 answer, ?_⟩, fun j other => ?_⟩
      · rw [Prog.evaluate, answered] at evaluated
        exact evaluated
      · simpa only [set_shared, others j other] using held j
  | @drop i a next own ready awaits =>
      refine forall_set.mpr ⟨trivial, fun j other => ?_⟩
      simpa only [set_shared, drops i j _ other] using held j

end Pool
end Interleaving
