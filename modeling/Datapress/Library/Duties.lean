import Datapress.Library.Interleaving

/-! Duties of threads: an act may put its thread under a duty, which a later act of the same
thread discharges before the program can be dropped. What is amiss in the shared state while a
duty is open is put right once nothing is in flight. -/
namespace Interleaving
open Machine (Run)

variable {Act : Type} {Ans : Act → Type} {α ρ ι σ ℓ δ : Type}

/-- The duties of the acts. -/
structure Duties (Act δ : Type) where
  awaits : Act → Bool
  /-- The act puts its thread under the duty. -/
  binds : δ → Act → Prop
  /-- The act discharges the duty. -/
  pays : δ → Act → Prop

variable {duties : Duties Act δ}

namespace Prog

/-- Every course of the program discharges the duty before it awaits. -/
def Owes (duties : Duties Act δ) (d : δ) : Prog Ans ρ → Prop
  | .done _ => False
  | .act a next => duties.awaits a = false ∧
      (duties.pays d a ∨ ∀ answer, (next answer).Owes duties d)

/-- The program discharges every duty that one of its acts puts it under. -/
def Honors (duties : Duties Act δ) : Prog Ans ρ → Prop
  | .done _ => True
  | .act a next => ∀ answer,
      (∀ d, duties.binds d a → (next answer).Owes duties d) ∧ (next answer).Honors duties

theorem Owes.bind {d : δ} {p : Prog Ans α} (owes : p.Owes duties d) (rest : α → Prog Ans ρ) :
    (p >>= rest).Owes duties d := by
  induction p with
  | done result => exact owes.elim
  | act a next ih =>
      obtain ⟨prompt, pays | later⟩ := owes
      · exact ⟨prompt, .inl pays⟩
      · exact ⟨prompt, .inr fun answer => ih answer (later answer)⟩

theorem Honors.bind {p : Prog Ans α} {rest : α → Prog Ans ρ} (first : p.Honors duties)
    (others : ∀ result, (rest result).Honors duties) : (p >>= rest).Honors duties := by
  induction p with
  | done result => exact others result
  | act a next ih =>
      intro answer
      obtain ⟨bound, honors⟩ := first answer
      exact ⟨fun d binds => (bound d binds).bind rest, ih answer honors⟩

/-- An act under no duty before a program. -/
theorem honors_act {a : Act} {next : Ans a → Prog Ans ρ} (free : ∀ d, ¬ duties.binds d a)
    (honors : ∀ answer, (next answer).Honors duties) : (Prog.act a next).Honors duties :=
  fun answer => ⟨fun d binds => absurd binds (free d), honors answer⟩

end Prog

namespace Thread

def Owes (duties : Duties Act δ) (d : δ) : Thread Ans ρ ℓ → Prop
  | .running rest _ => rest.Owes duties d
  | _ => False

def Honors (duties : Duties Act δ) : Thread Ans ρ ℓ → Prop
  | .running rest _ => rest.Honors duties
  | _ => True

theorem Owes.inFlight {d : δ} {thread : Thread Ans ρ ℓ} (owes : thread.Owes duties d) :
    thread.inFlight = true := by
  cases thread with
  | running rest own => rfl
  | _ => exact owes.elim

end Thread

namespace Pool
variable [DecidableEq ι] [Inhabited ℓ] {sem : Semantics Ans ι σ ℓ} {program : ι → Prog Ans ρ}
  {ok : Pool Ans ι ρ σ ℓ → Event ι → Prop} {amiss : δ → σ → Prop} {start : σ}
  {events : List (Event ι)} {s t : Pool Ans ι ρ σ ℓ}

/-- Whatever is amiss, a thread is under the duty to put it right. -/
def Covered (duties : Duties Act δ) (amiss : δ → σ → Prop) (s : Pool Ans ι ρ σ ℓ) : Prop :=
  ∀ d, amiss d s.shared → ∃ i, (s.threads i).Owes duties d

theorem covered_step {e : Event ι} (covered : s.Covered duties amiss)
    (honor : ∀ i, (s.threads i).Honors duties)
    (prompt : ∀ a, sem.awaits a = true → duties.awaits a = true)
    (acts : ∀ {i a next own answer changed after}, e = .step i →
      s.threads i = .running (.act a next) own →
      sem.perform i a s.shared own = some (answer, changed, after) →
      ∀ d, amiss d changed → duties.binds d a ∨ amiss d s.shared ∧ ¬ duties.pays d a)
    (drops : ∀ i d before, amiss d (sem.abandon i before) → amiss d before)
    (moves : Moves sem program s e t) : t.Covered duties amiss := by
  -- a thread that does not move stays under its duties
  have others {i j : ι} {d : δ} {thread : Thread Ans ρ ℓ} {changed : σ}
      (owes : (s.threads j).Owes duties d) (other : j ≠ i) :
      ∃ k, (({ s with shared := changed }.set i thread).threads k).Owes duties d := by
    refine ⟨j, ?_⟩
    rw [set_threads_of_ne other]
    exact owes
  intro d wrong
  cases moves with
  | @start i idle =>
      obtain ⟨j, owes⟩ := covered d wrong
      apply others owes
      rintro rfl
      rw [idle] at owes
      exact owes
  | @ret i result own ready =>
      obtain ⟨j, owes⟩ := covered d wrong
      apply others owes
      rintro rfl
      rw [ready] at owes
      exact owes
  | @act i a next own answer changed after ready performed =>
      have honored := honor i
      rw [ready] at honored
      rcases acts rfl ready performed d wrong with binds | ⟨before, unpaid⟩
      · refine ⟨i, ?_⟩
        rw [set_threads_same]
        exact (honored answer).1 d binds
      · obtain ⟨j, owes⟩ := covered d before
        by_cases same : j = i
        · subst same
          rw [ready] at owes
          refine ⟨j, ?_⟩
          rw [set_threads_same]
          exact owes.2.resolve_left unpaid answer
        · exact others owes same
  | @drop i a next own ready awaits =>
      obtain ⟨j, owes⟩ := covered d (drops i d _ wrong)
      apply others owes
      rintro rfl
      rw [ready] at owes
      cases owes.1.symm.trans (prompt a awaits)

theorem honors_step {e : Event ι} (honor : ∀ i, (s.threads i).Honors duties)
    (programs : ∀ i, (program i).Honors duties) (moves : Moves sem program s e t) :
    ∀ i, (t.threads i).Honors duties := by
  cases moves with
  | @start i idle => exact forall_set.mpr ⟨programs i, fun j _ => honor j⟩
  | @ret i result own ready => exact forall_set.mpr ⟨trivial, fun j _ => honor j⟩
  | @act i a next own answer changed after ready performed =>
      have honored := honor i
      rw [ready] at honored
      exact forall_set.mpr ⟨(honored answer).2, fun j _ => honor j⟩
  | @drop i a next own ready awaits => exact forall_set.mpr ⟨trivial, fun j _ => honor j⟩

/-- Nothing is amiss once nothing is in flight. -/
theorem settled_of_run (duties : Duties Act δ) (run : Run (step sem program) ok (initial start) events t)
    (programs : ∀ i, (program i).Honors duties) (initially : ∀ d, ¬ amiss d start)
    (prompt : ∀ a, sem.awaits a = true → duties.awaits a = true)
    (acts : ∀ {s : Pool Ans ι ρ σ ℓ} {i a next own answer changed after}, ok s (.step i) →
      s.threads i = .running (.act a next) own →
      sem.perform i a s.shared own = some (answer, changed, after) →
      ∀ d, amiss d changed → duties.binds d a ∨ amiss d s.shared ∧ ¬ duties.pays d a)
    (drops : ∀ i d before, amiss d (sem.abandon i before) → amiss d before)
    (rest : ∀ i, (t.threads i).inFlight = false) (d : δ) : ¬ amiss d t.shared := by
  have kept := run.keeps (P := fun s => s.Covered duties amiss ∧ ∀ i, (s.threads i).Honors duties)
    ⟨fun d wrong => absurd wrong (initially d), fun _ => trivial⟩ ?_
  · intro wrong
    obtain ⟨i, owes⟩ := kept.1 d wrong
    cases (rest i).symm.trans owes.inFlight
  intro s e u held permitted stepped
  have moves := moves_of_step stepped
  refine ⟨covered_step held.1 held.2 prompt ?_ drops moves, honors_step held.2 programs moves⟩
  intro i a next own answer changed after here ready performed
  subst here
  exact acts permitted ready performed

end Pool
end Interleaving
