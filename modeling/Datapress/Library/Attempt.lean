import Mathlib.Control.Basic

/-! Computations that change a state and may fail. A failure keeps the changes that were
made before it. Nothing here depends on a particular program. -/

def Attempt (σ ε α : Type) : Type := σ → Except ε α × σ

namespace Attempt
variable {σ ε α β : Type}

def bind (x : Attempt σ ε α) (f : α → Attempt σ ε β) : Attempt σ ε β := fun s =>
  match x s with
  | (.ok a, t) => f a t
  | (.error e, t) => (.error e, t)

instance : Monad (Attempt σ ε) where
  pure a s := (.ok a, s)
  bind := bind

/-- Fails or returns without looking at the state. -/
def lift (result : Except ε α) : Attempt σ ε α := fun s => (result, s)

/-- Reads the state. -/
def inspect (f : σ → Except ε α) : Attempt σ ε α := fun s => (f s, s)

/-- Goes on whether or not the computation failed. -/
def ignore (x : Attempt σ ε α) : Attempt σ ε Unit := fun s => (.ok (), (x s).2)

def modify (f : σ → σ) : Attempt σ ε Unit := fun s => (.ok (), f s)

/-- A change of the state that happens whole or not at all. -/
def atomic (f : σ → Except ε σ) : Attempt σ ε Unit := fun s =>
  match f s with
  | .ok t => (.ok (), t)
  | .error e => (.error e, s)

@[simp] theorem pure_run (a : α) (s : σ) : (pure a : Attempt σ ε α) s = (.ok a, s) := rfl

@[simp] theorem lift_run (result : Except ε α) (s : σ) : lift result s = (result, s) := rfl

@[simp] theorem ignore_run (x : Attempt σ ε α) (s : σ) : ignore x s = (.ok (), (x s).2) := rfl

@[simp] theorem modify_run (f : σ → σ) (s : σ) :
    (modify f : Attempt σ ε Unit) s = (.ok (), f s) := rfl

theorem atomic_run (f : σ → Except ε σ) (s : σ) : atomic f s =
    match f s with
    | .ok t => (.ok (), t)
    | .error e => (.error e, s) := rfl

/-! ### Preconditions -/

/-- From this state the computation ends with `ok` or fails with `bad`. -/
def wp (x : Attempt σ ε α) (ok : α → σ → Prop) (bad : ε → σ → Prop) (s : σ) : Prop :=
  match x s with
  | (.ok a, t) => ok a t
  | (.error e, t) => bad e t

section
variable {ok : α → σ → Prop} {bad : ε → σ → Prop} {s : σ}

theorem wp_iff {x : Attempt σ ε α} : x.wp ok bad s ↔
    (∀ a t, x s = (.ok a, t) → ok a t) ∧ ∀ e t, x s = (.error e, t) → bad e t := by
  rcases ran : x s with ⟨e | a, t⟩ <;> rw [wp, ran]
  · constructor
    · intro held
      refine ⟨nofun, fun _ _ same => ?_⟩
      cases same
      exact held
    · intro ⟨_, failed⟩
      exact failed e t rfl
  · constructor
    · intro held
      refine ⟨fun _ _ same => ?_, nofun⟩
      cases same
      exact held
    · intro ⟨ended, _⟩
      exact ended a t rfl

theorem wp_mono {x : Attempt σ ε α} {ok' : α → σ → Prop} {bad' : ε → σ → Prop}
    (held : x.wp ok bad s) (more : ∀ a t, ok a t → ok' a t) (worse : ∀ e t, bad e t → bad' e t) :
    x.wp ok' bad' s := by
  obtain ⟨ended, failed⟩ := wp_iff.mp held
  exact wp_iff.mpr ⟨fun a t ran => more a t (ended a t ran), fun e t ran => worse e t (failed e t ran)⟩

theorem wp_congr {x : Attempt σ ε α} {ok' : α → σ → Prop} (same : ∀ a t, ok a t ↔ ok' a t) :
    x.wp ok bad s ↔ x.wp ok' bad s :=
  ⟨fun held => wp_mono held (fun a t => (same a t).mp) fun _ _ => id,
    fun held => wp_mono held (fun a t => (same a t).mpr) fun _ _ => id⟩

theorem wp_snd {x : Attempt σ ε α} {P : σ → Prop} :
    x.wp (fun _ => P) (fun _ => P) s ↔ P (x s).2 := by
  rcases ran : x s with ⟨_ | _, t⟩ <;> rw [wp, ran]

@[simp] theorem wp_pure {a : α} : (pure a : Attempt σ ε α).wp ok bad s ↔ ok a s := Iff.rfl

@[simp] theorem wp_bind {x : Attempt σ ε β} {f : β → Attempt σ ε α} :
    (x >>= f).wp ok bad s ↔ x.wp (fun b t => (f b).wp ok bad t) bad s := by
  show (match bind x f s with | (.ok a, t) => ok a t | (.error e, t) => bad e t) ↔ _
  rcases ran : x s with ⟨e | b, t⟩ <;> rw [bind, wp, ran]
  rfl

@[simp] theorem wp_map {x : Attempt σ ε β} {f : β → α} :
    (f <$> x).wp ok bad s ↔ x.wp (fun b t => ok (f b) t) bad s :=
  wp_bind

@[simp] theorem wp_lift {result : Except ε α} : (lift result).wp ok bad s ↔
    match result with
    | .ok a => ok a s
    | .error e => bad e s := by
  cases result <;> rfl

@[simp] theorem wp_inspect {f : σ → Except ε α} : (inspect f).wp ok bad s ↔
    match f s with
    | .ok a => ok a s
    | .error e => bad e s := by
  cases ran : f s <;> simp only [wp, inspect, ran]

@[simp] theorem wp_modify {ok : Unit → σ → Prop} {f : σ → σ} :
    (modify f : Attempt σ ε Unit).wp ok bad s ↔ ok () (f s) := Iff.rfl

@[simp] theorem wp_ignore {ok : Unit → σ → Prop} {x : Attempt σ ε α} :
    (ignore x).wp ok bad s ↔ x.wp (fun _ t => ok () t) (fun _ t => ok () t) s := by
  rcases ran : x s with ⟨_ | _, t⟩ <;> simp only [wp, ignore_run, ran]

@[simp] theorem wp_atomic {ok : Unit → σ → Prop} {f : σ → Except ε σ} :
    (atomic f).wp ok bad s ↔
      match f s with
      | .ok t => ok () t
      | .error e => bad e s := by
  cases ran : f s <;> simp only [wp, atomic_run, ran]

end
end Attempt
