import Mathlib.Data.List.Induction

/-! Runs of a machine whose labelled step is a partial function. A run may be
restricted to steps that meet a condition on the state before the step and its
label. Nothing here depends on a particular machine. -/
namespace Machine

variable {σ α : Type} {step : α → σ → Option σ} {ok : σ → α → Prop}

/-- The run that takes the labelled steps in order, each meeting the condition. -/
inductive Run (step : α → σ → Option σ) (ok : σ → α → Prop) : σ → List α → σ → Prop where
  | nil (s) : Run step ok s [] s
  | snoc {s labels t a u} : Run step ok s labels t → ok t a → step a t = some u →
      Run step ok s (labels ++ [a]) u

/-- No condition on the steps. -/
abbrev Anything (_ : σ) (_ : α) : Prop := True

namespace Run

theorem single {s u : σ} {a : α} (allowed : ok s a) (stepped : step a s = some u) :
    Run step ok s [a] u :=
  .snoc (.nil s) allowed stepped

theorem append {s t u : σ} {first second : List α} (before : Run step ok s first t)
    (after : Run step ok t second u) : Run step ok s (first ++ second) u := by
  induction after with
  | nil => simpa only [List.append_nil] using before
  | snoc _ allowed stepped ih =>
      rw [← List.append_assoc]
      exact .snoc ih allowed stepped

/-- An invariant of the labels so far and the state reached. -/
theorem invariant {P : List α → σ → Prop} {s t : σ} {labels : List α}
    (run : Run step ok s labels t) (initial : P [] s)
    (preserves : ∀ {before t a u}, P before t → ok t a → step a t = some u →
      P (before ++ [a]) u) : P labels t := by
  induction run with
  | nil => exact initial
  | snoc _ allowed stepped ih => exact preserves ih allowed stepped

/-- An invariant of the state alone. -/
theorem keeps {P : σ → Prop} {s t : σ} {labels : List α} (run : Run step ok s labels t)
    (initial : P s) (preserves : ∀ {t a u}, P t → ok t a → step a t = some u → P u) : P t :=
  run.invariant (P := fun _ => P) initial fun held allowed stepped => preserves held allowed stepped

/-- A run that ends with a label took that label last. -/
theorem last {s u : σ} {labels : List α} {a : α} (run : Run step ok s (labels ++ [a]) u) :
    ∃ t, Run step ok s labels t ∧ ok t a ∧ step a t = some u := by
  generalize whole : labels ++ [a] = all at run
  cases run with
  | nil => simp at whole
  | snoc before allowed stepped =>
      obtain ⟨rfl, rfl⟩ := List.append_inj' whole rfl |>.imp_right List.singleton_inj.mp
      exact ⟨_, before, allowed, stepped⟩

theorem split {s u : σ} {first second : List α} (run : Run step ok s (first ++ second) u) :
    ∃ t, Run step ok s first t ∧ Run step ok t second u := by
  induction second using List.reverseRecOn generalizing u with
  | nil => exact ⟨u, by simpa only [List.append_nil] using run, .nil u⟩
  | append_singleton second a ih =>
      rw [← List.append_assoc] at run
      obtain ⟨t, before, allowed, stepped⟩ := run.last
      obtain ⟨middle, early, late⟩ := ih before
      exact ⟨middle, early, .snoc late allowed stepped⟩

/-- The labels determine the state reached. -/
theorem unique {s t u : σ} {labels : List α} (first : Run step ok s labels t)
    (second : Run step ok s labels u) : t = u := by
  induction first generalizing u with
  | nil =>
      generalize empty : ([] : List α) = labels at second
      cases second with
      | nil => rfl
      | snoc => simp at empty
  | snoc _ _ stepped ih =>
      obtain ⟨middle, before, _, again⟩ := second.last
      obtain rfl := ih before
      exact Option.some.inj (stepped.symm.trans again)

/-- A run meets every condition that its steps imply. -/
theorem weaken {weaker : σ → α → Prop} {s t : σ} {labels : List α} (run : Run step ok s labels t)
    (implies : ∀ s a, ok s a → weaker s a) : Run step weaker s labels t := by
  induction run with
  | nil => exact .nil _
  | snoc _ allowed stepped ih => exact .snoc ih (implies _ _ allowed) stepped

/-- A run that meets two conditions meets both at every step. -/
theorem and {other : σ → α → Prop} {s t : σ} {labels : List α} (run : Run step ok s labels t)
    (again : Run step other s labels t) : Run step (fun s a => ok s a ∧ other s a) s labels t := by
  induction run with
  | nil => exact .nil _
  | snoc before allowed stepped ih =>
      obtain ⟨middle, first, met, _⟩ := again.last
      obtain rfl := (before.weaken fun _ _ _ => trivial : Run step Anything _ _ _).unique
        (first.weaken fun _ _ _ => trivial)
      exact .snoc (ih first) ⟨allowed, met⟩ stepped

/-- An invariant of a run makes its steps meet what they imply under it. -/
theorem strengthen {J : σ → Prop} {implied : σ → α → Prop} {s t : σ} {labels : List α}
    (run : Run step ok s labels t) (initial : J s)
    (keeps : ∀ {s a u}, J s → ok s a → step a s = some u → J u)
    (implies : ∀ {s a u}, J s → ok s a → step a s = some u → implied s a) :
    Run step implied s labels t ∧ J t := by
  induction run with
  | nil => exact ⟨.nil _, initial⟩
  | snoc _ allowed stepped ih =>
      exact ⟨.snoc ih.1 (implies ih.2 allowed stepped) stepped, keeps ih.2 allowed stepped⟩

/-- Conditions that agree on the steps of a run are met together. -/
theorem congr {other : σ → α → Prop} {s t : σ} {labels : List α}
    (same : ∀ s a, ok s a ↔ other s a) : Run step ok s labels t ↔ Run step other s labels t :=
  ⟨fun run => run.weaken fun s a => (same s a).mp, fun run => run.weaken fun s a => (same s a).mpr⟩

/-- Given what holds as long as the property does, a property that a step of the run keeps just
when it meets the condition holds all along the run just when it holds at the start and every step
meets the condition. -/
theorem always_iff_while {base : σ → α → Prop} {P J : σ → Prop} {s t : σ} {labels : List α}
    (run : Run step base s labels t) (sound : J s)
    (keeps : ∀ {s a u}, J s → P s → P u → step a s = some u → J u)
    (exact : ∀ {s a u}, J s → P s → base s a → step a s = some u → (P u ↔ ok s a)) :
    (∀ before u, before <+: labels → Run step Anything s before u → P u) ↔
      P s ∧ Run step ok s labels t := by
  constructor
  · intro always
    suffices both : Run step ok s labels t ∧ J t from
      ⟨always [] s List.nil_prefix (.nil s), both.1⟩
    induction run with
    | nil => exact ⟨.nil _, sound⟩
    | snoc before allowed stepped ih =>
        obtain ⟨early, invariant⟩ :=
          ih fun part u inside => always part u (inside.trans (List.prefix_append ..))
        have free := before.weaken fun _ _ _ => trivial
        have here := always _ _ (List.prefix_append ..) free
        have there := always _ _ (List.prefix_refl _) (.snoc free trivial stepped)
        exact ⟨.snoc early ((exact invariant here allowed stepped).mp there) stepped,
          keeps invariant here there stepped⟩
  · rintro ⟨start, met⟩ before u ⟨others, rfl⟩ early
    obtain ⟨middle, first, _⟩ := (run.and met).split
    obtain rfl := early.unique (first.weaken fun _ _ _ => trivial)
    refine (first.keeps (P := fun s => J s ∧ P s) ⟨sound, start⟩ ?_).2
    rintro s a u ⟨invariant, held⟩ ⟨allowed, met⟩ stepped
    have next := (exact invariant held allowed stepped).mpr met
    exact ⟨keeps invariant held next stepped, next⟩

theorem always_iff_within {base : σ → α → Prop} {P J : σ → Prop} {s t : σ} {labels : List α}
    (run : Run step base s labels t) (sound : J s)
    (keeps : ∀ {s a u}, J s → step a s = some u → J u)
    (exact : ∀ {s a u}, J s → P s → base s a → step a s = some u → (P u ↔ ok s a)) :
    (∀ before u, before <+: labels → Run step Anything s before u → P u) ↔
      P s ∧ Run step ok s labels t :=
  run.always_iff_while sound (fun invariant _ _ stepped => keeps invariant stepped) exact

theorem always_iff {P J : σ → Prop} {s t : σ} {labels : List α} (run : Run step Anything s labels t)
    (sound : J s) (keeps : ∀ {s a u}, J s → step a s = some u → J u)
    (exact : ∀ {s a u}, J s → P s → step a s = some u → (P u ↔ ok s a)) :
    (∀ before u, before <+: labels → Run step Anything s before u → P u) ↔
      P s ∧ Run step ok s labels t :=
  run.always_iff_within sound keeps fun invariant held _ stepped => exact invariant held stepped

end Run

/-- The state a list of labels leads to, when every step can be taken and meets the
condition. -/
def exec (step : α → σ → Option σ) (ok : σ → α → Prop) [∀ s a, Decidable (ok s a)] :
    List α → σ → Option σ
  | [], s => some s
  | a :: rest, s => if ok s a then (step a s).bind (exec step ok rest) else none

theorem run_of_exec [∀ s a, Decidable (ok s a)] {labels : List α} {s t : σ}
    (ran : exec step ok labels s = some t) : Run step ok s labels t := by
  induction labels generalizing s with
  | nil => cases ran; exact .nil _
  | cons a rest ih =>
      simp only [exec] at ran
      split at ran
      case isTrue allowed =>
        obtain ⟨middle, stepped, others⟩ := Option.bind_eq_some_iff.mp ran
        exact (Run.single allowed stepped).append (ih others)
      case isFalse => cases ran

theorem run_of_isSome [∀ s a, Decidable (ok s a)] {labels : List α} {s : σ}
    (ran : (exec step ok labels s).isSome) :
    Run step ok s labels ((exec step ok labels s).get ran) :=
  run_of_exec (Option.some_get ran).symm

end Machine
