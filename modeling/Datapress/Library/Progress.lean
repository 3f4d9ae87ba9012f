import Datapress.Library.Machine

/-! Machines whose steps use up a measure: how long their runs are, and when they are at rest. -/
namespace Machine

variable {σ α : Type} {step : α → σ → Option σ} {ok : σ → α → Prop} {measure : σ → Nat}

/-- No step with such a label can be taken. -/
def Rests (step : α → σ → Option σ) (kind : α → Prop) (s : σ) : Prop :=
  ∀ a, kind a → step a s = none

/-- Each step of a run uses up some of the measure. -/
theorem Run.length_add_le {s t : σ} {labels : List α} (run : Run step ok s labels t)
    (decreases : ∀ {s a u}, ok s a → step a s = some u → measure u < measure s) :
    labels.length + measure t ≤ measure s := by
  induction run with
  | nil => simp only [List.length_nil, Nat.zero_add, Nat.le_refl]
  | snoc _ allowed stepped ih =>
      have less := decreases allowed stepped
      simp only [List.length_append, List.length_singleton]
      omega

end Machine
