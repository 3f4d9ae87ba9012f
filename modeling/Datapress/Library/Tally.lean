import Mathlib.Algebra.BigOperators.Group.List.Basic

/-! The sum of a quantity over the entries of a list, and what changing one entry does to it. -/
namespace Tally

variable {α M : Type} [AddCommMonoid M]

def total (f : α → M) (xs : List α) : M := (xs.map f).sum

@[simp] theorem total_append (f : α → M) (xs ys : List α) :
    total f (xs ++ ys) = total f xs + total f ys := by
  simp only [total, List.map_append, List.sum_append]

@[simp] theorem total_singleton (f : α → M) (x : α) : total f [x] = f x := by
  simp only [total, List.map_singleton, List.sum_singleton]

/-- What the changed entry counted before moves to the other side. -/
theorem total_set (f : α → M) {xs : List α} {i : Nat} {x : α} (here : xs[i]? = some x) (y : α) :
    total f (xs.set i y) + f x = total f xs + f y := by
  induction xs generalizing i with
  | nil => simp at here
  | cons head tail ih =>
      cases i with
      | zero =>
          obtain rfl : head = x := by simpa using here
          simp only [total, List.set_cons_zero, List.map_cons, List.sum_cons]
          rw [add_right_comm, add_comm (f y), add_right_comm]
      | succ i =>
          have later := ih (i := i) (by simpa using here)
          simp only [total, List.set_cons_succ, List.map_cons, List.sum_cons] at later ⊢
          rw [add_assoc, later, add_assoc]

theorem total_eq_zero {f : α → M} {xs : List α} (none : ∀ x ∈ xs, f x = 0) : total f xs = 0 := by
  induction xs with
  | nil => rfl
  | cons head tail ih =>
      obtain ⟨first, others⟩ := List.forall_mem_cons.mp none
      have rest := ih others
      simp only [total, List.map_cons, List.sum_cons] at rest ⊢
      rw [first, rest, add_zero]

end Tally
