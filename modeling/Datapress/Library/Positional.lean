import Mathlib.Data.Nat.ModEq
import Mathlib.Data.List.Lex
import Mathlib.Order.Basic

/-! Positional notation with a fixed number of digits: its lexicographic order is that of the
numbers. Nothing here depends on a particular base or alphabet. -/
namespace Positional

/-- The last digits of a number, the most significant one first. -/
def digits (b : Nat) : Nat → Nat → List Nat
  | 0, _ => []
  | len + 1, n => n / b ^ len % b :: digits b len n

variable {b : Nat}

@[simp] theorem length_digits (len n : Nat) : (digits b len n).length = len := by
  induction len with
  | zero => rfl
  | succ len ih => rw [digits, List.length_cons, ih]

theorem lt_of_mem_digits (pos : 0 < b) {len n d : Nat} (member : d ∈ digits b len n) : d < b := by
  induction len with
  | zero => cases member
  | succ len ih =>
      rcases List.mem_cons.mp member with rfl | later
      · exact Nat.mod_lt _ pos
      · exact ih later

/-- The first digits are those of the number without the last ones. -/
theorem take_digits (len k n : Nat) :
    (digits b (len + k) n).take len = digits b len (n / b ^ k) := by
  induction len with
  | zero => rfl
  | succ len ih =>
      rw [Nat.add_right_comm, digits, digits, List.take_succ_cons, ih, Nat.div_div_eq_div_mul,
        ← Nat.pow_add, Nat.add_comm k len]

/-- A digit weighs more than all digits behind it. -/
theorem weighs {p q q' r r' : Nat} (small : r < p) (small' : r' < p) :
    r + p * q < r' + p * q' ↔ q < q' ∨ q = q' ∧ r < r' := by
  rcases Nat.lt_trichotomy q q' with less | rfl | more
  · have step : p * q + p ≤ p * q' := by
      rw [← Nat.mul_succ]
      exact Nat.mul_le_mul_left p less
    exact iff_of_true (by omega) (.inl less)
  · omega
  · have step : p * q' + p ≤ p * q := by
      rw [← Nat.mul_succ]
      exact Nat.mul_le_mul_left p more
    omega

/-- The lexicographic order is the order of what the digits tell. -/
theorem digits_lt_iff (pos : 0 < b) {len n m : Nat} :
    digits b len n < digits b len m ↔ n % b ^ len < m % b ^ len := by
  induction len with
  | zero => simp only [digits, List.not_lt_nil, Nat.pow_zero, Nat.mod_one, Nat.lt_irrefl]
  | succ len ih =>
      have small (k : Nat) : k % b ^ len < b ^ len := Nat.mod_lt _ (Nat.pow_pos pos)
      rw [digits, digits, List.cons_lt_cons_iff, ih, Nat.pow_succ, Nat.mod_mul, Nat.mod_mul,
        weighs (small n) (small m)]

theorem digits_inj (pos : 0 < b) {len n m : Nat} :
    digits b len n = digits b len m ↔ n % b ^ len = m % b ^ len := by
  constructor
  · intro same
    rcases Nat.lt_trichotomy (n % b ^ len) (m % b ^ len) with less | equal | more
    · exact absurd (same ▸ (digits_lt_iff pos).mpr less) (List.lt_irrefl _)
    · exact equal
    · exact absurd (same ▸ (digits_lt_iff pos).mpr more) (List.lt_irrefl _)
  · intro same
    induction len with
    | zero => rfl
    | succ len ih =>
        rw [Nat.pow_succ] at same
        have last : n % b ^ len = m % b ^ len := by
          have cut := congrArg (· % b ^ len) same
          simpa only [Nat.mod_mul_right_mod] using cut
        rw [Nat.mod_mul, Nat.mod_mul, last] at same
        have first := Nat.eq_of_mul_eq_mul_left (Nat.pow_pos pos) (Nat.add_left_cancel same)
        rw [digits, digits, first, ih last]

/-- Texts of one length compare part by part. -/
theorem append_lt_append {α : Type} [LinearOrder α] {l l' r r' : List α}
    (length : l.length = l'.length) : l ++ r < l' ++ r' ↔ l < l' ∨ l = l' ∧ r < r' := by
  induction l generalizing l' with
  | nil =>
      obtain rfl := List.length_eq_zero_iff.mp length.symm
      simp only [List.nil_append, List.not_lt_nil, true_and, false_or]
  | cons a l ih =>
      cases l' with
      | nil => cases length
      | cons a' l' =>
          rw [List.cons_append, List.cons_append, List.cons_lt_cons_iff, List.cons_lt_cons_iff,
            ih (Nat.succ.inj length), List.cons.injEq]
          tauto

theorem append_inj_iff {α : Type} {l l' r r' : List α} (length : l.length = l'.length) :
    l ++ r = l' ++ r' ↔ l = l' ∧ r = r' := by
  constructor
  · intro same
    exact List.append_inj same length
  · rintro ⟨rfl, rfl⟩
    rfl

/-- An alphabet in order keeps the order of the digits. -/
theorem map_lt_map {α : Type} [LinearOrder α] {f : Nat → α} {l l' : List Nat}
    (mono : ∀ i < b, ∀ j < b, i < j → f i < f j) (bound : ∀ d ∈ l, d < b)
    (bound' : ∀ d ∈ l', d < b) : l.map f < l'.map f ↔ l < l' := by
  induction l generalizing l' with
  | nil =>
      cases l' with
      | nil => simp only [List.map_nil, List.not_lt_nil]
      | cons d' l' => simp only [List.map_nil, List.map_cons, List.nil_lt_cons]
  | cons d l ih =>
      cases l' with
      | nil => simp only [List.map_nil, List.not_lt_nil]
      | cons d' l' =>
          obtain ⟨small, bound⟩ := List.forall_mem_cons.mp bound
          obtain ⟨small', bound'⟩ := List.forall_mem_cons.mp bound'
          rw [List.map_cons, List.map_cons, List.cons_lt_cons_iff, List.cons_lt_cons_iff,
            ih bound bound']
          rcases Nat.lt_trichotomy d d' with less | rfl | more
          · exact iff_of_true (.inl (mono d small d' small' less)) (.inl less)
          · simp only [lt_self_iff_false]
          · have above := mono d' small' d small more
            simp only [not_lt_of_gt above, above.ne', not_lt_of_gt more, more.ne', false_and]

theorem map_inj {α : Type} [LinearOrder α] {f : Nat → α} {l l' : List Nat}
    (mono : ∀ i < b, ∀ j < b, i < j → f i < f j) (bound : ∀ d ∈ l, d < b)
    (bound' : ∀ d ∈ l', d < b) : l.map f = l'.map f ↔ l = l' := by
  constructor
  · intro same
    by_contra different
    rcases lt_or_gt_of_ne different with less | more
    · exact absurd same ((map_lt_map mono bound bound').mpr less).ne
    · exact absurd same.symm ((map_lt_map mono bound' bound).mpr more).ne
  · exact congrArg (List.map f)

end Positional
