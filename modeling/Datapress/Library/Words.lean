import Mathlib.Algebra.Ring.Nat

/-! Words of 64 bits: their order and bounds as natural numbers, and the steps of their
arithmetic that give nothing where the exact result is no word. -/
namespace Words

/-! ### Order -/

theorem toNat_max (a b : UInt64) : (max a b).toNat = max a.toNat b.toNat := by
  change (if a ≤ b then b else a).toNat = _
  split <;> rename_i order <;> rw [UInt64.le_iff_toNat_le] at order <;> omega

theorem toNat_min (a b : UInt64) : (min a b).toNat = min a.toNat b.toNat := by
  change (if a ≤ b then a else b).toNat = _
  split <;> rename_i order <;> rw [UInt64.le_iff_toNat_le] at order <;> omega

theorem toNat_one : (1 : UInt64).toNat = 1 := rfl

theorem one_le_iff {a : UInt64} : 1 ≤ a ↔ a ≠ 0 := by
  rw [UInt64.le_iff_toNat_le, ne_eq, ← UInt64.toNat_inj]
  change 1 ≤ a.toNat ↔ ¬ a.toNat = 0
  omega

theorem one_le_max (a : UInt64) : 1 ≤ max a 1 := by
  rw [UInt64.le_iff_toNat_le, toNat_max]
  exact Nat.le_max_right ..

theorem max_one_ne_zero (a : UInt64) : max a 1 ≠ 0 := one_le_iff.mp (one_le_max a)

theorem max_max_one (a : UInt64) : max (max a 1) 1 = max a 1 := by
  rw [← UInt64.toNat_inj]
  simp only [toNat_max, toNat_one]
  omega

/-- What is raised to one and then lowered to a bound stays as it is when that is done again,
with the bound raised. -/
theorem clamped_twice (value high : UInt64) :
    min (max (min (max value 1) (max high 1)) 1) (max high 1) =
      min (max value 1) (max high 1) := by
  rw [← UInt64.toNat_inj]
  simp only [toNat_min, toNat_max, toNat_one]
  omega

theorem clamped_bound {high : UInt64} (ordered : high ≠ 0) : max high 1 = high := by
  have least := one_le_iff.mpr ordered
  rw [UInt64.le_iff_toNat_le, toNat_one] at least
  rw [← UInt64.toNat_inj]
  simp only [toNat_max, toNat_one]
  omega

/-! ### Checked steps -/

def checkedMul (a b : UInt64) : Option UInt64 :=
  if a.toNat * b.toNat < 2 ^ 64 then some (a * b) else none

def checkedSub (a b : UInt64) : Option UInt64 :=
  if b ≤ a then some (a - b) else none

theorem checkedSub_max_one (a : UInt64) :
    checkedSub (max a 1) 1 = some (max a 1 - 1) ∧
      (max a 1 - 1).toNat = (max a 1).toNat - 1 := by
  have least := one_le_max a
  exact ⟨if_pos least, UInt64.toNat_sub_of_le _ _ least⟩

end Words
