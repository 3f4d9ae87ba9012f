import Mathlib.Data.Int.Log
import Mathlib.Data.Rat.Floor
import Mathlib.Tactic.Linarith
import Mathlib.Tactic.FieldSimp
import Mathlib.Tactic.NormNum

/-! Rounding to binary64: to the nearest number of 53 binary digits, and of two equally near ones
to the even one. The exponent is unbounded, as it is for results that are zero or in the normal
range. -/
namespace Binary64

/-! ### Whole numbers -/

/-- The nearest natural number, of two the even one. -/
def nearest (x : ℚ) : ℕ :=
  let n := ⌊x⌋₊
  if x - n < 1 / 2 ∨ x - n = 1 / 2 ∧ n % 2 = 0 then n else n + 1

theorem nearest_error {x : ℚ} (nonneg : 0 ≤ x) : |(nearest x : ℚ) - x| ≤ 1 / 2 := by
  have low := Nat.floor_le nonneg
  have high := Nat.lt_floor_add_one x
  rw [nearest, abs_le]
  split
  case isTrue near =>
      have half : x - ⌊x⌋₊ ≤ 1 / 2 := near.elim le_of_lt fun tie => tie.1.le
      constructor <;> linarith
  case isFalse far =>
      have half : 1 / 2 ≤ x - ⌊x⌋₊ := not_lt.mp fun near => far (.inl near)
      push_cast
      constructor <;> linarith

theorem nearest_natCast (n : ℕ) : nearest n = n := by
  rw [nearest, Nat.floor_natCast, sub_self]
  exact if_pos (.inl (by norm_num))

theorem nearest_mono {x y : ℚ} (le : x ≤ y) : nearest x ≤ nearest y := by
  have floors := Nat.floor_le_floor le
  have high (z : ℚ) : nearest z ≤ ⌊z⌋₊ + 1 := by
    rw [nearest]
    split <;> omega
  have low (z : ℚ) : ⌊z⌋₊ ≤ nearest z := by
    rw [nearest]
    split <;> omega
  rcases Nat.lt_or_eq_of_le floors with below | same
  · exact (high x).trans (Nat.succ_le_of_lt below |>.trans (low y))
  · -- both are rounded from one floor, and `y` goes up where `x` does
    rw [nearest, nearest, ← same]
    split
    case isTrue => split <;> omega
    case isFalse far =>
        have up : ¬ (y - ⌊x⌋₊ < 1 / 2 ∨ y - ⌊x⌋₊ = 1 / 2 ∧ ⌊x⌋₊ % 2 = 0) := by
          rintro (near | ⟨tie, even⟩)
          · exact far (.inl (by linarith))
          · rcases lt_or_eq_of_le (show x - ⌊x⌋₊ ≤ 1 / 2 by linarith) with near | tie
            · exact far (.inl near)
            · exact far (.inr ⟨tie, even⟩)
        rw [if_neg up]

/-! ### Magnitudes -/

/-- The weight of the last of 53 digits. -/
def unit (q : ℚ) : ℚ := 2 ^ (Int.log 2 q - 52)

def roundPos (q : ℚ) : ℚ := nearest (q / unit q) * unit q

theorem unit_pos (q : ℚ) : 0 < unit q :=
  zpow_pos two_pos _

/-- A positive number has 53 digits before the point, in its units. -/
theorem unit_spec {q : ℚ} (pos : 0 < q) : 2 ^ 52 * unit q ≤ q ∧ q < 2 ^ 53 * unit q := by
  have low := Int.zpow_log_le_self (b := 2) (by decide) pos
  have high := Int.lt_zpow_succ_log_self (b := 2) (by decide) q
  have scale (k : ℕ) : (2 : ℚ) ^ k * unit q = 2 ^ (Int.log 2 q - 52 + k) := by
    rw [unit, zpow_add₀ two_ne_zero, zpow_natCast, mul_comm]
  have exponent : Int.log 2 q - 52 + (53 : ℕ) = Int.log 2 q + 1 := by omega
  have exponent' : Int.log 2 q - 52 + (52 : ℕ) = Int.log 2 q := by omega
  rw [scale, scale, exponent, exponent']
  exact ⟨low, high⟩

theorem roundPos_zero : roundPos 0 = 0 := by
  rw [roundPos, zero_div, show nearest 0 = 0 from nearest_natCast 0, Nat.cast_zero, zero_mul]

theorem roundPos_nonneg (q : ℚ) : 0 ≤ roundPos q :=
  mul_nonneg (Nat.cast_nonneg _) (unit_pos q).le

/-- What a positive number is rounded to, in its units. -/
theorem roundPos_bounds {q : ℚ} (pos : 0 < q) :
    2 ^ 52 * unit q ≤ roundPos q ∧ roundPos q ≤ 2 ^ 53 * unit q := by
  obtain ⟨low, high⟩ := unit_spec pos
  have least : ((2 ^ 52 : ℕ) : ℚ) ≤ q / unit q := by
    rw [le_div_iff₀ (unit_pos q)]
    exact_mod_cast low
  have most : q / unit q ≤ ((2 ^ 53 : ℕ) : ℚ) := by
    rw [div_le_iff₀ (unit_pos q)]
    exact_mod_cast high.le
  have from_below := nearest_mono least
  have from_above := nearest_mono most
  rw [nearest_natCast] at from_below from_above
  constructor
  · exact mul_le_mul_of_nonneg_right (by exact_mod_cast from_below) (unit_pos q).le
  · exact mul_le_mul_of_nonneg_right (by exact_mod_cast from_above) (unit_pos q).le

theorem roundPos_mono {p q : ℚ} (nonneg : 0 ≤ p) (le : p ≤ q) : roundPos p ≤ roundPos q := by
  rcases nonneg.eq_or_lt with rfl | pos
  · rw [roundPos_zero]
    exact roundPos_nonneg q
  · rcases Int.log_mono_right (b := 2) pos le |>.eq_or_lt with same | below
    · have units : unit p = unit q := by rw [unit, unit, same]
      rw [roundPos, roundPos, units]
      have scaled : p / unit q ≤ q / unit q := div_le_div_of_nonneg_right le (unit_pos q).le
      have steps := nearest_mono scaled
      exact mul_le_mul_of_nonneg_right (by exact_mod_cast steps) (unit_pos q).le
    · -- a power of two lies between them
      have units : 2 ^ 53 * unit p ≤ 2 ^ 52 * unit q := by
        have apart : (2 : ℚ) ^ (Int.log 2 p - 52 + 1) ≤ 2 ^ (Int.log 2 q - 52) :=
          zpow_le_zpow_right₀ one_le_two (by omega)
        rw [zpow_add₀ two_ne_zero, zpow_one] at apart
        unfold unit
        linarith
      exact (roundPos_bounds pos).2.trans (units.trans (roundPos_bounds (pos.trans_le le)).1)

theorem roundPos_error {q : ℚ} (nonneg : 0 ≤ q) : |roundPos q - q| ≤ q * (1 / 2) ^ 53 := by
  rcases nonneg.eq_or_lt with rfl | pos
  · rw [roundPos_zero]
    norm_num
  · obtain ⟨low, _⟩ := unit_spec pos
    have near := nearest_error (div_pos pos (unit_pos q)).le
    have scaled : roundPos q - q = (nearest (q / unit q) - q / unit q) * unit q := by
      rw [roundPos, sub_mul, div_mul_cancel₀ _ (unit_pos q).ne']
    rw [scaled, abs_mul, abs_of_pos (unit_pos q)]
    calc
      _ ≤ 1 / 2 * unit q := mul_le_mul_of_nonneg_right near (unit_pos q).le
      _ = 2 ^ 52 * unit q * (1 / 2) ^ 53 := by ring
      _ ≤ _ := mul_le_mul_of_nonneg_right low (by positivity)

/-! ### Signed numbers -/

def rounded (q : ℚ) : ℚ := if q < 0 then -roundPos (-q) else roundPos q

theorem rounded_of_nonneg {q : ℚ} (nonneg : 0 ≤ q) : rounded q = roundPos q :=
  if_neg nonneg.not_gt

theorem rounded_neg (q : ℚ) : rounded (-q) = -rounded q := by
  rcases lt_trichotomy q 0 with negative | rfl | positive
  · rw [rounded_of_nonneg (by linarith), rounded, if_pos negative, neg_neg]
  · rw [neg_zero, rounded_of_nonneg le_rfl, roundPos_zero, neg_zero]
  · rw [rounded, if_pos (by linarith), neg_neg, rounded_of_nonneg positive.le]

theorem rounded_nonneg {q : ℚ} (nonneg : 0 ≤ q) : 0 ≤ rounded q := by
  rw [rounded_of_nonneg nonneg]
  exact roundPos_nonneg q

theorem rounded_mono {p q : ℚ} (le : p ≤ q) : rounded p ≤ rounded q := by
  by_cases negative : p < 0
  · rw [rounded, if_pos negative]
    by_cases both : q < 0
    · rw [rounded, if_pos both, neg_le_neg_iff]
      exact roundPos_mono (by linarith) (by linarith)
    · rw [rounded, if_neg both]
      exact (neg_nonpos.mpr (roundPos_nonneg _)).trans (roundPos_nonneg _)
  · have nonneg := not_lt.mp negative
    rw [rounded_of_nonneg nonneg, rounded_of_nonneg (nonneg.trans le)]
    exact roundPos_mono nonneg le

/-- The error is at most one part in `2 ^ 53`. -/
theorem rounded_error (q : ℚ) : |rounded q - q| ≤ |q| * (1 / 2) ^ 53 := by
  by_cases negative : q < 0
  · have error := roundPos_error (q := -q) (by linarith)
    rw [rounded, if_pos negative, abs_of_neg negative, show -roundPos (-q) - q =
      -(roundPos (-q) - -q) by ring, abs_neg]
    exact error
  · have nonneg := not_lt.mp negative
    rw [rounded_of_nonneg nonneg, abs_of_nonneg nonneg]
    exact roundPos_error nonneg

end Binary64
