import Mathlib.Tactic.IntervalCases
import Datapress.Config.Durations
import Datapress.Library.Binary64

/-! The arithmetic of the scheduler: backoff, jitter and the instants of the next fire, of a
debounce and of a time to live. Durations and instants are nanoseconds; none where a step of the
standard library panics. -/
namespace Datapress.Refresh.Delays
open Binary64 (nearest rounded)

/-- The first number of nanoseconds that is no `Duration`. -/
def durationEnd : Nat := 2 ^ 64 * 10 ^ 9

/-- The first one that is no instant: the seconds of an instant are an `i64`, on Unix. -/
def instantEnd : Nat := 2 ^ 63 * 10 ^ 9

def ofMillis (ms : Nat) : Nat := ms * 10 ^ 6

/-- `Duration * u32` -/
def times (base factor : Nat) : Option Nat :=
  if base * factor < durationEnd then some (base * factor) else none

/-- `Instant + Duration`, and `SystemTime + Duration`. -/
def after (instant delay : Nat) : Option Nat :=
  if instant + delay < instantEnd then some (instant + delay) else none

/-- The shift is by less than the width. -/
def backoffInterval (base : Nat) (consecutiveFailures : UInt32) : Option Nat :=
  times base (1 <<< min consecutiveFailures.toNat 3)

/-- `next_f64` of the next bits of the generator: both its steps are exact. -/
def nextF64 (bits : UInt64) : ℚ := (bits >>> 11).toNat / 2 ^ 53

def asSecsF64 (d : Nat) : ℚ :=
  rounded (rounded (d / 10 ^ 9 : ℕ) + rounded ((d % 10 ^ 9 : ℕ) / 10 ^ 9))

/-- `from_secs_f64` rounds to the nearest nanosecond; the argument is not negative here. -/
def fromSecsF64 (secs : ℚ) : Option Nat :=
  if nearest (secs * 10 ^ 9) < durationEnd then some (nearest (secs * 10 ^ 9)) else none

/-- The seconds that the bits make of a delay. -/
def jitteredSecs (base : Nat) (bits : UInt64) : ℚ :=
  let secs := asSecsF64 base
  let delta := rounded (rounded (rounded (nextF64 bits - 1 / 2) * rounded (1 / 5)) * secs)
  max (rounded (secs + delta)) (rounded (1 / 1000))

def jittered (base : Nat) (apply : Bool) (bits : UInt64) : Option Nat :=
  if !apply || base = 0 then some base else fromSecsF64 (jitteredSecs base bits)

/-- The times that are read while a schedule fires, and where a schedule starts, a dependency
publishes and a query is created. -/
structure Clock where
  started : Nat
  tickStart : Nat
  now : Nat
  wall : Nat
  published : Nat
  created : Nat

/-- The first fire of a schedule. -/
def firstFire (clock : Clock) (interval : Nat) (jitter : Bool) (bits : UInt64) : Option Nat := do
  after clock.started (← jittered interval jitter bits)

/-- The next fire after a tick, as an instant and as the time that the record shows. -/
def nextFire (clock : Clock) (interval : Nat) (failures : UInt32) (jitter : Bool)
    (bits : UInt64) : Option (Nat × Nat) := do
  let next ← backoffInterval interval failures
  let fireAt ← after clock.tickStart (← jittered next jitter bits)
  let fireWall ← after clock.wall (fireAt - clock.now)
  some (fireAt, fireWall)

/-- Within 10 percent. The floor of 1 ms needs no exception for whole milliseconds. -/
def Within (base delay : Nat) : Prop := 9 * base ≤ 10 * delay ∧ 10 * delay ≤ 11 * base

/-- The arithmetic neither panics nor leaves its bounds, for every number of failures and all
bits of the generator. -/
structure Sound (clock : Clock) (interval debounce ttl : Nat) : Prop where
  starts : ∀ jitter bits, (firstFire clock interval jitter bits).isSome
  fires : ∀ failures jitter bits, (nextFire clock interval failures jitter bits).isSome
  debounces : (after clock.published debounce).isSome
  expires : (after clock.created ttl).isSome
  delays : ∀ failures delay, backoffInterval interval failures = some delay →
    interval ≤ delay ∧ delay ≤ 8 * interval
  monotone : ∀ failures more delay longer, failures ≤ more →
    backoffInterval interval failures = some delay →
    backoffInterval interval more = some longer → delay ≤ longer
  jitters : ∀ failures delay jitter bits fired, backoffInterval interval failures = some delay →
    jittered delay jitter bits = some fired → Within delay fired

/-! ### Conditions -/

/-- A tenth in binary64, and a tenth less one step of the generator. -/
def tenth : ℚ := 7205759403792794 / 2 ^ 56

def nearlyTenth : ℚ := 7205759403792792 / 2 ^ 56

/-- Nine tenths of a delay. Binary64 no longer tells the nanoseconds of a long one apart. -/
def nineTenths (base : Nat) : Nat :=
  if base ≤ 10 ^ 15 then 9 * base / 10
  else
    let secs := asSecsF64 base
    nearest (rounded (secs - rounded (tenth * secs)) * 10 ^ 9)

def elevenTenths (base : Nat) : Nat :=
  if base ≤ 10 ^ 15 then 11 * base / 10
  else
    let secs := asSecsF64 base
    nearest (rounded (secs + rounded (nearlyTenth * secs)) * 10 ^ 9)

/-- What is rounded at both ends of the band does not leave it. -/
def Rounds (base : Nat) : Prop :=
  9 * base ≤ 10 * nineTenths base ∧ 10 * elevenTenths base ≤ 11 * base

/-- A delay and its eleven tenths are delays of the clock. -/
structure Fits (clock : Clock) (base : Nat) : Prop where
  delay : elevenTenths base < durationEnd
  fires : clock.tickStart + elevenTenths base < instantEnd
  shown : clock.wall + (clock.tickStart + elevenTenths base - clock.now) < instantEnd

structure Bounded (clock : Clock) (interval debounce ttl : Nat) : Prop where
  starts : clock.started + elevenTenths interval < instantEnd
  fires : ∀ factor ∈ [1, 2, 4, 8], Fits clock (interval * factor)
  rounds : ∀ factor ∈ [1, 2, 4, 8], Rounds (interval * factor)
  debounces : clock.published + debounce < instantEnd
  expires : clock.created + ttl < instantEnd

/-! ### Backoff -/

theorem shift_mem (failures : UInt32) : 1 <<< min failures.toNat 3 ∈ [1, 2, 4, 8] := by
  have few : min failures.toNat 3 ≤ 3 := Nat.min_le_right ..
  generalize min failures.toNat 3 = n at few ⊢
  interval_cases n <;> decide

theorem times_eq_some_iff {base factor delay : Nat} :
    times base factor = some delay ↔ base * factor < durationEnd ∧ base * factor = delay := by
  rw [times, Option.ite_none_right_eq_some, Option.some.injEq]

theorem after_isSome_iff {instant delay : Nat} :
    (after instant delay).isSome ↔ instant + delay < instantEnd := by
  rw [after]
  split
  case isTrue fits => exact iff_of_true rfl fits
  case isFalse late => exact iff_of_false Bool.false_ne_true late

theorem backoff_delays {interval delay : Nat} {failures : UInt32}
    (backoff : backoffInterval interval failures = some delay) :
    interval ≤ delay ∧ delay ≤ 8 * interval := by
  obtain ⟨_, rfl⟩ := times_eq_some_iff.mp backoff
  have member := shift_mem failures
  generalize 1 <<< min failures.toNat 3 = factor at member ⊢
  simp only [List.mem_cons, List.not_mem_nil, or_false] at member
  rcases member with rfl | rfl | rfl | rfl <;> omega

theorem backoff_monotone {interval delay longer : Nat} {failures more : UInt32}
    (ordered : failures ≤ more) (backoff : backoffInterval interval failures = some delay)
    (backoff' : backoffInterval interval more = some longer) : delay ≤ longer := by
  obtain ⟨_, rfl⟩ := times_eq_some_iff.mp backoff
  obtain ⟨_, rfl⟩ := times_eq_some_iff.mp backoff'
  rw [UInt32.le_iff_toNat_le] at ordered
  apply Nat.mul_le_mul_left
  rw [Nat.one_shiftLeft, Nat.one_shiftLeft]
  exact Nat.pow_le_pow_right two_pos (by omega)

/-! ### Jitter -/

theorem nextF64_mono {bits more : UInt64} (le : bits ≤ more) : nextF64 bits ≤ nextF64 more := by
  have shifted : (bits >>> 11).toNat ≤ (more >>> 11).toNat := by
    rw [UInt64.toNat_shiftRight, UInt64.toNat_shiftRight, Nat.shiftRight_eq_div_pow,
      Nat.shiftRight_eq_div_pow]
    exact Nat.div_le_div_right (UInt64.le_iff_toNat_le.mp le)
  exact div_le_div_of_nonneg_right (by exact_mod_cast shifted) (by positivity)

theorem asSecsF64_nonneg (d : Nat) : 0 ≤ asSecsF64 d := by
  apply Binary64.rounded_nonneg
  apply add_nonneg
  · exact Binary64.rounded_nonneg (Nat.cast_nonneg _)
  · exact Binary64.rounded_nonneg (by positivity)

/-- Every step of the jitter is monotone in the bits. -/
theorem jitteredSecs_mono {base : Nat} {bits more : UInt64} (le : bits ≤ more) :
    jitteredSecs base bits ≤ jitteredSecs base more := by
  have fifth : 0 ≤ rounded (1 / 5) := Binary64.rounded_nonneg (by norm_num)
  have centred : rounded (nextF64 bits - 1 / 2) ≤ rounded (nextF64 more - 1 / 2) :=
    Binary64.rounded_mono (sub_le_sub_right (nextF64_mono le) _)
  have scaled := Binary64.rounded_mono (mul_le_mul_of_nonneg_right centred fifth)
  have delta := Binary64.rounded_mono
    (mul_le_mul_of_nonneg_right scaled (asSecsF64_nonneg base))
  exact max_le_max_right _ (Binary64.rounded_mono (add_le_add_right delta _))

/-- The delay with the bits of the generator at one end. -/
def endpoint (base : Nat) (bits : UInt64) : Nat :=
  if base = 0 then 0 else nearest (jitteredSecs base bits * 10 ^ 9)

def lowest (base : Nat) : Nat := endpoint base 0

def highest (base : Nat) : Nat := endpoint base (.ofNat (2 ^ 64 - 1))

theorem endpoint_mono {base : Nat} {bits more : UInt64} (le : bits ≤ more) :
    endpoint base bits ≤ endpoint base more := by
  unfold endpoint
  split
  case isTrue => rfl
  case isFalse =>
      apply Binary64.nearest_mono
      exact mul_le_mul_of_nonneg_right (jitteredSecs_mono le) (by positivity)

theorem endpoint_between (base : Nat) (bits : UInt64) :
    lowest base ≤ endpoint base bits ∧ endpoint base bits ≤ highest base := by
  constructor
  · apply endpoint_mono
    rw [UInt64.le_iff_toNat_le]
    exact Nat.zero_le _
  · apply endpoint_mono
    rw [UInt64.le_iff_toNat_le]
    exact Nat.le_of_lt_succ bits.toNat_lt

/-- A jittered delay is the one of its bits, where that is a `Duration`. -/
theorem jittered_eq {base : Nat} (small : base < durationEnd) (jitter : Bool) (bits : UInt64) :
    jittered base jitter bits =
      let delay := if jitter then endpoint base bits else base
      if delay < durationEnd then some delay else none := by
  cases jitter with
  | false => exact (if_pos small).symm
  | true =>
      by_cases zero : base = 0
      · subst zero
        exact (if_pos small).symm
      · simp only [jittered, endpoint, fromSecsF64, zero, Bool.not_true, decide_false,
          Bool.or_self, Bool.false_eq_true, if_false, if_true]

/-! ### Errors -/

/-- The relative error of one rounding. -/
abbrev ulp : ℚ := (1 / 2) ^ 53

theorem abs_rounded_le {x bound : ℚ} (le : |x| ≤ bound) : |rounded x| ≤ bound * (1 + ulp) := by
  have error : |rounded x - x| ≤ |x| * ulp := Binary64.rounded_error x
  have scaled : |x| * ulp ≤ bound * ulp := mul_le_mul_of_nonneg_right le (by positivity)
  calc
    |rounded x| = |rounded x - x + x| := by rw [sub_add_cancel]
    _ ≤ |rounded x - x| + |x| := abs_add_le _ _
    _ ≤ _ := by rw [mul_add, mul_one]; linarith

theorem asSecsF64_error (d : Nat) :
    |asSecsF64 d - d / 10 ^ 9| ≤ d / 10 ^ 9 * (21 / 10 * ulp) := by
  have parts : (d : ℚ) / 10 ^ 9 = (d / 10 ^ 9 : ℕ) + (d % 10 ^ 9 : ℕ) / 10 ^ 9 := by
    have whole : (d : ℚ) = 10 ^ 9 * (d / 10 ^ 9 : ℕ) + (d % 10 ^ 9 : ℕ) := by
      exact_mod_cast (Nat.div_add_mod d (10 ^ 9)).symm
    rw [whole]
    field_simp
  rw [parts, asSecsF64]
  generalize hq : ((d / 10 ^ 9 : ℕ) : ℚ) = q
  generalize hn : ((d % 10 ^ 9 : ℕ) : ℚ) / 10 ^ 9 = n
  have q_nonneg : 0 ≤ q := by rw [← hq]; positivity
  have n_nonneg : 0 ≤ n := by rw [← hn]; positivity
  have first := Binary64.rounded_error q
  have second := Binary64.rounded_error n
  have sum := Binary64.rounded_error (rounded q + rounded n)
  have sum_nonneg : 0 ≤ rounded q + rounded n :=
    add_nonneg (Binary64.rounded_nonneg q_nonneg) (Binary64.rounded_nonneg n_nonneg)
  rw [abs_of_nonneg q_nonneg, abs_le] at first
  rw [abs_of_nonneg n_nonneg, abs_le] at second
  rw [abs_of_nonneg sum_nonneg, abs_le] at sum
  norm_num at first second sum ⊢
  rw [abs_le]
  constructor <;> linarith

theorem nextF64_centred (bits : UInt64) : |nextF64 bits - 1 / 2| ≤ 1 / 2 := by
  have nonneg : 0 ≤ nextF64 bits := by
    unfold nextF64
    positivity
  have below : nextF64 bits ≤ 1 := by
    have small : (bits >>> 11).toNat ≤ 2 ^ 53 := by
      rw [UInt64.toNat_shiftRight, Nat.shiftRight_eq_div_pow]
      have := bits.toNat_lt
      change bits.toNat / 2 ^ 11 ≤ 2 ^ 53
      omega
    rw [nextF64, div_le_one (by positivity)]
    exact_mod_cast small
  rw [abs_le]
  constructor <;> linarith

/-- The share of a delay that the bits add or take away. -/
theorem weight_le (bits : UInt64) :
    |rounded (rounded (nextF64 bits - 1 / 2) * rounded (1 / 5))| ≤ 1 / 10 * (1 + 4 * ulp) := by
  have half := abs_rounded_le (nextF64_centred bits)
  have fifth : |rounded (1 / 5)| ≤ 1 / 5 * (1 + ulp) := abs_rounded_le (by norm_num)
  have product : |rounded (nextF64 bits - 1 / 2) * rounded (1 / 5)| ≤
      1 / 2 * (1 + ulp) * (1 / 5 * (1 + ulp)) := by
    rw [abs_mul]
    exact mul_le_mul half fifth (abs_nonneg _) (by positivity)
  refine (abs_rounded_le product).trans ?_
  norm_num

/-- Before the floor, the jitter of a delay is a tenth of it and a few roundings. -/
theorem jitter_error (d : Nat) (bits : UInt64) :
    |rounded (asSecsF64 d + rounded (rounded (rounded (nextF64 bits - 1 / 2) * rounded (1 / 5)) *
        asSecsF64 d)) - d / 10 ^ 9| ≤ d / 10 ^ 9 * (1 / 10 + 42 / 10 * ulp) := by
  have secs := asSecsF64_error d
  have weight := weight_le bits
  have secs_nonneg := asSecsF64_nonneg d
  have exact_nonneg : (0 : ℚ) ≤ d / 10 ^ 9 := by positivity
  generalize asSecsF64 d = s at secs secs_nonneg ⊢
  generalize rounded (rounded (nextF64 bits - 1 / 2) * rounded (1 / 5)) = w at weight ⊢
  generalize (d : ℚ) / 10 ^ 9 = exact at secs exact_nonneg ⊢
  have secs_le : |s| ≤ exact * (1 + 21 / 10 * ulp) := by
    rw [abs_le] at secs
    rw [abs_of_nonneg secs_nonneg]
    linarith
  have product : |w * s| ≤ 1 / 10 * (1 + 4 * ulp) * (exact * (1 + 21 / 10 * ulp)) := by
    rw [abs_mul]
    exact mul_le_mul weight secs_le (abs_nonneg _) (by positivity)
  have added_le := abs_rounded_le product
  generalize rounded (w * s) = added at added_le ⊢
  have sum_le : |s + added| ≤ exact * (12 / 10) := by
    have both := abs_add_le s added
    norm_num at both secs_le added_le ⊢
    linarith
  have sum : |rounded (s + added) - (s + added)| ≤ exact * (12 / 10) * ulp :=
    (Binary64.rounded_error _).trans (mul_le_mul_of_nonneg_right sum_le (by positivity))
  norm_num at secs added_le sum ⊢
  rw [abs_le] at secs added_le sum ⊢
  constructor <;> linarith

/-- The ends of a short band are less than a nanosecond off. -/
theorem endpoint_error {d : Nat} (least : 10 ^ 6 ≤ d) (short : d ≤ 10 ^ 15) (bits : UInt64) :
    9 * d < 10 * endpoint d bits + 10 ∧ 10 * endpoint d bits < 11 * d + 10 := by
  have error := jitter_error d bits
  have floor := Binary64.rounded_error (1 / 1000)
  have least' : (10 ^ 6 : ℚ) ≤ d := by exact_mod_cast least
  have short' : (d : ℚ) ≤ 10 ^ 15 := by exact_mod_cast short
  have floor_nonneg : 0 ≤ rounded (1 / 1000) := Binary64.rounded_nonneg (by norm_num)
  rw [endpoint, if_neg (by omega), jitteredSecs]
  generalize rounded (asSecsF64 d + rounded (rounded (rounded (nextF64 bits - 1 / 2) *
    rounded (1 / 5)) * asSecsF64 d)) = secs at error ⊢
  generalize rounded (1 / 1000) = milli at floor floor_nonneg ⊢
  have near := Binary64.nearest_error
    (mul_nonneg (floor_nonneg.trans (le_max_right secs milli)) (by positivity : (0 : ℚ) ≤ 10 ^ 9))
  generalize nearest (max secs milli * 10 ^ 9) = n at near ⊢
  norm_num at error floor
  rw [abs_le] at error floor near
  have low : (9 * d : ℚ) < 10 * n + 10 := by
    have above := le_max_left secs milli
    linarith
  have high : (10 * n : ℚ) < 11 * d + 10 := by
    rcases le_total secs milli with below | above
    · rw [max_eq_right below] at near
      linarith
    · rw [max_eq_left above] at near
      linarith
  exact ⟨by exact_mod_cast low, by exact_mod_cast high⟩

/-! ### Tenths -/

theorem weight_least : rounded (rounded (nextF64 0 - 1 / 2) * rounded (1 / 5)) = -tenth := by
  decide +kernel

theorem weight_greatest :
    rounded (rounded (nextF64 (.ofNat (2 ^ 64 - 1)) - 1 / 2) * rounded (1 / 5)) =
      nearlyTenth := by
  decide +kernel

theorem milli_le : rounded (1 / 1000) ≤ 1 / 1000 * (1 + ulp) := by
  have error : |rounded (1 / 1000)| ≤ 1 / 1000 * (1 + ulp) := abs_rounded_le (by norm_num)
  exact (le_abs_self _).trans error

/-- Eleven tenths in binary64, before they are cut to nanoseconds. -/
theorem greatest_error (d : Nat) :
    |rounded (asSecsF64 d + rounded (nearlyTenth * asSecsF64 d)) - 11 / 10 * (d / 10 ^ 9)| ≤
      d / 10 ^ 9 * (42 / 10 * ulp) := by
  have secs := asSecsF64_error d
  have secs_nonneg := asSecsF64_nonneg d
  have exact_nonneg : (0 : ℚ) ≤ d / 10 ^ 9 := by positivity
  generalize asSecsF64 d = s at secs secs_nonneg ⊢
  generalize (d : ℚ) / 10 ^ 9 = exact at secs exact_nonneg ⊢
  have product := Binary64.rounded_error (nearlyTenth * s)
  rw [abs_of_nonneg (mul_nonneg (by norm_num [nearlyTenth]) secs_nonneg)] at product
  have added_nonneg : 0 ≤ rounded (nearlyTenth * s) :=
    Binary64.rounded_nonneg (mul_nonneg (by norm_num [nearlyTenth]) secs_nonneg)
  generalize rounded (nearlyTenth * s) = added at product added_nonneg ⊢
  have sum := Binary64.rounded_error (s + added)
  rw [abs_of_nonneg (add_nonneg secs_nonneg added_nonneg)] at sum
  generalize rounded (s + added) = total at sum ⊢
  rw [abs_le] at secs product sum ⊢
  norm_num [nearlyTenth] at secs product sum ⊢
  constructor <;> linarith

/-- The floor is below the greatest draw. -/
theorem highest_eq {d : Nat} (least : 10 ^ 6 ≤ d) :
    highest d = nearest (rounded (asSecsF64 d + rounded (nearlyTenth * asSecsF64 d)) * 10 ^ 9) := by
  have error := greatest_error d
  have floor := milli_le
  have least' : (10 ^ 6 : ℚ) ≤ d := by exact_mod_cast least
  rw [highest, endpoint, if_neg (by omega), jitteredSecs, weight_greatest, max_eq_left]
  rw [abs_le] at error
  norm_num at error floor
  linarith

theorem nineTenths_of_long {d : Nat} (long : 10 ^ 15 < d) : nineTenths d = lowest d := by
  have error := jitter_error d 0
  have floor := milli_le
  have long' : (10 ^ 15 : ℚ) < d := by exact_mod_cast long
  rw [lowest, endpoint, if_neg (by omega), jitteredSecs, nineTenths, if_neg (by omega)]
  rw [weight_least, neg_mul, Binary64.rounded_neg, ← sub_eq_add_neg] at error ⊢
  rw [max_eq_left]
  rw [abs_le] at error
  norm_num at error floor
  linarith

/-- A million seconds are known to half a nanosecond. -/
theorem highest_of_short {d : Nat} (least : 10 ^ 6 ≤ d) (short : d ≤ 10 ^ 15) (whole : 10 ∣ d) :
    highest d = 11 * d / 10 := by
  have error := greatest_error d
  have least' : (10 ^ 6 : ℚ) ≤ d := by exact_mod_cast least
  have short' : (d : ℚ) ≤ 10 ^ 15 := by exact_mod_cast short
  rw [highest_eq least]
  generalize rounded (asSecsF64 d + rounded (nearlyTenth * asSecsF64 d)) = secs at error ⊢
  rw [abs_le] at error
  norm_num at error
  have near := Binary64.nearest_error (x := secs * 10 ^ 9) (by linarith)
  generalize nearest (secs * 10 ^ 9) = n at near ⊢
  rw [abs_le] at near
  have low : (11 * d : ℚ) < 10 * n + 10 := by linarith
  have high : (10 * n : ℚ) < 11 * d + 10 := by linarith
  have low' : 11 * d < 10 * n + 10 := by exact_mod_cast low
  have high' : 10 * n < 11 * d + 10 := by exact_mod_cast high
  omega

theorem elevenTenths_eq {d : Nat} (whole : 10 ^ 6 ∣ d) : elevenTenths d = highest d := by
  rcases Nat.eq_zero_or_pos d with rfl | pos
  · rfl
  · have least := Nat.le_of_dvd pos whole
    rw [elevenTenths]
    split
    case isTrue short => exact (highest_of_short least short (by omega)).symm
    case isFalse => exact (highest_eq least).symm

theorem le_elevenTenths {d : Nat} (whole : 10 ^ 6 ∣ d) : d ≤ elevenTenths d := by
  rcases Nat.eq_zero_or_pos d with rfl | pos
  · exact Nat.zero_le _
  · have error := greatest_error d
    have least := Nat.le_of_dvd pos whole
    have least' : (10 ^ 6 : ℚ) ≤ d := by exact_mod_cast least
    rw [elevenTenths_eq whole, highest_eq least]
    generalize rounded (asSecsF64 d + rounded (nearlyTenth * asSecsF64 d)) = secs at error ⊢
    rw [abs_le] at error
    norm_num at error
    have more : (d : ℚ) ≤ secs * 10 ^ 9 := by linarith
    have rounded_more := Binary64.nearest_mono more
    rwa [Binary64.nearest_natCast] at rounded_more

/-- Of a short delay both sides hold: a single millisecond is not cut to nine tenths. -/
theorem lowest_le_iff {d : Nat} (whole : 10 ^ 6 ∣ d) :
    9 * d ≤ 10 * lowest d ↔ 9 * d ≤ 10 * nineTenths d := by
  rcases Nat.eq_zero_or_pos d with rfl | pos
  · exact iff_of_true (Nat.zero_le _) (Nat.zero_le _)
  · rcases Nat.lt_or_ge (10 ^ 15) d with long | short
    · rw [nineTenths_of_long long]
    · have bounds := endpoint_error (Nat.le_of_dvd pos whole) short 0
      rw [nineTenths, if_pos short, lowest]
      omega

/-! ### Draws -/

section
variable {base : Nat} (whole : 10 ^ 6 ∣ base)
include whole

theorem jittered_le {fired : Nat} {jitter : Bool} {bits : UInt64} (small : base < durationEnd)
    (drawn : jittered base jitter bits = some fired) : fired ≤ elevenTenths base := by
  rw [jittered_eq small, Option.ite_none_right_eq_some, Option.some.injEq] at drawn
  obtain ⟨_, rfl⟩ := drawn
  cases jitter with
  | false => exact le_elevenTenths whole
  | true =>
      rw [elevenTenths_eq whole]
      exact (endpoint_between base bits).2

theorem jittered_isSome (small : elevenTenths base < durationEnd) (jitter : Bool)
    (bits : UInt64) : ∃ fired, jittered base jitter bits = some fired := by
  have base_small := Nat.lt_of_le_of_lt (le_elevenTenths whole) small
  rw [jittered_eq base_small]
  cases jitter with
  | false => exact ⟨base, if_pos base_small⟩
  | true =>
      rw [elevenTenths_eq whole] at small
      exact ⟨_, if_pos (Nat.lt_of_le_of_lt (endpoint_between base bits).2 small)⟩

/-- The longest delay is drawn. -/
theorem jittered_greatest (small : base < durationEnd)
    (drawn : ∃ fired, jittered base true (.ofNat (2 ^ 64 - 1)) = some fired) :
    elevenTenths base < durationEnd ∧
      jittered base true (.ofNat (2 ^ 64 - 1)) = some (elevenTenths base) := by
  obtain ⟨fired, last⟩ := drawn
  have both := last
  rw [jittered_eq small, Option.ite_none_right_eq_some, Option.some.injEq] at both
  obtain ⟨fired_small, rfl⟩ := both
  rw [elevenTenths_eq whole]
  exact ⟨fired_small, last⟩

/-- All draws stay in the band when both ends of it do. -/
theorem within_iff (small : elevenTenths base < durationEnd) :
    (∀ jitter bits fired, jittered base jitter bits = some fired → Within base fired) ↔
      Rounds base := by
  have base_small := Nat.lt_of_le_of_lt (le_elevenTenths whole) small
  simp only [jittered_eq base_small, Option.ite_none_right_eq_some, Option.some.injEq]
  rw [Rounds, ← lowest_le_iff whole]
  rw [elevenTenths_eq whole] at small ⊢
  have lowest_small := Nat.lt_of_le_of_lt (endpoint_between base 0).2 small
  constructor
  · intro within
    exact ⟨(within true 0 _ ⟨lowest_small, rfl⟩).1, (within true _ _ ⟨small, rfl⟩).2⟩
  · rintro ⟨low, high⟩ jitter bits _ ⟨_, rfl⟩
    have between := endpoint_between base bits
    rw [Within]
    cases jitter with
    | false => exact ⟨by simp only [Bool.false_eq_true, if_false]; omega,
        by simp only [Bool.false_eq_true, if_false]; omega⟩
    | true => exact ⟨by simp only [if_true]; omega, by simp only [if_true]; omega⟩

end

/-! ### The scheduler -/

section
variable {clock : Clock} {interval debounce ttl : Nat}

theorem nextFire_isSome_iff {failures : UInt32} {jitter : Bool} {bits : UInt64} :
    (nextFire clock interval failures jitter bits).isSome ↔
      ∃ delay fired, backoffInterval interval failures = some delay ∧
        jittered delay jitter bits = some fired ∧ clock.tickStart + fired < instantEnd ∧
        clock.wall + (clock.tickStart + fired - clock.now) < instantEnd := by
  simp only [nextFire, after, Option.isSome_iff_exists, Option.bind_eq_bind,
    Option.bind_eq_some_iff, Option.ite_none_right_eq_some, Option.some.injEq]
  constructor
  · rintro ⟨_, delay, backoff, fired, drawn, _, ⟨fires, rfl⟩, _, ⟨shown, rfl⟩, _⟩
    exact ⟨delay, fired, backoff, drawn, fires, shown⟩
  · rintro ⟨delay, fired, backoff, drawn, fires, shown⟩
    exact ⟨_, delay, backoff, fired, drawn, _, ⟨fires, rfl⟩, _, ⟨shown, rfl⟩, rfl⟩

theorem fires_iff (whole : 10 ^ 6 ∣ interval) (failures : UInt32) :
    (∀ jitter bits, (nextFire clock interval failures jitter bits).isSome) ↔
      Fits clock (interval * 1 <<< min failures.toNat 3) := by
  have multiple : 10 ^ 6 ∣ interval * 1 <<< min failures.toNat 3 := whole.mul_right _
  simp only [nextFire_isSome_iff]
  constructor
  · intro fires
    obtain ⟨delay, fired, backoff, drawn, fits, shown⟩ := fires true (.ofNat (2 ^ 64 - 1))
    obtain ⟨small, rfl⟩ := times_eq_some_iff.mp backoff
    obtain ⟨greatest_small, greatest⟩ := jittered_greatest multiple small ⟨fired, drawn⟩
    cases greatest.symm.trans drawn
    exact ⟨greatest_small, fits, shown⟩
  · intro fits jitter bits
    obtain ⟨fired, drawn⟩ := jittered_isSome multiple fits.delay jitter bits
    have small := Nat.lt_of_le_of_lt (le_elevenTenths multiple) fits.delay
    have most := jittered_le multiple small drawn
    have late := fits.shown
    have fires := fits.fires
    exact ⟨_, fired, times_eq_some_iff.mpr ⟨small, rfl⟩, drawn, by omega, by omega⟩

/-- Every factor is that of some number of failures. -/
theorem forall_factor_iff {P : Nat → Prop} :
    (∀ failures : UInt32, P (1 <<< min failures.toNat 3)) ↔ ∀ factor ∈ [1, 2, 4, 8], P factor := by
  constructor
  · intro all
    simp only [List.forall_mem_cons]
    exact ⟨all 0, all 1, all 2, all 3, List.forall_mem_nil _⟩
  · exact fun all failures => all _ (shift_mem failures)

theorem starts_iff (whole : 10 ^ 6 ∣ interval) (small : elevenTenths interval < durationEnd) :
    (∀ jitter bits, (firstFire clock interval jitter bits).isSome) ↔
      clock.started + elevenTenths interval < instantEnd := by
  have interval_small := Nat.lt_of_le_of_lt (le_elevenTenths whole) small
  constructor
  · intro starts
    obtain ⟨_, greatest⟩ :=
      jittered_greatest whole interval_small (jittered_isSome whole small true _)
    have late := starts true (.ofNat (2 ^ 64 - 1))
    rw [firstFire, greatest] at late
    exact after_isSome_iff.mp late
  · intro fits jitter bits
    obtain ⟨fired, drawn⟩ := jittered_isSome whole small jitter bits
    have most := jittered_le whole interval_small drawn
    rw [firstFire, drawn]
    exact after_isSome_iff.mpr (by omega)

/-- Nothing panics and every bound is kept exactly where eleven tenths of each of the four
un-jittered delays are a `Duration` that the clock can add, binary64 keeps the tenths of the long
ones within their bounds, and the clock can add the debounce and the time to live. -/
theorem scheduler_arithmetic_iff (clock : Clock) (interval debounce ttl : Nat) :
    Sound clock (ofMillis interval) (ofMillis debounce) (ofMillis ttl) ↔
      Bounded clock (ofMillis interval) (ofMillis debounce) (ofMillis ttl) := by
  have whole : 10 ^ 6 ∣ ofMillis interval := Nat.dvd_mul_left _ _
  generalize ofMillis interval = interval at whole ⊢
  generalize ofMillis debounce = debounce
  generalize ofMillis ttl = ttl
  constructor
  · intro sound
    have fits := (forall_factor_iff (P := fun factor => Fits clock (interval * factor))).mp
      fun failures => (fires_iff whole failures).mp (sound.fires failures)
    have first := fits 1 List.mem_cons_self
    rw [Nat.mul_one] at first
    refine ⟨(starts_iff whole first.delay).mp sound.starts, fits,
      (forall_factor_iff (P := fun factor => Rounds (interval * factor))).mp fun failures => ?_,
      after_isSome_iff.mp sound.debounces, after_isSome_iff.mp sound.expires⟩
    have member := fits _ (shift_mem failures)
    have multiple : 10 ^ 6 ∣ interval * 1 <<< min failures.toNat 3 := whole.mul_right _
    have small := Nat.lt_of_le_of_lt (le_elevenTenths multiple) member.delay
    apply (within_iff multiple member.delay).mp
    intro jitter bits fired
    exact sound.jitters failures _ jitter bits fired (times_eq_some_iff.mpr ⟨small, rfl⟩)
  · intro bounded
    have first := bounded.fires 1 List.mem_cons_self
    rw [Nat.mul_one] at first
    refine ⟨(starts_iff whole first.delay).mpr bounded.starts, ?_,
      after_isSome_iff.mpr bounded.debounces, after_isSome_iff.mpr bounded.expires,
      fun _ _ => backoff_delays, fun _ _ _ _ => backoff_monotone, ?_⟩
    · intro failures
      exact (fires_iff whole failures).mpr (bounded.fires _ (shift_mem failures))
    · intro failures delay jitter bits fired backoff
      obtain ⟨_, rfl⟩ := times_eq_some_iff.mp backoff
      have fits := bounded.fires _ (shift_mem failures)
      exact (within_iff (whole.mul_right _) fits.delay).mpr (bounded.rounds _ (shift_mem failures))
        jitter bits fired

end

/-- An interval that the loader accepts: one failure is more than a `Duration`, and one publish
more than an instant. -/
theorem scheduler_overflows : ∃ ms, Config.parseDuration "18446744073709551615s" = .ok ms ∧
    backoffInterval (ofMillis ms) 1 = none ∧ after 0 (ofMillis ms) = none ∧
    ¬ Sound ⟨0, 0, 0, 0, 0, 0⟩ (ofMillis ms) (ofMillis ms) (ofMillis ms) := by
  refine ⟨18446744073709551615000, rfl, by decide, by decide, fun sound => ?_⟩
  exact absurd sound.expires (by decide)

end Datapress.Refresh.Delays
