import Mathlib.Algebra.Order.Group.Nat
import Mathlib.Algebra.Ring.Nat
import Mathlib.Data.Prod.Lex
import Mathlib.Order.Iterate
import Mathlib.Order.Monotone.Basic

/-! The Gregorian calendar: dates in their order, and the date a number of days behind another. -/
namespace Calendar

def Leap (year : Nat) : Prop := 400 ∣ year ∨ 4 ∣ year ∧ ¬ 100 ∣ year

instance (year : Nat) : Decidable (Leap year) := inferInstanceAs (Decidable (_ ∨ _))

def daysIn (year month : Nat) : Nat :=
  if month = 2 then if Leap year then 29 else 28
  else if month = 4 ∨ month = 6 ∨ month = 9 ∨ month = 11 then 30 else 31

def daysOf (year : Nat) : Nat := if Leap year then 366 else 365

structure Date where
  year : Nat
  month : Nat
  day : Nat
  month_pos : 1 ≤ month
  month_le : month ≤ 12
  day_pos : 1 ≤ day
  day_le : day ≤ daysIn year month

theorem daysIn_pos (year month : Nat) : 1 ≤ daysIn year month := by
  rw [daysIn]
  split_ifs <;> decide

/-- The days of the months from this one to the end of the year. -/
theorem sum_daysIn (year : Nat) : ((List.range' 1 12).map (daysIn year)).sum = daysOf year := by
  by_cases leap : Leap year
  · simp [List.range', daysIn, daysOf, leap]
  · simp [List.range', daysIn, daysOf, leap]

namespace Date

/-- The first day of a month. -/
def first (year month : Nat) (pos : 1 ≤ month) (le : month ≤ 12) : Date where
  year := year
  month := month
  day := 1
  month_pos := pos
  month_le := le
  day_pos := Nat.le_refl 1
  day_le := daysIn_pos year month

def newYear (year : Nat) : Date := first year 1 (by decide) (by decide)

/-- The day after. -/
def next (d : Date) : Date :=
  if more : d.day < daysIn d.year d.month then
    { d with day := d.day + 1, day_pos := by omega, day_le := more }
  else if later : d.month < 12 then first d.year (d.month + 1) (by omega) later
  else newYear (d.year + 1)

def after (d : Date) (days : Nat) : Date := next^[days] d

theorem after_succ (d : Date) (days : Nat) : d.after (days + 1) = (d.after days).next :=
  Function.iterate_succ_apply' next days d

theorem after_add (d : Date) (days more : Nat) :
    d.after (days + more) = (d.after days).after more := by
  rw [after, Nat.add_comm, Function.iterate_add_apply]
  rfl

/-! ### Months and years -/

/-- The days of one month. -/
theorem after_within (d : Date) {days : Nat} (within : d.day + days ≤ daysIn d.year d.month) :
    (d.after days).year = d.year ∧ (d.after days).month = d.month ∧
      (d.after days).day = d.day + days := by
  induction days with
  | zero => exact ⟨rfl, rfl, rfl⟩
  | succ days ih =>
      obtain ⟨year, month, day⟩ := ih (by omega)
      have less : (d.after days).day < daysIn (d.after days).year (d.after days).month := by
        rw [year, month, day]
        omega
      rw [after_succ, next, dif_pos less]
      exact ⟨year, month, by simp only [day]; omega⟩

theorem next_of_last {d : Date} (last : d.day = daysIn d.year d.month) :
    d.next = if later : d.month < 12 then first d.year (d.month + 1) (by omega) later
      else newYear (d.year + 1) := by
  rw [next, dif_neg (by omega)]

theorem first_after (year : Nat) {month : Nat} (pos : 1 ≤ month) (le : month ≤ 12) :
    (first year month pos le).after (daysIn year month) =
      if later : month < 12 then first year (month + 1) (by omega) later
      else newYear (year + 1) := by
  obtain ⟨before, length⟩ := Nat.exists_eq_add_of_le' (daysIn_pos year month)
  have within : (first year month pos le).day + before ≤ daysIn year month := by
    rw [length, Nat.add_comm before]
    rfl
  obtain ⟨sameYear, sameMonth, day⟩ := after_within (first year month pos le) within
  rw [length, after_succ, next_of_last]
  · simp only [sameYear, sameMonth]
    rfl
  · rw [sameYear, sameMonth, day, Nat.add_comm]
    exact length.symm

/-- From the start of a month, the rest of the year. -/
theorem first_after_rest (year months : Nat) (few : months ≤ 11) :
    (first year (12 - months) (by omega) (by omega)).after
      ((List.range' (12 - months) (months + 1)).map (daysIn year)).sum = newYear (year + 1) := by
  induction months with
  | zero =>
      have december : (1 : Nat) ≤ 12 := by decide
      exact first_after year december (Nat.le_refl 12)
  | succ months ih =>
      have later : 12 - (months + 1) < 12 := by omega
      have next : 12 - (months + 1) + 1 = 12 - months := by omega
      rw [List.range'_succ, List.map_cons, List.sum_cons, after_add, first_after, dif_pos later]
      simp only [next]
      exact ih (by omega)

theorem newYear_after (year : Nat) : (newYear year).after (daysOf year) = newYear (year + 1) := by
  rw [← sum_daysIn]
  exact first_after_rest year 11 (by decide)

/-! ### The order -/

/-- A date by its weight: the year before the month before the day. -/
def key (d : Date) : ℕ ×ₗ ℕ ×ₗ ℕ := toLex (d.year, toLex (d.month, d.day))

theorem key_lt_iff {d e : Date} : d.key < e.key ↔ d.year < e.year ∨ d.year = e.year ∧
    (d.month < e.month ∨ d.month = e.month ∧ d.day < e.day) := by
  simp only [key, Prod.Lex.toLex_lt_toLex]

theorem key_lt_next (d : Date) : d.key < d.next.key := by
  rw [key_lt_iff, next]
  split
  · exact .inr ⟨rfl, .inr ⟨rfl, Nat.lt_succ_self _⟩⟩
  · split
    · exact .inr ⟨rfl, .inl (Nat.lt_succ_self _)⟩
    · exact .inl (Nat.lt_succ_self _)

theorem after_key_strictMono (d : Date) : StrictMono fun days => (d.after days).key := by
  apply strictMono_nat_of_lt_succ
  intro days
  rw [after_succ]
  exact key_lt_next _

/-- Later days have later dates. -/
theorem after_key_lt_iff (d : Date) {days days' : Nat} :
    (d.after days).key < (d.after days').key ↔ days < days' :=
  (after_key_strictMono d).lt_iff_lt

end Date
end Calendar
