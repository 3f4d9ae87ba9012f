import Mathlib.Data.Char
import Datapress.Library.Calendar
import Datapress.Library.Positional

/-! Times as texts: the two conversions of a day to its date, and the two formatters. -/
namespace Datapress

/-- A number with zeros in front of it. -/
def padded (width n : Nat) : String :=
  String.ofList (List.replicate (width - (toString n).length) '0') ++ toString n

namespace Refresh

def isLeap (y : Nat) : Bool := (y % 4 = 0 && y % 100 ≠ 0) || y % 400 = 0

/-- The year that a day falls in, with the day of the year. -/
def yearOf (days year : Nat) : Nat × Nat :=
  let dy := if isLeap year then 366 else 365
  if days < dy then (year, days) else yearOf (days - dy) (year + 1)
termination_by days
decreasing_by
  have pos : 0 < dy := by
    dsimp only [dy]
    split <;> decide
  omega

def monthOf : List Nat → Nat → Nat → Nat × Nat
  | [], days, month => (month, days)
  | dm :: rest, days, month =>
    if days < dm then (month, days) else monthOf rest (days - dm) (month + 1)

def daysToYmd (days : Nat) : Nat × Nat × Nat :=
  let (year, days) := yearOf days 1970
  let february := if isLeap year then 29 else 28
  let (month, days) := monthOf [31, february, 31, 30, 31, 30, 31, 31, 30, 31, 30, 31] days 1
  (year, month, days + 1)

end Refresh

namespace Storage

/-- The copy of the loop over the years beside the stored generations. -/
def yearOf (days year : Nat) : Nat × Nat :=
  let ydays := if (year % 4 = 0 && year % 100 ≠ 0) || year % 400 = 0 then 366 else 365
  if days < ydays then (year, days) else yearOf (days - ydays) (year + 1)
termination_by days
decreasing_by
  have pos : 0 < ydays := by
    dsimp only [ydays]
    split <;> decide
  omega

/-- Its loop over the months. -/
def monthOf : List Nat → Nat → Nat → Nat × Nat
  | [], days, month => (month, days)
  | md :: rest, days, month =>
    if days < md then (month, days) else monthOf rest (days - md) (month + 1)

def daysToYmd (days : Nat) : Nat × Nat × Nat :=
  let (year, days) := yearOf days 1970
  let leap := (year % 4 = 0 && year % 100 ≠ 0) || year % 400 = 0
  let monthDays := [31, if leap then 29 else 28, 31, 30, 31, 30, 31, 31, 30, 31, 30, 31]
  let (month, days) := monthOf monthDays days 1
  (year, month, days + 1)

def nowRfc3339 (secs : Nat) : String :=
  let (s, m, h) := (secs % 60, secs / 60 % 60, secs / 3600 % 24)
  let (y, mo, d) := daysToYmd (secs / 86400)
  s!"{padded 4 y}-{padded 2 mo}-{padded 2 d}T{padded 2 h}:{padded 2 m}:{padded 2 s}Z"

end Storage

namespace Refresh

def formatRfc3339Secs (secs : Nat) : String :=
  let timeOfDay := secs % 86400
  let (year, month, day) := daysToYmd (secs / 86400)
  let date := s!"{padded 4 year}-{padded 2 month}-{padded 2 day}"
  let (hh, mm, ss) := (timeOfDay / 3600, timeOfDay % 3600 / 60, timeOfDay % 60)
  s!"{date}T{padded 2 hh}:{padded 2 mm}:{padded 2 ss}Z"

end Refresh

open Calendar Positional Refresh

/-! ### The conversion -/

theorem isLeap_iff (year : Nat) : isLeap year = true ↔ Leap year := by
  simp only [isLeap, Leap, Nat.dvd_iff_mod_eq_zero, Bool.or_eq_true, Bool.and_eq_true,
    decide_eq_true_eq]
  exact or_comm

theorem daysOf_eq (year : Nat) : (if isLeap year then 366 else 365) = daysOf year := by
  rw [daysOf]
  exact if_congr (isLeap_iff year) rfl rfl

/-- The loop over the years takes whole years off. -/
theorem yearOf_spec (days year : Nat) :
    year ≤ (yearOf days year).1 ∧ 365 * ((yearOf days year).1 - year) ≤ days ∧
      (yearOf days year).2 < daysOf (yearOf days year).1 ∧
      (Date.newYear year).after days =
        (Date.newYear (yearOf days year).1).after (yearOf days year).2 := by
  fun_induction yearOf days year with
  | case1 days year length less =>
      rw [show length = daysOf year from daysOf_eq year] at less
      exact ⟨Nat.le_refl _, by omega, less, rfl⟩
  | case2 days year length enough ih =>
      obtain ⟨later, bound, less, same⟩ := ih
      have whole : length = daysOf year := daysOf_eq year
      have long : 365 ≤ length := by
        rw [whole, daysOf]
        split <;> decide
      refine ⟨by omega, by omega, less, ?_⟩
      rw [← same, ← Date.newYear_after, ← whole, ← Date.after_add]
      congr 1
      omega

/-- The loop over the months from one of them to the last. -/
theorem monthOf_spec (year months : Nat) {days : Nat} (few : months ≤ 11)
    (less : days < ((List.range' (12 - months) (months + 1)).map (daysIn year)).sum) :
    ∃ month pos le, ∃ day < daysIn year month,
      monthOf ((List.range' (12 - months) (months + 1)).map (daysIn year)) days (12 - months) =
        (month, day) ∧
      (Date.first year (12 - months) (by omega) (by omega)).after days =
        (Date.first year month pos le).after day := by
  induction months generalizing days with
  | zero =>
      have less : days < daysIn year 12 := less
      exact ⟨12, by decide, by decide, days, less, if_pos less, rfl⟩
  | succ months ih =>
      have next : 12 - (months + 1) + 1 = 12 - months := by omega
      rw [List.range'_succ, List.map_cons, next] at less ⊢
      rw [monthOf]
      by_cases here : days < daysIn year (12 - (months + 1))
      · rw [if_pos here]
        exact ⟨_, by omega, by omega, days, here, rfl, rfl⟩
      · rw [if_neg here, next]
        rw [List.sum_cons] at less
        have fewer : days - daysIn year (12 - (months + 1)) <
            ((List.range' (12 - months) (months + 1)).map (daysIn year)).sum := by omega
        obtain ⟨month, pos, le, day, inside, found, same⟩ := ih (by omega) fewer
        refine ⟨month, pos, le, day, inside, found, ?_⟩
        have split : days = daysIn year (12 - (months + 1)) +
            (days - daysIn year (12 - (months + 1))) := by omega
        rw [split, Date.after_add, Date.first_after, dif_pos (by omega)]
        simp only [next]
        exact same

theorem months_eq (year : Nat) :
    (List.range' 1 12).map (daysIn year) =
      [31, if isLeap year then 29 else 28, 31, 30, 31, 30, 31, 31, 30, 31, 30, 31] := by
  have february : daysIn year 2 = if isLeap year then 29 else 28 :=
    (if_pos rfl).trans (if_congr (isLeap_iff year).symm rfl rfl)
  rw [← february]
  rfl

/-- The first day that the clock counts. -/
def epoch : Date := Date.newYear 1970

def ymd (d : Date) : Nat × Nat × Nat := (d.year, d.month, d.day)

theorem daysToYmd_eq (days : Nat) : Refresh.daysToYmd days = ymd (epoch.after days) := by
  obtain ⟨-, -, less, years⟩ := yearOf_spec days 1970
  have months := sum_daysIn (yearOf days 1970).1
  rw [← months] at less
  obtain ⟨month, pos, le, day, inside, found, rest⟩ :=
    monthOf_spec (yearOf days 1970).1 11 (by decide) less
  have reached := years.trans rest
  have within : 1 + day ≤ daysIn (yearOf days 1970).1 month := by omega
  obtain ⟨sameYear, sameMonth, sameDay⟩ :=
    Date.after_within (Date.first (yearOf days 1970).1 month pos le) within
  have listed := months_eq (yearOf days 1970).1
  rw [Refresh.daysToYmd, ymd, epoch, reached, sameYear, sameMonth, sameDay]
  simp only [← listed, found]
  rw [Nat.add_comm day]
  rfl

theorem yearOf_agree (days year : Nat) : Storage.yearOf days year = Refresh.yearOf days year := by
  fun_induction Refresh.yearOf days year with
  | case1 days year length less =>
      rw [Storage.yearOf]
      exact if_pos less
  | case2 days year length enough ih =>
      rw [Storage.yearOf]
      exact (if_neg enough).trans ih

theorem monthOf_agree (months : List Nat) (days month : Nat) :
    Storage.monthOf months days month = Refresh.monthOf months days month := by
  induction months generalizing days month with
  | nil => rfl
  | cons length rest ih => rw [Storage.monthOf, Refresh.monthOf, ih]

theorem daysToYmd_agree (days : Nat) : Storage.daysToYmd days = Refresh.daysToYmd days := by
  simp only [Storage.daysToYmd, Refresh.daysToYmd, yearOf_agree, monthOf_agree]
  rfl

/-! ### The texts -/

theorem digits_succ_last (b len n : Nat) :
    digits b (len + 1) n = digits b len (n / b) ++ [n % b] := by
  induction len with
  | zero => simp [digits]
  | succ len ih =>
      rw [digits, ih, digits, Nat.div_div_eq_div_mul, Nat.pow_succ', List.cons_append]

/-- The digits of a small number with zeros in front are those of its places. -/
theorem zeros_toDigits {width n : Nat} (fits : n < 10 ^ (width + 1)) :
    List.replicate (width + 1 - (Nat.toDigits 10 n).length) '0' ++ Nat.toDigits 10 n =
      (digits 10 (width + 1) n).map Nat.digitChar := by
  induction width generalizing n with
  | zero =>
      have small : n < 10 := fits
      rw [Nat.toDigits_of_lt_base small, digits, digits, Nat.pow_zero, Nat.div_one,
        Nat.mod_eq_of_lt small]
      rfl
  | succ width ih =>
      have tens := ih (n := n / 10) (by rw [Nat.pow_succ] at fits; omega)
      rw [digits_succ_last, List.map_append, ← tens]
      by_cases small : n < 10
      · have zero : n / 10 = 0 := by omega
        rw [zero, Nat.toDigits_zero, Nat.toDigits_of_lt_base small, Nat.mod_eq_of_lt small]
        simp only [List.length_singleton, Nat.add_sub_cancel, List.map_cons, List.map_nil,
          ← List.replicate_succ']
      · rw [Nat.toDigits_of_base_le (b := 10) (by decide) (by omega), List.length_append,
          List.append_assoc]
        simp

theorem toList_padded {width n : Nat} (fits : n < 10 ^ (width + 1)) :
    (padded (width + 1) n).toList = (digits 10 (width + 1) n).map Nat.digitChar := by
  have written : (toString n).toList = Nat.toDigits 10 n := by
    rw [Nat.toString_eq_repr, Nat.toList_repr]
  rw [padded, String.toList_append, String.toList_ofList, ← String.length_toList, written]
  exact zeros_toDigits fits

theorem digitChar_mono : ∀ i < 10, ∀ j < 10, i < j → Nat.digitChar i < Nat.digitChar j := by
  decide

/-- Texts that start with a padded number and a mark compare by the number first. -/
theorem padded_lt_iff (width : Nat) {n m : Nat} (fits : n < 10 ^ (width + 1)) (fits' : m < 10 ^ (width + 1))
    (mark : Char) (rest rest' : List Char) :
    (padded (width + 1) n).toList ++ mark :: rest < (padded (width + 1) m).toList ++ mark :: rest' ↔
      n < m ∨ n = m ∧ rest < rest' := by
  have small (k : Nat) : ∀ d ∈ digits 10 (width + 1) k, d < 10 := fun _ =>
    lt_of_mem_digits (by decide)
  rw [toList_padded fits, toList_padded fits', append_lt_append (by simp),
    map_lt_map digitChar_mono (small n) (small m), map_inj digitChar_mono (small n) (small m),
    digits_lt_iff (by decide), digits_inj (by decide), Nat.mod_eq_of_lt fits,
    Nat.mod_eq_of_lt fits', List.cons_lt_cons_iff]
  simp

/-- The date of an instant. -/
def dateOf (secs : Nat) : Date := epoch.after (secs / 86400)

theorem toList_formatRfc3339Secs (secs : Nat) : (formatRfc3339Secs secs).toList =
    (padded 4 (dateOf secs).year).toList ++ '-' :: ((padded 2 (dateOf secs).month).toList ++
      '-' :: ((padded 2 (dateOf secs).day).toList ++
      'T' :: ((padded 2 (secs % 86400 / 3600)).toList ++
      ':' :: ((padded 2 (secs % 86400 % 3600 / 60)).toList ++
      ':' :: ((padded 2 (secs % 86400 % 60)).toList ++ 'Z' :: []))))) := by
  rw [formatRfc3339Secs, daysToYmd_eq]
  simp only [ymd, dateOf, toString, String.toList_append]
  simp

theorem nowRfc3339_eq (secs : Nat) : Storage.nowRfc3339 secs = formatRfc3339Secs secs := by
  have hour : secs / 3600 % 24 = secs % 86400 / 3600 := by omega
  have minute : secs / 60 % 60 = secs % 86400 % 3600 / 60 := by omega
  have second : secs % 60 = secs % 86400 % 60 := by omega
  rw [Storage.nowRfc3339, formatRfc3339Secs, daysToYmd_agree, daysToYmd_eq, hour, minute, second]
  simp only [toString, String.append_assoc]

theorem daysIn_le (year month : Nat) : daysIn year month ≤ 31 := by
  rw [daysIn]
  split_ifs <;> decide

/-- Up to the year 9999 the texts compare as the instants. -/
theorem formatRfc3339Secs_lt_iff {secs secs' : Nat} (early : (dateOf secs).year ≤ 9999)
    (early' : (dateOf secs').year ≤ 9999) :
    formatRfc3339Secs secs < formatRfc3339Secs secs' ↔ secs < secs' := by
  have day (secs : Nat) : (dateOf secs).month < 100 ∧ (dateOf secs).day < 100 := by
    have month := (dateOf secs).month_le
    have inside := (dateOf secs).day_le
    have short := daysIn_le (dateOf secs).year (dateOf secs).month
    omega
  have dates (secs secs' : Nat) :
      (dateOf secs).key < (dateOf secs').key ↔ secs / 86400 < secs' / 86400 :=
    Date.after_key_lt_iff epoch
  have sooner := dates secs secs'
  have later := dates secs' secs
  rw [Date.key_lt_iff] at sooner later
  rw [String.lt_iff, toList_formatRfc3339Secs, toList_formatRfc3339Secs,
    padded_lt_iff 3 (by omega) (by omega),
    padded_lt_iff 1 (day secs).1 (day secs').1,
    padded_lt_iff 1 (day secs).2 (day secs').2,
    padded_lt_iff 1 (by omega) (by omega),
    padded_lt_iff 1 (by omega) (by omega),
    padded_lt_iff 1 (by omega) (by omega)]
  simp only [List.lt_irrefl, and_false, or_false]
  omega

/-- Both conversions give the date that many days after the epoch, in a year that fits the
counter; both formatters write one text, and the texts of two instants compare as they do. -/
theorem calendar_conversion :
    (∀ days, Refresh.daysToYmd days = ymd (epoch.after days) ∧
      Storage.daysToYmd days = ymd (epoch.after days) ∧
      365 * ((epoch.after days).year - 1970) ≤ days) ∧
    (∀ secs, Storage.nowRfc3339 secs = formatRfc3339Secs secs) ∧
    ∀ secs secs', (dateOf secs).year ≤ 9999 → (dateOf secs').year ≤ 9999 →
      (formatRfc3339Secs secs < formatRfc3339Secs secs' ↔ secs < secs') := by
  refine ⟨fun days => ⟨daysToYmd_eq days, (daysToYmd_agree days).trans (daysToYmd_eq days), ?_⟩,
    nowRfc3339_eq, fun _ _ => formatRfc3339Secs_lt_iff⟩
  have year : (epoch.after days).year = (yearOf days 1970).1 :=
    (congrArg Prod.fst (daysToYmd_eq days)).symm
  rw [year]
  exact (yearOf_spec days 1970).2.1

theorem calendar_conversion_midnight : formatRfc3339Secs 86399 < formatRfc3339Secs 86400 :=
  (calendar_conversion.2.2 86399 86400 (by decide) (by decide)).mpr (by decide)

end Datapress
