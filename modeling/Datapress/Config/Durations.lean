import Mathlib.Data.List.TakeDrop
import Datapress.Text

/-! The texts of durations, which are whole milliseconds here: no text says less. -/
namespace Datapress.Config

/-- `str::parse::<u64>` -/
def parseU64 (text : String) : Option Nat :=
  let digits := match text.toList with
    | '+' :: digits => digits
    | digits => digits
  if digits.isEmpty || !digits.all Char.isDigit then none
  else
    let n := Nat.ofDigitChars 10 digits 0
    if n < 2 ^ 64 then some n else none

/-- The products are those of `u64`. -/
def inUnit (s : String) (n : Nat) : String → Except String Nat
  | "ms" => .ok n
  | "s" => .ok (n * 1000)
  | "m" => .ok (n * 60 % 2 ^ 64 * 1000)
  | "h" => .ok (n * 3600 % 2 ^ 64 * 1000)
  | "d" => .ok (n * 86400 % 2 ^ 64 * 1000)
  | other => .error s!"unknown duration unit '{other}' in '{s}'"

def parseDuration (text : String) : Except String Nat :=
  let s := trim text
  let (number, unit) := s.toList.span (!·.isAlpha)
  if unit.isEmpty then .error s!"missing unit suffix in duration '{s}'"
  else
    match parseU64 (trim (String.ofList number)) with
    | none => .error s!"invalid number in duration '{s}'"
    | some n => inUnit s n (toAsciiLowercase (String.ofList unit))

/-- `as_millis() as u64` keeps the lower 64 bits. -/
def formatDuration (d : Nat) : String :=
  let ms := d % 2 ^ 64
  if ms = 0 then "0s"
  else if ms % 86400000 = 0 then s!"{ms / 86400000}d"
  else if ms % 3600000 = 0 then s!"{ms / 3600000}h"
  else if ms % 60000 = 0 then s!"{ms / 60000}m"
  else if ms % 1000 = 0 then s!"{ms / 1000}s"
  else s!"{ms}ms"

theorem trim_of_dark {chars : List Char} (dark : ∀ c ∈ chars, isWhitespace c = false) :
    trim (String.ofList chars) = String.ofList chars := by
  have keeps : ∀ {chars : List Char}, (∀ c ∈ chars, isWhitespace c = false) →
      chars.dropWhile isWhitespace = chars := by
    intro chars dark
    cases chars with
    | nil => rfl
    | cons c rest => rw [List.dropWhile_cons_of_neg (by simp [dark c List.mem_cons_self])]
  rw [trim, String.toList_ofList, keeps dark, keeps fun c member => dark c (List.mem_reverse.mp member),
    List.reverse_reverse]

theorem digit_spec {c : Char} (digit : c.isDigit = true) :
    isWhitespace c = false ∧ c.isAlpha = false ∧ c ≠ '+' := by
  obtain ⟨low, high⟩ : 48 ≤ c.toNat ∧ c.toNat ≤ 57 := Char.isDigit_iff_toNat.mp digit
  refine ⟨?_, ?_, ?_⟩
  · simp only [isWhitespace, Bool.or_eq_false_iff, Bool.and_eq_false_iff, decide_eq_false_iff_not,
      beq_eq_false_iff_ne]
    omega
  · by_contra isAlpha
    have := isAlpha_bounds (by simpa using isAlpha)
    omega
  · rintro rfl
    exact absurd low (by decide)

def unsigned : List Char → List Char
  | '+' :: digits => digits
  | digits => digits

theorem parseU64_eq (text : String) : parseU64 text =
    if (unsigned text.toList).isEmpty || !(unsigned text.toList).all Char.isDigit then none
    else if Nat.ofDigitChars 10 (unsigned text.toList) 0 < 2 ^ 64 then
      some (Nat.ofDigitChars 10 (unsigned text.toList) 0) else none := rfl

theorem parseU64_of_digits {digits : List Char} (nonempty : digits ≠ [])
    (whole : ∀ c ∈ digits, c.isDigit = true) :
    parseU64 (String.ofList digits) =
      if Nat.ofDigitChars 10 digits 0 < 2 ^ 64 then some (Nat.ofDigitChars 10 digits 0)
      else none := by
  have same : unsigned digits = digits := by
    unfold unsigned
    split
    case h_1 rest => exact absurd rfl (digit_spec (whole '+' List.mem_cons_self)).2.2
    case h_2 => rfl
  have all : digits.all Char.isDigit = true := List.all_eq_true.mpr whole
  have some_digit : digits.isEmpty = false := by simpa using nonempty
  rw [parseU64_eq, String.toList_ofList, same, all, some_digit]
  rfl

theorem parseU64_digits {n : Nat} (small : n < 2 ^ 64) :
    parseU64 (String.ofList (Nat.toDigits 10 n)) = some n := by
  have digits : ∀ c ∈ Nat.toDigits 10 n, c.isDigit = true := fun c member =>
    Nat.isDigit_of_mem_toDigits (by decide) (by decide) member
  have parsed := parseU64_of_digits (by simp) digits
  rwa [Nat.ofDigitChars_ten_toDigits, if_pos small] at parsed

/-- A number with a unit behind it. -/
theorem parseDuration_unit {n : Nat} {first : Char} {rest : List Char}
    (alpha : ∀ c ∈ first :: rest, c.isAlpha = true ∧ isWhitespace c = false) (small : n < 2 ^ 64) :
    parseDuration (toString n ++ String.ofList (first :: rest)) =
      inUnit (toString n ++ String.ofList (first :: rest)) n
        (toAsciiLowercase (String.ofList (first :: rest))) := by
  have digits : ∀ c ∈ Nat.toDigits 10 n, isWhitespace c = false ∧ (!c.isAlpha) = true := by
    intro c member
    have spec := digit_spec (Nat.isDigit_of_mem_toDigits (by decide) (by decide) member)
    exact ⟨spec.1, by rw [spec.2.1]; rfl⟩
  have chars : toString n ++ String.ofList (first :: rest) =
      String.ofList (Nat.toDigits 10 n ++ first :: rest) := by
    rw [String.ofList_append, ← Nat.toString_eq_ofList_toDigits]
  have trimmed : trim (String.ofList (Nat.toDigits 10 n ++ first :: rest)) =
      String.ofList (Nat.toDigits 10 n ++ first :: rest) := by
    apply trim_of_dark
    intro c member
    obtain digit | letter := List.mem_append.mp member
    · exact (digits c digit).1
    · exact (alpha c letter).2
  have split : (Nat.toDigits 10 n ++ first :: rest).span (!·.isAlpha) =
      (Nat.toDigits 10 n, first :: rest) := by
    have letter : (!first.isAlpha) = false := by rw [(alpha first List.mem_cons_self).1]; rfl
    rw [List.span_eq_takeWhile_dropWhile,
      List.takeWhile_append_of_pos fun c member => (digits c member).2,
      List.dropWhile_append_of_pos fun c member => (digits c member).2,
      List.takeWhile_cons_of_neg (by simp [letter]), List.dropWhile_cons_of_neg (by simp [letter]),
      List.append_nil]
  have number := trim_of_dark fun c member => (digits c member).1
  simp only [parseDuration, chars, trimmed, String.toList_ofList, split, number,
    parseU64_digits small, List.isEmpty_cons, Bool.false_eq_true, if_false]

/-- A duration is read back up to the 64 bits that are written. -/
theorem parseDuration_format (d : Nat) : parseDuration (formatDuration d) = .ok (d % 2 ^ 64) := by
  have small : d % 2 ^ 64 < 2 ^ 64 := Nat.mod_lt _ (by decide)
  rw [formatDuration]
  generalize d % 2 ^ 64 = ms at small
  -- each unit is tried in turn, and `n` of it are `ms` milliseconds
  have reads {first : Char} {rest : List Char} (n : Nat) (below : n ≤ ms)
      (alpha : ((first :: rest).all fun c => c.isAlpha && !isWhitespace c) = true)
      (same : ∀ s, inUnit s n (toAsciiLowercase (String.ofList (first :: rest))) = .ok ms) :
      parseDuration (toString n ++ String.ofList (first :: rest)) = .ok ms := by
    have letters : ∀ c ∈ first :: rest, c.isAlpha = true ∧ isWhitespace c = false := by
      simpa only [List.all_eq_true, Bool.and_eq_true, Bool.not_eq_true'] using alpha
    rw [parseDuration_unit letters (by omega)]
    exact same _
  by_cases zero : ms = 0
  · rw [if_pos zero, zero]
    rfl
  rw [if_neg zero]
  by_cases days : ms % 86400000 = 0
  · rw [if_pos days]
    have exactly : ms / 86400000 * 86400 % 2 ^ 64 * 1000 = ms := by omega
    exact @reads 'd' [] (ms / 86400000) (by omega) rfl fun _ => congrArg Except.ok exactly
  rw [if_neg days]
  by_cases hours : ms % 3600000 = 0
  · rw [if_pos hours]
    have exactly : ms / 3600000 * 3600 % 2 ^ 64 * 1000 = ms := by omega
    exact reads (ms / 3600000) (by omega) rfl fun _ => congrArg Except.ok exactly
  rw [if_neg hours]
  by_cases minutes : ms % 60000 = 0
  · rw [if_pos minutes]
    have exactly : ms / 60000 * 60 % 2 ^ 64 * 1000 = ms := by omega
    exact reads (ms / 60000) (by omega) rfl fun _ => congrArg Except.ok exactly
  rw [if_neg minutes]
  by_cases seconds : ms % 1000 = 0
  · rw [if_pos seconds]
    have exactly : ms / 1000 * 1000 = ms := by omega
    exact reads (ms / 1000) (by omega) rfl fun _ => congrArg Except.ok exactly
  · rw [if_neg seconds]
    exact reads ms (Nat.le_refl ms) rfl fun _ => rfl

/-! ### What a text denotes -/

/-- The number that digits denote, after an optional sign, whatever its size. -/
def numeral (text : String) : Option Nat :=
  let digits := unsigned text.toList
  if digits.isEmpty || !digits.all Char.isDigit then none else some (Nat.ofDigitChars 10 digits 0)

/-- The milliseconds of a unit. -/
def unitMillis : String → Option Nat
  | "ms" => some 1
  | "s" => some 1000
  | "m" => some 60000
  | "h" => some 3600000
  | "d" => some 86400000
  | _ => none

/-- A text and its parts before and from its first letter. -/
structure Parts (text : String) (number unit : List Char) : Prop where
  whole : (trim text).toList = number ++ unit
  before : ∀ c ∈ number, c.isAlpha = false
  first : ∃ c rest, unit = c :: rest ∧ c.isAlpha = true

/-- The milliseconds that a text denotes: a number of units. -/
def Denotes (text : String) (ms : Nat) : Prop :=
  ∃ number unit n factor, Parts text number unit ∧
    numeral (trim (String.ofList number)) = some n ∧
    unitMillis (toAsciiLowercase (String.ofList unit)) = some factor ∧ ms = n * factor

theorem Parts.span {text : String} {number unit : List Char} (parts : Parts text number unit) :
    (trim text).toList.span (!·.isAlpha) = (number, unit) := by
  obtain ⟨whole, before, c, rest, rfl, letter⟩ := parts
  have passes : ∀ c ∈ number, (!c.isAlpha) = true := fun c member => by rw [before c member]; rfl
  have stops : (!c.isAlpha) = false := by rw [letter]; rfl
  rw [whole, List.span_eq_takeWhile_dropWhile, List.takeWhile_append_of_pos passes,
    List.dropWhile_append_of_pos passes, List.takeWhile_cons_of_neg (by simp [stops]),
    List.dropWhile_cons_of_neg (by simp [stops]), List.append_nil]

theorem parts_span {text : String} {number unit : List Char}
    (split : (trim text).toList.span (!·.isAlpha) = (number, unit)) (some_letter : unit ≠ []) :
    Parts text number unit := by
  generalize trimmed : (trim text).toList = chars at split
  rw [List.span_eq_takeWhile_dropWhile] at split
  obtain ⟨taken, dropped⟩ := Prod.mk.inj split
  constructor
  case whole => rw [trimmed, ← taken, ← dropped, List.takeWhile_append_dropWhile]
  case before =>
    intro c member
    rw [← taken] at member
    have passes := List.all_eq_true.mp List.all_takeWhile c member
    rwa [Bool.not_eq_true'] at passes
  case first =>
    cases unit with
    | nil => exact absurd rfl some_letter
    | cons c rest =>
        have stops := List.head?_dropWhile_not (!·.isAlpha) chars
        rw [dropped] at stops
        exact ⟨c, rest, rfl, by simpa using stops⟩

theorem Denotes.unique {text : String} {ms other : Nat} (left : Denotes text ms)
    (right : Denotes text other) : ms = other := by
  obtain ⟨number, unit, n, factor, parts, value, scale, rfl⟩ := left
  obtain ⟨number', unit', n', factor', parts', value', scale', rfl⟩ := right
  obtain ⟨rfl, rfl⟩ := Prod.mk.inj (parts.span.symm.trans parts'.span)
  rw [Option.some.inj (value.symm.trans value'), Option.some.inj (scale.symm.trans scale')]

theorem numeral_of_parseU64 {text : String} {n : Nat} (parsed : parseU64 text = some n) :
    numeral text = some n := by
  rw [parseU64_eq] at parsed
  rw [numeral]
  split at parsed
  case isTrue => cases parsed
  case isFalse digits =>
    rw [if_neg digits]
    split at parsed
    · exact parsed
    · cases parsed

/-- A unit that is known scales the number, up to the 64 bits of the product. -/
theorem inUnit_ok {s unit : String} {n d : Nat} (scaled : inUnit s n unit = .ok d) :
    ∃ factor, unitMillis unit = some factor ∧ (n * factor < 2 ^ 64 → d = n * factor) := by
  unfold inUnit at scaled
  split at scaled
  case h_6 => cases scaled
  all_goals
    cases scaled
    refine ⟨_, rfl, ?_⟩
    omega

/-- What is accepted denotes a number of milliseconds, and it is parsed to it when 64 bits
hold it. -/
theorem denotes_of_parsed {text : String} {d : Nat} (parsed : parseDuration text = .ok d) :
    ∃ ms, Denotes text ms ∧ (ms < 2 ^ 64 → d = ms) := by
  rw [parseDuration] at parsed
  rcases divided : (trim text).toList.span (!·.isAlpha) with ⟨number, unit⟩
  simp only [divided] at parsed
  split at parsed
  case isTrue => cases parsed
  case isFalse letter =>
    have parts := parts_span divided (by simpa using letter)
    split at parsed
    case h_1 => cases parsed
    case h_2 n number =>
      obtain ⟨factor, scale, exactly⟩ := inUnit_ok parsed
      exact ⟨n * factor, ⟨_, _, n, factor, parts, numeral_of_parseU64 number, scale, rfl⟩, exactly⟩

/-- An accepted text is parsed to what it denotes, and that is read back as it is written,
exactly when 64 bits hold the milliseconds. -/
theorem duration_codec_iff {text : String} {d : Nat} (accepted : parseDuration text = .ok d) :
    (Denotes text d ∧ parseDuration (formatDuration d) = .ok d) ↔
      ∃ ms, Denotes text ms ∧ ms < 2 ^ 64 := by
  rw [parseDuration_format]
  constructor
  · rintro ⟨denotes, same⟩
    have kept : d % 2 ^ 64 = d := Except.ok.inj same
    exact ⟨d, denotes, by omega⟩
  · rintro ⟨ms, denotes, small⟩
    obtain ⟨other, denotes', exactly⟩ := denotes_of_parsed accepted
    obtain rfl := denotes.unique denotes'
    obtain rfl := exactly small
    exact ⟨denotes, congrArg Except.ok (Nat.mod_eq_of_lt small)⟩

theorem no_letter {number : List Char} (all : number.all (!·.isAlpha) = true) :
    ∀ c ∈ number, c.isAlpha = false := by
  simpa only [List.all_eq_true, Bool.not_eq_true'] using all

theorem duration_codec_minutes :
    parseDuration " 15M " = .ok 900000 ∧ parseDuration (formatDuration 900000) = .ok 900000 := by
  have accepted : parseDuration " 15M " = .ok 900000 := by decide +kernel
  have denotes : Denotes " 15M " 900000 := by
    refine ⟨['1', '5'], ['M'], 15, 60000, ⟨by decide +kernel, no_letter rfl, 'M', [], rfl, rfl⟩,
      by decide +kernel, by decide +kernel, by decide⟩
  exact ⟨accepted, ((duration_codec_iff accepted).mpr ⟨900000, denotes, by decide⟩).2⟩

/-- A number of minutes whose seconds wrap around 64 bits. -/
theorem duration_codec_wraps : ∃ text d, parseDuration text = .ok d ∧
    ¬ (Denotes text d ∧ parseDuration (formatDuration d) = .ok d) := by
  refine ⟨"307445734561825861m", 44000, by decide +kernel, ?_⟩
  have denotes : Denotes "307445734561825861m" (307445734561825861 * 60000) :=
    ⟨"307445734561825861".toList, ['m'], 307445734561825861, 60000,
      ⟨by decide +kernel, no_letter rfl, 'm', [], rfl, rfl⟩,
      by decide +kernel, by decide +kernel, rfl⟩
  rintro ⟨wrapped, _⟩
  exact absurd (wrapped.unique denotes) (by decide)

end Datapress.Config
