import Mathlib.Data.List.TakeWhile
import Datapress.Backend
import Datapress.Config.Durations

/-! The `Range` header of the byte-serving routes: what the server makes of it, and what
RFC 9110 says that it means. -/
namespace Datapress
open Config (parseU64 digit_spec parseU64_of_digits trim_of_dark)

/-- `str::strip_prefix` -/
def stripStart (start text : String) : Option String :=
  if startsWith start text then some (String.ofList (text.toList.drop start.toList.length)) else none

/-- The text of the first range, if the header looks like a byte range. -/
def firstRange (header : String) : Option (String × String) := do
  let spec ← stripStart "bytes=" (trim header)
  let first := trim (String.ofList ((trim spec).toList.takeWhile (· ≠ ',')))
  splitOnce '-' first

/-- The positions that the two sides of the hyphen ask for. -/
def resolvePositions (startS endS : String) (total : Nat) : Except Unit (Nat × Nat) :=
  if startS.toList.isEmpty then
    match parseU64 (trim endS) with
    | none => .error ()
    | some n => if n = 0 then .error () else .ok (total - min n total, total - 1)
  else
    match parseU64 (trim startS) with
    | none => .error ()
    | some start =>
      if (trim endS).toList.isEmpty then .ok (start, total - 1)
      else
        match parseU64 (trim endS) with
        | none => .error ()
        | some last => .ok (start, min last (total - 1))

/-- `.ok none` serves the full body, `.error ()` answers `416`. -/
def parseByteRange (header : String) (total : Nat) : Except Unit (Option ByteRange) :=
  match firstRange header with
  | none => .ok none
  | some (startS, endS) =>
    if total = 0 then .error ()
    else do
      let (start, last) ← resolvePositions startS endS total
      if start > last || start ≥ total then .error () else .ok (some ⟨start, last⟩)

/-- A body of bytes; a `u64` holds its length. -/
structure RangeBody where
  bytes : List UInt8
  counted : bytes.length < 2 ^ 64

def RangeBody.total (body : RangeBody) : Nat := body.bytes.length

structure RangeResponse where
  status : Nat
  contentType : Option String := none
  contentRange : Option String := none
  body : List UInt8 := []
deriving Repr, DecidableEq

def fullBody (body : RangeBody) (contentType : String) : RangeResponse where
  status := 200
  contentType := contentType
  body := body.bytes

/-- `range` is the header's value, when it is there and visible ASCII. All answers also
carry `Accept-Ranges: bytes`. -/
def serveBytesWithRange (range : Option String) (body : RangeBody) (contentType : String) :
    RangeResponse :=
  match range.map (parseByteRange · body.total) with
  | some (.error ()) => { status := 416, contentRange := some s!"bytes */{body.total}" }
  | some (.ok (some r)) => {
      status := 206, contentType := contentType
      contentRange := some s!"bytes {r.start}-{r.last}/{body.total}"
      body := (body.bytes.drop r.start).take (r.last + 1 - r.start) }
  | _ => fullBody body contentType

/-! ### RFC 9110 -/

/-- A single range: from a first position, to a last one or to the end, or the last bytes. -/
inductive RangeSpec where
  | int (first : Nat) (last : Option Nat)
  | suffix (length : Nat)

/-- `1*DIGIT` -/
structure Digits (text : List Char) (n : Nat) : Prop where
  nonempty : text ≠ []
  digits : ∀ c ∈ text, c.isDigit = true
  value : Nat.ofDigitChars 10 text 0 = n

namespace RangeSpec

/-- The texts of a range. A last position before the first one is invalid. -/
inductive Spells : RangeSpec → List Char → Prop where
  | openEnded : Digits first n → Spells (.int n none) (first ++ ['-'])
  | closed : Digits first n → Digits last m → n ≤ m → Spells (.int n (some m)) (first ++ '-' :: last)
  | suffix : Digits last n → Spells (.suffix n) ('-' :: last)

/-- A header with that single range. The unit is case-insensitive, and the whitespace around a
field value is not part of it. -/
def Valid (header : String) (unit : String) (spec : RangeSpec) : Prop :=
  ∃ before text after,
    header.toList = before ++ (unit.toList ++ '=' :: text) ++ after ∧
    (∀ c ∈ before ++ after, c = ' ' ∨ c = '\t') ∧
    toAsciiLowercase unit = "bytes" ∧ spec.Spells text

/-- The bytes of a body that are selected, if any are. -/
def select (total : Nat) : RangeSpec → Option ByteRange
  | .int first last =>
    if first < total then some ⟨first, (last.map (min · (total - 1))).getD (total - 1)⟩ else none
  | .suffix length =>
    if length = 0 || total = 0 then none else some ⟨total - min length total, total - 1⟩

theorem select_bounds {total : Nat} {spec : RangeSpec} {text : List Char} {r : ByteRange}
    (spelled : spec.Spells text) (selected : spec.select total = some r) :
    r.start ≤ r.last ∧ r.last < total := by
  cases spelled with
  | openEnded _ =>
      simp only [select, Option.map_none, Option.getD_none, Option.ite_none_right_eq_some] at selected
      obtain ⟨inside, same⟩ := selected
      cases same
      simp only
      omega
  | closed _ _ ordered =>
      simp only [select, Option.map_some, Option.getD_some, Option.ite_none_right_eq_some] at selected
      obtain ⟨inside, same⟩ := selected
      cases same
      simp only
      omega
  | suffix _ =>
      simp only [select, Bool.or_eq_true, decide_eq_true_eq, Option.ite_none_left_eq_some] at selected
      obtain ⟨some, same⟩ := selected
      cases same
      simp only
      omega

/-- The characters of a range. -/
def rangeCharacter (c : Char) : Bool := c.isDigit || c == '-'

theorem Spells.characters {spec : RangeSpec} {text : List Char} (spelled : spec.Spells text) :
    ∀ c ∈ text, rangeCharacter c = true := by
  have digit {text : List Char} {n : Nat} (digits : Digits text n) :
      ∀ c ∈ text, rangeCharacter c = true := by
    intro c member
    rw [rangeCharacter, digits.digits c member, Bool.true_or]
  intro c member
  cases spelled with
  | openEnded first =>
      rcases List.mem_append.mp member with before | hyphen
      · exact digit first c before
      · rw [List.mem_singleton.mp hyphen]
        rfl
  | closed first last _ =>
      rcases List.mem_append.mp member with before | rest
      · exact digit first c before
      · rcases List.mem_cons.mp rest with rfl | after
        · rfl
        · exact digit last c after
  | suffix last =>
      rcases List.mem_cons.mp member with rfl | after
      · rfl
      · exact digit last c after

end RangeSpec

theorem Digits.hyphen_free {text : List Char} {n : Nat} (digits : Digits text n) :
    ∀ c ∈ text, c ≠ '-' := by
  rintro c member rfl
  exact absurd (digits.digits _ member) (by decide)

theorem dark_of_rangeCharacter {c : Char} (character : RangeSpec.rangeCharacter c = true) :
    isWhitespace c = false ∧ c ≠ ',' := by
  rw [RangeSpec.rangeCharacter, Bool.or_eq_true, beq_iff_eq] at character
  rcases character with digit | rfl
  · refine ⟨(digit_spec digit).1, ?_⟩
    rintro rfl
    exact absurd digit (by decide)
  · decide

/-- Two texts that are split at their only hyphen. -/
theorem split_hyphen {before after : List Char} (free : ∀ c ∈ before, c ≠ '-') :
    splitOnce '-' (String.ofList (before ++ '-' :: after)) =
      some (String.ofList before, String.ofList after) := by
  have passes : ∀ c ∈ before, decide (c ≠ '-') = true := fun c member => decide_eq_true (free c member)
  rw [splitOnce, String.toList_ofList, List.span_eq_takeWhile_dropWhile,
    List.takeWhile_append_of_pos passes, List.dropWhile_append_of_pos passes,
    List.takeWhile_cons_of_neg (by simp), List.dropWhile_cons_of_neg (by simp), List.append_nil]

theorem Digits.parsed {text : List Char} {n : Nat} (digits : Digits text n) (small : n < 2 ^ 64) :
    parseU64 (trim (String.ofList text)) = some n := by
  rw [trim_of_dark fun c member => (digit_spec (digits.digits c member)).1,
    parseU64_of_digits digits.nonempty digits.digits, digits.value, if_pos small]

theorem Digits.not_parsed {text : List Char} {n : Nat} (digits : Digits text n)
    (big : ¬ n < 2 ^ 64) : parseU64 (trim (String.ofList text)) = none := by
  rw [trim_of_dark fun c member => (digit_spec (digits.digits c member)).1,
    parseU64_of_digits digits.nonempty digits.digits, digits.value, if_neg big]

/-- The value of a field is what stands between its whitespace. -/
theorem trim_of_around {before text after : List Char}
    (light : ∀ c ∈ before ++ after, isWhitespace c = true) (nonempty : text ≠ [])
    (dark : ∀ c ∈ text, isWhitespace c = false) :
    trim (String.ofList (before ++ text ++ after)) = String.ofList text := by
  have lead {around inner : List Char} (light : ∀ c ∈ around, isWhitespace c = true)
      (nonempty : inner ≠ []) (dark : ∀ c ∈ inner, isWhitespace c = false) (rest : List Char) :
      (around ++ (inner ++ rest)).dropWhile isWhitespace = inner ++ rest := by
    obtain ⟨c, others, rfl⟩ := List.exists_cons_of_ne_nil nonempty
    rw [List.dropWhile_append_of_pos light, List.cons_append,
      List.dropWhile_cons_of_neg (by simp [dark c List.mem_cons_self])]
  have front : ∀ c ∈ before, isWhitespace c = true := fun c member =>
    light c (List.mem_append_left after member)
  have back : ∀ c ∈ after.reverse, isWhitespace c = true := fun c member =>
    light c (List.mem_append_right before (List.mem_reverse.mp member))
  have mirrored : ∀ c ∈ text.reverse, isWhitespace c = false := fun c member =>
    dark c (List.mem_reverse.mp member)
  have dropped := lead back (by simpa using nonempty) mirrored []
  rw [List.append_nil] at dropped
  rw [trim, String.toList_ofList, List.append_assoc, lead front nonempty dark, List.reverse_append,
    dropped, List.reverse_reverse]

theorem alpha_spec {c : Char} (alpha : c.isAlpha = true) :
    isWhitespace c = false ∧ c ≠ ',' := by
  have bounds : 65 ≤ c.toNat ∧ c.toNat ≤ 122 := by
    have := isAlpha_bounds alpha
    omega
  constructor
  · simp only [isWhitespace, Bool.or_eq_false_iff, Bool.and_eq_false_iff, decide_eq_false_iff_not,
      beq_eq_false_iff_ne]
    omega
  · rintro rfl
    exact absurd bounds.1 (by decide)

theorem alpha_of_unit {unit : String} (lower : toAsciiLowercase unit = "bytes") :
    ∀ c ∈ unit.toList, c.isAlpha = true := by
  intro c member
  have lowered : c.toLower ∈ "bytes".toList := by
    rw [← lower, toAsciiLowercase, String.toList_ofList]
    exact List.mem_map_of_mem member
  rcases toLower_spec c with ⟨upper, _⟩ | ⟨_, same⟩
  · have isUpper : c.isUpper = true := decide_eq_true upper
    exact (Bool.or_eq_true ..).mpr (.inl isUpper)
  · rw [same] at lowered
    have letters : "bytes".toList.all Char.isAlpha = true := rfl
    exact List.all_eq_true.mp letters c lowered

namespace RangeSpec

/-- A valid header, without the whitespace around it. -/
theorem Valid.trimmed {header unit : String} {spec : RangeSpec} (valid : Valid header unit spec) :
    ∃ text, trim header = String.ofList (unit.toList ++ '=' :: text) ∧ spec.Spells text ∧
      toAsciiLowercase unit = "bytes" := by
  obtain ⟨before, text, after, whole, around, lower, spelled⟩ := valid
  refine ⟨text, ?_, spelled, lower⟩
  rw [← String.ofList_toList (s := header), whole]
  apply trim_of_around
  · intro c member
    rcases around c member with rfl | rfl <;> decide
  · simp
  · intro c member
    rcases List.mem_append.mp member with of_unit | rest
    · exact (alpha_spec (alpha_of_unit lower c of_unit)).1
    · rcases List.mem_cons.mp rest with rfl | of_text
      · decide
      · exact (dark_of_rangeCharacter (spelled.characters c of_text)).1

theorem unit_length {unit : String} (lower : toAsciiLowercase unit = "bytes") :
    unit.toList.length = 5 := by
  have lengths := congrArg (fun text : String => text.toList.length) lower
  simpa [toAsciiLowercase] using lengths

/-- The range that the digits before and after the hyphen give. -/
def ofParts (before after : List Char) : RangeSpec :=
  if before.isEmpty then .suffix (Nat.ofDigitChars 10 after 0)
  else .int (Nat.ofDigitChars 10 before 0)
    (if after.isEmpty then none else some (Nat.ofDigitChars 10 after 0))

theorem Spells.parts {spec : RangeSpec} {text : List Char} (spelled : spec.Spells text) :
    ∃ before after, splitOnce '-' (String.ofList text) =
      some (String.ofList before, String.ofList after) ∧ spec = ofParts before after := by
  cases spelled with
  | @openEnded first n digits =>
      refine ⟨first, [], split_hyphen digits.hyphen_free, ?_⟩
      rw [ofParts, if_neg (by simpa using digits.nonempty), digits.value]
      rfl
  | @closed first n last m digits others ordered =>
      refine ⟨first, last, split_hyphen digits.hyphen_free, ?_⟩
      rw [ofParts, if_neg (by simpa using digits.nonempty),
        if_neg (by simpa using others.nonempty), digits.value, others.value]
  | @suffix last n digits =>
      have split := @split_hyphen [] last fun _ impossible => nomatch impossible
      rw [List.nil_append] at split
      refine ⟨[], last, split, ?_⟩
      rw [ofParts, digits.value]
      rfl

theorem Spells.unique {spec other : RangeSpec} {text : List Char} (left : spec.Spells text)
    (right : other.Spells text) : spec = other := by
  obtain ⟨before, after, split, rfl⟩ := left.parts
  obtain ⟨before', after', split', rfl⟩ := right.parts
  rw [split, Option.some.injEq, Prod.mk.injEq, String.ofList_inj, String.ofList_inj] at split'
  rw [split'.1, split'.2]

theorem Valid.unique {header unit other : String} {spec spec' : RangeSpec}
    (left : Valid header unit spec) (right : Valid header other spec') :
    unit = other ∧ spec = spec' := by
  obtain ⟨text, trimmed, spelled, lower⟩ := left.trimmed
  obtain ⟨text', trimmed', spelled', lower'⟩ := right.trimmed
  rw [trimmed, String.ofList_inj] at trimmed'
  have lengths : unit.toList.length = other.toList.length := by
    rw [unit_length lower, unit_length lower']
  obtain ⟨units, texts⟩ := List.append_inj trimmed' lengths
  obtain rfl := (List.cons.inj texts).2
  exact ⟨String.toList_inj.mp units, spelled.unique spelled'⟩

end RangeSpec

/-! ### The two of them -/

open RangeSpec

/-- What the server reads of a valid header. -/
theorem firstRange_valid {header : String} {spec : RangeSpec} (valid : Valid header "bytes" spec) :
    ∃ text, spec.Spells text ∧ firstRange header = splitOnce '-' (String.ofList text) := by
  obtain ⟨text, trimmed, spelled, _⟩ := valid.trimmed
  refine ⟨text, spelled, ?_⟩
  have dark : ∀ c ∈ text, isWhitespace c = false := fun c member =>
    (dark_of_rangeCharacter (spelled.characters c member)).1
  have stripped : stripStart "bytes=" (trim header) = some (String.ofList text) := by
    have starts : startsWith "bytes=" (String.ofList ("bytes".toList ++ '=' :: text)) = true := by
      simp only [startsWith, String.toList_ofList]
      exact List.isPrefixOf_iff_prefix.mpr ⟨text, rfl⟩
    rw [trimmed, stripStart, if_pos starts]
    simp only [String.toList_ofList]
    rfl
  have whole : text.takeWhile (· ≠ ',') = text := by
    rw [List.takeWhile_eq_self_iff]
    intro c member
    exact decide_eq_true (dark_of_rangeCharacter (spelled.characters c member)).2
  rw [firstRange, stripped, Option.bind_eq_bind, Option.bind_some, trim_of_dark dark,
    String.toList_ofList, whole, trim_of_dark dark]

theorem firstRange_other {header unit : String} {spec : RangeSpec}
    (valid : Valid header unit spec) (other : unit ≠ "bytes") : firstRange header = none := by
  obtain ⟨text, trimmed, spelled, lower⟩ := valid.trimmed
  have stripped : stripStart "bytes=" (trim header) = none := by
    rw [trimmed, stripStart, if_neg]
    simp only [startsWith, String.toList_ofList, List.isPrefixOf_iff_prefix]
    rintro ⟨rest, whole⟩
    have lengths : "bytes".toList.length = unit.toList.length := by rw [unit_length lower]; rfl
    have split : "bytes".toList ++ '=' :: rest = unit.toList ++ '=' :: text := whole
    exact other (String.toList_inj.mp (List.append_inj split lengths).1.symm)
  rw [firstRange, stripped]
  rfl

namespace RangeSpec

/-- What RFC 9110 asks for: the range, or that no byte is selected. -/
def outcome (total : Nat) (spec : RangeSpec) : Except Unit (Option ByteRange) :=
  match spec.select total with
  | some r => .ok (some r)
  | none => .error ()

/-- 64 bits hold the last position or the length of the suffix, if it matters. -/
def Fits (total : Nat) : RangeSpec → Prop
  | .int first (some last) => last < 2 ^ 64 ∨ total ≤ first
  | .int _ none => True
  | .suffix length => length < 2 ^ 64 ∨ total = 0

theorem outcome_closed {total n m : Nat} (outside : total ≤ n) :
    outcome total (.int n (some m)) = .error () := by
  rw [outcome, select, if_neg (by omega)]

end RangeSpec

theorem trim_empty : (trim (String.ofList [])).toList.isEmpty = true := rfl

theorem trim_digits {text : List Char} {n : Nat} (digits : Digits text n) :
    (trim (String.ofList text)).toList.isEmpty = false := by
  rw [trim_of_dark fun c member => (digit_spec (digits.digits c member)).1, String.toList_ofList]
  simpa using digits.nonempty

section
variable {header : String} {total n m : Nat} {first last : List Char}

/-- The error that an empty body gets, whatever is asked for. -/
theorem parse_empty {startS endS : String} (found : firstRange header = some (startS, endS))
    (empty : total = 0) : parseByteRange header total = .error () := by
  rw [parseByteRange, found]
  simp only [if_pos empty]

theorem parse_resolved {startS endS : String} (found : firstRange header = some (startS, endS))
    (some_byte : total ≠ 0) {start stop : Nat}
    (resolved : resolvePositions startS endS total = .ok (start, stop)) :
    parseByteRange header total =
      if start > stop ∨ start ≥ total then .error () else .ok (some ⟨start, stop⟩) := by
  rw [parseByteRange, found]
  simp only [if_neg some_byte, resolved, bind, Except.bind, Bool.or_eq_true, decide_eq_true_eq]

theorem parse_unresolved {startS endS : String} (found : firstRange header = some (startS, endS))
    (some_byte : total ≠ 0) (refused : resolvePositions startS endS total = .error ()) :
    parseByteRange header total = .error () := by
  rw [parseByteRange, found]
  simp only [if_neg some_byte, refused, bind, Except.bind]

theorem given_of_digits (digits : Digits first n) :
    (String.ofList first).toList.isEmpty = false := by
  simpa using digits.nonempty

theorem parse_openEnded (small : total < 2 ^ 64) (digits : Digits first n)
    (found : firstRange header = some (String.ofList first, String.ofList [])) :
    parseByteRange header total = outcome total (.int n none) := by
  by_cases empty : total = 0
  · rw [parse_empty found empty, outcome, select, if_neg (by omega)]
  by_cases fits : n < 2 ^ 64
  · have resolved : resolvePositions (String.ofList first) (String.ofList []) total =
        .ok (n, total - 1) := by
      simp only [resolvePositions, given_of_digits digits, digits.parsed fits, trim_empty, if_true,
        Bool.false_eq_true, if_false]
    rw [parse_resolved found empty resolved, outcome, select]
    by_cases inside : n < total
    · rw [if_neg (by omega), if_pos inside]
      rfl
    · rw [if_pos (by omega), if_neg inside]
  · have refused : resolvePositions (String.ofList first) (String.ofList []) total = .error () := by
      simp only [resolvePositions, given_of_digits digits, digits.not_parsed fits,
        Bool.false_eq_true, if_false]
    rw [parse_unresolved found empty refused, outcome, select, if_neg (by omega)]

theorem parse_closed (small : total < 2 ^ 64) (digits : Digits first n) (others : Digits last m)
    (ordered : n ≤ m) (found : firstRange header = some (String.ofList first, String.ofList last)) :
    parseByteRange header total =
      if m < 2 ^ 64 then outcome total (.int n (some m)) else .error () := by
  by_cases empty : total = 0
  · rw [parse_empty found empty, outcome, select, if_neg (show ¬ n < total by omega), ite_self]
  by_cases fits : m < 2 ^ 64
  · have resolved : resolvePositions (String.ofList first) (String.ofList last) total =
        .ok (n, min m (total - 1)) := by
      simp only [resolvePositions, given_of_digits digits,
        digits.parsed (Nat.lt_of_le_of_lt ordered fits), trim_digits others, others.parsed fits,
        Bool.false_eq_true, if_false]
    rw [parse_resolved found empty resolved, if_pos fits, outcome, select]
    by_cases inside : n < total
    · rw [if_neg (by omega), if_pos inside]
      rfl
    · rw [if_pos (by omega), if_neg inside]
  · have refused : resolvePositions (String.ofList first) (String.ofList last) total =
        .error () := by
      by_cases below : n < 2 ^ 64
      · simp only [resolvePositions, given_of_digits digits, digits.parsed below,
          trim_digits others, others.not_parsed fits, Bool.false_eq_true, if_false]
      · simp only [resolvePositions, given_of_digits digits, digits.not_parsed below,
          Bool.false_eq_true, if_false]
    rw [parse_unresolved found empty refused, if_neg fits]

theorem parse_suffix (digits : Digits last n)
    (found : firstRange header = some (String.ofList [], String.ofList last)) :
    parseByteRange header total =
      if n < 2 ^ 64 then outcome total (.suffix n) else .error () := by
  have given : (String.ofList []).toList.isEmpty = true := rfl
  by_cases empty : total = 0
  · have nothing : select total (.suffix n) = none := by rw [select, if_pos (by simp [empty])]
    rw [parse_empty found empty, outcome, nothing, ite_self]
  by_cases fits : n < 2 ^ 64
  · rw [if_pos fits, outcome, select]
    by_cases zero : n = 0
    · have refused : resolvePositions (String.ofList []) (String.ofList last) total = .error () := by
        simp only [resolvePositions, given, digits.parsed fits, if_true, if_pos zero]
      rw [parse_unresolved found empty refused, if_pos (by simp [zero])]
    · have resolved : resolvePositions (String.ofList []) (String.ofList last) total =
          .ok (total - min n total, total - 1) := by
        simp only [resolvePositions, given, digits.parsed fits, if_true, if_neg zero]
      rw [parse_resolved found empty resolved, if_neg (by omega), if_neg (by simp [zero, empty])]
  · have refused : resolvePositions (String.ofList []) (String.ofList last) total = .error () := by
      simp only [resolvePositions, given, digits.not_parsed fits, if_true]
    rw [parse_unresolved found empty refused, if_neg fits]

end

/-- A valid range is read as RFC 9110 says, unless 64 bits do not hold a number that matters:
then it is refused, although it selects bytes. -/
theorem parse_valid {header : String} {spec : RangeSpec} {total : Nat} (small : total < 2 ^ 64)
    (valid : Valid header "bytes" spec) :
    (spec.Fits total → parseByteRange header total = spec.outcome total) ∧
    (¬ spec.Fits total → parseByteRange header total = .error () ∧ spec.select total ≠ none) := by
  obtain ⟨text, spelled, found⟩ := firstRange_valid valid
  cases spelled with
  | openEnded digits =>
      rw [split_hyphen digits.hyphen_free] at found
      rw [parse_openEnded small digits found]
      exact ⟨fun _ => rfl, fun unfit => absurd trivial unfit⟩
  | @closed first n last m digits others ordered =>
      rw [split_hyphen digits.hyphen_free] at found
      rw [parse_closed small digits others ordered found]
      constructor
      · intro fits
        rcases fits with below | outside
        · rw [if_pos below]
        · rw [outcome_closed outside, ite_self]
      · intro unfit
        obtain ⟨above, inside⟩ := not_or.mp unfit
        rw [if_neg above, select, if_pos (by omega)]
        exact ⟨rfl, Option.some_ne_none _⟩
  | @suffix last n digits =>
      have split := @split_hyphen [] last fun _ impossible => nomatch impossible
      rw [List.nil_append] at split
      rw [split] at found
      rw [parse_suffix digits found]
      constructor
      · intro fits
        rcases fits with below | empty
        · rw [if_pos below]
        · rw [outcome, select, empty]
          simp
      · intro unfit
        obtain ⟨above, some⟩ := not_or.mp unfit
        rw [if_neg above, select, if_neg (by simp; omega)]
        exact ⟨rfl, Option.some_ne_none _⟩

theorem parse_ignored_iff {header : String} {total : Nat} :
    parseByteRange header total = .ok none ↔ firstRange header = none := by
  rw [parseByteRange]
  cases firstRange header with
  | none => exact iff_of_true rfl rfl
  | some parts =>
      refine iff_of_false ?_ (Option.some_ne_none parts)
      obtain ⟨startS, endS⟩ := parts
      simp only
      split
      · exact fun impossible => nomatch impossible
      · intro ignored
        obtain ⟨⟨start, last⟩, _, finished⟩ := Fallible.bind_ok_iff.mp ignored
        simp only at finished
        split at finished
        · cases finished
        · cases finished

/-! ### When the server reads a header as RFC 9110 does -/

/-- A range is returned only for a valid single range that it is the interpretation of, the
error exactly for a valid single range that selects no byte, and a header without a valid
single range is ignored. -/
structure Interpreted (header : String) (body : RangeBody) : Prop where
  range : ∀ r, parseByteRange header body.total = .ok (some r) →
    r.start ≤ r.last ∧ r.last < body.total ∧
    ∃ unit spec, Valid header unit spec ∧ spec.select body.total = some r
  unsatisfiable : parseByteRange header body.total = .error () ↔
    ∃ unit spec, Valid header unit spec ∧ spec.select body.total = none
  ignored : (∀ unit spec, ¬ Valid header unit spec) → ∀ contentType,
    serveBytesWithRange (some header) body contentType = fullBody body contentType

/-- A valid range in the unit as it is registered, whose numbers fit; a valid range in another
spelling of the unit that selects bytes; or a header without a valid range that does not begin
as a byte range, or has no hyphen before its first comma. -/
def Answerable (header : String) (total : Nat) : Prop :=
  (∃ spec, Valid header "bytes" spec ∧ spec.Fits total) ∨
  (∃ unit spec, Valid header unit spec ∧ unit ≠ "bytes" ∧ spec.select total ≠ none) ∨
  ((∀ unit spec, ¬ Valid header unit spec) ∧ firstRange header = none)

section
variable {header unit : String} {body : RangeBody} {spec : RangeSpec}

theorem Valid.selected (valid : Valid header unit spec) {r : ByteRange}
    (selected : spec.select body.total = some r) : r.start ≤ r.last ∧ r.last < body.total := by
  obtain ⟨text, _, spelled, _⟩ := valid.trimmed
  exact select_bounds spelled selected

theorem interpreted_valid_iff (valid : Valid header unit spec) :
    Interpreted header body ↔ parseByteRange header body.total = spec.outcome body.total ∨
      parseByteRange header body.total = .ok none ∧ spec.select body.total ≠ none := by
  constructor
  · intro interpreted
    cases parsed : parseByteRange header body.total with
    | error _ =>
        obtain ⟨_, _, valid', nothing⟩ := interpreted.unsatisfiable.mp parsed
        obtain rfl := (valid.unique valid').2
        rw [outcome, nothing]
        exact .inl rfl
    | ok range =>
        cases range with
        | none =>
            refine .inr ⟨rfl, fun nothing => ?_⟩
            have refused := interpreted.unsatisfiable.mpr ⟨unit, spec, valid, nothing⟩
            rw [parsed] at refused
            cases refused
        | some r =>
            obtain ⟨_, _, _, _, valid', selected⟩ := interpreted.range r parsed
            obtain rfl := (valid.unique valid').2
            rw [outcome, selected]
            exact .inl rfl
  · intro reads
    have known : ¬ ∀ unit spec, ¬ Valid header unit spec := fun none => none unit spec valid
    rcases reads with read | ⟨read, some_byte⟩
    · constructor
      · intro r parsed
        rw [read, outcome] at parsed
        split at parsed
        case h_1 found selected =>
          cases parsed
          have bounds := Valid.selected valid selected
          exact ⟨bounds.1, bounds.2, unit, spec, valid, selected⟩
        case h_2 => cases parsed
      · rw [read]
        constructor
        · intro refused
          rw [outcome] at refused
          split at refused
          case h_1 => cases refused
          case h_2 nothing => exact ⟨unit, spec, valid, nothing⟩
        · rintro ⟨_, _, valid', nothing⟩
          obtain rfl := (valid.unique valid').2
          rw [outcome, nothing]
      · exact fun none => absurd none known
    · constructor
      · intro r parsed
        rw [read] at parsed
        cases parsed
      · rw [read]
        constructor
        · exact fun impossible => nomatch impossible
        · rintro ⟨_, _, valid', nothing⟩
          obtain rfl := (valid.unique valid').2
          exact absurd nothing some_byte
      · exact fun none => absurd none known

theorem interpreted_invalid_iff (invalid : ∀ unit spec, ¬ Valid header unit spec) :
    Interpreted header body ↔ firstRange header = none := by
  rw [← @parse_ignored_iff header body.total]
  constructor
  · intro interpreted
    cases parsed : parseByteRange header body.total with
    | error _ =>
        obtain ⟨unit, spec, valid, _⟩ := interpreted.unsatisfiable.mp parsed
        exact absurd valid (invalid unit spec)
    | ok range =>
        cases range with
        | none => rfl
        | some r =>
            obtain ⟨_, _, unit, spec, valid, _⟩ := interpreted.range r parsed
            exact absurd valid (invalid unit spec)
  · intro ignored
    constructor
    · intro r parsed
      rw [ignored] at parsed
      cases parsed
    · rw [ignored]
      constructor
      · exact fun impossible => nomatch impossible
      · rintro ⟨unit, spec, valid, _⟩
        exact absurd valid (invalid unit spec)
    · intro _ contentType
      rw [serveBytesWithRange, Option.map_some, ignored]

end

/-- The server reads a header as RFC 9110 does exactly when it is answerable. -/
theorem byte_ranges_iff (header : String) (body : RangeBody) :
    Interpreted header body ↔ Answerable header body.total := by
  by_cases validity : ∃ unit spec, Valid header unit spec
  · obtain ⟨unit, spec, valid⟩ := validity
    rw [interpreted_valid_iff valid]
    have known : ¬ ∀ unit spec, ¬ Valid header unit spec := fun none => none unit spec valid
    by_cases registered : unit = "bytes"
    · subst registered
      obtain ⟨fitting, unfitting⟩ := parse_valid body.counted valid
      by_cases fits : spec.Fits body.total
      · exact iff_of_true (.inl (fitting fits)) (.inl ⟨spec, valid, fits⟩)
      · obtain ⟨refused, selects⟩ := unfitting fits
        apply iff_of_false
        · rintro (read | ⟨read, _⟩)
          · rw [RangeBody.total, refused, outcome] at read
            split at read
            case h_1 => cases read
            case h_2 nothing => exact selects nothing
          · rw [RangeBody.total, refused] at read
            cases read
        · rintro (⟨_, valid', fits'⟩ | ⟨_, _, valid', other, _⟩ | ⟨none, _⟩)
          · obtain rfl := (valid.unique valid').2
            exact fits fits'
          · exact other (valid.unique valid').1.symm
          · exact known none
    · have ignored := @parse_ignored_iff header body.total |>.mpr (firstRange_other valid registered)
      constructor
      · rintro (read | ⟨_, selects⟩)
        · rw [ignored, outcome] at read
          split at read <;> cases read
        · exact .inr (.inl ⟨unit, spec, valid, registered, selects⟩)
      · rintro (⟨_, valid', _⟩ | ⟨_, _, valid', _, selects⟩ | ⟨none, _⟩)
        · exact absurd (valid.unique valid').1 registered
        · obtain rfl := (valid.unique valid').2
          exact .inr ⟨ignored, selects⟩
        · exact absurd none known
  · have invalid : ∀ unit spec, ¬ Valid header unit spec := by
      intro unit spec valid
      exact validity ⟨unit, spec, valid⟩
    rw [interpreted_invalid_iff invalid]
    constructor
    · exact fun ignored => .inr (.inr ⟨invalid, ignored⟩)
    · rintro (⟨spec, valid, _⟩ | ⟨unit, spec, valid, _⟩ | ⟨_, ignored⟩)
      · exact absurd valid (invalid "bytes" spec)
      · exact absurd valid (invalid unit spec)
      · exact ignored

/-- A header with two ranges, of which the first one is served. -/
theorem byte_ranges_multiple : ∃ (header : String) (body : RangeBody), ¬ Interpreted header body := by
  refine ⟨"bytes=0-1,4-5", ⟨[1, 2, 3, 4, 5, 6], by decide⟩, fun interpreted => ?_⟩
  have parsed : parseByteRange "bytes=0-1,4-5" 6 = .ok (some ⟨0, 1⟩) := by decide +kernel
  obtain ⟨_, _, unit, spec, valid, _⟩ := interpreted.range ⟨0, 1⟩ parsed
  obtain ⟨text, trimmed, spelled, lower⟩ := valid.trimmed
  have comma : ',' ∈ unit.toList ++ '=' :: text := by
    rw [← String.toList_ofList (l := unit.toList ++ '=' :: text), ← trimmed]
    decide +kernel
  rcases List.mem_append.mp comma with of_unit | of_text
  · exact (alpha_spec (alpha_of_unit lower ',' of_unit)).2 rfl
  · rcases List.mem_cons.mp of_text with impossible | of_range
    · exact absurd impossible (by decide)
    · exact (dark_of_rangeCharacter (spelled.characters ',' of_range)).2 rfl

end Datapress
