import Mathlib.Algebra.Ring.Int.Defs
import Mathlib.Algebra.Ring.Nat
import Mathlib.Data.List.Basic

/-! The string operations the server relies on, over the characters of a string
so that they evaluate. `str::to_lowercase` follows the Unicode tables of the
standard library and is a parameter here. -/
namespace Datapress

/-- `str::to_ascii_lowercase`. -/
def toAsciiLowercase (text : String) : String :=
  String.ofList (text.toList.map Char.toLower)

/-- An upper-case letter moves by 32, anything else stays. -/
theorem toLower_spec (c : Char) :
    (c.val ≥ 65 ∧ c.val ≤ 90) ∧ c.toLower.val = c.val + 32 ∨
      ¬ (c.val ≥ 65 ∧ c.val ≤ 90) ∧ c.toLower = c := by
  by_cases upper : c.val ≥ 65 ∧ c.val ≤ 90
  · exact .inl ⟨upper, congrArg Char.val (dif_pos upper)⟩
  · exact .inr ⟨upper, dif_neg upper⟩

theorem isAlpha_bounds {c : Char} (alpha : c.isAlpha = true) :
    (65 ≤ c.toNat ∧ c.toNat ≤ 90) ∨ (97 ≤ c.toNat ∧ c.toNat ≤ 122) := by
  rcases (Bool.or_eq_true ..).mp alpha with upper | lower
  · have bounds : 65 ≤ c.val ∧ c.val ≤ 90 := of_decide_eq_true upper
    exact .inl ⟨UInt32.le_iff_toNat_le.mp bounds.1, UInt32.le_iff_toNat_le.mp bounds.2⟩
  · obtain ⟨low, high⟩ := (Bool.and_eq_true ..).mp lower
    have low' : 97 ≤ c.val := of_decide_eq_true low
    have high' : c.val ≤ 122 := of_decide_eq_true high
    exact .inr ⟨UInt32.le_iff_toNat_le.mp low', UInt32.le_iff_toNat_le.mp high'⟩

private theorem toLower_idempotent (c : Char) : c.toLower.toLower = c.toLower := by
  rcases toLower_spec c with ⟨upper, moved⟩ | ⟨_, same⟩
  · rcases toLower_spec c.toLower with ⟨again, _⟩ | ⟨_, same⟩
    · rw [moved] at again
      grind [UInt32.toNat_add]
    · exact same
  · rw [same, same]

theorem toAsciiLowercase_idempotent (text : String) :
    toAsciiLowercase (toAsciiLowercase text) = toAsciiLowercase text := by
  simp only [toAsciiLowercase, String.toList_ofList, List.map_map, Function.comp_def,
    toLower_idempotent]

/-- `str::to_lowercase`: it leaves lowered text alone, and on ASCII text it is
`to_ascii_lowercase`. -/
class ToLowercase where
  toLowercase : String → String
  idempotent : ∀ text, toLowercase (toLowercase text) = toLowercase text
  ascii : ∀ text, (∀ c ∈ text.toList, c.val < 128) → toLowercase text = toAsciiLowercase text

export ToLowercase (toLowercase)

attribute [simp] ToLowercase.idempotent

/-- The lowering of ASCII letters, for runs on ASCII inputs. -/
@[reducible] def asciiToLowercase : ToLowercase where
  toLowercase := toAsciiLowercase
  idempotent := toAsciiLowercase_idempotent
  ascii _ _ := rfl

/-- `eq_ignore_ascii_case`. -/
def eqIgnoreAsciiCase (left right : String) : Bool :=
  toAsciiLowercase left == toAsciiLowercase right

/-- `char::is_whitespace`, the Unicode property `White_Space`. -/
def isWhitespace (c : Char) : Bool :=
  let code := c.toNat
  (9 ≤ code && code ≤ 13) || code == 0x20 || code == 0x85 || code == 0xA0 || code == 0x1680 ||
    (0x2000 ≤ code && code ≤ 0x200A) || code == 0x2028 || code == 0x2029 || code == 0x202F ||
    code == 0x205F || code == 0x3000

/-- Drops the matching characters at the end, as `str::trim_end_matches` does. -/
def trimEndMatches (drop : Char → Bool) (text : String) : String :=
  String.ofList (text.toList.reverse.dropWhile drop).reverse

/-- `str::trim`. -/
def trim (text : String) : String :=
  String.ofList ((text.toList.dropWhile isWhitespace).reverse.dropWhile isWhitespace).reverse

/-- `str::starts_with`. -/
def startsWith (start text : String) : Bool := start.toList.isPrefixOf text.toList

/-- The text around the first occurrence of a character, as `splitn(2, c)` gives it. -/
def splitOnce (separator : Char) (text : String) : Option (String × String) :=
  match text.toList.span (· ≠ separator) with
  | (_, []) => none
  | (before, _ :: after) => some (String.ofList before, String.ofList after)

/-- `str::replace` of one character by a string. -/
def replaceChar (old : Char) (new text : String) : String :=
  String.ofList (text.toList.flatMap fun c => if c == old then new.toList else [c])

end Datapress
