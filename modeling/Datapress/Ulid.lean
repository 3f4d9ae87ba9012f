import Mathlib.Data.String.Basic
import Mathlib.Tactic.NormNum
import Datapress.Library.Positional

/-! The ids of generations: a timestamp and a random part in base 32. -/
namespace Datapress
open Positional

/-- Base32 Crockford alphabet. -/
def b32 : List Char := "0123456789ABCDEFGHJKMNPQRSTVWXYZ".toList

/-- The character of a group of five bits. -/
def b32Char (group : Nat) : Char := b32.getD group '0'

/-- One step of the generator. -/
def lcg (state : UInt64) : UInt64 := state * 6364136223846793005 + 1442695040888963407

/-- The random bytes that follow a state of the generator. -/
def randBytes : Nat → UInt64 → List UInt8
  | 0, _ => []
  | n + 1, state => (lcg state >>> 33).toUInt8 :: randBytes n (lcg state)

def foldByte (acc : BitVec 128) (byte : UInt8) : BitVec 128 :=
  (acc <<< 8) ||| byte.toBitVec.setWidth 128

/-- The random part, from the milliseconds and the address of a local variable. -/
def randomPart (millis address : UInt64) : BitVec 128 :=
  let seed := millis ^^^ (address * 6364136223846793005)
  (randBytes 10 (seed + 1442695040888963407)).foldl foldByte 0

/-- The encoding in `new_ulid`: 10 characters for the timestamp, 16 for the random part. -/
def encodeUlid (millis : UInt64) (r : BitVec 128) : String :=
  let timestamp := [45, 40, 35, 30, 25, 20, 15, 10, 5, 0].map fun shift : UInt64 =>
    b32Char ((millis >>> shift) &&& 0x1F).toNat
  let random := (List.range 16).map fun i => b32Char ((r >>> (75 - i * 5)) &&& 0x1F).toNat
  String.ofList (timestamp ++ random)

def newUlid (millis address : UInt64) : String := encodeUlid millis (randomPart millis address)

/-! ### The random part -/

theorem randBytes_length (n : Nat) (state : UInt64) : (randBytes n state).length = n := by
  induction n generalizing state with
  | zero => rfl
  | succ n ih => rw [randBytes, List.length_cons, ih]

/-- Every byte adds its eight bits. -/
theorem foldBytes_lt (bytes : List UInt8) (acc : BitVec 128) (bits : Nat)
    (small : acc.toNat < 2 ^ bits) :
    (bytes.foldl foldByte acc).toNat < 2 ^ (bits + 8 * bytes.length) := by
  induction bytes generalizing acc bits with
  | nil => exact small
  | cons byte bytes ih =>
      rw [List.length_cons, List.foldl_cons,
        show bits + 8 * (bytes.length + 1) = bits + 8 + 8 * bytes.length by omega]
      apply ih
      rw [foldByte, BitVec.toNat_or, BitVec.toNat_shiftLeft, BitVec.toNat_setWidth]
      apply Nat.or_lt_two_pow
      · apply Nat.lt_of_le_of_lt (Nat.mod_le ..)
        rw [Nat.shiftLeft_eq, Nat.pow_add]
        exact Nat.mul_lt_mul_of_pos_right small (by decide)
      · apply Nat.lt_of_le_of_lt (Nat.mod_le ..)
        exact Nat.lt_of_lt_of_le byte.toBitVec.isLt (Nat.pow_le_pow_right Nat.two_pos (by omega))

/-- Ten bytes are 80 bits. -/
theorem randomPart_lt (millis address : UInt64) : (randomPart millis address).toNat < 2 ^ 80 := by
  have small := foldBytes_lt (randBytes 10 ((millis ^^^ (address * 6364136223846793005)) +
    1442695040888963407)) 0 0 (by decide)
  rwa [randBytes_length] at small

/-! ### The encoding -/

theorem group_toNat (millis : UInt64) {shift : UInt64} (less : shift.toNat < 64) :
    ((millis >>> shift) &&& 0x1F).toNat = millis.toNat / 2 ^ shift.toNat % 32 := by
  rw [UInt64.toNat_and, UInt64.toNat_shiftRight, Nat.mod_eq_of_lt less, Nat.shiftRight_eq_div_pow]
  exact Nat.and_two_pow_sub_one_eq_mod _ 5

theorem group_toNat_random (r : BitVec 128) (shift : Nat) :
    ((r >>> shift) &&& 0x1F).toNat = r.toNat / 2 ^ shift % 32 := by
  rw [BitVec.toNat_and, BitVec.toNat_ushiftRight, Nat.shiftRight_eq_div_pow]
  exact Nat.and_two_pow_sub_one_eq_mod _ 5

theorem toList_encodeUlid (millis : UInt64) (r : BitVec 128) :
    (encodeUlid millis r).toList =
      (digits 32 10 millis.toNat ++ digits 32 16 r.toNat).map b32Char := by
  simp only [encodeUlid, String.toList_ofList, List.map_append, group_toNat_random]
  congr 1
  simp only [digits, List.map_cons, List.map_nil]
  iterate 10 rw [group_toNat _ (by decide)]
  rfl

/-- The alphabet is in order. -/
theorem b32Char_mono : ∀ i < 32, ∀ j < 32, i < j → b32Char i < b32Char j := by
  decide

theorem b32Char_mem : ∀ i < 32, b32Char i ∈ b32 := by
  decide

theorem groups_lt (millis : UInt64) (r : BitVec 128) :
    ∀ d ∈ digits 32 10 millis.toNat ++ digits 32 16 r.toNat, d < 32 := by
  intro d member
  rcases List.mem_append.mp member with first | second
  · exact lt_of_mem_digits (by decide) first
  · exact lt_of_mem_digits (by decide) second

theorem length_encodeUlid (millis : UInt64) (r : BitVec 128) :
    (encodeUlid millis r).toList.length = 26 := by
  rw [toList_encodeUlid, List.length_map, List.length_append, length_digits, length_digits]

theorem mem_b32_of_encodeUlid {millis : UInt64} {r : BitVec 128} {c : Char}
    (member : c ∈ (encodeUlid millis r).toList) : c ∈ b32 := by
  rw [toList_encodeUlid] at member
  obtain ⟨d, group, rfl⟩ := List.mem_map.mp member
  exact b32Char_mem d (groups_lt _ _ d group)

section
variable {millis millis' : UInt64} {r r' : BitVec 128}

theorem encodeUlid_lt_iff (early : millis.toNat < 2 ^ 48) (early' : millis'.toNat < 2 ^ 48)
    (small : r.toNat < 2 ^ 80) (small' : r'.toNat < 2 ^ 80) :
    encodeUlid millis r < encodeUlid millis' r' ↔
      millis < millis' ∨ millis = millis' ∧ r < r' := by
  rw [String.lt_iff, toList_encodeUlid, toList_encodeUlid,
    map_lt_map b32Char_mono (groups_lt _ _) (groups_lt _ _),
    append_lt_append (by rw [length_digits, length_digits]), digits_lt_iff (by decide),
    digits_lt_iff (by decide), digits_inj (by decide), UInt64.lt_iff_toNat_lt, BitVec.lt_def,
    ← UInt64.toNat_inj]
  norm_num at early early' small small' ⊢
  rw [Nat.mod_eq_of_lt (by omega), Nat.mod_eq_of_lt (by omega), Nat.mod_eq_of_lt small,
    Nat.mod_eq_of_lt small']

theorem encodeUlid_inj (early : millis.toNat < 2 ^ 48) (early' : millis'.toNat < 2 ^ 48)
    (small : r.toNat < 2 ^ 80) (small' : r'.toNat < 2 ^ 80) :
    encodeUlid millis r = encodeUlid millis' r' ↔ millis = millis' ∧ r = r' := by
  rw [← String.toList_inj, toList_encodeUlid, toList_encodeUlid,
    map_inj b32Char_mono (groups_lt _ _) (groups_lt _ _), append_inj_iff (by rw [length_digits, length_digits]),
    digits_inj (by decide), digits_inj (by decide), ← UInt64.toNat_inj, ← BitVec.toNat_inj]
  norm_num at early early' small small' ⊢
  rw [Nat.mod_eq_of_lt (by omega), Nat.mod_eq_of_lt (by omega), Nat.mod_eq_of_lt small,
    Nat.mod_eq_of_lt small']

end

/-- What an id encodes: a time up to the year 10889, and 80 random bits. -/
@[ext] structure Ulid where
  millis : UInt64
  random : BitVec 128
  early : millis.toNat < 2 ^ 48
  small : random.toNat < 2 ^ 80

namespace Ulid

def text (u : Ulid) : String := encodeUlid u.millis u.random

/-- What `new_ulid` encodes. -/
def generate (millis address : UInt64) (early : millis.toNat < 2 ^ 48) : Ulid :=
  { millis, random := randomPart millis address, early, small := randomPart_lt millis address }

theorem text_generate {millis address : UInt64} (early : millis.toNat < 2 ^ 48) :
    (generate millis address early).text = newUlid millis address := rfl

theorem length_text (u : Ulid) : u.text.length = 26 := by
  rw [← String.length_toList]
  exact length_encodeUlid u.millis u.random

theorem mem_b32 (u : Ulid) : ∀ c ∈ u.text.toList, c ∈ b32 :=
  fun _ member => mem_b32_of_encodeUlid member

theorem text_lt_iff (u v : Ulid) :
    u.text < v.text ↔ u.millis < v.millis ∨ u.millis = v.millis ∧ u.random < v.random :=
  encodeUlid_lt_iff u.early v.early u.small v.small

theorem text_injective : Function.Injective text := by
  intro u v same
  obtain ⟨millis, random⟩ := (encodeUlid_inj u.early v.early u.small v.small).mp same
  exact Ulid.ext millis random

theorem millis_le_of_text_le {u v : Ulid} (le : u.text ≤ v.text) : u.millis ≤ v.millis := by
  rw [← not_lt, text_lt_iff, not_or] at le
  exact UInt64.not_lt.mp le.1

/-- The ids that are sorted by name are sorted by time. -/
theorem sorted_millis (created : List Ulid) :
    ((created.mergeSort fun u v => u.text ≤ v.text).map (·.millis)).Pairwise (· ≤ ·) := by
  rw [List.pairwise_map]
  have transitive (u v w : Ulid) (first : decide (u.text ≤ v.text) = true)
      (second : decide (v.text ≤ w.text) = true) : decide (u.text ≤ w.text) = true :=
    decide_eq_true (le_trans (of_decide_eq_true first) (of_decide_eq_true second))
  have total (u v : Ulid) : (decide (u.text ≤ v.text) || decide (v.text ≤ u.text)) = true := by
    rw [Bool.or_eq_true, decide_eq_true_iff, decide_eq_true_iff]
    exact le_total u.text v.text
  have sorted := List.pairwise_mergeSort transitive total created
  exact sorted.imp fun le => millis_le_of_text_le (of_decide_eq_true le)

end Ulid

/-- Every id has its 26 characters of the alphabet, tells what it encodes, and is as far up in the
order of names as that is in the order of creation. -/
theorem ulid_encoding :
    (∀ u : Ulid, u.text.length = 26 ∧ ∀ c ∈ u.text.toList, c ∈ b32) ∧
    Function.Injective Ulid.text ∧
    (∀ u v : Ulid, u.text < v.text ↔
      u.millis < v.millis ∨ u.millis = v.millis ∧ u.random < v.random) ∧
    ∀ created : List Ulid,
      ((created.mergeSort fun u v => u.text ≤ v.text).map (·.millis)).Pairwise (· ≤ ·) :=
  ⟨fun u => ⟨u.length_text, u.mem_b32⟩, Ulid.text_injective, Ulid.text_lt_iff, Ulid.sorted_millis⟩

end Datapress
