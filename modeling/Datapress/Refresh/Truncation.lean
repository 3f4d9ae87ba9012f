import Datapress.Library.JsonTexts
import Datapress.Refresh.FailureRecord

/-! The error of a failed refresh, cut to the length of a record. -/
namespace Datapress.Refresh

/-- The bytes of a text in UTF-8. -/
def byteSize (chars : List Char) : Nat := (chars.map Char.utf8Size).sum

/-- The message itself, or its beginning with an ellipsis, within the length of a record. -/
def Truncates (msg error : String) : Prop :=
  error.length ≤ 500 ∧
    (error = msg ∨ ∃ head, head <+: msg.toList ∧ error = String.ofList head ++ "…")

/-- A character of the message ends with its first 499 bytes, unless it is kept as a whole. -/
def Cuts (msg : String) : Prop :=
  msg.utf8ByteSize ≤ 500 ∨ ∃ head, head <+: msg.toList ∧ byteSize head = 499

theorem utf8ByteSize_eq (s : String) : s.utf8ByteSize = byteSize s.toList := by
  obtain ⟨chars, rfl⟩ : ∃ chars, s = String.ofList chars := ⟨s.toList, String.ofList_toList.symm⟩
  rw [String.toList_ofList]
  induction chars with
  | nil => rfl
  | cons c rest ih =>
      rw [← List.singleton_append, String.ofList_append, String.utf8ByteSize_append, ih]
      rw [← String.singleton_eq_ofList, String.utf8ByteSize_singleton]
      rfl

theorem length_le_byteSize (chars : List Char) : chars.length ≤ byteSize chars := by
  induction chars with
  | nil => exact Nat.le_refl 0
  | cons c rest ih =>
      have pos := c.utf8Size_pos
      rw [byteSize, List.map_cons, List.sum_cons, List.length_cons]
      rw [byteSize] at ih
      omega

theorem eq_nil_of_byteSize {chars : List Char} (empty : byteSize chars = 0) : chars = [] :=
  List.eq_nil_of_length_eq_zero (Nat.le_zero.mp (empty ▸ length_le_byteSize chars))

theorem sliceBytes_zero {chars head : List Char} :
    sliceBytes 0 chars = some head ↔ head <+: chars ∧ byteSize head = 0 := by
  rw [sliceBytes, Option.some.injEq]
  constructor
  · rintro rfl
    exact ⟨List.nil_prefix, rfl⟩
  · rintro ⟨_, empty⟩
    exact (eq_nil_of_byteSize empty).symm

/-- The slice is the beginning of that many bytes, if there is one. -/
theorem sliceBytes_eq_some_iff {n : Nat} {chars head : List Char} :
    sliceBytes n chars = some head ↔ head <+: chars ∧ byteSize head = n := by
  induction chars generalizing n head with
  | nil =>
      cases n with
      | zero => exact sliceBytes_zero
      | succ n =>
          constructor
          · nofun
          · rintro ⟨inside, size⟩
            obtain rfl := List.prefix_nil.mp inside
            cases size
  | cons c rest ih =>
      cases n with
      | zero => exact sliceBytes_zero
      | succ n =>
          have pos := c.utf8Size_pos
          rw [sliceBytes, Option.ite_none_right_eq_some, Option.map_eq_map, Option.map_eq_some_iff]
          constructor
          · rintro ⟨fits, tail, sliced, rfl⟩
            obtain ⟨inside, size⟩ := ih.mp sliced
            refine ⟨List.cons_prefix_cons.mpr ⟨rfl, inside⟩, ?_⟩
            rw [byteSize, List.map_cons, List.sum_cons, ← byteSize, size]
            omega
          · rintro ⟨inside, size⟩
            cases head with
            | nil => cases size
            | cons d tail =>
                obtain ⟨rfl, begins⟩ := List.cons_prefix_cons.mp inside
                rw [byteSize, List.map_cons, List.sum_cons, ← byteSize] at size
                exact ⟨by omega, tail, ih.mpr ⟨begins, by omega⟩, rfl⟩

theorem truncateError_isSome_iff {msg : String} : (truncateError msg).isSome ↔ Cuts msg := by
  rw [truncateError, Cuts]
  split
  case isTrue short => exact iff_of_true rfl (.inl short)
  case isFalse long =>
      rw [Option.isSome_map, Option.isSome_iff_exists, or_iff_right long]
      exact exists_congr fun head => sliceBytes_eq_some_iff

theorem truncates_of_truncateError {msg error : String} (cut : truncateError msg = some error) :
    Truncates msg error := by
  rw [truncateError] at cut
  split at cut
  case isTrue short =>
      obtain rfl := Option.some.inj cut
      have length := length_le_byteSize msg.toList
      rw [← utf8ByteSize_eq, String.length_toList] at length
      exact ⟨by omega, .inl rfl⟩
  case isFalse long =>
      obtain ⟨head, sliced, rfl⟩ := Option.map_eq_some_iff.mp cut
      obtain ⟨inside, size⟩ := sliceBytes_eq_some_iff.mp sliced
      have length := length_le_byteSize head
      refine ⟨?_, .inr ⟨head, inside, rfl⟩⟩
      rw [String.length_append, String.length_ofList]
      exact Nat.succ_le_succ (by omega)

/-! ### Timeouts -/

theorem byteSize_of_ascii {chars : List Char} (ascii : ∀ c ∈ chars, c.val ≤ 127) :
    byteSize chars = chars.length := by
  induction chars with
  | nil => rfl
  | cons c rest ih =>
      obtain ⟨first, others⟩ := List.forall_mem_cons.mp ascii
      rw [byteSize, List.map_cons, List.sum_cons, ← byteSize, ih others,
        Char.utf8Size_eq_one_iff.mpr first, List.length_cons, Nat.add_comm]

theorem cuts_of_ascii {msg : String} (ascii : ∀ c ∈ msg.toList, c.val ≤ 127) : Cuts msg := by
  rw [Cuts, utf8ByteSize_eq, byteSize_of_ascii ascii, or_iff_not_imp_left]
  intro long
  refine ⟨msg.toList.take 499, List.take_prefix .., ?_⟩
  rw [byteSize_of_ascii fun c member => ascii c (List.mem_of_mem_take member), List.length_take]
  omega

theorem ascii_of_all {s : String} (all : s.toList.all (·.val ≤ 127) = true) :
    ∀ c ∈ s.toList, c.val ≤ 127 := by
  intro c member
  exact of_decide_eq_true (List.all_eq_true.mp all c member)

theorem ascii_append {s t : String} (first : ∀ c ∈ s.toList, c.val ≤ 127)
    (second : ∀ c ∈ t.toList, c.val ≤ 127) : ∀ c ∈ (s ++ t).toList, c.val ≤ 127 := by
  intro c member
  rw [String.toList_append] at member
  exact (List.mem_append.mp member).elim (first c) (second c)

theorem ascii_number (n : Nat) : ∀ c ∈ (toString n).toList, c.val ≤ 127 := by
  intro c member
  rw [Nat.toString_eq_repr, Nat.toList_repr] at member
  have digit := Char.isDigit_iff_toNat.mp (JsonReader.digits_isDigit n c member)
  exact UInt32.le_iff_toNat_le.mpr (Nat.le_trans digit.2 (by decide))

theorem ascii_numbers (digits : List Nat) :
    ∀ s ∈ digits.map toString, ∀ c ∈ s.toList, c.val ≤ 127 := by
  intro s member
  obtain ⟨digit, _, rfl⟩ := List.mem_map.mp member
  exact ascii_number digit

theorem ascii_join {parts : List String} (ascii : ∀ s ∈ parts, ∀ c ∈ s.toList, c.val ≤ 127) :
    ∀ c ∈ (String.join parts).toList, c.val ≤ 127 := by
  intro c member
  rw [String.toList_join] at member
  obtain ⟨s, part, inside⟩ := List.mem_flatMap.mp member
  exact ascii s part c inside

/-- A duration is written in ASCII. -/
theorem ascii_debugDuration (ms : Nat) : ∀ c ∈ (debugDuration ms).toList, c.val ≤ 127 := by
  rw [debugDuration]
  split
  · exact ascii_of_all rfl
  split
  · exact ascii_append (ascii_number ms) (ascii_of_all rfl)
  split
  · exact ascii_append (ascii_number _) (ascii_of_all rfl)
  · exact ascii_append (ascii_append (ascii_append (ascii_number _) (ascii_of_all rfl))
      (ascii_join (ascii_numbers _))) (ascii_of_all rfl)

/-- What is said of a timeout is never cut inside a character. -/
theorem cuts_timeout {timeout : Nat} {message : String}
    (said : TickOutcome.timeout.message timeout = some message) : Cuts message := by
  obtain rfl := Option.some.inj said
  exact cuts_of_ascii (ascii_append (ascii_of_all rfl) (ascii_debugDuration timeout))

/-! ### A character across the cut -/

/-- An error of that many letters, a character of two bytes and a letter. -/
def tornError (letters : Nat) : String :=
  String.ofList (List.replicate letters 'a' ++ ['é', 'a'])

theorem toList_tornError (letters : Nat) :
    (tornError letters).toList = List.replicate letters 'a' ++ ['é', 'a'] :=
  String.toList_ofList

theorem sliceBytes_tornError (letters : Nat) :
    sliceBytes (letters + 1) (tornError letters).toList = none := by
  rw [toList_tornError]
  induction letters with
  | zero => decide
  | succ k ih =>
      have one : 'a'.utf8Size = 1 := rfl
      rw [List.replicate_succ, List.cons_append, sliceBytes, one, if_pos (by omega),
        Nat.add_sub_cancel, ih]
      rfl

theorem utf8ByteSize_tornError (letters : Nat) :
    (tornError letters).utf8ByteSize = letters + 3 := by
  have ascii : byteSize (List.replicate letters 'a') = letters := by
    rw [byteSize_of_ascii, List.length_replicate]
    intro c member
    rw [(List.mem_replicate.mp member).2]
    decide
  rw [utf8ByteSize_eq, toList_tornError, byteSize, List.map_append, List.sum_append, ← byteSize,
    ascii]
  rfl

theorem tornError_torn : ¬ Cuts (tornError 498) := by
  rw [← truncateError_isSome_iff, truncateError, utf8ByteSize_tornError, if_neg (by decide),
    sliceBytes_tornError 498]
  decide

end Datapress.Refresh
