import Datapress.DuckDB.Builds
import Datapress.Ulid

/-! The names of the tables that storage-capable builds write first, as DuckDB tells them apart: in
any case of their letters. -/
namespace Datapress.DuckDB
open Positional

/-- A build with storage, as `new_ulid` marks it. -/
structure TempBuild where
  name : String
  started : Ulid

namespace TempBuild

def temp (b : TempBuild) : String := tempName b.name b.started.text

/-- The 1024 milliseconds that a build starts in. -/
def window (b : TempBuild) : Nat := b.started.millis.toNat / 1024

end TempBuild

/-- A name with every other character than a letter or a digit as an underscore, in lower case. -/
def sanitized (name : String) : List Char :=
  name.toList.map fun c => (if c.isAlphanum then c else '_').toLower

/-- The eight characters for a window of 1024 milliseconds, in lower case. -/
def windowCode (window : Nat) : List Char := (digits 32 8 window).map fun d => (b32Char d).toLower

/-- The two builds have tables of their own, beside the datasets. -/
def TempIsolated (names : List String) (a b : TempBuild) : Prop :=
  eqIgnoreAsciiCase a.temp b.temp = false ∧
    ∀ name ∈ names, eqIgnoreAsciiCase name a.temp = false ∧ eqIgnoreAsciiCase name b.temp = false

/-- A dataset is named like the table of a build in a window of time. -/
def Resembles (name : String) (b : TempBuild) : Prop :=
  name.toList.map Char.toLower =
    "__dp_tmp_".toList ++ (sanitized b.name ++ '_' :: windowCode b.window)

theorem eqIgnoreAsciiCase_iff {s t : String} :
    eqIgnoreAsciiCase s t ↔ s.toList.map Char.toLower = t.toList.map Char.toLower := by
  rw [eqIgnoreAsciiCase, beq_iff_eq, toAsciiLowercase, toAsciiLowercase, ← String.toList_inj,
    String.toList_ofList, String.toList_ofList]

/-- The time is cut to its window. -/
theorem take_text (u : Ulid) :
    u.text.toList.take 8 = (digits 32 8 (u.millis.toNat / 1024)).map b32Char := by
  rw [Ulid.text, toList_encodeUlid, ← List.map_take, List.take_append_of_le_length]
  · exact congrArg (List.map b32Char) (take_digits 8 2 _)
  · rw [length_digits]
    decide

theorem lower_temp (b : TempBuild) : b.temp.toList.map Char.toLower =
    "__dp_tmp_".toList ++ (sanitized b.name ++ '_' :: windowCode b.window) := by
  simp only [TempBuild.temp, tempName, String.toList_append, String.toList_ofList, List.map_append,
    take_text, List.map_map, List.append_assoc]
  rfl

theorem resembles_iff {name : String} {b : TempBuild} :
    eqIgnoreAsciiCase name b.temp ↔ Resembles name b := by
  rw [eqIgnoreAsciiCase_iff, lower_temp, Resembles]

theorem lower_b32Char_mono :
    ∀ i < 32, ∀ j < 32, i < j → (b32Char i).toLower < (b32Char j).toLower := by
  decide

theorem windowCode_inj {a b : TempBuild} :
    windowCode a.window = windowCode b.window ↔ a.window = b.window := by
  have small (b : TempBuild) : b.window < 32 ^ 8 := by
    have early := b.started.early
    rw [TempBuild.window]
    omega
  have group (n d : Nat) (member : d ∈ digits 32 8 n) : d < 32 :=
    lt_of_mem_digits (by decide) member
  rw [windowCode, windowCode, map_inj lower_b32Char_mono (group _) (group _),
    digits_inj (by decide), Nat.mod_eq_of_lt (small a), Nat.mod_eq_of_lt (small b)]

/-- The tables of two builds have one name just when the names of the datasets are sanitized to the
same one and the builds start in one window. -/
theorem temp_eq_iff {a b : TempBuild} : eqIgnoreAsciiCase a.temp b.temp ↔
    sanitized a.name = sanitized b.name ∧ a.window = b.window := by
  rw [eqIgnoreAsciiCase_iff, lower_temp, lower_temp, List.append_right_inj]
  constructor
  · intro same
    have length := congrArg List.length same
    simp only [List.length_append, List.length_cons, windowCode, List.length_map,
      length_digits] at length
    obtain ⟨names, codes⟩ := List.append_inj same (by omega)
    exact ⟨names, windowCode_inj.mp (List.cons.inj codes).2⟩
  · rintro ⟨names, windows⟩
    rw [names, windows]

/-- The tables are apart, from each other and from the datasets, just when the sanitized names or
the windows of the starts differ and no dataset is named like one of them. -/
theorem temp_isolated_iff (names : List String) (a b : TempBuild) :
    TempIsolated names a b ↔
      (sanitized a.name = sanitized b.name → a.window ≠ b.window) ∧
        ∀ name ∈ names, ¬ Resembles name a ∧ ¬ Resembles name b := by
  rw [TempIsolated, ← Bool.not_eq_true, temp_eq_iff, not_and]
  simp only [← Bool.not_eq_true, resembles_iff, ne_eq]

theorem sanitized_shared : sanitized "sales-2024" = sanitized "sales.2024" := by
  decide

/-- Two names of the grammar that are sanitized to one, in one millisecond. -/
theorem temp_shared : ¬ ∀ (names : List String) (a b : TempBuild),
    Refresh.checkName .invalidValue a.name = .ok () →
    Refresh.checkName .invalidValue b.name = .ok () →
    a.name ≠ b.name ∨ a.started.millis ≠ b.started.millis → TempIsolated names a b := by
  intro isolated
  have different : "sales-2024" ≠ "sales.2024" := by decide
  have valid : Refresh.checkName .invalidValue "sales-2024" = .ok () := rfl
  have valid' : Refresh.checkName .invalidValue "sales.2024" = .ok () := rfl
  obtain ⟨started⟩ : Nonempty Ulid := ⟨.generate 1700000000000 0 (by decide)⟩
  have apart := isolated [] ⟨"sales-2024", started⟩ ⟨"sales.2024", started⟩ valid valid'
    (.inl different)
  have shared := (@temp_eq_iff ⟨"sales-2024", started⟩ ⟨"sales.2024", started⟩).mpr
    ⟨sanitized_shared, rfl⟩
  exact absurd shared (Bool.eq_false_iff.mp apart.1)

end Datapress.DuckDB
