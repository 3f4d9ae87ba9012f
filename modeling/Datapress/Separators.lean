import Datapress.Config.Endpoint

/-! Texts in pieces around one separator. -/
namespace Datapress
open Config (splitOnce_eq_some_iff)

/-- `str::split`. -/
def split (separator : Char) (text : String) : List String :=
  (text.toList.splitOn separator).map String.ofList

section
variable (separator : Char) (glue : String)

theorem splitOnce_joined (single : glue.toList = [separator]) {before after : String}
    (apart : separator ∉ before.toList) :
    splitOnce separator (before ++ glue ++ after) = some (before, after) := by
  rw [splitOnce_eq_some_iff]
  exact ⟨apart, by simp [single]⟩

theorem joined_of_splitOnce (single : glue.toList = [separator]) {text before after : String}
    (parts : splitOnce separator text = some (before, after)) :
    text = before ++ glue ++ after ∧ separator ∉ before.toList := by
  obtain ⟨apart, whole⟩ := splitOnce_eq_some_iff.mp parts
  exact ⟨String.toList_inj.mp (by simpa [single] using whole), apart⟩

theorem split_word {word : String} (plain : separator ∉ word.toList) :
    split separator word = [word] := by
  simp [split, List.splitOn_eq_singleton plain]

theorem split_joined (single : glue.toList = [separator]) {before after : String}
    (plain : separator ∉ before.toList) :
    split separator (before ++ glue ++ after) = before :: split separator after := by
  have whole : (before ++ glue ++ after).toList = before.toList ++ separator :: after.toList := by
    simp [single]
  simp [split, whole, List.splitOn_append_cons_self_of_not_mem plain]

/-- Pieces that do not hold the separator are found again. -/
theorem split_intercalate (single : glue.toList = [separator]) {parts : List String}
    (plain : ∀ part ∈ parts, separator ∉ part.toList) (some : parts ≠ []) :
    split separator (glue.intercalate parts) = parts := by
  induction parts with
  | nil => exact absurd rfl some
  | cons part rest ih =>
      have here := plain part List.mem_cons_self
      cases rest with
      | nil => simpa using split_word separator here
      | cons next rest =>
          have below := ih (fun part member => plain part (List.mem_cons_of_mem _ member))
            (List.cons_ne_nil _ _)
          rw [String.intercalate_cons_cons, split_joined separator glue single here, below]

/-- No piece holds a separator. -/
theorem not_mem_of_mem_splitOn {c : Char} {text piece : List Char}
    (member : piece ∈ text.splitOn c) : c ∉ piece := by
  induction text generalizing piece with
  | nil =>
      obtain rfl : piece = [] := by simpa [List.splitOn_nil] using member
      exact List.not_mem_nil
  | cons first rest ih =>
      rw [List.splitOn_cons_eq_if_modifyHead] at member
      split at member
      · rcases List.mem_cons.mp member with rfl | later
        · exact List.not_mem_nil
        · exact ih later
      case isFalse other =>
        cases pieces : rest.splitOn c with
        | nil => exact absurd pieces (List.splitOn_ne_nil c rest)
        | cons head tail =>
            rw [pieces, List.modifyHead_cons] at member
            rw [pieces] at ih
            rcases List.mem_cons.mp member with rfl | later
            · intro inside
              rcases List.mem_cons.mp inside with rfl | deeper
              · exact other BEq.rfl
              · exact ih List.mem_cons_self deeper
            · exact ih (List.mem_cons_of_mem _ later)

theorem plain_of_mem_split {text piece : String} (member : piece ∈ split separator text) :
    separator ∉ piece.toList := by
  obtain ⟨chars, among, rfl⟩ := List.mem_map.mp member
  rw [String.toList_ofList]
  exact not_mem_of_mem_splitOn among

end
end Datapress
