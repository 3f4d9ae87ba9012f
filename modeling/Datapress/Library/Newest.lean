import Mathlib.Data.List.Sort

/-! The greatest items of a list. Nothing here depends on a particular program. -/
namespace Newest

variable {α : Type} [LinearOrder α]

/-- The greatest `n` items, the greatest one first. -/
def newest (n : Nat) (items : List α) : List α :=
  (items.insertionSort (· ≤ ·)).reverse.take n

theorem newest_subset {items : List α} {n : Nat} : newest n items ⊆ items := fun _ inside =>
  (List.mem_insertionSort (· ≤ ·)).mp (List.mem_reverse.mp (List.mem_of_mem_take inside))

/-- Of a decreasing list, an item is among the first `n` when fewer than `n` are above it. -/
theorem mem_take_iff {items : List α} (decreasing : items.Pairwise (· > ·)) {a : α} {n : Nat} :
    a ∈ items.take n ↔ a ∈ items ∧ items.countP (a < ·) < n := by
  induction items generalizing n with
  | nil => simp
  | cons b rest ih =>
      obtain ⟨below, decreasing⟩ := List.pairwise_cons.mp decreasing
      cases n with
      | zero => simp
      | succ n =>
          rw [List.take_succ_cons, List.mem_cons, List.mem_cons, ih decreasing]
          by_cases same : a = b
          · subst same
            have none : rest.countP (a < ·) = 0 := by
              rw [List.countP_eq_zero]
              intro c member above
              exact lt_asymm (below c member) (of_decide_eq_true above)
            simp [none]
          · constructor
            · rintro (impossible | ⟨member, few⟩)
              · exact absurd impossible same
              · have head : a < b := below a member
                rw [List.countP_cons_of_pos (by simpa using head)]
                exact ⟨.inr member, by omega⟩
            · rintro ⟨impossible | member, few⟩
              · exact absurd impossible same
              · have head : a < b := below a member
                rw [List.countP_cons_of_pos (by simpa using head)] at few
                exact .inr ⟨member, by omega⟩

theorem mem_newest {items : List α} (distinct : items.Nodup) {a : α} {n : Nat} :
    a ∈ newest n items ↔ a ∈ items ∧ items.countP (a < ·) < n := by
  have same := List.perm_insertionSort (· ≤ ·) items
  have increasing : (items.insertionSort (· ≤ ·)).Pairwise (· < ·) :=
    (List.pairwise_insertionSort (· ≤ ·) items).imp₂ (fun _ _ below apart => lt_of_le_of_ne below apart)
      (same.nodup_iff.mpr distinct)
  have decreasing : (items.insertionSort (· ≤ ·)).reverse.Pairwise (· > ·) :=
    List.pairwise_reverse.mpr increasing
  rw [newest, mem_take_iff decreasing, List.mem_reverse, same.mem_iff, List.countP_reverse,
    same.countP_eq]

end Newest
