import Mathlib.Data.Finset.Card
import Mathlib.Data.List.Basic
import Mathlib.Logic.Relation
import Mathlib.Tactic.Common

/-! Ranks that grow along a relation, and how to rank one more node. Nothing here depends on a
particular program. -/
namespace Rank
open Relation (TransGen)

variable {α : Type} {R : α → α → Prop} {rank : α → Nat}

def Grows (R : α → α → Prop) (rank : α → Nat) : Prop := ∀ {u d}, R u d → rank u < rank d

theorem Grows.lt (grows : Grows R rank) {u d : α} (path : TransGen R u d) :
    rank u < rank d := by
  induction path with
  | single edge => exact grows edge
  | tail _ edge ih => exact Nat.lt_trans ih (grows edge)

theorem Grows.acyclic (grows : Grows R rank) (a : α) : ¬ TransGen R a a :=
  fun cycle => Nat.lt_irrefl _ (grows.lt cycle)

/-- Without cycles, the nodes that lead to a node are fewer than those that lead to one after it. -/
theorem exists_grows {nodes : List α} (inside : ∀ {u d}, R u d → u ∈ nodes)
    (acyclic : ∀ a, ¬ TransGen R a a) : ∃ rank, Grows R rank := by
  classical
  refine ⟨fun d => (nodes.toFinset.filter fun u => TransGen R u d).card, ?_⟩
  intro u d edge
  apply Finset.card_lt_card
  apply Finset.ssubset_iff_subset_ne.mpr
  constructor
  · intro x member
    obtain ⟨node, path⟩ := Finset.mem_filter.mp member
    exact Finset.mem_filter.mpr ⟨node, path.tail edge⟩
  · intro same
    have here : u ∈ nodes.toFinset.filter fun x => TransGen R x d :=
      Finset.mem_filter.mpr ⟨List.mem_toFinset.mpr (inside edge), .single edge⟩
    rw [← same] at here
    exact acyclic u (Finset.mem_filter.mp here).2

theorem exists_bound (rank : α → Nat) (nodes : List α) : ∃ bound, ∀ a ∈ nodes, rank a < bound := by
  induction nodes with
  | nil => exact ⟨0, nofun⟩
  | cons first rest ih =>
      obtain ⟨bound, below⟩ := ih
      refine ⟨max bound (rank first + 1), fun a member => ?_⟩
      obtain rfl | later := List.mem_cons.mp member
      · omega
      · have small := below a later
        omega

/-- Where all nodes but one are ranked, that one lies on no cycle just when all can be ranked:
it goes above the ranks so far, and what it leads to above it. -/
theorem exists_grows_iff {new : α} (rank : α → Nat) (bound : Nat)
    (others : ∀ {u d}, R u d → u ≠ new → d ≠ new → rank u < rank d)
    (below : ∀ {u}, R u new → u ≠ new → rank u < bound) :
    (∃ rank', Grows R rank') ↔ ¬ TransGen R new new := by
  classical
  constructor
  · rintro ⟨rank', grows⟩
    exact grows.acyclic new
  · intro free
    refine ⟨fun a => if a = new then bound
      else if TransGen R new a then bound + 1 + rank a else rank a, ?_⟩
    intro u d edge
    by_cases last : d = new
    · rw [last] at edge
      have first : u ≠ new := by
        intro same
        rw [same] at edge
        exact free (.single edge)
      have apart : ¬ TransGen R new u := fun path => free (path.tail edge)
      have small := below edge first
      simp only [if_neg first, if_neg apart, if_pos last]
      exact small
    · by_cases first : u = new
      · subst first
        simp only [if_neg last, if_pos (TransGen.single edge), if_true]
        omega
      · have small := others edge first last
        by_cases after : TransGen R new u
        · simp only [if_neg first, if_neg last, if_pos after, if_pos (after.tail edge)]
          omega
        · simp only [if_neg first, if_neg last, if_neg after]
          split
          · omega
          · exact small

end Rank
