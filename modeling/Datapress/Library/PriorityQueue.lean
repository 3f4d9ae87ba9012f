import Mathlib.Data.List.Perm.Basic

/-! A priority queue as the multiset of its items: the greatest one is on top. Nothing here depends
on a particular order. -/
namespace PriorityQueue

variable {α : Type} {cmp : α → α → Ordering} {queue : List α} {top : α}

/-- An item that no other one is greater than. -/
def peek (cmp : α → α → Ordering) (queue : List α) : Option α :=
  queue.find? fun top => queue.all fun other => cmp other top ≠ .gt

/-- The top with the rest of the queue. -/
def pop [DecidableEq α] (cmp : α → α → Ordering) (queue : List α) : Option (α × List α) :=
  (peek cmp queue).map fun top => (top, queue.erase top)

theorem mem_of_peek (peeked : peek cmp queue = some top) : top ∈ queue :=
  List.mem_of_find?_eq_some peeked

theorem not_gt_of_peek (peeked : peek cmp queue = some top) {other : α} (member : other ∈ queue) :
    cmp other top ≠ .gt := by
  have greatest := List.find?_some peeked
  exact of_decide_eq_true (List.all_eq_true.mp greatest other member)

variable [DecidableEq α] {rest : List α}

theorem peek_of_pop (popped : pop cmp queue = some (top, rest)) : peek cmp queue = some top := by
  obtain ⟨_, peeked, same⟩ := Option.map_eq_some_iff.mp popped
  obtain ⟨rfl, rfl⟩ := Prod.mk.inj same
  exact peeked

/-- Nothing is lost by a pop. -/
theorem perm_of_pop (popped : pop cmp queue = some (top, rest)) : queue.Perm (top :: rest) := by
  obtain ⟨_, peeked, same⟩ := Option.map_eq_some_iff.mp popped
  obtain ⟨rfl, rfl⟩ := Prod.mk.inj same
  exact List.perm_cons_erase (mem_of_peek peeked)

end PriorityQueue
