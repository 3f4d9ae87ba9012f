import Mathlib.Data.List.Chain
import Mathlib.Data.List.Perm.Subperm
import Mathlib.Logic.Function.Basic
import Mathlib.Logic.Relation

/-! The search for a cycle in depth first order: what it returns is a cycle, and it returns one
when there is one. Nothing here depends on a particular graph. -/
namespace DepthFirst
open Relation (TransGen)

variable {α : Type} [DecidableEq α]

/-- The marks of the nodes, and the path to the node the search is at. -/
structure Search (α : Type) where
  visited : α → Bool
  inStack : α → Bool
  path : List α

namespace Search

def initial : Search α := { visited := fun _ => false, inStack := fun _ => false, path := [] }

def enter (s : Search α) (node : α) : Search α where
  visited := Function.update s.visited node true
  inStack := Function.update s.inStack node true
  path := s.path ++ [node]

def leave (s : Search α) (node : α) : Search α where
  visited := s.visited
  inStack := Function.update s.inStack node false
  path := s.path.dropLast

end Search

/-- The loop over the successors of a node. -/
def explore (visit : α → Search α → Option (List α) × Search α) :
    List α → Search α → Option (List α) × Search α
  | [], s => (none, s)
  | node :: rest, s =>
    if !s.visited node then
      match visit node s with
      | (some cycle, s) => (some cycle, s)
      | (none, s) => explore visit rest s
    else if s.inStack node then (some (s.path.drop (s.path.idxOf node)), s)
    else explore visit rest s

def findCycle (next : α → List α) : Nat → α → Search α → Option (List α) × Search α
  | 0, _, s => (none, s)
  | turns + 1, node, s =>
    match explore (findCycle next turns) (next node) (s.enter node) with
    | (some cycle, s) => (some cycle, s)
    | (none, s) => (none, s.leave node)

/-- The search from each node that no search before has visited. -/
def findCycleFrom (next : α → List α) (turns : Nat) : List α → Search α → Option (List α)
  | [], _ => none
  | start :: rest, s =>
    if s.visited start then findCycleFrom next turns rest s
    else
      match findCycle next turns start s with
      | (some cycle, _) => some cycle
      | (none, s) => findCycleFrom next turns rest s

/-! ### What is settled -/

/-- Nodes all of whose successors come further down the list. -/
inductive Settled (next : α → List α) : List α → Prop where
  | nil : Settled next []
  | cons {node : α} {done : List α} (before : Settled next done)
      (ends : ∀ target ∈ next node, target ∈ done) : Settled next (node :: done)

section
variable {next : α → List α} {done : List α}

omit [DecidableEq α] in
theorem Settled.closed (settled : Settled next done) {node target : α} (member : node ∈ done)
    (edge : target ∈ next node) : target ∈ done := by
  induction settled with
  | nil => cases member
  | cons before ends ih =>
      obtain rfl | older := List.mem_cons.mp member
      · exact List.mem_cons_of_mem _ (ends target edge)
      · exact List.mem_cons_of_mem _ (ih older)

omit [DecidableEq α] in
theorem Settled.reaches (settled : Settled next done) {node target : α} (member : node ∈ done)
    (path : TransGen (fun a b => b ∈ next a) node target) : target ∈ done := by
  induction path with
  | single edge => exact settled.closed member edge
  | tail _ edge ih => exact settled.closed ih edge

omit [DecidableEq α] in
/-- No settled node lies on a cycle. -/
theorem Settled.acyclic (settled : Settled next done) {node : α} (member : node ∈ done) :
    ¬ TransGen (fun a b => b ∈ next a) node node := by
  induction settled with
  | nil => cases member
  | cons before ends ih =>
      intro cycle
      obtain rfl | older := List.mem_cons.mp member
      · -- the first step leads below the node, from where nothing leads back up
        have back := Relation.TransGen.head'_iff.mp cycle
        obtain ⟨target, edge, path⟩ := back
        have below := ends target edge
        obtain rfl | further := Relation.reflTransGen_iff_eq_or_transGen.mp path
        · exact ih below cycle
        · exact ih (before.reaches below further) cycle
      · exact ih older cycle

end

/-! ### What a search finds -/

/-- The nodes lead from one to the next, and the last to the first. -/
def IsCycle (R : α → α → Prop) (cycle : List α) : Prop :=
  ∃ first rest, cycle = first :: rest ∧ (first :: (rest ++ [first])).IsChain R

omit [DecidableEq α] in
theorem exists_before {R : α → α → Prop} {a x : α} {items : List α}
    (chain : (a :: items).IsChain R) (member : x ∈ items) : ∃ y, R y x := by
  induction items generalizing a with
  | nil => cases member
  | cons b rest ih =>
      obtain ⟨edge, later⟩ := List.isChain_cons_cons.mp chain
      obtain rfl | further := List.mem_cons.mp member
      · exact ⟨a, edge⟩
      · exact ih later further

/-- The search has settled some nodes, and is on a path from node to node. -/
structure Holds (next : α → List α) (nodes : List α) (s : Search α) (done : List α) : Prop where
  settled : Settled next done
  visited : ∀ x, s.visited x = true ↔ x ∈ done ∨ x ∈ s.path
  inStack : ∀ x, s.inStack x = true ↔ x ∈ s.path
  chain : s.path.IsChain fun a b => b ∈ next a
  distinct : s.path.Nodup
  inside : s.path ⊆ nodes

/-- A search returns a cycle, or comes back to its path with the nodes settled. -/
def Finds (next : α → List α) (nodes targets : List α) (s : Search α) (done : List α) :
    Option (List α) × Search α → Prop
  | (some cycle, _) => IsCycle (fun a b => b ∈ next a) cycle
  | (none, t) => t.path = s.path ∧ ∃ more, Holds next nodes t (more ++ done) ∧
      ∀ target ∈ targets, target ∈ more ++ done

variable {next : α → List α} {nodes done : List α} {s : Search α}

omit [DecidableEq α] in
theorem holds_initial : Holds next nodes .initial [] where
  settled := .nil
  visited x := by simp [Search.initial]
  inStack x := by simp [Search.initial]
  chain := List.isChain_nil
  distinct := List.nodup_nil
  inside := List.nil_subset _

theorem Holds.enter (holds : Holds next nodes s done) {node : α} (fresh : s.visited node = false)
    (member : node ∈ nodes) (linked : ∀ last ∈ s.path.getLast?, node ∈ next last) :
    Holds next nodes (s.enter node) done where
  settled := holds.settled
  visited x := by
    by_cases same : x = node
    · simp [Search.enter, same]
    · simp [Search.enter, same, holds.visited]
  inStack x := by
    by_cases same : x = node
    · simp [Search.enter, same]
    · simp [Search.enter, same, holds.inStack]
  chain := by
    refine List.isChain_append.mpr ⟨holds.chain, List.isChain_singleton _, ?_⟩
    rintro last isLast head isHead
    obtain rfl : node = head := by simpa using isHead
    exact linked last isLast
  distinct := by
    have off : node ∉ s.path := by
      intro inside
      rw [(holds.visited node).mpr (.inr inside)] at fresh
      cases fresh
    refine List.nodup_append.mpr ⟨holds.distinct, List.pairwise_singleton _ _, fun x inside y new => ?_⟩
    obtain rfl := List.mem_singleton.mp new
    exact fun same => off (same ▸ inside)
  inside := by
    intro x found
    obtain old | new := List.mem_append.mp found
    · exact holds.inside old
    · exact List.mem_singleton.mp new ▸ member

theorem Holds.leave {t : Search α} {node : α} {path : List α} (holds : Holds next nodes t done)
    (here : t.path = path ++ [node]) (ends : ∀ target ∈ next node, target ∈ done) :
    Holds next nodes (t.leave node) (node :: done) := by
  have distinct := holds.distinct
  rw [here] at distinct
  have off : node ∉ path := by
    intro inside
    exact (List.nodup_append.mp distinct).2.2 node inside node List.mem_cons_self rfl
  have back : (t.leave node).path = path := by simp [Search.leave, here]
  refine ⟨.cons holds.settled ends, fun x => ?_, fun x => ?_, ?_, ?_, ?_⟩
  · have marked := holds.visited x
    rw [here, List.mem_append, List.mem_singleton] at marked
    rw [back, List.mem_cons]
    exact marked.trans (by tauto)
  · rw [back]
    by_cases same : x = node
    · subst same
      simpa [Search.leave] using off
    · have marked := holds.inStack x
      rw [here, List.mem_append, List.mem_singleton, or_iff_left same] at marked
      simpa [Search.leave, same] using marked
  · rw [back]
    exact (here ▸ holds.chain).left_of_append
  · rw [back]
    exact (List.nodup_append.mp distinct).1
  · rw [back]
    exact fun x inside => holds.inside (here ▸ List.mem_append_left _ inside)

/-- An edge back onto the path closes a cycle. -/
theorem Holds.isCycle (holds : Holds next nodes s done) {node last : α} (inside : node ∈ s.path)
    (isLast : s.path.getLast? = some last) (edge : node ∈ next last) :
    IsCycle (fun a b => b ∈ next a) (s.path.drop (s.path.idxOf node)) := by
  have place := List.idxOf_lt_length_iff.mpr inside
  have here : s.path.drop (s.path.idxOf node) = node :: s.path.drop (s.path.idxOf node + 1) := by
    rw [List.drop_eq_getElem_cons place, List.getElem_idxOf place]
  refine ⟨node, _, here, ?_⟩
  have chain := holds.chain.drop (s.path.idxOf node)
  have ends : (s.path.drop (s.path.idxOf node)).getLast? = some last := by
    rw [List.getLast?_drop, if_neg (by omega), isLast]
  rw [← List.cons_append, ← here]
  refine List.isChain_append.mpr ⟨chain, List.isChain_singleton _, ?_⟩
  rintro final isFinal head isHead
  rw [ends] at isFinal
  obtain rfl : last = final := by simpa using isFinal
  obtain rfl : node = head := by simpa using isHead
  exact edge

omit [DecidableEq α] in
theorem Finds.after {t : Search α} {rest : List α} {node : α}
    {result : Option (List α) × Search α} (more : List α) (back : t.path = s.path) (settled : node ∈ more ++ done)
    (later : Finds next nodes rest t (more ++ done) result) :
    Finds next nodes (node :: rest) s done result := by
  obtain ⟨found, u⟩ := result
  cases found with
  | some cycle => exact later
  | none =>
      obtain ⟨again, further, holds, reached⟩ := later
      rw [← List.append_assoc] at holds reached
      refine ⟨again.trans back, further ++ more, holds, List.forall_mem_cons.mpr ⟨?_, reached⟩⟩
      rw [List.append_assoc]
      exact List.mem_append_right _ settled

theorem explore_finds {visit : α → Search α → Option (List α) × Search α} {last : α}
    {path : List α} (isLast : path.getLast? = some last)
    (visits : ∀ {node s done}, Holds next nodes s done → s.path = path → s.visited node = false →
      node ∈ next last → Finds next nodes [node] s done (visit node s))
    {targets : List α} (edges : targets ⊆ next last) (holds : Holds next nodes s done)
    (here : s.path = path) : Finds next nodes targets s done (explore visit targets s) := by
  induction targets generalizing s done with
  | nil => exact ⟨rfl, [], holds, List.forall_mem_nil _⟩
  | cons node rest ih =>
      have edge : node ∈ next last := edges List.mem_cons_self
      have others : rest ⊆ next last := fun x member => edges (List.mem_cons_of_mem _ member)
      cases fresh : s.visited node with
      | false =>
          have found := visits holds here fresh edge
          simp only [explore, fresh, Bool.not_false, if_true]
          split
          case h_1 cycle t result =>
            rw [result] at found
            exact found
          case h_2 t result =>
            rw [result] at found
            obtain ⟨back, more, settled, reached⟩ := found
            exact (ih others settled (back.trans here)).after more back (reached node List.mem_cons_self)
      | true =>
          simp only [explore, fresh, Bool.not_true, Bool.false_eq_true, if_false]
          by_cases onPath : s.inStack node = true
          · rw [if_pos onPath]
            exact holds.isCycle ((holds.inStack node).mp onPath) (here ▸ isLast) edge
          · rw [if_neg onPath]
            have off : node ∉ s.path := fun inside => onPath ((holds.inStack node).mpr inside)
            have settled := ((holds.visited node).mp fresh).resolve_right off
            exact (ih others holds here).after [] rfl settled

/-- One search from a node that has not been visited, with a turn left for every node off the
path. -/
theorem findCycle_finds (closed : ∀ node ∈ nodes, next node ⊆ nodes) {turns : Nat} {node : α}
    (holds : Holds next nodes s done) (fresh : s.visited node = false) (member : node ∈ nodes)
    (linked : ∀ last ∈ s.path.getLast?, node ∈ next last)
    (enough : nodes.length ≤ s.path.length + turns) :
    Finds next nodes [node] s done (findCycle next turns node s) := by
  induction turns generalizing s done node with
  | zero =>
      have entered := holds.enter fresh member linked
      have short := (entered.distinct.subperm entered.inside).length_le
      simp only [Search.enter, List.length_append, List.length_singleton] at short
      omega
  | succ turns ih =>
      have entered := holds.enter fresh member linked
      have isLast : (s.enter node).path.getLast? = some node := List.getLast?_concat
      have explored : Finds next nodes (next node) (s.enter node) done
          (explore (findCycle next turns) (next node) (s.enter node)) := explore_finds isLast
        (fun {target t done'} settles here unvisited edge =>
          ih settles unvisited (closed node member edge)
            (by rw [here, isLast]; rintro last ⟨⟩; exact edge)
            (by rw [here]; simp only [Search.enter, List.length_append, List.length_singleton]; omega))
        (List.Subset.refl _) entered rfl
      rw [findCycle]
      split
      case h_1 cycle t result =>
        rw [result] at explored
        exact explored
      case h_2 t result =>
        rw [result] at explored
        obtain ⟨back, more, settled, reached⟩ := explored
        have here : t.path = s.path ++ [node] := back
        refine ⟨by simp [Search.leave, here], node :: more, settled.leave here reached, ?_⟩
        simp

/-- The searches from all starts return a cycle, or leave all starts settled. -/
theorem findCycleFrom_finds (closed : ∀ node ∈ nodes, next node ⊆ nodes) {starts : List α}
    (inside : starts ⊆ nodes) (holds : Holds next nodes s done) (idle : s.path = []) :
    match findCycleFrom next nodes.length starts s with
    | some cycle => IsCycle (fun a b => b ∈ next a) cycle
    | none => ∃ more, Settled next (more ++ done) ∧ ∀ start ∈ starts, start ∈ more ++ done := by
  induction starts generalizing s done with
  | nil => exact ⟨[], holds.settled, List.forall_mem_nil _⟩
  | cons start rest ih =>
      have others : rest ⊆ nodes := fun x member => inside (List.mem_cons_of_mem _ member)
      cases fresh : s.visited start with
      | true =>
          have settled : start ∈ done := by
            have marked := (holds.visited start).mp fresh
            rw [idle] at marked
            exact marked.resolve_right List.not_mem_nil
          have found := ih others holds idle
          simp only [findCycleFrom, fresh, if_true]
          split
          case h_1 cycle result => simpa only [result] using found
          case h_2 result =>
            rw [result] at found
            obtain ⟨more, settles, reached⟩ := found
            exact ⟨more, settles, List.forall_mem_cons.mpr
              ⟨List.mem_append_right _ settled, reached⟩⟩
      | false =>
          have first := findCycle_finds closed holds fresh (inside List.mem_cons_self)
            (by rw [idle]; exact nofun) (Nat.le_add_left nodes.length s.path.length)
          simp only [findCycleFrom, fresh, Bool.false_eq_true, if_false]
          cases result : findCycle next nodes.length start s with
          | mk cycle t =>
              rw [result] at first
              cases cycle with
              | some cycle => exact first
              | none =>
                  obtain ⟨back, more, settled, reached⟩ := first
                  have found := ih others settled (back.trans idle)
                  simp only
                  split
                  case h_1 cycle again => simpa only [again] using found
                  case h_2 again =>
                    rw [again] at found
                    obtain ⟨further, settles, later⟩ := found
                    rw [← List.append_assoc] at settles later
                    refine ⟨further ++ more, settles, List.forall_mem_cons.mpr ⟨?_, later⟩⟩
                    rw [List.append_assoc]
                    exact List.mem_append_right _ (reached start List.mem_cons_self)

/-- Where a start lies on a cycle, the searches return one. -/
theorem exists_cycle (closed : ∀ node ∈ nodes, next node ⊆ nodes) {starts : List α}
    (inside : starts ⊆ nodes) {start : α} (member : start ∈ starts)
    (cyclic : TransGen (fun a b => b ∈ next a) start start) :
    ∃ cycle, findCycleFrom next nodes.length starts .initial = some cycle ∧
      IsCycle (fun a b => b ∈ next a) cycle := by
  have found := findCycleFrom_finds closed inside holds_initial rfl
  split at found
  case h_1 cycle result => exact ⟨cycle, result, found⟩
  case h_2 =>
    obtain ⟨more, settled, reached⟩ := found
    exact absurd cyclic (settled.acyclic (reached start member))

end DepthFirst
