import Mathlib.Algebra.BigOperators.Group.Finset.Basic
import Mathlib.Algebra.BigOperators.Group.Finset.Sigma
import Mathlib.Data.Set.Card
import Mathlib.Logic.Relation

/-! The walks of a graph that has finitely many nodes and no cycle: there are finitely many
from each node, and their number is a measure that falls along every edge. -/
namespace Paths
open Relation (TransGen)

variable {α : Type} [DecidableEq α] {next : α → List α} {nodes : List α}

/-- The nodes after the first of a walk with at least one edge. -/
def IsPath (next : α → List α) (start : α) (path : List α) : Prop :=
  path ≠ [] ∧ (start :: path).IsChain fun a b => b ∈ next a

abbrev Edge (next : α → List α) (a b : α) : Prop := b ∈ next a

/-- The walks of at most so many edges. -/
def upTo (next : α → List α) : Nat → α → Finset (List α)
  | 0, _ => ∅
  | n + 1, start =>
    (next start).toFinset.biUnion fun a => insert [a] ((upTo next n a).image (a :: ·))

theorem mem_upTo {n : Nat} {start : α} {path : List α} :
    path ∈ upTo next n start ↔ IsPath next start path ∧ path.length ≤ n := by
  induction n generalizing start path with
  | zero =>
      constructor
      · intro member
        cases member
      · rintro ⟨⟨some, _⟩, short⟩
        exact absurd (List.length_eq_zero_iff.mp (Nat.le_zero.mp short)) some
  | succ n ih =>
      simp only [upTo, Finset.mem_biUnion, List.mem_toFinset, Finset.mem_insert,
        Finset.mem_image, ih]
      constructor
      · rintro ⟨a, edge, rfl | ⟨rest, ⟨⟨some, chain⟩, short⟩, rfl⟩⟩
        · exact ⟨⟨List.cons_ne_nil _ _, .cons_cons edge (.singleton a)⟩, by simp⟩
        · exact ⟨⟨List.cons_ne_nil _ _, .cons_cons edge chain⟩, by simpa using short⟩
      · rintro ⟨⟨some, chain⟩, short⟩
        cases path with
        | nil => exact absurd rfl some
        | cons a rest =>
            obtain ⟨edge, chain⟩ := List.isChain_cons_cons.mp chain
            refine ⟨a, edge, ?_⟩
            cases rest with
            | nil => exact .inl rfl
            | cons b rest =>
                refine .inr ⟨b :: rest, ⟨⟨List.cons_ne_nil _ _, chain⟩, ?_⟩, rfl⟩
                simpa using short

theorem card_upTo (n : Nat) (start : α) :
    (upTo next (n + 1) start).card =
      ∑ a ∈ (next start).toFinset, (1 + (upTo next n a).card) := by
  rw [upTo, Finset.card_biUnion]
  · refine Finset.sum_congr rfl fun a _ => ?_
    rw [Finset.card_insert_of_notMem, Finset.card_image_of_injective, Nat.add_comm]
    · exact List.cons_injective
    · intro member
      obtain ⟨rest, found, same⟩ := Finset.mem_image.mp member
      obtain ⟨_, rfl⟩ := List.cons.inj same
      exact (mem_upTo.mp found).1.1 rfl
  · intro a _ b _ different
    rw [Function.onFun, Finset.disjoint_left]
    intro path first second
    have head {c : α} (member : path ∈ insert [c] ((upTo next n c).image (c :: ·))) :
        path.head? = some c := by
      rcases Finset.mem_insert.mp member with rfl | image
      · rfl
      · obtain ⟨_, _, rfl⟩ := Finset.mem_image.mp image
        rfl
    exact different (Option.some.inj ((head first).symm.trans (head second)))

omit [DecidableEq α] in
theorem reaches {start a : α} {path : List α}
    (chain : (start :: path).IsChain fun a b => b ∈ next a) (member : a ∈ path) :
    TransGen (Edge next) start a := by
  induction path generalizing start with
  | nil => cases member
  | cons b rest ih =>
      obtain ⟨edge, chain⟩ := List.isChain_cons_cons.mp chain
      rcases List.mem_cons.mp member with rfl | later
      · exact .single edge
      · exact .head edge (ih chain later)

omit [DecidableEq α] in
theorem nodup_path (acyclic : ∀ a, ¬ TransGen (Edge next) a a) {start : α} {path : List α}
    (chain : (start :: path).IsChain fun a b => b ∈ next a) : path.Nodup := by
  induction path generalizing start with
  | nil => exact List.nodup_nil
  | cons a rest ih =>
      obtain ⟨_, chain⟩ := List.isChain_cons_cons.mp chain
      exact List.nodup_cons.mpr ⟨fun again => acyclic a (reaches chain again), ih chain⟩

omit [DecidableEq α] in
/-- A walk visits no node twice. -/
theorem length_le (acyclic : ∀ a, ¬ TransGen (Edge next) a a)
    (inside : ∀ a, next a ⊆ nodes) {start : α} {path : List α} (walk : IsPath next start path) :
    path.length ≤ nodes.length := by
  refine ((nodup_path acyclic walk.2).subperm fun a member => ?_).length_le
  obtain ⟨b, _, edge⟩ := TransGen.tail'_iff.mp (reaches walk.2 member)
  exact inside b edge

/-- The number of walks from a node. -/
noncomputable def count (next : α → List α) (start : α) : Nat :=
  {path | IsPath next start path}.ncard

theorem paths_eq (acyclic : ∀ a, ¬ TransGen (Edge next) a a) (inside : ∀ a, next a ⊆ nodes)
    (start : α) {n : Nat} (enough : nodes.length ≤ n) :
    {path | IsPath next start path} = upTo next n start := by
  ext path
  rw [Set.mem_ofPred, Finset.mem_coe, mem_upTo]
  exact ⟨fun walk => ⟨walk, (length_le acyclic inside walk).trans enough⟩, And.left⟩

theorem finite_paths (acyclic : ∀ a, ¬ TransGen (Edge next) a a) (inside : ∀ a, next a ⊆ nodes)
    (start : α) : {path | IsPath next start path}.Finite := by
  rw [paths_eq acyclic inside start (Nat.le_refl _)]
  exact Finset.finite_toSet _

/-- A walk takes its first edge, and ends there or goes on. -/
theorem count_eq (acyclic : ∀ a, ¬ TransGen (Edge next) a a) (inside : ∀ a, next a ⊆ nodes)
    (start : α) : count next start = ∑ a ∈ (next start).toFinset, (1 + count next a) := by
  have counted (a) {n : Nat} (enough : nodes.length ≤ n) : count next a = (upTo next n a).card := by
    rw [count, paths_eq acyclic inside a enough, Set.ncard_coe_finset]
  rw [counted start (Nat.le_succ _), card_upTo]
  exact Finset.sum_congr rfl fun a _ => by rw [counted a (Nat.le_refl _)]

end Paths
