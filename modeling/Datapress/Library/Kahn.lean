import Mathlib.Data.List.Nodup
import Mathlib.Data.List.Perm.Subperm
import Mathlib.Logic.Relation

/-! Kahn's algorithm on a list of nodes and a list of edges, an edge for each dependency.
A node is put out once every edge into it starts at a node that is already out. -/
namespace Kahn

variable {α : Type} [DecidableEq α]

def successors (edges : List (α × α)) (node : α) : List α :=
  (edges.filter (·.1 = node)).map (·.2)

def inDegree (edges : List (α × α)) (node : α) : Nat := edges.countP (·.2 = node)

/-- Takes one edge away: its target joins the queue when that was the last one into it. -/
def visit (state : (α → Nat) × List α) (target : α) : (α → Nat) × List α :=
  let degree := state.1 target - 1
  (Function.update state.1 target degree,
    if degree = 0 then state.2 ++ [target] else state.2)

/-- Each turn takes a node off the queue, so there are at most as many turns as nodes. -/
def loop (edges : List (α × α)) : Nat → List α → (α → Nat) → List α
  | 0, _, _ => []
  | _ + 1, [], _ => []
  | turns + 1, node :: queue, degrees =>
    let (degrees, queue) := (successors edges node).foldl visit (degrees, queue)
    node :: loop edges turns queue degrees

def order (nodes : List α) (edges : List (α × α)) : List α :=
  loop edges nodes.length (nodes.filter (inDegree edges · = 0)) (inDegree edges)

/-- The edges into a node that do not start at one of the nodes that are out. -/
def remaining (edges : List (α × α)) (out : List α) (node : α) : Nat :=
  edges.countP fun edge => edge.2 = node ∧ edge.1 ∉ out

theorem remaining_eq_zero {edges : List (α × α)} {out : List α} {node : α} :
    remaining edges out node = 0 ↔ ∀ before, (before, node) ∈ edges → before ∈ out := by
  simp only [remaining, List.countP_eq_zero, decide_eq_true_eq, not_and, not_not, Prod.forall]
  constructor
  · intro none before edge
    exact none before node edge rfl
  · rintro all before target edge rfl
    exact all before edge

theorem remaining_append {edges : List (α × α)} {out : List α} {node target : α}
    (fresh : node ∉ out) : remaining edges (out ++ [node]) target =
      remaining edges out target - (successors edges node).count target := by
  induction edges with
  | nil => rfl
  | cons edge rest ih =>
      have small : (successors rest node).count target ≤ remaining rest out target := by
        rw [successors, List.count, List.countP_map, List.countP_filter]
        refine List.countP_mono_left fun edge _ passes => ?_
        simp only [Function.comp_apply, Bool.and_eq_true, beq_iff_eq, decide_eq_true_eq] at passes
        simp only [decide_eq_true_eq]
        exact ⟨passes.1, passes.2 ▸ fresh⟩
      by_cases into : edge.2 = target
      · by_cases here : edge.1 = node
        · simp [remaining, successors, into, here, fresh] at ih small ⊢
          omega
        · by_cases gone : edge.1 ∈ out
          · simp [remaining, successors, into, here, gone] at ih small ⊢
            omega
          · simp [remaining, successors, into, here, gone] at ih small ⊢
            omega
      · by_cases here : edge.1 = node
        · simp [remaining, successors, into, here] at ih ⊢
          exact ih
        · simp [remaining, successors, into, here] at ih ⊢
          exact ih

/-- Taking away edges to the targets: each loses as many as there are, and those that lose
their last one join the queue. -/
theorem foldl_visit {targets : List α} {degrees : α → Nat} (queue : List α)
    (enough : ∀ x, targets.count x ≤ degrees x) :
    ∃ joined, targets.foldl visit (degrees, queue) =
        (fun x => degrees x - targets.count x, queue ++ joined) ∧
      joined.Nodup ∧ ∀ x, x ∈ joined ↔ x ∈ targets ∧ degrees x = targets.count x := by
  induction targets generalizing degrees queue with
  | nil => exact ⟨[], by simp, List.nodup_nil, by simp⟩
  | cons target rest ih =>
      have still (x) : rest.count x ≤ Function.update degrees target (degrees target - 1) x := by
        have := enough x
        by_cases same : x = target
        · subst same
          rw [Function.update_self]
          simp only [List.count_cons_self] at this
          omega
        · rw [Function.update_of_ne same]
          simpa [List.count_cons, Ne.symm same] using this
      have some := enough target
      simp only [List.count_cons_self] at some
      obtain ⟨joined, result, once, members⟩ := ih
        (if degrees target - 1 = 0 then queue ++ [target] else queue) still
      have left (x) : Function.update degrees target (degrees target - 1) x - rest.count x =
          degrees x - (target :: rest).count x := by
        by_cases same : x = target
        · subst same
          rw [Function.update_self, List.count_cons_self]
          omega
        · rw [Function.update_of_ne same, List.count_cons_of_ne (Ne.symm same)]
      rw [List.foldl_cons, visit]
      simp only [left] at result
      by_cases last : degrees target - 1 = 0
      · have absent : target ∉ rest := by
          intro again
          have := List.count_pos_iff.mpr again
          omega
        have unjoined : target ∉ joined := fun member => absent ((members target).mp member).1
        refine ⟨target :: joined, ?_, List.nodup_cons.mpr ⟨unjoined, once⟩, fun x => ?_⟩
        · rw [if_pos last] at result
          rw [if_pos last, result, List.append_assoc]
          rfl
        · by_cases same : x = target
          · subst same
            have none := List.count_eq_zero.mpr absent
            simp only [List.mem_cons, true_or, List.count_cons_self, true_and, true_iff]
            omega
          · rw [List.mem_cons, List.mem_cons, members, Function.update_of_ne same,
              List.count_cons_of_ne (Ne.symm same)]
            simp only [same, false_or]
      · refine ⟨joined, ?_, once, fun x => ?_⟩
        · rw [if_neg last] at result
          rw [if_neg last, result]
        · rw [members, List.mem_cons]
          by_cases same : x = target
          · subst same
            rw [Function.update_self, List.count_cons_self]
            constructor
            · rintro ⟨_, equal⟩
              exact ⟨.inl rfl, by omega⟩
            · rintro ⟨_, equal⟩
              exact ⟨List.count_pos_iff.mp (by omega), by omega⟩
          · rw [Function.update_of_ne same, List.count_cons_of_ne (Ne.symm same)]
            simp [same]

/-- Where the loop stands: the nodes that are out and those in the queue are the nodes that
no remaining edge leads into. -/
structure Stands (nodes : List α) (edges : List (α × α)) (out queue : List α)
    (degrees : α → Nat) : Prop where
  degrees : degrees = remaining edges out
  once : (out ++ queue).Nodup
  free : ∀ x ∈ nodes, x ∈ out ++ queue ↔ remaining edges out x = 0
  nodes : out ++ queue ⊆ nodes

variable {nodes : List α} {edges : List (α × α)} {out queue : List α} {degrees : α → Nat}

theorem stands_order (distinct : nodes.Nodup) :
    Stands nodes edges [] (nodes.filter (inDegree edges · = 0)) (inDegree edges) where
  degrees := by
    funext x
    simp [inDegree, remaining]
  once := by simpa using distinct.filter _
  free x member := by
    rw [List.nil_append, List.mem_filter, decide_eq_true_eq]
    simp [inDegree, remaining, member]
  nodes := by simp

theorem Stands.next {node : α} (stands : Stands nodes edges out (node :: queue) degrees)
    (inside : ∀ edge ∈ edges, edge.2 ∈ nodes) :
    let (degrees, queue) := (successors edges node).foldl visit (degrees, queue)
    Stands nodes edges (out ++ [node]) queue degrees := by
  have fresh : node ∉ out := by
    intro again
    exact (List.nodup_append.mp stands.once).2.2 node again node (List.mem_cons_self ..) rfl
  have enough (x) : (successors edges node).count x ≤ degrees x := by
    rw [stands.degrees, successors, List.count, List.countP_map, List.countP_filter]
    refine List.countP_mono_left fun edge _ passes => ?_
    simp only [Function.comp_apply, Bool.and_eq_true, beq_iff_eq, decide_eq_true_eq] at passes
    simp only [decide_eq_true_eq]
    exact ⟨passes.1, passes.2 ▸ fresh⟩
  obtain ⟨joined, result, once, members⟩ := foldl_visit queue enough
  rw [result]
  have left (x) : degrees x - (successors edges node).count x =
      remaining edges (out ++ [node]) x := by
    rw [remaining_append fresh, stands.degrees]
  have target {x} (member : x ∈ joined) : x ∈ nodes := by
    obtain ⟨edge, kept, rfl⟩ := List.mem_map.mp ((members x).mp member).1
    exact inside edge (List.mem_of_mem_filter kept)
  have apart {x} (member : x ∈ joined) : x ∉ out ++ node :: queue := by
    intro already
    have none := (stands.free x (target member)).mp already
    obtain ⟨found, equal⟩ := (members x).mp member
    have some := List.count_pos_iff.mpr found
    rw [stands.degrees] at equal
    omega
  refine ⟨funext left, ?_, fun x member => ?_, ?_⟩
  · rw [List.append_assoc, List.singleton_append, ← List.cons_append, ← List.append_assoc]
    exact List.nodup_append.mpr ⟨stands.once, once, fun x old y new same =>
      apart new (same ▸ old)⟩
  · have before := stands.free x member
    rw [← left, List.append_assoc, List.singleton_append, ← List.cons_append,
      ← List.append_assoc, List.mem_append, members, before, stands.degrees]
    constructor
    · rintro (none | ⟨_, equal⟩) <;> omega
    · intro none
      by_cases already : remaining edges out x = 0
      · exact .inl already
      · have count := enough x
        rw [stands.degrees] at count
        exact .inr ⟨List.count_pos_iff.mp (by omega), by omega⟩
  · rw [List.append_assoc, List.singleton_append, ← List.cons_append, ← List.append_assoc]
    exact List.append_subset.mpr ⟨stands.nodes, fun x member => target member⟩

/-- What the loop puts out: no node twice, and each after the start of every edge into it. -/
theorem loop_spec (inside : ∀ edge ∈ edges, edge.2 ∈ nodes) (turns : Nat)
    (stands : Stands nodes edges out queue degrees) :
    (out ++ loop edges turns queue degrees).Nodup ∧ loop edges turns queue degrees ⊆ nodes ∧
    ∀ first node rest, loop edges turns queue degrees = first ++ node :: rest →
      ∀ before, (before, node) ∈ edges → before ∈ out ++ first := by
  induction turns generalizing out queue degrees with
  | zero =>
      refine ⟨?_, List.nil_subset _, fun first node rest same => ?_⟩
      · rw [loop, List.append_nil]
        exact (List.nodup_append.mp stands.once).1
      · simp [loop] at same
  | succ turns ih =>
      cases queue with
      | nil =>
          refine ⟨?_, List.nil_subset _, fun first node rest same => ?_⟩
          · rw [loop, List.append_nil]
            exact (List.nodup_append.mp stands.once).1
          · simp [loop] at same
      | cons head queue =>
          obtain ⟨once, members, ordered⟩ := ih (stands.next inside)
          rw [loop]
          refine ⟨?_, ?_, fun first node rest same before edge => ?_⟩
          · rwa [List.append_assoc, List.singleton_append] at once
          · refine List.cons_subset.mpr ⟨stands.nodes ?_, members⟩
            exact List.mem_append_right _ (List.mem_cons_self ..)
          · cases first with
            | nil =>
                obtain ⟨rfl, _⟩ := List.cons.inj same
                have member : head ∈ out ++ head :: queue :=
                  List.mem_append_right _ (List.mem_cons_self ..)
                rw [List.append_nil]
                exact remaining_eq_zero.mp
                  ((stands.free head (stands.nodes member)).mp member) before edge
            | cons first more =>
                obtain ⟨rfl, tail⟩ := List.cons.inj same
                have found := ordered more node rest tail before edge
                rwa [List.append_assoc, List.singleton_append] at found

theorem nodup_order (distinct : nodes.Nodup) (inside : ∀ edge ∈ edges, edge.2 ∈ nodes) :
    (order nodes edges).Nodup :=
  (loop_spec inside nodes.length (stands_order distinct)).1

theorem order_subset (distinct : nodes.Nodup) (inside : ∀ edge ∈ edges, edge.2 ∈ nodes) :
    order nodes edges ⊆ nodes :=
  (loop_spec inside nodes.length (stands_order distinct)).2.1

theorem before_of_edge (distinct : nodes.Nodup) (inside : ∀ edge ∈ edges, edge.2 ∈ nodes)
    {first rest : List α} {node before : α} (split : order nodes edges = first ++ node :: rest)
    (edge : (before, node) ∈ edges) : before ∈ first :=
  (loop_spec inside nodes.length (stands_order distinct)).2.2 first node rest split before edge

/-- No edge leads from a node that is put out to one before it. -/
theorem pairwise_order (distinct : nodes.Nodup) (inside : ∀ edge ∈ edges, edge.2 ∈ nodes) :
    (order nodes edges).Pairwise fun a b => (b, a) ∉ edges := by
  have each (items : List α) (ordered : ∀ first node rest, items = first ++ node :: rest →
      ∀ later ∈ rest, (later, node) ∉ edges) : items.Pairwise fun a b => (b, a) ∉ edges := by
    induction items with
    | nil => exact .nil
    | cons node rest ih =>
        refine .cons (ordered [] node rest rfl) (ih fun first node rest same => ?_)
        exact ordered (_ :: first) node rest (congrArg _ same)
  refine each _ fun first node rest split later member edge => ?_
  have once := nodup_order distinct inside
  have early := before_of_edge distinct inside split edge
  rw [split] at once
  exact (List.nodup_append.mp once).2.2 later early later (List.mem_cons_of_mem _ member) rfl

theorem irreflexive_order (distinct : nodes.Nodup) (inside : ∀ edge ∈ edges, edge.2 ∈ nodes)
    {node : α} (member : node ∈ order nodes edges) : (node, node) ∉ edges := by
  intro edge
  obtain ⟨first, rest, split⟩ := List.append_of_mem member
  have once := nodup_order distinct inside
  have early := before_of_edge distinct inside split edge
  rw [split] at once
  exact (List.nodup_append.mp once).2.2 node early node (List.mem_cons_self ..) rfl

/-- When every node is put out, each is put out after the start of every edge into it. -/
theorem idxOf_lt_of_edge (distinct : nodes.Nodup) (inside : ∀ edge ∈ edges, edge.2 ∈ nodes)
    (complete : (order nodes edges).length = nodes.length) {before after : α}
    (edge : (before, after) ∈ edges) :
    (order nodes edges).idxOf before < (order nodes edges).idxOf after := by
  have once := nodup_order distinct inside
  have all {x} (member : x ∈ nodes) : x ∈ order nodes edges :=
    ((List.subperm_of_subset once (order_subset distinct inside)).perm_of_length_le
      (Nat.le_of_eq complete.symm)).mem_iff.mpr member
  obtain ⟨first, rest, split⟩ := List.append_of_mem (all (inside _ edge))
  have early := before_of_edge distinct inside split edge
  have absent : after ∉ first := by
    rw [split] at once
    intro again
    exact (List.nodup_append.mp once).2.2 after again after (List.mem_cons_self ..) rfl
  rw [split, List.idxOf_append_of_mem early, List.idxOf_append_of_notMem absent,
    List.idxOf_cons_self]
  have := List.idxOf_lt_length_of_mem early
  omega

/-- When every node is put out there is no cycle. -/
theorem acyclic_of_complete (distinct : nodes.Nodup) (inside : ∀ edge ∈ edges, edge.2 ∈ nodes)
    (complete : (order nodes edges).length = nodes.length) (node : α) :
    ¬ Relation.TransGen (fun before after => (before, after) ∈ edges) node node := by
  have later {before after} (path : Relation.TransGen
      (fun before after => (before, after) ∈ edges) before after) :
      (order nodes edges).idxOf before < (order nodes edges).idxOf after := by
    refine Relation.TransGen.trans_induction_on path ?_ fun _ _ => Nat.lt_trans
    exact fun edge => idxOf_lt_of_edge distinct inside complete edge
  exact fun cycle => Nat.lt_irrefl _ (later cycle)

/-- Where edges lead upwards, every node is out once the queue is empty. -/
theorem Stands.mem_out (stands : Stands nodes edges out [] degrees) (rank : α → Nat)
    (upwards : ∀ edge ∈ edges, edge.1 ∈ nodes ∧ rank edge.1 < rank edge.2) {x : α}
    (member : x ∈ nodes) : x ∈ out := by
  induction bound : rank x using Nat.strongRecOn generalizing x with
  | ind height ih =>
      rw [← List.append_nil out, stands.free x member, remaining_eq_zero]
      intro before edge
      obtain ⟨inside, below⟩ := upwards _ edge
      rw [← List.append_nil out] at ih ⊢
      exact ih (rank before) (bound ▸ below) inside rfl

theorem Stands.queue_eq_nil (stands : Stands nodes edges out queue degrees)
    (full : nodes.length ≤ out.length) : queue = [] := by
  have few := (List.subperm_of_subset stands.once stands.nodes).length_le
  rw [List.length_append] at few
  exact List.length_eq_zero_iff.mp (by omega)

theorem stands_loop (inside : ∀ edge ∈ edges, edge.2 ∈ nodes) (turns : Nat)
    (stands : Stands nodes edges out queue degrees) (enough : nodes.length ≤ out.length + turns) :
    ∃ left, Stands nodes edges (out ++ loop edges turns queue degrees) [] left := by
  induction turns generalizing out queue degrees with
  | zero =>
      obtain rfl := stands.queue_eq_nil enough
      exact ⟨degrees, by rwa [loop, List.append_nil]⟩
  | succ turns ih =>
      cases queue with
      | nil => exact ⟨degrees, by rwa [loop, List.append_nil]⟩
      | cons head queue =>
          have more : nodes.length ≤ (out ++ [head]).length + turns := by
            rw [List.length_append, List.length_singleton]
            omega
          obtain ⟨left, done⟩ := ih (stands.next inside) more
          rw [List.append_assoc] at done
          exact ⟨left, done⟩

theorem mem_order (distinct : nodes.Nodup) (inside : ∀ edge ∈ edges, edge.2 ∈ nodes)
    (rank : α → Nat) (upwards : ∀ edge ∈ edges, edge.1 ∈ nodes ∧ rank edge.1 < rank edge.2) {x : α}
    (member : x ∈ nodes) : x ∈ order nodes edges := by
  obtain ⟨left, stands⟩ := stands_loop inside nodes.length (stands_order distinct) (Nat.le_add_left ..)
  exact stands.mem_out rank upwards member

/-! ### Level by level -/

/-- The nodes that join the queue while one level is taken off it are the next level. -/
def levelsLoop (edges : List (α × α)) : Nat → List α → (α → Nat) → List (List α)
  | 0, _, _ => []
  | _ + 1, [], _ => []
  | turns + 1, current, degrees =>
    let (degrees, next) := (current.flatMap (successors edges)).foldl visit (degrees, [])
    current :: levelsLoop edges turns next degrees

def levels (nodes : List α) (edges : List (α × α)) : List (List α) :=
  levelsLoop edges nodes.length (nodes.filter (inDegree edges · = 0)) (inDegree edges)

/-- What is in the queue already does not matter to the nodes that join it. -/
theorem foldl_visit_append (targets before queue : List α) (degrees : α → Nat) :
    targets.foldl visit (degrees, before ++ queue) =
      ((targets.foldl visit (degrees, queue)).1,
        before ++ (targets.foldl visit (degrees, queue)).2) := by
  induction targets generalizing degrees queue with
  | nil => rfl
  | cons target rest ih =>
      simp only [List.foldl_cons, visit]
      split
      · rw [List.append_assoc, ih]
      · rw [ih]

theorem Stands.nextLevel {current next : List α}
    (stands : Stands nodes edges out (current ++ next) degrees)
    (inside : ∀ edge ∈ edges, edge.2 ∈ nodes) :
    let (degrees, next) := (current.flatMap (successors edges)).foldl visit (degrees, next)
    Stands nodes edges (out ++ current) next degrees := by
  induction current generalizing out next degrees with
  | nil => simpa using stands
  | cons node rest ih =>
      have turn : Stands nodes edges out (node :: (rest ++ next)) degrees := stands
      have one := turn.next inside
      rw [foldl_visit_append] at one
      have all := ih one
      rw [List.append_assoc] at all
      rw [List.flatMap_cons, List.foldl_append]
      exact all

theorem stands_levelsLoop (inside : ∀ edge ∈ edges, edge.2 ∈ nodes) (turns : Nat)
    (stands : Stands nodes edges out queue degrees) (enough : nodes.length ≤ out.length + turns) :
    ∃ left, Stands nodes edges (out ++ (levelsLoop edges turns queue degrees).flatten) [] left := by
  induction turns generalizing out queue degrees with
  | zero =>
      obtain rfl := stands.queue_eq_nil enough
      exact ⟨degrees, by rwa [levelsLoop, List.flatten_nil, List.append_nil]⟩
  | succ turns ih =>
      cases queue with
      | nil => exact ⟨degrees, by rwa [levelsLoop, List.flatten_nil, List.append_nil]⟩
      | cons head queue =>
          have whole : Stands nodes edges out ((head :: queue) ++ []) degrees := by
            rwa [List.append_nil]
          have more : nodes.length ≤ (out ++ head :: queue).length + turns := by
            rw [List.length_append, List.length_cons]
            omega
          obtain ⟨left, done⟩ := ih (whole.nextLevel inside) more
          rw [List.append_assoc] at done
          exact ⟨left, done⟩

theorem nodup_levels (distinct : nodes.Nodup) (inside : ∀ edge ∈ edges, edge.2 ∈ nodes) :
    (levels nodes edges).flatten.Nodup := by
  obtain ⟨left, stands⟩ :=
    stands_levelsLoop inside nodes.length (stands_order distinct) (Nat.le_add_left ..)
  have once := stands.once
  rwa [List.nil_append, List.append_nil] at once

theorem mem_levels (distinct : nodes.Nodup) (inside : ∀ edge ∈ edges, edge.2 ∈ nodes)
    (rank : α → Nat) (upwards : ∀ edge ∈ edges, edge.1 ∈ nodes ∧ rank edge.1 < rank edge.2) {x : α}
    (member : x ∈ nodes) : ∃ level ∈ levels nodes edges, x ∈ level := by
  obtain ⟨left, stands⟩ :=
    stands_levelsLoop inside nodes.length (stands_order distinct) (Nat.le_add_left ..)
  exact List.mem_flatten.mp (stands.mem_out rank upwards member)

theorem levelsLoop_spec (inside : ∀ edge ∈ edges, edge.2 ∈ nodes) (turns : Nat)
    (stands : Stands nodes edges out queue degrees) :
    ∀ first level rest, levelsLoop edges turns queue degrees = first ++ level :: rest →
      ∀ node ∈ level, ∀ before, (before, node) ∈ edges → before ∈ out ++ first.flatten := by
  induction turns generalizing out queue degrees with
  | zero =>
      intro first level rest same
      simp [levelsLoop] at same
  | succ turns ih =>
      intro first level rest same
      cases queue with
      | nil => simp [levelsLoop] at same
      | cons head queue =>
          cases first with
          | nil =>
              obtain ⟨rfl, _⟩ := List.cons.inj same
              intro node member before edge
              have waiting : node ∈ out ++ head :: queue := List.mem_append_right _ member
              rw [List.flatten_nil, List.append_nil]
              exact remaining_eq_zero.mp
                ((stands.free node (stands.nodes waiting)).mp waiting) before edge
          | cons first more =>
              obtain ⟨rfl, tail⟩ := List.cons.inj same
              have whole : Stands nodes edges out ((head :: queue) ++ []) degrees := by
                rwa [List.append_nil]
              have found := ih (whole.nextLevel inside) more level rest tail
              rwa [List.append_assoc] at found

/-- The start of an edge comes in an earlier level than its end. -/
theorem earlier_level (distinct : nodes.Nodup) (inside : ∀ edge ∈ edges, edge.2 ∈ nodes)
    {first rest : List (List α)} {level : List α} {node before : α}
    (split : levels nodes edges = first ++ level :: rest) (member : node ∈ level)
    (edge : (before, node) ∈ edges) : before ∈ first.flatten :=
  levelsLoop_spec inside nodes.length (stands_order distinct) first level rest split node member
    before edge

end Kahn
