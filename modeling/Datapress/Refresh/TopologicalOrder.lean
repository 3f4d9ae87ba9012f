import Datapress.Library.DepthFirst
import Datapress.Library.Rank
import Datapress.Refresh.DependenciesProofs

/-! The order in which the datasets are built, and the cycle that stands in its way. -/
namespace Datapress.Refresh
open DepthFirst (IsCycle findCycleFrom)
open Relation (TransGen)

/-- The query datasets among the dependencies of a dataset, by their places. -/
def queryDependencies (datasets : List DatasetConfig) (i : Nat) : List Nat :=
  match datasets[i]? with
  | none => []
  | some d => (d.dependsOn.filterMap (nameToIdx (datasets.map DatasetConfig.node))).filter fun next =>
      datasets[next]?.any (·.kind = .query)

/-- `find_cycle_path`. Without a cycle it names all query datasets. -/
def findCyclePath (datasets : List DatasetConfig) : List String :=
  let starts := (List.range datasets.length).filter fun i => datasets[i]?.any (·.kind = .query)
  let name (i : Nat) : String := (datasets[i]?.map (·.name)).getD ""
  match findCycleFrom (queryDependencies datasets) datasets.length starts .initial with
  | some cycle => (cycle ++ cycle.head?.toList).map name
  | none => (datasets.filter (·.kind = .query)).map (·.name)

/-- A query dataset lists another by its exact name. -/
def DependsOn (datasets : List DatasetConfig) (dependent dependency : String) : Prop :=
  ∃ d ∈ datasets, d.name = dependent ∧ d.kind = .query ∧ dependency ∈ d.dependsOn ∧
    dependency ∈ datasets.map (·.name)

def Acyclic (datasets : List DatasetConfig) : Prop := ∀ name, ¬ TransGen (DependsOn datasets) name name

/-- Each name depends on the next, and the last is the first again. -/
structure ClosedPath (datasets : List DatasetConfig) (path : List String) : Prop where
  edges : path.IsChain (DependsOn datasets)
  closed : path.head? = path.getLast?
  proper : 2 ≤ path.length

section
variable {datasets : List DatasetConfig}

theorem mem_node {u : String} {d : DatasetConfig} :
    u ∈ d.node.2 ↔ d.kind = .query ∧ u ∈ d.dependsOn := by
  rw [DatasetConfig.node]
  by_cases kind : d.kind = .query
  · rw [if_pos kind, and_iff_right kind]
  · rw [if_neg kind]
    exact iff_of_false List.not_mem_nil fun both => kind both.1

theorem names_node : (datasets.map DatasetConfig.node).map (·.1) = datasets.map (·.name) := by
  rw [List.map_map]
  rfl

/-- Ranks along the dependencies are ranks of the nodes. -/
theorem grows_iff_ranked {rank : String → Nat} :
    Rank.Grows (fun u d => DependsOn datasets d u) rank ↔ Ranked rank (datasets.map DatasetConfig.node) := by
  constructor
  · intro grows node member u listed named
    obtain ⟨d, inside, rfl⟩ := List.mem_map.mp member
    obtain ⟨kind, depends⟩ := mem_node.mp listed
    exact grows ⟨d, inside, rfl, kind, depends, names_node ▸ named⟩
  · rintro ranked u _ ⟨d, inside, rfl, kind, depends, named⟩
    exact ranked d.node (List.mem_map_of_mem inside) u (mem_node.mpr ⟨kind, depends⟩)
      (names_node ▸ named)

/-- Kahn's algorithm gets to all datasets when there is no cycle, and only then. -/
theorem complete_iff_acyclic (distinct : (datasets.map (·.name)).Nodup) :
    (topoOrder (datasets.map DatasetConfig.node)).length = datasets.length ↔ Acyclic datasets := by
  have whole := complete_iff_ranked (names_node ▸ distinct)
  rw [List.length_map] at whole
  rw [whole]
  constructor
  · rintro ⟨rank, ranked⟩ name cycle
    have grows : Rank.Grows (fun u d => DependsOn datasets d u) rank := grows_iff_ranked.mpr ranked
    exact grows.acyclic name (Relation.transGen_swap.mp cycle)
  · intro acyclic
    have inside {u d : String} (edge : DependsOn datasets d u) : u ∈ datasets.map (·.name) := by
      obtain ⟨_, _, _, _, _, named⟩ := edge
      exact named
    obtain ⟨rank, grows⟩ := Rank.exists_grows inside fun name cycle =>
      acyclic name (Relation.transGen_swap.mpr cycle)
    exact ⟨rank, grows_iff_ranked.mp grows⟩

theorem mem_queryDependencies (distinct : (datasets.map (·.name)).Nodup) {i j : Nat} :
    j ∈ queryDependencies datasets i ↔ ∃ d u, datasets[i]? = some d ∧ datasets[j]? = some u ∧
      u.name ∈ d.dependsOn ∧ u.kind = .query := by
  rw [queryDependencies]
  cases here : datasets[i]? with
  | none =>
      refine iff_of_false List.not_mem_nil ?_
      rintro ⟨_, _, impossible, _⟩
      cases impossible
  | some d =>
      simp only [List.mem_filter, List.mem_filterMap, nameToIdx_eq_some (names_node ▸ distinct),
        List.getElem?_map, Option.map_eq_some_iff, Option.any_eq_true, decide_eq_true_eq]
      constructor
      · rintro ⟨⟨_, listed, _, ⟨u, there, rfl⟩, rfl⟩, other, again, kind⟩
        obtain rfl := Option.some.inj (there.symm.trans again)
        exact ⟨d, u, rfl, there, listed, kind⟩
      · rintro ⟨_, u, ⟨⟩, there, listed, kind⟩
        exact ⟨⟨u.name, listed, u.node, ⟨u, there, rfl⟩, rfl⟩, u, there, kind⟩

/-- On a cycle every dataset is a query dataset, so that the search has all its edges. -/
theorem cycle_queryDependencies (distinct : (datasets.map (·.name)).Nodup) {name : String}
    (cycle : TransGen (DependsOn datasets) name name) :
    ∃ i d, datasets[i]? = some d ∧ d.kind = .query ∧
      TransGen (fun a b => b ∈ queryDependencies datasets a) i i := by
  -- a path to a dataset that depends on another is a path of the search
  have lifted {first last beyond : String} (path : TransGen (DependsOn datasets) first last)
      (more : DependsOn datasets last beyond) : ∀ i j d u, datasets[i]? = some d → d.name = first →
      datasets[j]? = some u → u.name = last →
      TransGen (fun a b => b ∈ queryDependencies datasets a) i j := by
    have edge {a b : String} (depends : DependsOn datasets a b) {i j : Nat} {d u : DatasetConfig}
        (here : datasets[i]? = some d) (named : d.name = a) (there : datasets[j]? = some u)
        (named' : u.name = b) (query : u.kind = .query) : j ∈ queryDependencies datasets i := by
      obtain ⟨d', member, same, kind, listed, _⟩ := depends
      obtain rfl : d' = d :=
        List.inj_on_of_nodup_map distinct member (List.mem_of_getElem? here) (same.trans named.symm)
      exact (mem_queryDependencies distinct).mpr ⟨d', u, here, there, named' ▸ listed, query⟩
    have kind {a b : String} (depends : DependsOn datasets a b) {j : Nat} {u : DatasetConfig}
        (there : datasets[j]? = some u) (named : u.name = a) : u.kind = .query := by
      obtain ⟨d', member, same, kind, _⟩ := depends
      obtain rfl : d' = u :=
        List.inj_on_of_nodup_map distinct member (List.mem_of_getElem? there) (same.trans named.symm)
      exact kind
    induction path generalizing beyond with
    | single depends =>
        intro i j d u here named there named'
        exact .single (edge depends here named there named' (kind more there named'))
    | tail _ depends ih =>
        intro i j d u here named there named'
        have source := depends
        obtain ⟨v, member, middle, _⟩ := source
        obtain ⟨k, between⟩ := List.mem_iff_getElem?.mp member
        exact (ih depends i k d v here named between middle).tail
          (edge depends between middle there named' (kind more there named'))
  obtain ⟨beyond, depends, _⟩ := Relation.TransGen.head'_iff.mp cycle
  have source := depends
  obtain ⟨d, member, named, query, _⟩ := source
  obtain ⟨i, here⟩ := List.mem_iff_getElem?.mp member
  exact ⟨i, d, here, query, lifted cycle depends i i d d here named here named⟩

theorem findCyclePath_closed (distinct : (datasets.map (·.name)).Nodup)
    (cyclic : ¬ Acyclic datasets) : ClosedPath datasets (findCyclePath datasets) := by
  obtain ⟨name, cycle⟩ := not_forall_not.mp cyclic
  obtain ⟨i, d, here, query, around⟩ := cycle_queryDependencies distinct cycle
  have closed : ∀ node ∈ List.range datasets.length,
      queryDependencies datasets node ⊆ List.range datasets.length := by
    intro node _ next edge
    obtain ⟨_, u, _, there, _⟩ := (mem_queryDependencies distinct).mp edge
    exact List.mem_range.mpr (List.getElem?_eq_some_iff.mp there).1
  have start : i ∈ (List.range datasets.length).filter fun i =>
      datasets[i]?.any (·.kind = .query) := by
    rw [List.mem_filter, List.mem_range, here]
    exact ⟨(List.getElem?_eq_some_iff.mp here).1, by simpa using query⟩
  obtain ⟨found, result, first, rest, rfl, edges⟩ :=
    DepthFirst.exists_cycle closed (List.filter_sublist.subset) start around
  rw [List.length_range] at result
  simp only [findCyclePath, result, List.head?_cons, Option.toList_some]
  -- what the search reaches on its way around the cycle are query datasets
  have reached {x : Nat} (member : x ∈ first :: (rest ++ [first])) :
      ∃ d, datasets[x]? = some d ∧ d.kind = .query := by
    have entered : x ∈ rest ++ [first] := by
      obtain rfl | later := List.mem_cons.mp member
      · exact List.mem_append_right _ List.mem_cons_self
      · exact later
    obtain ⟨y, edge⟩ := DepthFirst.exists_before edges entered
    obtain ⟨_, u, _, there, _, kind⟩ := (mem_queryDependencies distinct).mp edge
    exact ⟨u, there, kind⟩
  refine ⟨?_, ?_, ?_⟩
  · apply (List.isChain_map _).mpr
    refine edges.imp_of_mem_imp fun a b inside _ edge => ?_
    obtain ⟨d, u, here, there, listed, _⟩ := (mem_queryDependencies distinct).mp edge
    obtain ⟨d', again, kind⟩ := reached inside
    obtain rfl := Option.some.inj (here.symm.trans again)
    rw [here, there]
    exact ⟨d, List.mem_of_getElem? here, rfl, kind, listed,
      List.mem_map_of_mem (List.mem_of_getElem? there)⟩
  · rw [List.map_append, List.getLast?_append]
    rfl
  · rw [List.length_map, List.length_append, List.length_cons, List.length_singleton]
    omega

/-- Datasets without a cycle are ordered after their dependencies; otherwise the error names a cycle. -/
theorem topologicalDatasetOrder_spec (env : Environment)
    (distinct : (datasets.map (·.name)).Nodup) :
    (Acyclic datasets → ∃ order,
      topologicalDatasetOrder { env with cycle := findCyclePath } datasets = .ok order ∧
        order.Perm (List.range datasets.length) ∧
        ∀ i j d u, datasets[i]? = some d → datasets[j]? = some u → d.kind = .query →
          u.name ∈ d.dependsOn → order.idxOf j < order.idxOf i) ∧
    (¬ Acyclic datasets → ∃ path, ClosedPath datasets path ∧
      let names := " → ".intercalate path
      topologicalDatasetOrder { env with cycle := findCyclePath } datasets =
        .error (.internal s!"dependency cycle detected: {names}")) := by
  have nodes : (datasets.map DatasetConfig.node).length = datasets.length := List.length_map ..
  have distinct' : ((datasets.map DatasetConfig.node).map (·.1)).Nodup := names_node ▸ distinct
  have inside := @dependencyEdges_inside (datasets.map DatasetConfig.node)
  constructor
  · intro acyclic
    have whole := (complete_iff_acyclic distinct).mpr acyclic
    refine ⟨topoOrder (datasets.map DatasetConfig.node), ?_, ?_, ?_⟩
    · rw [topologicalDatasetOrder, if_neg (not_not.mpr whole)]
    · rw [← nodes]
      apply List.Subperm.perm_of_length_le
      · exact List.subperm_of_subset (Kahn.nodup_order List.nodup_range inside)
          (Kahn.order_subset List.nodup_range inside)
      · rw [List.length_range, nodes, whole]
    · intro i j d u here there kind listed
      apply Kahn.idxOf_lt_of_edge List.nodup_range inside
      · exact whole.trans (nodes.symm.trans List.length_range.symm)
      · apply (mem_dependencyEdges_iff distinct' (u := u.node) (d := d.node) ?_ ?_).mpr
        · exact mem_node.mpr ⟨kind, listed⟩
        · rw [List.getElem?_map, there, Option.map_some]
        · rw [List.getElem?_map, here, Option.map_some]
  · intro cyclic
    have partly : (topoOrder (datasets.map DatasetConfig.node)).length ≠ datasets.length :=
      fun whole => cyclic ((complete_iff_acyclic distinct).mp whole)
    refine ⟨findCyclePath datasets, findCyclePath_closed distinct cyclic, ?_⟩
    rw [topologicalDatasetOrder, if_pos partly]

end

def noChecks : Environment where
  source _ := .ok ()
  tables _ _ := .ok []
  cycle := findCyclePath

/-- Two query datasets that list each other. -/
def facing : List DatasetConfig := [
  { name := "a", kind := .query, dependsOn := ["b"] },
  { name := "b", kind := .query, dependsOn := ["a"] }]

example : findCyclePath facing = ["a", "b", "a"] := by decide

theorem topologicalDatasetOrder_facing : ∃ path, ClosedPath facing path ∧
    let names := " → ".intercalate path
    topologicalDatasetOrder noChecks facing =
      .error (.internal s!"dependency cycle detected: {names}") := by
  have first : DependsOn facing "a" "b" := ⟨_, List.mem_cons_self, rfl, rfl, by decide, by decide⟩
  have second : DependsOn facing "b" "a" :=
    ⟨_, List.mem_cons_of_mem _ List.mem_cons_self, rfl, rfl, by decide, by decide⟩
  have cyclic : ¬ Acyclic facing := fun acyclic => acyclic "a" (.tail (.single first) second)
  exact (topologicalDatasetOrder_spec noChecks (by decide)).2 cyclic

end Datapress.Refresh
