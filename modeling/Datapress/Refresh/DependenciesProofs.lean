import Datapress.Library.Positions
import Datapress.Library.Rank
import Datapress.Refresh.CascadeProofs
import Datapress.Refresh.Dependencies
import Datapress.Refresh.Wave

/-! The order of the datasets by their dependencies, and what an accepted configuration has
been checked for. -/
namespace Datapress.Refresh

section
variable {nodes : List Node}

theorem nameToIdx_of_getElem (distinct : (nodes.map (·.1)).Nodup) {i : Nat} {node : Node}
    (here : nodes[i]? = some node) : nameToIdx nodes node.1 = some i := by
  obtain ⟨inside, rfl⟩ := List.getElem?_eq_some_iff.mp here
  have only : [i] = nodes.findIdxs (·.1 == nodes[i].1) := by
    refine Positions.eq_findIdxs _ _ (List.pairwise_singleton _ _) fun j => ?_
    rw [List.mem_singleton]
    constructor
    · rintro rfl
      exact ⟨inside, beq_self_eq_true _⟩
    · rintro ⟨bound, same⟩
      have named : (nodes.map (·.1)).get ⟨j, by simpa using bound⟩ =
          (nodes.map (·.1)).get ⟨i, by simpa using inside⟩ := by
        simpa using same
      exact Fin.mk.inj (distinct.get_inj_iff.mp named)
  rw [nameToIdx, ← only]
  rfl

theorem mem_dependencyEdges {before after : Nat} :
    (before, after) ∈ dependencyEdges nodes ↔ ∃ node, nodes[after]? = some node ∧
      ∃ u ∈ node.2, nameToIdx nodes u = some before := by
  simp only [dependencyEdges, List.mem_flatMap, Prod.exists, List.mem_zipIdx_iff_getElem?]
  constructor
  · rintro ⟨name, depends, i, here, member⟩
    obtain ⟨_, found, same⟩ := List.mem_map.mp member
    cases same
    exact ⟨name, depends, here, List.mem_filterMap.mp found⟩
  · rintro ⟨name, depends, here, found⟩
    exact ⟨name, depends, after, here,
      List.mem_map.mpr ⟨before, List.mem_filterMap.mpr found, rfl⟩⟩

/-- The name map finds the one dataset of a name. -/
theorem nameToIdx_eq_some (distinct : (nodes.map (·.1)).Nodup) {u : String} {i : Nat} :
    nameToIdx nodes u = some i ↔ ∃ node, nodes[i]? = some node ∧ node.1 = u := by
  constructor
  · intro found
    have member := List.mem_of_getLast? found
    obtain ⟨inside, named⟩ := List.mem_findIdxs_iff_exists_getElem_pos.mp member
    exact ⟨nodes[i], List.getElem?_eq_getElem inside, eq_of_beq named⟩
  · rintro ⟨node, here, rfl⟩
    exact nameToIdx_of_getElem distinct here

/-- A dependency edge leads from one dataset to another that lists its name. -/
theorem mem_dependencyEdges_iff (distinct : (nodes.map (·.1)).Nodup) {i j : Nat} {u d : Node}
    (first : nodes[i]? = some u) (second : nodes[j]? = some d) :
    (i, j) ∈ dependencyEdges nodes ↔ u.1 ∈ d.2 := by
  rw [mem_dependencyEdges, second]
  constructor
  · rintro ⟨_, ⟨⟩, name, listed, found⟩
    obtain ⟨other, here, rfl⟩ := (nameToIdx_eq_some distinct).mp found
    rw [first] at here
    cases here
    exact listed
  · intro listed
    exact ⟨d, rfl, u.1, listed, nameToIdx_of_getElem distinct first⟩

theorem dependencyEdges_inside :
    ∀ edge ∈ dependencyEdges nodes, edge.2 ∈ List.range nodes.length := by
  rintro ⟨before, after⟩ member
  obtain ⟨node, here, _⟩ := mem_dependencyEdges.mp member
  exact List.mem_range.mpr (List.getElem?_eq_some_iff.mp here).1

/-- The names of the datasets have ranks that grow along the listed dependencies. -/
def Ranked (rank : String → Nat) (nodes : List Node) : Prop :=
  ∀ node ∈ nodes, ∀ u ∈ node.2, u ∈ nodes.map (·.1) → rank u < rank node.1

theorem exists_ranked (distinct : (nodes.map (·.1)).Nodup)
    (complete : (topoOrder nodes).length = nodes.length) : ∃ rank, Ranked rank nodes := by
  refine ⟨fun name => (topoOrder nodes).idxOf ((nameToIdx nodes name).getD 0), ?_⟩
  intro node member u listed named
  obtain ⟨other, among, rfl⟩ := List.mem_map.mp named
  obtain ⟨j, here⟩ := List.mem_iff_getElem?.mp member
  obtain ⟨i, there⟩ := List.mem_iff_getElem?.mp among
  show (topoOrder nodes).idxOf ((nameToIdx nodes other.1).getD 0) <
    (topoOrder nodes).idxOf ((nameToIdx nodes node.1).getD 0)
  rw [nameToIdx_of_getElem distinct here, nameToIdx_of_getElem distinct there]
  refine Kahn.idxOf_lt_of_edge List.nodup_range dependencyEdges_inside ?_
    ((mem_dependencyEdges_iff distinct there here).mpr listed)
  rw [List.length_range]
  exact complete

theorem Ranked.subset {rank : String → Nat} {all : List Node} (ranked : Ranked rank all)
    (subset : nodes ⊆ all) : Ranked rank nodes := fun node member u listed named =>
  ranked node (subset member) u listed (List.map_subset _ subset named)

/-- The dataset of a name lists another among its dependencies. -/
def Edge (nodes : List Node) (u d : String) : Prop :=
  ∃ node ∈ nodes, node.1 = d ∧ u ∈ node.2 ∧ u ∈ nodes.map (·.1)

theorem grows_edge_iff {rank : String → Nat} : Rank.Grows (Edge nodes) rank ↔ Ranked rank nodes := by
  constructor
  · intro grows node member u listed named
    exact grows ⟨node, member, rfl, listed, named⟩
  · rintro ranked u d ⟨node, member, rfl, listed, named⟩
    exact ranked node member u listed named

/-- Among datasets that can be ranked a further one closes no cycle just when it does not lead
to itself. -/
theorem ranked_cons_iff (node : Node) {all others : List Node} {rank : String → Nat}
    (ranked : Ranked rank all) (subset : others ⊆ all) :
    (∃ rank, Ranked rank (node :: others)) ↔
      ¬ Relation.TransGen (Edge (node :: others)) node.1 node.1 := by
  obtain ⟨bound, below⟩ := Rank.exists_bound rank (others.map (·.1))
  have inside {u : String} (named : u ∈ (node :: others).map (·.1)) (apart : u ≠ node.1) :
      u ∈ others.map (·.1) :=
    (List.mem_cons.mp named).resolve_left apart
  rw [← exists_congr fun rank => @grows_edge_iff _ rank]
  apply Rank.exists_grows_iff rank bound
  · rintro u d ⟨lister, member, rfl, listed, named⟩ first last
    have among : lister ∈ others :=
      (List.mem_cons.mp member).resolve_left fun same => last (congrArg _ same)
    exact ranked lister (subset among) u listed (List.map_subset _ subset (inside named first))
  · rintro u ⟨_, _, _, _, named⟩ first
    exact below u (inside named first)

/-- The rank of the dataset at a place. -/
def placeRank (rank : String → Nat) (nodes : List Node) (i : Nat) : Nat :=
  rank (nodes.getD i ("", [])).1

theorem Ranked.upwards {rank : String → Nat} (ranked : Ranked rank nodes)
    (distinct : (nodes.map (·.1)).Nodup) : ∀ edge ∈ dependencyEdges nodes,
      edge.1 ∈ List.range nodes.length ∧
        placeRank rank nodes edge.1 < placeRank rank nodes edge.2 := by
  rintro ⟨i, j⟩ edge
  obtain ⟨node, here, name, listed, found⟩ := mem_dependencyEdges.mp edge
  obtain ⟨other, there, rfl⟩ := (nameToIdx_eq_some distinct).mp found
  refine ⟨List.mem_range.mpr (List.getElem?_eq_some_iff.mp there).1, ?_⟩
  simp only [placeRank, List.getD_eq_getElem?_getD, here, there, Option.getD_some]
  exact ranked node (List.mem_of_getElem? here) other.1 listed
    (List.mem_map_of_mem (List.mem_of_getElem? there))

/-- The order has all datasets when they can be ranked, and only then. -/
theorem complete_iff_ranked (distinct : (nodes.map (·.1)).Nodup) :
    (topoOrder nodes).length = nodes.length ↔ ∃ rank, Ranked rank nodes := by
  constructor
  · exact exists_ranked distinct
  · rintro ⟨rank, ranked⟩
    have all : (topoOrder nodes).Perm (List.range nodes.length) :=
      (List.perm_ext_iff_of_nodup (Kahn.nodup_order List.nodup_range dependencyEdges_inside)
        List.nodup_range).mpr fun i =>
        ⟨fun member => Kahn.order_subset List.nodup_range dependencyEdges_inside member,
          Kahn.mem_order List.nodup_range dependencyEdges_inside _ (ranked.upwards distinct)⟩
    rw [all.length_eq, List.length_range]

section
variable {β : Type} {items : List β} {node : β → Node}

/-- The datasets in the order of their dependencies, all of them when there is no cycle. -/
theorem mem_ordered {rank : String → Nat} (ranked : Ranked rank (items.map node))
    (distinct : ((items.map node).map (·.1)).Nodup) {item : β} (member : item ∈ items) :
    item ∈ (topoOrder (items.map node)).filterMap (items[·]?) := by
  obtain ⟨i, here⟩ := List.mem_iff_getElem?.mp member
  refine List.mem_filterMap.mpr ⟨i, ?_, here⟩
  refine Kahn.mem_order List.nodup_range dependencyEdges_inside _ (ranked.upwards distinct) ?_
  rw [List.mem_range, List.length_map]
  exact (List.getElem?_eq_some_iff.mp here).1

/-- A dataset comes after those it lists. -/
theorem before_in_order (distinct : ((items.map node).map (·.1)).Nodup) {first rest : List β}
    {item other : β}
    (split : (topoOrder (items.map node)).filterMap (items[·]?) = first ++ item :: rest)
    (member : other ∈ items) (listed : (node other).1 ∈ (node item).2) : other ∈ first := by
  obtain ⟨early, late, whole, rfl, made⟩ := List.filterMap_eq_append_iff.mp split
  obtain ⟨between, j, others, rfl, nothing, here, _⟩ := List.filterMap_eq_cons_iff.mp made
  obtain ⟨i, there⟩ := List.mem_iff_getElem?.mp member
  have edge : (i, j) ∈ dependencyEdges (items.map node) :=
    (mem_dependencyEdges_iff distinct (by rw [List.getElem?_map, there]; rfl)
      (by rw [List.getElem?_map, here]; rfl)).mpr listed
  rw [← List.append_assoc] at whole
  have before := Kahn.before_of_edge List.nodup_range dependencyEdges_inside whole edge
  refine List.mem_filterMap.mpr ⟨i, (List.mem_append.mp before).resolve_right fun inside => ?_, there⟩
  exact absurd ((nothing i inside).symm.trans there) nofun

/-- Level by level, every dataset has a level. -/
theorem mem_levels {rank : String → Nat} (ranked : Ranked rank (items.map node))
    (distinct : ((items.map node).map (·.1)).Nodup) {item : β} (member : item ∈ items) :
    ∃ level ∈ Kahn.levels (List.range (items.map node).length) (dependencyEdges (items.map node)),
      item ∈ level.filterMap (items[·]?) := by
  obtain ⟨i, here⟩ := List.mem_iff_getElem?.mp member
  have inside : i ∈ List.range (items.map node).length := by
    rw [List.mem_range, List.length_map]
    exact (List.getElem?_eq_some_iff.mp here).1
  obtain ⟨level, among, found⟩ := Kahn.mem_levels List.nodup_range dependencyEdges_inside _
    (ranked.upwards distinct) inside
  exact ⟨level, among, List.mem_filterMap.mpr ⟨i, found, here⟩⟩

theorem before_in_levels (distinct : ((items.map node).map (·.1)).Nodup)
    {first rest : List (List β)} {level : List β} {item other : β}
    (split : (Kahn.levels (List.range (items.map node).length)
      (dependencyEdges (items.map node))).map (·.filterMap (items[·]?)) = first ++ level :: rest)
    (inside : item ∈ level) (member : other ∈ items) (listed : (node other).1 ∈ (node item).2) :
    other ∈ first.flatten := by
  obtain ⟨early, late, whole, rfl, made⟩ := List.map_eq_append_iff.mp split
  obtain ⟨places, others, rfl, rfl, _⟩ := List.map_eq_cons_iff.mp made
  obtain ⟨j, among, here⟩ := List.mem_filterMap.mp inside
  obtain ⟨i, there⟩ := List.mem_iff_getElem?.mp member
  have edge : (i, j) ∈ dependencyEdges (items.map node) :=
    (mem_dependencyEdges_iff distinct (by rw [List.getElem?_map, there]; rfl)
      (by rw [List.getElem?_map, here]; rfl)).mpr listed
  have before := Kahn.earlier_level List.nodup_range dependencyEdges_inside whole among edge
  obtain ⟨places, found, place⟩ := List.mem_flatten.mp before
  exact List.mem_flatten.mpr ⟨_, List.mem_map_of_mem found, List.mem_filterMap.mpr ⟨i, place, there⟩⟩

end


end

section
variable {env : Environment} {datasets : List DatasetConfig}

theorem checkEach_ok {seen : List String} (accepted : checkEach env seen datasets = .ok ()) :
    (datasets.map (·.name)).Nodup ∧ (∀ d ∈ datasets, d.name ∉ seen) ∧
      ∀ d ∈ datasets, d.checkRefresh = .ok () := by
  induction datasets generalizing seen with
  | nil => simp
  | cons d rest ih =>
      obtain ⟨_, checked, others⟩ := Fallible.bind_ok_iff.mp accepted
      obtain ⟨distinct, unseen, all⟩ := ih others
      rw [DatasetConfig.check] at checked
      split at checked
      case isTrue => cases checked
      case isFalse fresh =>
        have new : d.name ∉ seen := fun again => fresh (List.contains_iff_mem.mpr again)
        obtain ⟨_, _, sourced⟩ := Fallible.bind_ok_iff.mp checked
        obtain ⟨_, _, refreshed⟩ := Fallible.bind_ok_iff.mp sourced
        refine ⟨?_, ?_, List.forall_mem_cons.mpr ⟨refreshed, all⟩⟩
        · refine List.nodup_cons.mpr ⟨?_, distinct⟩
          intro again
          obtain ⟨other, member, same⟩ := List.mem_map.mp again
          exact unseen other member (same ▸ List.mem_cons_self ..)
        · refine List.forall_mem_cons.mpr ⟨new, fun other member again => ?_⟩
          exact unseen other member (List.mem_cons_of_mem _ again)

/-- A dataset with a refresh block is a query dataset. -/
theorem kind_of_refresh {d : DatasetConfig} (checked : d.checkRefresh = .ok ())
    (refreshes : d.refresh.isSome) : d.kind = .query := by
  obtain ⟨refresh, found⟩ := Option.isSome_iff_exists.mp refreshes
  by_contra other
  simp only [DatasetConfig.checkRefresh, found, if_pos other, reduceCtorEq] at checked

/-- The edges of the cascade graph are dependencies that the order was computed from. -/
theorem upstream_configuredDag {u d : String} (edge : (configuredDag datasets).Upstream u d) :
    ∃ config ∈ datasets, config.name = d ∧ config.refresh.isSome ∧ u ∈ config.dependsOn := by
  obtain ⟨dep, member, rfl⟩ := List.mem_map.mp edge
  obtain ⟨source, found, _, depends, rfl⟩ := mem_cascadeDag.mp member
  obtain ⟨config, inside, made⟩ := List.mem_filterMap.mp found
  obtain ⟨refresh, block, rfl⟩ := Option.map_eq_some_iff.mp made
  exact ⟨config, inside, rfl, by rw [block]; rfl, depends⟩

end
end Datapress.Refresh
