import Datapress.Config.Valid
import Datapress.Refresh.RuntimeProofs
import Datapress.Sql.AllowlistProofs

/-! The dependencies of the datasets as the startup of both backends, `reload-all` and the
cascade graph read them, against those that the loader has checked. -/
namespace Datapress.Config
open Refresh (Node configuredDag dependencyEdges topoOrder)

namespace DatasetConfig

def node (d : DatasetConfig) : Node := d.refreshView.node

/-- `reload-all` takes the list as it is, whatever the kind. -/
def statusNode (d : DatasetConfig) : Node := (d.name, d.source.dependsOn)

/-- The first dependency that failed at startup. -/
def failedDep (failed : List String) (d : DatasetConfig) : Option String :=
  d.source.dependsOn.find? failed.contains

end DatasetConfig

/-- `startup_levels`, over the entries of the map of configurations. -/
def startupLevels (entries : List DatasetConfig) : List (List DatasetConfig) :=
  let eager := entries.filter fun d => d.onStart == .eager
  let nodes := eager.map DatasetConfig.node
  (Kahn.levels (List.range nodes.length) (dependencyEdges nodes)).map (·.filterMap (eager[·]?))

/-- The order in which the DuckDB backend builds. -/
def AppConfig.buildOrder (cfg : AppConfig) : List DatasetConfig :=
  (topoOrder (cfg.datasets.map DatasetConfig.node)).filterMap (cfg.datasets[·]?)

/-- The graph over the items has an edge from one to the other. -/
def Linked {β : Type} (items : List β) (node : β → Node) (u d : β) : Prop :=
  ∃ i j, items[i]? = some u ∧ items[j]? = some d ∧ (i, j) ∈ dependencyEdges (items.map node)

theorem linked_iff {β : Type} {items : List β} {node : β → Node}
    (distinct : ((items.map node).map (·.1)).Nodup) {u d : β} (first : u ∈ items)
    (second : d ∈ items) : Linked items node u d ↔ (node u).1 ∈ (node d).2 := by
  have edge {i j : Nat} (here : items[i]? = some u) (there : items[j]? = some d) :
      (i, j) ∈ dependencyEdges (items.map node) ↔ (node u).1 ∈ (node d).2 :=
    Refresh.mem_dependencyEdges_iff distinct (by rw [List.getElem?_map, here]; rfl)
      (by rw [List.getElem?_map, there]; rfl)
  constructor
  · rintro ⟨i, j, here, there, linked⟩
    exact (edge here there).mp linked
  · intro listed
    obtain ⟨i, here⟩ := List.mem_iff_getElem?.mp first
    obtain ⟨j, there⟩ := List.mem_iff_getElem?.mp second
    exact ⟨i, j, here, there, (edge here there).mpr listed⟩

section
variable [ToLowercase]

/-- An entry of the query dataset names the other as the loader compares names. -/
def DatasetConfig.Reads (d u : DatasetConfig) : Prop :=
  d.source.kind = .query ∧ ∃ dep ∈ d.source.dependsOn, toLowercase dep = toLowercase u.name

/-- Every graph has the edges that the loader has checked. -/
structure AppConfig.Uniform (cfg : AppConfig) : Prop where
  order : ∀ u ∈ cfg.datasets, ∀ d ∈ cfg.datasets,
    Linked cfg.datasets DatasetConfig.node u d ↔ d.Reads u
  levels : ∀ entries : List DatasetConfig, entries.Perm cfg.datasets →
    ∀ u ∈ entries, ∀ d ∈ entries, d.onStart = .eager →
      (Linked (entries.filter fun d => d.onStart == .eager) DatasetConfig.node u d ↔ d.Reads u)
  failures : ∀ u ∈ cfg.datasets, ∀ d ∈ cfg.datasets,
    (d.failedDep [u.name]).isSome ↔ d.Reads u
  reloadAll : ∀ entries : List DatasetConfig, entries.Perm cfg.datasets →
    ∀ u ∈ entries, ∀ d ∈ entries, Linked entries DatasetConfig.statusNode u d ↔ d.Reads u
  cascade : ∀ u ∈ cfg.datasets, ∀ d ∈ cfg.datasets, d.refreshView.cascades →
    ((configuredDag cfg.views).Upstream u.name d.name ↔ d.Reads u)

/-- A dataset is built after those it reads, in both backends, and follows their publishes. -/
structure AppConfig.Follows (cfg : AppConfig) : Prop where
  all : ∀ d ∈ cfg.datasets, d ∈ cfg.buildOrder
  after : ∀ first d rest, cfg.buildOrder = first ++ d :: rest →
    ∀ u ∈ cfg.datasets, d.Reads u → u ∈ first
  eager : ∀ entries : List DatasetConfig, entries.Perm cfg.datasets →
    ∀ d ∈ cfg.datasets, d.onStart = .eager → d ∈ (startupLevels entries).flatten
  higher : ∀ entries : List DatasetConfig, entries.Perm cfg.datasets → ∀ first level rest,
    startupLevels entries = first ++ level :: rest → ∀ d ∈ level, ∀ u ∈ cfg.datasets,
      d.Reads u → u ∈ first.flatten
  triggered : ∀ u ∈ cfg.datasets, ∀ d ∈ cfg.datasets, d.refreshView.cascades → d.Reads u →
    (configuredDag cfg.views).Upstream u.name d.name

/-- A query dataset spells the names it reads as their datasets do, no other dataset lists a
dataset, and what an eager dataset reads is eager. -/
structure AppConfig.Exact (cfg : AppConfig) : Prop where
  query : ∀ d ∈ cfg.datasets, d.source.kind = .query → ∀ dep ∈ d.source.dependsOn,
    ∀ u ∈ cfg.datasets, toLowercase dep = toLowercase u.name → u.name ∈ d.source.dependsOn
  others : ∀ d ∈ cfg.datasets, d.source.kind ≠ .query →
    ∀ u ∈ cfg.datasets, u.name ∉ d.source.dependsOn
  eager : ∀ d ∈ cfg.datasets, d.onStart = .eager → ∀ u ∈ cfg.datasets, d.Reads u →
    u.onStart = .eager

theorem AppConfig.Exact.reads_iff {cfg : AppConfig} (exact : cfg.Exact) {u d : DatasetConfig}
    (first : u ∈ cfg.datasets) (second : d ∈ cfg.datasets) :
    d.Reads u ↔ u.name ∈ d.source.dependsOn := by
  constructor
  · rintro ⟨kind, dep, listed, same⟩
    exact exact.query d second kind dep listed u first same
  · intro listed
    have kind : d.source.kind = .query :=
      by_contra fun other => exact.others d second other u first listed
    exact ⟨kind, u.name, listed, rfl⟩

omit [ToLowercase] in
theorem mem_node {u d : DatasetConfig} :
    u.node.1 ∈ d.node.2 ↔ d.source.kind = .query ∧ u.name ∈ d.source.dependsOn := by
  by_cases kind : d.source.kind = .query
  · have kind' : d.refreshView.kind = .query := kind
    simp only [DatasetConfig.node, Refresh.DatasetConfig.node, kind', kind, if_true, true_and]
    rfl
  · have kind' : ¬ d.refreshView.kind = .query := kind
    simp only [DatasetConfig.node, Refresh.DatasetConfig.node, kind', kind, if_false, false_and,
      List.not_mem_nil]

theorem AppConfig.Exact.mem_node {cfg : AppConfig} (exact : cfg.Exact) {u d : DatasetConfig}
    (first : u ∈ cfg.datasets) (second : d ∈ cfg.datasets) :
    u.node.1 ∈ d.node.2 ↔ d.Reads u := by
  rw [Config.mem_node, exact.reads_iff first second, and_iff_right_iff_imp]
  intro listed
  exact by_contra fun other => exact.others d second other u first listed

omit [ToLowercase] in
theorem failedDep_isSome {d : DatasetConfig} {failed : List String} :
    (d.failedDep failed).isSome ↔ ∃ u ∈ failed, u ∈ d.source.dependsOn := by
  simp only [DatasetConfig.failedDep, List.find?_isSome, List.contains_iff_mem]
  exact exists_congr fun _ => and_comm

omit [ToLowercase] in
theorem Linked.mem {β : Type} {items : List β} {node : β → Node} {u d : β}
    (linked : Linked items node u d) : u ∈ items :=
  let ⟨_, _, here, _, _⟩ := linked
  List.mem_of_getElem? here

omit [ToLowercase] in
theorem distinct_nodes {entries : List DatasetConfig} (node : DatasetConfig → Node)
    (distinct : (entries.map (·.name)).Nodup) (name : ∀ d, (node d).1 = d.name) :
    ((entries.map node).map (·.1)).Nodup := by
  rw [List.map_map]
  exact (List.map_congr_left fun d _ => name d).symm ▸ distinct

omit [ToLowercase] in
theorem distinct_eager {entries datasets : List DatasetConfig} (same : entries.Perm datasets)
    (distinct : (datasets.map (·.name)).Nodup) :
    ((entries.filter fun d => d.onStart == .eager).map (·.name)).Nodup :=
  (((same.map _).nodup_iff.mpr distinct).sublist (List.filter_sublist.map _))

variable {around : Surroundings} {cfg : AppConfig}

theorem AppConfig.Exact.uniform (distinct : (cfg.datasets.map (·.name)).Nodup)
    (exact : cfg.Exact) : cfg.Uniform where
  order u first d second := by
    rw [linked_iff (distinct_nodes _ distinct fun _ => rfl) first second]
    exact exact.mem_node first second
  levels entries same u first d second eager := by
    by_cases eager' : u.onStart = .eager
    · rw [linked_iff (distinct_nodes _ (distinct_eager same distinct) fun _ => rfl)
        (List.mem_filter.mpr ⟨first, beq_iff_eq.mpr eager'⟩)
        (List.mem_filter.mpr ⟨second, beq_iff_eq.mpr eager⟩)]
      exact exact.mem_node (same.subset first) (same.subset second)
    · refine iff_of_false (fun linked => ?_) fun reads => ?_
      · exact eager' (beq_iff_eq.mp (List.mem_filter.mp linked.mem).2)
      · exact eager' (exact.eager d (same.subset second) eager u (same.subset first) reads)
  failures u first d second := by
    rw [failedDep_isSome, exact.reads_iff first second]
    simp
  reloadAll entries same u first d second := by
    rw [linked_iff (distinct_nodes _ ((same.map _).nodup_iff.mpr distinct) fun _ => rfl) first second]
    exact (exact.reads_iff (same.subset first) (same.subset second)).symm
  cascade u first d second cascades := by
    rw [exact.reads_iff first second, Refresh.Runtime.upstream_iff]
    constructor
    · rintro ⟨config, inside, same, _, listed⟩
      obtain ⟨other, member, rfl⟩ := List.mem_map.mp inside
      obtain rfl : other = d := List.inj_on_of_nodup_map distinct member second same
      exact listed
    · intro listed
      exact ⟨d.refreshView, List.mem_map_of_mem second, rfl, cascades, listed⟩

theorem AppConfig.Uniform.exact (uniform : cfg.Uniform) : cfg.Exact where
  query d second kind dep listed u first same := by
    have read := (uniform.failures u first d second).mpr ⟨kind, dep, listed, same⟩
    simpa using failedDep_isSome.mp read
  others d second other u first listed := by
    have failed : (d.failedDep [u.name]).isSome := failedDep_isSome.mpr ⟨u.name, by simp, listed⟩
    exact other ((uniform.failures u first d second).mp failed).1
  eager d second eager u first reads := by
    have linked := (uniform.levels _ (List.Perm.refl _) u first d second eager).mpr reads
    exact beq_iff_eq.mp (List.mem_filter.mp linked.mem).2

omit [ToLowercase] in
/-- The ranks of all datasets rank some of them. -/
theorem ranked_of_subset {rank : String → Nat} {all some : List DatasetConfig}
    (ranked : Refresh.Ranked rank (all.map DatasetConfig.node)) (subset : some ⊆ all) :
    Refresh.Ranked rank (some.map DatasetConfig.node) := by
  intro node member u listed named
  exact ranked node (List.map_subset _ subset member) u listed
    (List.map_subset _ (List.map_subset _ subset) named)

theorem AppConfig.Exact.follows (valid : cfg.Valid around) (exact : cfg.Exact) :
    cfg.Follows := by
  have views : cfg.views.map (·.node) = cfg.datasets.map DatasetConfig.node := List.map_map
  have distinct := distinct_nodes DatasetConfig.node valid.distinct fun _ => rfl
  obtain ⟨rank, ranked⟩ := Refresh.exists_ranked distinct <| by
    rw [← views, valid.ordered, views, List.length_map]
  refine ⟨?_, ?_, ?_, ?_, ?_⟩
  · exact fun d member => Refresh.mem_ordered ranked distinct member
  · intro first d rest split u member reads
    have inside : d ∈ cfg.datasets := by
      have built : d ∈ cfg.buildOrder := split ▸ List.mem_append_right _ List.mem_cons_self
      obtain ⟨i, _, here⟩ := List.mem_filterMap.mp built
      exact List.mem_of_getElem? here
    exact Refresh.before_in_order distinct split member ((exact.mem_node member inside).mpr reads)
  · intro entries same d member eager
    have subset : entries.filter (fun d => d.onStart == .eager) ⊆ cfg.datasets :=
      fun _ found => same.subset (List.mem_of_mem_filter found)
    obtain ⟨level, among, found⟩ := Refresh.mem_levels (ranked_of_subset ranked subset)
      (distinct_nodes _ (distinct_eager same valid.distinct) fun _ => rfl)
      (List.mem_filter.mpr ⟨same.symm.subset member, beq_iff_eq.mpr eager⟩)
    exact List.mem_flatten.mpr ⟨_, List.mem_map_of_mem among, found⟩
  · intro entries same first level rest split d found u member reads
    have chosen : d ∈ entries.filter fun d => d.onStart == .eager := by
      have among : level ∈ startupLevels entries :=
        split ▸ List.mem_append_right _ List.mem_cons_self
      obtain ⟨places, _, rfl⟩ := List.mem_map.mp among
      obtain ⟨i, _, here⟩ := List.mem_filterMap.mp found
      exact List.mem_of_getElem? here
    have inside : d ∈ cfg.datasets := same.subset (List.mem_of_mem_filter chosen)
    have eager : u.onStart = .eager :=
      exact.eager d inside (beq_iff_eq.mp (List.mem_filter.mp chosen).2) u member reads
    exact Refresh.before_in_levels (distinct_nodes _ (distinct_eager same valid.distinct) fun _ => rfl)
      split found (List.mem_filter.mpr ⟨same.symm.subset member, beq_iff_eq.mpr eager⟩)
      ((exact.mem_node member inside).mpr reads)
  · intro u first d second cascades reads
    exact ((exact.uniform valid.distinct).cascade u first d second cascades).mpr reads

/-- The graphs agree when the names are spelled exactly and what is built at start reads only what
is built there, and only then. -/
theorem dependencies_uniform_iff (accepted : cfg.validate around = .ok ()) :
    cfg.Uniform ∧ cfg.Follows ↔ cfg.Exact := by
  have valid := AppConfig.validate_ok_iff.mp accepted
  constructor
  · rintro ⟨uniform, _⟩
    exact uniform.exact
  · intro exact
    exact ⟨exact.uniform valid.distinct, exact.follows valid⟩

end

section Runs
attribute [local instance] asciiToLowercase

/-- The files of the runs are there, and one statement parses. -/
def readsOrders : Surroundings where
  parse := Sql.onlyParses "SELECT id FROM orders"
    (.query (.mk false [] (Sql.selectFrom "id" (Sql.named "orders")) [] [] []))
  cycle _ := []
  parquetFiles _ := .ok ()
  pathExists _ := true

private def shop (orders : String) : AppConfig where
  datasets := [
    { name := orders, source := { kind := .parquet, location := "data/orders" } },
    { name := "daily"
      source := { kind := .query, sql := some "SELECT id FROM orders", dependsOn := ["orders"] } }]

theorem dependencies_uniform_shop :
    (shop "orders").Uniform ∧ (shop "orders").Follows ↔ (shop "orders").Exact :=
  have accepted : (shop "orders").validate readsOrders = .ok () := by rfl
  dependencies_uniform_iff accepted

/-- `orders` waits for its first query. -/
private def lazyOrders : AppConfig where
  datasets := [
    { name := "orders"
      source := { kind := .parquet, location := "data/orders" }
      onStart := .lazy },
    { name := "daily"
      source := { kind := .query, sql := some "SELECT id FROM orders", dependsOn := ["orders"] } }]

/-- The loader finds `orders` under the name `Orders`, and no graph has the edge; and the levels of
the start have no edge from a lazy `orders`. -/
theorem dependencies_not_uniform :
    ((shop "Orders").validate readsOrders = .ok () ∧ ¬ (shop "Orders").Uniform) ∧
    lazyOrders.validate readsOrders = .ok () ∧ ¬ lazyOrders.Uniform := by
  refine ⟨⟨by rfl, fun uniform => ?_⟩, by rfl, fun uniform => ?_⟩
  · have member : ∀ i, (inside : i < 2) → (shop "Orders").datasets.get ⟨i, inside⟩ ∈
        (shop "Orders").datasets := fun i inside => List.get_mem _ _
    have failed := (uniform.failures _ (member 0 (by decide)) _ (member 1 (by decide))).mpr
      ⟨rfl, "orders", List.mem_singleton_self _, by decide⟩
    exact absurd failed (by decide)
  · have eager := uniform.exact.eager _ (List.mem_cons_of_mem _ List.mem_cons_self) rfl _
      List.mem_cons_self ⟨rfl, "orders", List.mem_singleton_self _, rfl⟩
    cases eager

end Runs
end Datapress.Config
