import Mathlib.Algebra.Order.BigOperators.Group.Finset
import Datapress.Library.Paths
import Datapress.Refresh.DependenciesProofs
import Datapress.Refresh.WaveProofs

/-! The graph of an accepted configuration has no cycle, and a publish from outside is
answered by no more cascade requests than it has walks in the graph. -/
namespace Datapress.Refresh
open Machine (Run Anything)
open Relation (TransGen)

/-! ### Accepted configurations -/

section
variable {env : Environment} {datasets : List DatasetConfig}

/-- Names that differ in case only are different nodes of both graphs. -/
theorem acyclic_of_accepted [ToLowercase] (accepted : validateDatasets env datasets = .ok ()) :
    (configuredDag datasets).Acyclic := by
  obtain ⟨_, each, rest⟩ := Fallible.bind_ok_iff.mp accepted
  obtain ⟨_, _, sorted⟩ := Fallible.bind_ok_iff.mp rest
  obtain ⟨distinct, _, refreshes⟩ := checkEach_ok each
  let nodes := datasets.map DatasetConfig.node
  have names : nodes.map (·.1) = datasets.map (·.name) := by
    rw [List.map_map]
    rfl
  rw [← names] at distinct
  have complete : (topoOrder nodes).length = (List.range nodes.length).length := by
    rw [List.length_range, List.length_map]
    by_contra short
    rw [topologicalDatasetOrder, if_pos short] at sorted
    cases sorted
  have none := Kahn.acyclic_of_complete List.nodup_range dependencyEdges_inside complete
  have at_index {config : DatasetConfig} (member : config ∈ datasets) :
      ∃ i, nodes[i]? = some config.node ∧ nameToIdx nodes config.name = some i := by
    obtain ⟨i, here⟩ := List.mem_iff_getElem?.mp member
    have found : nodes[i]? = some config.node := by rw [List.getElem?_map, here]; rfl
    exact ⟨i, found, nameToIdx_of_getElem distinct found⟩
  -- along the cascade graph, the indices of datasets follow the dependency edges
  have walk {u d : String} (path : TransGen (configuredDag datasets).Upstream u d) {i : Nat}
      (named : nameToIdx nodes u = some i) :
      ∃ j, nameToIdx nodes d = some j ∧
        TransGen (fun a b => (a, b) ∈ dependencyEdges nodes) i j := by
    have follow {u d : String} (edge : (configuredDag datasets).Upstream u d) {i : Nat}
        (named : nameToIdx nodes u = some i) :
        ∃ j, nameToIdx nodes d = some j ∧ (i, j) ∈ dependencyEdges nodes := by
      obtain ⟨config, member, rfl, block, depends⟩ := upstream_configuredDag edge
      obtain ⟨j, here, found⟩ := at_index member
      refine ⟨j, found, mem_dependencyEdges.mpr ⟨config.node, here, u, ?_, named⟩⟩
      rw [DatasetConfig.node, if_pos (kind_of_refresh (refreshes _ member) block)]
      exact depends
    induction path with
    | single edge =>
        obtain ⟨j, found, step⟩ := follow edge named
        exact ⟨j, found, .single step⟩
    | tail _ edge ih =>
        obtain ⟨j, found, path⟩ := ih
        obtain ⟨k, next, step⟩ := follow edge found
        exact ⟨k, next, .tail path step⟩
  intro d cycle
  obtain ⟨u, _, edge⟩ := TransGen.tail'_iff.mp cycle
  obtain ⟨config, member, rfl, _, _⟩ := upstream_configuredDag edge
  obtain ⟨i, _, named⟩ := at_index member
  obtain ⟨j, again, path⟩ := walk cycle named
  obtain rfl := Option.some.inj (named.symm.trans again)
  exact none i path

end

/-! ### What a publish can still cause -/

namespace CascadeDag
variable (dag : CascadeDag)

def next (u : String) : List String := (dag.dependents u).map (·.name)

/-- The datasets a publish of `u` can reach, along one walk of the graph. -/
abbrev IsPath (u : String) (path : List String) : Prop := Paths.IsPath dag.next u path

theorem next_subset (u : String) : dag.next u ⊆ dag.names := fun _ => System.upstream_names

end CascadeDag

namespace System
variable {dag : CascadeDag} {s t : System}

def sent : Action → List CascadeRequest
  | .timer sent => sent
  | _ => []

/-- The dataset published with this step by a build that no cascade request started. -/
def outside (s : System) : Action → Option String
  | .publish name => if s.loop = .building name true then none else some name
  | _ => none

/-- The datasets published along a run by builds that no cascade request started. -/
def outsiders (dag : CascadeDag) : System → List Action → List String
  | _, [] => []
  | s, action :: rest =>
    match step dag action s with
    | some t => (s.outside action).toList ++ outsiders dag t rest
    | none => []

noncomputable section
variable (dag)

/-- The cascade requests that pending triggers can still lead to. -/
def due (pending : PendingMap) : Nat :=
  ∑ d ∈ pending.keys.toFinset, (1 + Paths.count dag.next d)

/-- The cascade requests that the cascade build of the loop can still lead to. -/
def ahead (s : System) : Nat :=
  match s.loop with
  | .trying name true => Paths.count dag.next name
  | .building name true =>
    if s.locks.lookup name = some .published then 0 else Paths.count dag.next name
  | _ => 0

def potential (s : System) : Nat :=
  (s.events.map fun event => Paths.count dag.next event.name).sum + due dag s.pending +
    (s.requests.map fun request => Paths.count dag.next request.name).sum + ahead dag s

end

theorem sum_singleton (d : String) (weight : String → Nat) :
    (((some d).toList).map weight).sum = weight d := by
  simp

/-- Taking a lock or starting a build changes nothing that is ahead. -/
theorem ahead_insert {name : String} {phase : Phase} (unpublished : phase ≠ .published)
    (before : s.locks.lookup name ≠ some .published) :
    ahead dag { s with locks := s.locks.insert name phase } = ahead dag s := by
  unfold ahead
  cases s.loop with
  | idle => rfl
  | trying current cascade => cases cascade <;> rfl
  | building current cascade =>
      cases cascade with
      | false => rfl
      | true =>
          by_cases same : current = name
          · subst same
            simp [unpublished, before]
          · simp [AList.lookup_insert_ne same]

theorem mem_keys_toFinset {pending : PendingMap} {d : String} :
    d ∈ pending.keys.toFinset ↔ (pending.lookup d).isSome := by
  rw [List.mem_toFinset, AList.lookup_isSome, AList.mem_keys]

/-- A processed publish adds at most its own walks. -/
theorem due_publish (acyclic : dag.Acyclic) (pending : PendingMap) (name : String)
    (buildStart now : Nat) :
    due dag ((dag.dependents name).foldl (PendingMap.trigger now) (pending.clear name buildStart)) ≤
      due dag pending + Paths.count dag.next name := by
  have walks : Paths.count dag.next name =
      ∑ d ∈ (dag.next name).toFinset, (1 + Paths.count dag.next d) :=
    Paths.count_eq acyclic dag.next_subset name
  have both := @Finset.sum_union_inter _ _ pending.keys.toFinset (dag.next name).toFinset _
    (fun d => 1 + Paths.count dag.next d) _
  refine le_trans (Finset.sum_le_sum_of_subset fun d member => ?_)
    (le_of_le_of_eq (Nat.le_add_right _ _) (both.trans (congrArg _ walks.symm)))
  rw [mem_keys_toFinset, PendingMap.lookup_triggers, Option.isSome_or, Bool.or_eq_true,
    Option.isSome_map, Option.isSome_iff_exists, Option.isSome_iff_exists] at member
  rw [Finset.mem_union]
  rcases member with ⟨dep, found⟩ | ⟨entry, kept⟩
  · refine .inr (List.mem_toFinset.mpr (List.mem_map.mpr ⟨dep, ?_, ?_⟩))
    · simpa using List.mem_of_find?_eq_some found
    · simpa using List.find?_some found
  · refine .inl (mem_keys_toFinset.mpr ?_)
    rw [(PendingMap.lookup_clear.mp kept).1]
    rfl

variable (dag) in
/-- A timer turns pending entries into requests. -/
theorem due_timer {pending : PendingMap} {now : Nat} {fired : List CascadeRequest}
    (expired : fired.Perm (pending.due now)) :
    fired.length + due dag (pending.eraseAll fired) +
      (fired.map fun request => Paths.count dag.next request.name).sum = due dag pending := by
  have once : (fired.map (·.name)).Nodup := (expired.map _).nodup_iff.mpr (PendingMap.due_nodup now)
  have split : pending.keys.toFinset =
      (pending.eraseAll fired).keys.toFinset ∪ (fired.map (·.name)).toFinset := by
    ext d
    rw [Finset.mem_union, mem_keys_toFinset, mem_keys_toFinset, PendingMap.lookup_eraseAll,
      List.mem_toFinset]
    by_cases sent : d ∈ fired.map (·.name)
    · obtain ⟨request, member, rfl⟩ := List.mem_map.mp sent
      obtain ⟨entry, found, _⟩ := PendingMap.mem_due.mp (expired.mem_iff.mp member)
      simp [sent, found]
    · simp [sent]
  have apart : Disjoint (pending.eraseAll fired).keys.toFinset (fired.map (·.name)).toFinset := by
    rw [Finset.disjoint_left]
    intro d kept sent
    rw [mem_keys_toFinset, PendingMap.lookup_eraseAll, if_pos (List.mem_toFinset.mp sent)] at kept
    cases kept
  rw [due, due, split, Finset.sum_union apart, List.sum_toFinset _ once, List.map_map]
  have ones : (fired.map fun _ => 1).sum = fired.length := by simp
  simp only [Function.comp_def, List.sum_map_add, ones]
  omega

variable (dag) in
/-- The publish of the loop's own build was ahead before it, any other comes from outside. -/
theorem ahead_publish {name : String} {buildStart : Nat}
    (held : s.locks.lookup name = some (.building buildStart)) :
    ahead dag { s with locks := s.locks.insert name .published } + Paths.count dag.next name =
      ahead dag s + ((s.outside (.publish name)).toList.map (Paths.count dag.next)).sum := by
  unfold ahead outside
  cases s.loop with
  | idle => simp
  | trying current cascade => cases cascade <;> simp
  | building current cascade =>
      cases cascade with
      | false => simp
      | true =>
          by_cases same : current = name
          · subst same
            simp [held]
          · simp [AList.lookup_insert_ne same, same]

theorem ahead_release (name : String) :
    ahead dag { s with locks := s.locks.erase name, loop := s.loop.leave name } ≤ ahead dag s := by
  unfold ahead
  cases s.loop with
  | idle => exact Nat.le_refl _
  | trying current cascade => cases cascade <;> exact Nat.le_refl _
  | building current cascade =>
      by_cases same : current = name
      · simp [Loop.leave, same]
      · cases cascade with
        | false => simp [Loop.leave, same]
        | true => simp [Loop.leave, same, AList.lookup_erase_ne same]

/-- What a step sends and leaves to be sent, against what was left before it and what a
publish from outside adds. -/
theorem potential_step {action : Action} (acyclic : dag.Acyclic)
    (stepped : step dag action s = some t) :
    (sent action).length + potential dag t ≤ potential dag s +
      ((s.outside action).toList.map (Paths.count dag.next)).sum := by
  cases step_moves stepped with
  | advance ticks => simp [sent, outside, potential, ahead]
  | @lock s name free =>
      have same : ahead dag { s with locks := s.locks.insert name .locked } = ahead dag s :=
        ahead_insert (by simp) (by simp [free])
      simp [sent, outside, potential, same]
  | @start s name held =>
      have same : ahead dag { s with locks := s.locks.insert name (.building s.now) } =
          ahead dag s := ahead_insert (by simp) (by simp [held])
      simp [sent, outside, potential, same]
  | @publish s name buildStart held =>
      have moved := ahead_publish dag held
      have same : ahead dag { s with
          locks := s.locks.insert name .published
          events := s.events ++ [⟨name, buildStart, s.now⟩]
          published := s.published ++ [⟨name, buildStart, s.now⟩] } =
          ahead dag { s with locks := s.locks.insert name .published } := rfl
      simp only [sent, potential, same, List.map_append, List.sum_append, List.map_cons,
        List.map_nil, List.sum_cons, List.sum_nil, List.length_nil]
      omega
  | @release s name phase held =>
      have less := @ahead_release dag s name
      simp only [sent, outside, potential, Option.toList_none, List.map_nil, List.sum_nil,
        List.length_nil] at less ⊢
      omega
  | @processEvent s event rest waiting =>
      have added := due_publish acyclic s.pending event.name event.buildStart s.now
      simp only [sent, outside, potential, ahead, waiting, List.map_cons, List.sum_cons,
        List.length_nil, Option.toList_none, List.map_nil, List.sum_nil]
      omega
  | @timer s fireAt fired next expired answer =>
      have moved := due_timer dag answer
      simp only [sent, outside, potential, ahead, List.map_append, List.sum_append,
        Option.toList_none, List.map_nil, List.sum_nil]
      omega
  | @receive s request rest idle waiting =>
      simp only [sent, outside, potential, ahead, idle, waiting, List.map_cons, List.sum_cons,
        List.length_nil, Option.toList_none, List.map_nil, List.sum_nil]
      omega
  | @tick s name idle => simp [sent, outside, potential, ahead, idle]
  | @coalesce s name cascade phase trying held =>
      simp only [sent, outside, potential, ahead, List.length_nil, Option.toList_none,
        List.map_nil, List.sum_nil]
      omega
  | @enter s name cascade trying free =>
      cases cascade <;> simp [sent, outside, potential, ahead, trying]
  | @giveUp s name cascade trying =>
      simp only [sent, outside, potential, ahead, List.length_nil, Option.toList_none,
        List.map_nil, List.sum_nil]
      omega

theorem outsiders_snoc {actions : List Action} {action : Action} {u : System}
    (run : Run (step dag) Anything s actions t) (stepped : step dag action t = some u) :
    outsiders dag s (actions ++ [action]) =
      outsiders dag s actions ++ (t.outside action).toList := by
  induction actions generalizing s with
  | nil =>
      obtain rfl := run.unique (.nil s)
      simp [outsiders, stepped]
  | cons first rest ih =>
      rw [← List.singleton_append] at run
      obtain ⟨middle, early, late⟩ := run.split
      have single : Run (step dag) Anything s ([] ++ [first]) middle := early
      obtain ⟨_, none, _, moved⟩ := single.last
      obtain rfl := none.unique (.nil s)
      rw [List.cons_append, outsiders, outsiders]
      simp only [moved, ih late, List.append_assoc]

/-- Every request of a run is paid for by a walk that starts at a dataset which was published
from outside. -/
theorem requests_bounded (acyclic : dag.Acyclic) {now : Nat} {actions : List Action}
    (run : Run (step dag) Anything (initial now) actions s) :
    (actions.flatMap sent).length + potential dag s ≤
      ((outsiders dag (initial now) actions).map (Paths.count dag.next)).sum := by
  induction run with
  | nil => simp [potential, ahead, due, initial, outsiders]
  | snoc before _ stepped ih =>
      have paid := potential_step acyclic stepped
      rw [outsiders_snoc before stepped, List.map_append, List.sum_append, List.flatMap_append,
        List.length_append, List.flatMap_singleton]
      omega

/-- In an accepted configuration there are finitely many walks from each dataset, and a run
sends no more cascade requests than the walks from the datasets that builds from outside
the cascade have published. -/
theorem cascade_quiescence [ToLowercase] {env : Environment} {datasets : List DatasetConfig}
    (accepted : validateDatasets env datasets = .ok ()) :
    (∀ d, {path | (configuredDag datasets).IsPath d path}.Finite) ∧
    ∀ now actions s, Run (step (configuredDag datasets)) Anything (initial now) actions s →
      (actions.flatMap sent).length ≤
        ((outsiders (configuredDag datasets) (initial now) actions).map fun d =>
          {path | (configuredDag datasets).IsPath d path}.ncard).sum := by
  have acyclic := acyclic_of_accepted accepted
  refine ⟨fun d => ?_, fun now actions s run => ?_⟩
  · exact Paths.finite_paths acyclic (CascadeDag.next_subset _) d
  · exact Nat.le_of_add_right_le (requests_bounded acyclic run)

section
attribute [local instance] asciiToLowercase

/-- `View` is refreshed with `base`, and nothing depends on `View` in that spelling. -/
def viewOfBase : List DatasetConfig := [
  { name := "base", kind := .parquet },
  { name := "View", kind := .query, sql := some "SELECT * FROM base", dependsOn := ["base"]
    refresh := some ⟨none, true, 600, true, 5⟩ },
  { name := "Copy", kind := .query, sql := some "SELECT * FROM view", dependsOn := ["view"]
    refresh := some ⟨none, true, 600, true, 5⟩ }]

def viewTables : Environment where
  source _ := .ok ()
  tables sql _ := .ok [if sql = "SELECT * FROM base" then "base" else "view"]
  cycle _ := []

theorem cascade_quiescence_view : ∃ s : System,
    Run (step (configuredDag viewOfBase)) Anything (initial 0)
      [.lock "base", .start "base", .publish "base", .release "base", .processEvent, .advance 5,
        .timer [⟨"View", 600⟩], .receive, .tryReload, .start "View", .publish "View",
        .release "View", .processEvent] s ∧
    1 ≤ {path | (configuredDag viewOfBase).IsPath "base" path}.ncard := by
  have run : Run (step (configuredDag viewOfBase)) Anything (initial 0)
      [.lock "base", .start "base", .publish "base", .release "base", .processEvent, .advance 5,
        .timer [⟨"View", 600⟩], .receive, .tryReload, .start "View", .publish "View",
        .release "View", .processEvent] _ := Machine.run_of_exec rfl
  have accepted : validateDatasets viewTables viewOfBase = .ok () := by rfl
  exact ⟨_, run, (cascade_quiescence accepted).2 0 _ _ run⟩

end

end System
end Datapress.Refresh
