import Datapress.Library.Lists
import Datapress.Refresh.DependenciesProofs
import Datapress.Refresh.ReloadAll
import Datapress.Refresh.WaveProofs

/-! A reload of all datasets builds each enqueued dataset once, as long as no debounce timer
overtakes the task. -/
namespace Datapress.Refresh
open Machine (Run Anything)
open Relation (ReflTransGen)

def StatusEntry.node (s : StatusEntry) : Node := (s.name, s.dependsOn)

section
variable {statuses : List StatusEntry}

/-- The lists of the answer have the datasets that can be ordered, each in one of them. -/
theorem reloadAll_perm :
    ((reloadAllDatasets statuses).enqueued ++ (reloadAllDatasets statuses).skipped).Perm
      (((topoOrder (statuses.map StatusEntry.node)).filterMap (statuses[·]?)).map (·.name)) := by
  simp only [reloadAllDatasets, ← List.map_append]
  apply List.Perm.map
  apply List.perm_append_comm.trans
  exact List.filter_append_perm StatusEntry.skipped _

theorem reloadAll_perm_iff (distinct : (statuses.map (·.name)).Nodup) :
    ((reloadAllDatasets statuses).enqueued ++ (reloadAllDatasets statuses).skipped).Perm
        (statuses.map (·.name)) ↔ ∃ rank, Ranked rank (statuses.map StatusEntry.node) := by
  have names : (statuses.map StatusEntry.node).map (·.1) = statuses.map (·.name) := List.map_map
  have inside := @dependencyEdges_inside (statuses.map StatusEntry.node)
  have length : (statuses.map StatusEntry.node).length = statuses.length := List.length_map _
  have found : ∀ i ∈ topoOrder (statuses.map StatusEntry.node), (statuses[i]?).isSome := by
    intro i member
    have bound := List.mem_range.mp (Kahn.order_subset List.nodup_range inside member)
    rw [length] at bound
    rw [List.getElem?_eq_getElem bound]
    rfl
  have all := @reloadAll_perm statuses
  constructor
  · intro whole
    have same := (all.symm.trans whole).length_eq
    rw [List.length_map, List.length_map, List.length_filterMap_eq_countP,
      List.countP_eq_length.mpr found, ← length] at same
    exact exists_ranked (names ▸ distinct) same
  · rintro ⟨rank, ranked⟩
    have order : (topoOrder (statuses.map StatusEntry.node)).Perm (List.range statuses.length) := by
      rw [← length]
      apply List.Subperm.perm_of_length_le
      · exact List.subperm_of_subset (Kahn.nodup_order List.nodup_range inside)
          (Kahn.order_subset List.nodup_range inside)
      · rw [List.length_range, (complete_iff_ranked (names ▸ distinct)).mpr ⟨rank, ranked⟩]
    apply all.trans
    apply List.Perm.map
    apply (order.filterMap _).trans
    rw [Lists.filterMap_getElem?_range]

theorem reloadAll_before (distinct : (statuses.map (·.name)).Nodup) {first rest : List String}
    {s : StatusEntry} (member : s ∈ statuses)
    (split : (reloadAllDatasets statuses).enqueued = first ++ s.name :: rest) {u : String}
    (listed : u ∈ s.dependsOn) (queued : u ∈ (reloadAllDatasets statuses).enqueued) :
    u ∈ first := by
  have names : (statuses.map StatusEntry.node).map (·.1) = statuses.map (·.name) := List.map_map
  have inside {t : StatusEntry} (found : t ∈
      (topoOrder (statuses.map StatusEntry.node)).filterMap (statuses[·]?)) : t ∈ statuses := by
    obtain ⟨i, _, here⟩ := List.mem_filterMap.mp found
    exact List.mem_of_getElem? here
  obtain ⟨before, others, whole, rfl, made⟩ := List.map_eq_append_iff.mp split
  obtain ⟨t, after, rfl, same, rfl⟩ := List.map_eq_cons_iff.mp made
  obtain ⟨early, late, whole', rfl, rest'⟩ := List.filter_eq_append_iff.mp whole
  obtain ⟨between, others, rfl, none, passes, rfl⟩ := List.filter_eq_cons_iff.mp rest'
  rw [← List.append_assoc] at whole'
  have among : t ∈ statuses := inside (whole' ▸ List.mem_append_right _ List.mem_cons_self)
  obtain rfl := List.inj_on_of_nodup_map distinct among member same
  obtain ⟨v, ready, rfl⟩ := List.mem_map.mp queued
  obtain ⟨ordered, enqueued⟩ := List.mem_filter.mp ready
  have earlier := before_in_order (names ▸ distinct) whole' (inside ordered) listed
  apply List.mem_map_of_mem
  obtain earlier | skipped := List.mem_append.mp earlier
  · exact List.mem_filter.mpr ⟨earlier, enqueued⟩
  · exact absurd enqueued (none v skipped)
end

/-- No dataset comes before one that it depends on. -/
structure Ordered (dag : CascadeDag) (names : List String) : Prop where
  distinct : names.Nodup
  later : names.Pairwise fun a b => ¬ dag.Upstream b a
  self : ∀ a ∈ names, ¬ dag.Upstream a a

theorem ordered_enqueued (registry : Registry) : Ordered registry.dag registry.enqueued := by
  let statuses := registry.datasets.map Registered.entry
  let nodes : List Node := statuses.map fun s => (s.name, s.dependsOn)
  have distinct : (nodes.map (·.1)).Nodup := by
    rw [List.map_map, List.map_map]
    exact registry.distinct
  -- a cascade edge between two of the datasets is a dependency edge between their places
  have edge {i j : Nat} {s t : StatusEntry} (first : statuses[i]? = some s)
      (second : statuses[j]? = some t) (upstream : registry.dag.Upstream s.name t.name) :
      (i, j) ∈ dependencyEdges nodes := by
    obtain ⟨config, member, named, _, depends⟩ := upstream_configuredDag upstream
    obtain ⟨r, inside, rfl⟩ := List.mem_map.mp member
    obtain ⟨k, here⟩ := List.mem_iff_getElem?.mp inside
    have found : nodes[k]? = some (r.config.name, r.config.dependsOn) := by
      simp [nodes, statuses, here, Registered.entry]
    have other : nodes[j]? = some (t.name, t.dependsOn) := by
      simp only [nodes, List.getElem?_map, second, Option.map_some]
    have start : nodes[i]? = some (s.name, s.dependsOn) := by
      simp only [nodes, List.getElem?_map, first, Option.map_some]
    have same := nameToIdx_of_getElem distinct found
    rw [named, nameToIdx_of_getElem distinct other] at same
    obtain rfl := Option.some.inj same
    exact mem_dependencyEdges.mpr ⟨_, found, s.name, depends, nameToIdx_of_getElem distinct start⟩
  have once : (topoOrder nodes).Nodup := Kahn.nodup_order List.nodup_range dependencyEdges_inside
  have ordered := Kahn.pairwise_order List.nodup_range (@dependencyEdges_inside nodes)
  have loops {i : Nat} (member : i ∈ topoOrder nodes) :=
    Kahn.irreflexive_order List.nodup_range (@dependencyEdges_inside nodes) member
  have enqueued : registry.enqueued =
      (((topoOrder nodes).filterMap (statuses[·]?)).filter fun s => !s.skipped).map (·.name) := rfl
  have place {i j : Nat} {s t : StatusEntry} (first : statuses[i]? = some s)
      (second : statuses[j]? = some t) (same : s.name = t.name) : i = j := by
    have left : nodes[i]? = some (s.name, s.dependsOn) := by
      simp only [nodes, List.getElem?_map, first, Option.map_some]
    have right : nodes[j]? = some (t.name, t.dependsOn) := by
      simp only [nodes, List.getElem?_map, second, Option.map_some]
    have index := nameToIdx_of_getElem distinct left
    rw [same, nameToIdx_of_getElem distinct right] at index
    exact (Option.some.inj index).symm
  rw [enqueued]
  refine ⟨?_, ?_, ?_⟩
  · refine List.pairwise_map.mpr (List.Pairwise.filter _ (List.pairwise_filterMap.mpr ?_))
    refine once.imp fun different s first t second same => ?_
    exact different (place first second same)
  · refine List.pairwise_map.mpr (List.Pairwise.filter _ (List.pairwise_filterMap.mpr ?_))
    exact ordered.imp fun none s first t second upstream => none (edge second first upstream)
  · intro name member upstream
    obtain ⟨s, kept, rfl⟩ := List.mem_map.mp member
    obtain ⟨i, inside, here⟩ := List.mem_filterMap.mp (List.mem_of_mem_filter kept)
    exact loops inside (edge here here upstream)

namespace Bulk
variable {dag : CascadeDag} {enqueued : List String} {built : String → Nat} {b : Bulk}

/-- A build of the enqueued dataset has begun. -/
def Begun (enqueued : List String) (built : String → Nat) (d : String) : Prop :=
  d ∈ enqueued ∧ built d = 1

/-- What the scheduler and the engine have to do with the enqueued datasets and with those that
lead to them: nothing but what the task has caused and covered. -/
structure Covered (dag : CascadeDag) (enqueued : List String) (built : String → Nat) (b : Bulk) :
    Prop where
  requests : ∀ request ∈ b.system.requests, ¬ Feeds dag enqueued request.name
  loop : ∀ d cascade, b.system.loop = .trying d cascade ∨ b.system.loop = .building d cascade →
    ¬ Feeds dag enqueued d
  events : ∀ event ∈ b.system.events ++ b.system.processed, Feeds dag enqueued event.name →
    Begun enqueued built event.name
  upstream : ∀ d, Begun enqueued built d → ∀ event ∈ b.system.events, ¬ dag.Upstream event.name d
  past : ∀ d entry, b.system.pending.lookup d = some entry → entry.triggerAt ≤ b.system.now
  triggers : ∀ d, Begun enqueued built d → ∀ entry, b.system.pending.lookup d = some entry →
    (∀ start, b.system.locks.lookup d = some (.building start) → entry.triggerAt ≤ start) ∧
    (∀ event ∈ b.system.events, event.name = d → entry.triggerAt ≤ event.buildStart) ∧
    ∀ event ∈ b.system.processed, event.name ≠ d

/-- The task has built what is behind it, and holds the only reload lock of what it builds. -/
structure InTurn (dag : CascadeDag) (enqueued : List String) (built : String → Nat) (b : Bulk) :
    Prop where
  order : ∃ past, enqueued = past ++ (b.current.toList ++ b.rest) ∧ ∀ d ∈ past, built d = 1
  rest : ∀ d ∈ b.rest, built d = 0
  current : ∀ d, b.current = some d → ∃ phase, b.system.locks.lookup d = some phase ∧
    built d = if phase = .locked then 0 else 1
  locks : ∀ d phase, Feeds dag enqueued d → b.system.locks.lookup d = some phase →
    b.current = some d
  covered : Covered dag enqueued built b

theorem feeds_self {d : String} (member : d ∈ enqueued) : Feeds dag enqueued d :=
  ⟨d, member, .refl⟩

theorem inTurn_start (dag : CascadeDag) (now : Nat) (enqueued : List String) :
    InTurn dag enqueued (fun _ => 0) (start now enqueued) where
  order := ⟨[], rfl, nofun⟩
  rest _ _ := rfl
  current _ impossible := by cases impossible
  locks _ _ _ impossible := by cases impossible
  covered := by
    constructor
    · exact List.forall_mem_nil _
    · rintro d cascade (impossible | impossible) <;> cases impossible
    · exact List.forall_mem_nil _
    · intro d begun
      cases begun.2
    · intro d entry impossible
      cases impossible
    · intro d begun
      cases begun.2

theorem InTurn.mem_current (held : InTurn dag enqueued built b) {d : String}
    (current : b.current = some d) : d ∈ enqueued := by
  obtain ⟨past, whole, _⟩ := held.order
  rw [whole, current]
  simp

/-- Nothing that has been built depends on what the task is building. -/
theorem InTurn.not_upstream (held : InTurn dag enqueued built b) (ordered : Ordered dag enqueued)
    {u d : String} (current : b.current = some u) (begun : Begun enqueued built d) :
    ¬ dag.Upstream u d := by
  obtain ⟨past, whole, _⟩ := held.order
  have member := begun.1
  have later := ordered.later
  rw [current] at whole
  rw [whole] at member later
  rcases List.mem_append.mp member with before | after
  · exact (List.pairwise_append.mp later).2.2 d before u (by simp)
  · rcases List.mem_append.mp after with here | rest
    · obtain rfl : d = u := by simpa using here
      exact ordered.self d begun.1
    · have none := held.rest d rest
      have some := begun.2
      omega

/-- The task enters the build of its next dataset: nobody else holds the lock. -/
theorem inTurn_tryNext (held : InTurn dag enqueued built b) {c : Bulk}
    (stepped : step dag .tryNext b = some c) : InTurn dag enqueued built c := by
  simp only [step] at stepped
  split at stepped
  case h_2 => cases stepped
  case h_1 name rest idle left =>
    obtain ⟨past, whole, built_past⟩ := held.order
    rw [idle, left] at whole
    have member : name ∈ enqueued := by
      rw [whole]
      simp
    split at stepped
    case h_1 phase locked =>
      have holder := held.locks name phase (feeds_self member) locked
      rw [idle] at holder
      cases holder
    case h_2 free =>
      obtain rfl := Option.some.inj stepped
      refine ⟨⟨past, whole, built_past⟩, fun d later => held.rest d ?_, ?_, ?_, ?_⟩
      · rw [left]
        exact List.mem_cons_of_mem _ later
      · rintro d same
        obtain rfl := Option.some.inj same
        refine ⟨.locked, AList.lookup_insert _, ?_⟩
        rw [if_pos rfl]
        exact held.rest name (by rw [left]; exact List.mem_cons_self ..)
      · intro d phase feeds locked
        by_cases same : d = name
        · rw [same]
        · rw [AList.lookup_insert_ne same] at locked
          have holder := held.locks d phase feeds locked
          rw [idle] at holder
          cases holder
      · refine { held.covered with triggers := fun d begun entry pending => ?_ }
        obtain ⟨started, others⟩ := held.covered.triggers d begun entry pending
        refine ⟨fun start locked => started start ?_, others⟩
        by_cases same : d = name
        · rw [same, AList.lookup_insert] at locked
          cases locked
        · rwa [AList.lookup_insert_ne same] at locked

variable {s : System} {rest : List String} {current : Option String}

theorem inTurn_start_build (ordered : Ordered dag enqueued)
    (held : InTurn dag enqueued built ⟨s, rest, current⟩) {name : String}
    (locked : s.locks.lookup name = some .locked)
    (inTime : name ∈ enqueued → ∀ event ∈ s.events, ¬ dag.Upstream event.name name) :
    InTurn dag enqueued (fun d => if d = name then built d + 1 else built d)
      ⟨{ s with locks := s.locks.insert name (.building s.now) }, rest, current⟩ := by
  have other {d : String} (member : d ∈ enqueued) (not : current ≠ some d) : d ≠ name := by
    rintro rfl
    exact not (held.locks d _ (feeds_self member) locked)
  obtain ⟨past, whole, built_past⟩ := held.order
  have distinct := ordered.distinct
  rw [whole] at distinct
  have first {d : String} (begun : Begun enqueued (fun d => if d = name then built d + 1 else built d) d) :
      d = name ∧ built d = 0 ∨ d ≠ name ∧ Begun enqueued built d := by
    obtain ⟨member, one⟩ := begun
    by_cases same : d = name
    · simp only [if_pos same] at one
      exact .inl ⟨same, by omega⟩
    · simp only [if_neg same] at one
      exact .inr ⟨same, member, one⟩
  have begun_of {d : String} (begun : Begun enqueued built d) : d ≠ name := by
    rintro rfl
    have here := held.locks d _ (feeds_self begun.1) locked
    obtain ⟨phase, found, count⟩ := held.current d here
    obtain rfl := Option.some.inj (found.symm.trans locked)
    have := begun.2
    simp at count
    omega
  refine ⟨⟨past, whole, fun d member => ?_⟩, fun d member => ?_, ?_, ?_, ?_⟩
  · have ne : d ≠ name := by
      refine begun_of ⟨?_, built_past d member⟩
      rw [whole]
      exact List.mem_append_left _ member
    simpa only [if_neg ne] using built_past d member
  · have ne : d ≠ name := by
      refine other ?_ fun here => ?_
      · rw [whole]
        simp [member]
      · have apart := (List.nodup_append.mp distinct).2.1
        simp only [here] at apart
        exact (List.nodup_append.mp apart).2.2 d (by simp) d member rfl
    simpa only [if_neg ne] using held.rest d member
  · intro d here
    obtain ⟨phase, found, count⟩ := held.current d here
    by_cases same : d = name
    · subst same
      obtain rfl := Option.some.inj (found.symm.trans locked)
      exact ⟨_, AList.lookup_insert _, by simpa using count⟩
    · exact ⟨phase, by rw [AList.lookup_insert_ne same, found], by simpa only [if_neg same] using count⟩
  · intro d phase feeds found
    by_cases same : d = name
    · exact same ▸ held.locks name _ (same ▸ feeds) locked
    · rw [AList.lookup_insert_ne same] at found
      exact held.locks d phase feeds found
  · obtain ⟨requests, loop, events, upstream, past, triggers⟩ := held.covered
    refine ⟨requests, loop, fun event member feeds => ?_, fun d begun => ?_, past,
      fun d begun entry pending => ?_⟩
    · have begun := events event member feeds
      have ne := begun_of begun
      exact ⟨begun.1, by simpa only [if_neg ne] using begun.2⟩
    · rcases first begun with ⟨rfl, _⟩ | ⟨_, before⟩
      · exact inTime begun.1
      · exact upstream d before
    · rcases first begun with ⟨rfl, zero⟩ | ⟨ne, before⟩
      · have unread {event : Publish} (member : event ∈ s.events ++ s.processed) :
            event.name ≠ d := by
          rintro rfl
          exact begun_of (events event member (feeds_self begun.1)) rfl
        refine ⟨fun start found => ?_, fun event member same => ?_, fun event member => ?_⟩
        · rw [AList.lookup_insert] at found
          cases found
          exact past d entry pending
        · exact absurd same (unread (List.mem_append_left _ member))
        · exact unread (List.mem_append_right _ member)
      · rw [AList.lookup_insert_ne ne]
        exact triggers d before entry pending

theorem inTurn_publish (ordered : Ordered dag enqueued)
    (held : InTurn dag enqueued built ⟨s, rest, current⟩) {name : String} {buildStart : Nat}
    (building : s.locks.lookup name = some (.building buildStart)) :
    InTurn dag enqueued built ⟨{ s with
      locks := s.locks.insert name .published
      events := s.events ++ [⟨name, buildStart, s.now⟩]
      published := s.published ++ [⟨name, buildStart, s.now⟩] }, rest, current⟩ := by
  have own (feeds : Feeds dag enqueued name) : current = some name ∧ Begun enqueued built name := by
    have here := held.locks name _ feeds building
    obtain ⟨phase, found, count⟩ := held.current name here
    obtain rfl := Option.some.inj (found.symm.trans building)
    exact ⟨here, held.mem_current here, by simpa using count⟩
  refine ⟨held.order, held.rest, ?_, ?_, ?_⟩
  · intro d here
    obtain ⟨phase, found, count⟩ := held.current d here
    by_cases same : d = name
    · subst same
      obtain rfl := Option.some.inj (found.symm.trans building)
      exact ⟨_, AList.lookup_insert _, by simpa using count⟩
    · exact ⟨phase, by rw [AList.lookup_insert_ne same, found], count⟩
  · intro d phase feeds found
    by_cases same : d = name
    · exact same ▸ held.locks name _ (same ▸ feeds) building
    · rw [AList.lookup_insert_ne same] at found
      exact held.locks d phase feeds found
  · obtain ⟨requests, loop, events, upstream, past, triggers⟩ := held.covered
    refine ⟨requests, loop, fun event member feeds => ?_, fun d begun event member => ?_, past,
      fun d begun entry pending => ?_⟩
    · simp only [List.mem_append, List.mem_singleton] at member
      rcases member with (old | rfl) | old
      · exact events event (List.mem_append_left _ old) feeds
      · exact (own feeds).2
      · exact events event (List.mem_append_right _ old) feeds
    · rcases List.mem_append.mp member with old | new
      · exact upstream d begun event old
      · obtain rfl := List.mem_singleton.mp new
        intro edge
        have here := (own ⟨d, begun.1, .single edge⟩).1
        exact held.not_upstream ordered here begun edge
    · obtain ⟨started, unread, read⟩ := triggers d begun entry pending
      refine ⟨fun start found => ?_, fun event member same => ?_, read⟩
      · by_cases same : d = name
        · rw [same, AList.lookup_insert] at found
          cases found
        · rw [AList.lookup_insert_ne same] at found
          exact started start found
      · rcases List.mem_append.mp member with old | new
        · exact unread event old same
        · obtain rfl := List.mem_singleton.mp new
          exact started buildStart (same ▸ building)

theorem inTurn_release (held : InTurn dag enqueued built ⟨s, rest, current⟩) {name : String}
    (may : mayStep ⟨s, rest, current⟩ (.release name) = true) :
    InTurn dag enqueued built ⟨{ s with locks := s.locks.erase name, loop := s.loop.leave name },
      rest, leave ⟨s, rest, current⟩ (.release name)⟩ := by
  obtain ⟨past, whole, built_past⟩ := held.order
  refine ⟨?_, held.rest, ?_, ?_, ?_⟩
  · by_cases own : current = some name
    · subst own
      obtain ⟨phase, found, count⟩ := held.current name rfl
      have unlocked : phase ≠ .locked := by
        rintro rfl
        have here : s.locks.lookup name = some .locked := found
        simp [mayStep, here] at may
      rw [if_neg unlocked] at count
      refine ⟨past ++ [name], ?_, ?_⟩
      · rw [whole, leave, if_pos rfl]
        simp
      · simp only [List.mem_append, List.mem_singleton]
        rintro d (member | rfl)
        · exact built_past d member
        · exact count
    · refine ⟨past, ?_, built_past⟩
      rw [whole, leave, if_neg own]
  · intro d here
    simp only [leave] at here
    split at here
    case isTrue => cases here
    case isFalse other =>
      obtain ⟨phase, found, count⟩ := held.current d here
      have ne : d ≠ name := by
        rintro rfl
        exact other here
      exact ⟨phase, by rw [AList.lookup_erase_ne ne, found], count⟩
  · intro d phase feeds found
    by_cases same : d = name
    · rw [same, AList.lookup_erase] at found
      cases found
    · rw [AList.lookup_erase_ne same] at found
      have here : current = some d := held.locks d phase feeds found
      rw [leave, if_neg (by rw [here, Option.some.injEq]; exact same), here]
  · obtain ⟨requests, loop, events, upstream, past, triggers⟩ := held.covered
    refine ⟨requests, fun d cascade serving => loop d cascade ?_, events, upstream, past,
      fun d begun entry pending => ?_⟩
    · rcases serving with serving | serving
      · refine .inl ?_
        change s.loop.leave name = _ at serving
        unfold Loop.leave at serving
        split at serving
        · split at serving <;> cases serving
        · exact serving
      · refine .inr ?_
        change s.loop.leave name = _ at serving
        unfold Loop.leave at serving
        split at serving
        · split at serving
          · cases serving
          · rename_i same _
            rw [same, serving]
        · exact serving
    · obtain ⟨started, others⟩ := triggers d begun entry pending
      refine ⟨fun start found => started start ?_, others⟩
      by_cases same : d = name
      · rw [same, AList.lookup_erase] at found
        cases found
      · rwa [AList.lookup_erase_ne same] at found

/-- A dataset whose build has begun is not triggered again, and the publish of its build clears
what had been triggered before. -/
theorem inTurn_processEvent (held : InTurn dag enqueued built ⟨s, rest, current⟩) {event : Publish}
    {later : List Publish} (waiting : s.events = event :: later) :
    InTurn dag enqueued built ⟨{ s with
      events := later
      pending := (dag.dependents event.name).foldl (PendingMap.trigger s.now)
        (s.pending.clear event.name event.buildStart)
      processed := s.processed ++ [event] }, rest, current⟩ := by
  refine ⟨held.order, held.rest, held.current, held.locks, ?_⟩
  obtain ⟨requests, loop, events, upstream, past, triggers⟩ := held.covered
  have here : event ∈ s.events := waiting ▸ List.mem_cons_self ..
  have still {e : Publish} (member : e ∈ later) : e ∈ s.events :=
    waiting ▸ List.mem_cons_of_mem _ member
  refine ⟨requests, loop, fun e member feeds => events e ?_ feeds,
    fun d begun e member => upstream d begun e (still member), fun d entry found => ?_,
    fun d begun entry found => ?_⟩
  · simp only [List.mem_append, List.mem_singleton] at member
    rcases member with unread | read | rfl
    · exact List.mem_append_left _ (still unread)
    · exact List.mem_append_right _ read
    · exact List.mem_append_left _ here
  · rw [PendingMap.lookup_triggers] at found
    rcases Option.or_eq_some_iff.mp found with new | ⟨_, old⟩
    · obtain ⟨_, _, rfl⟩ := Option.map_eq_some_iff.mp new
      exact Nat.le_refl _
    · exact past d entry (PendingMap.lookup_clear.mp old).1
  · have untriggered : (dag.dependents event.name).reverse.find? (fun dep => dep.name = d) =
        none := by
      refine List.find?_eq_none.mpr fun dep member same => ?_
      refine upstream d begun event here (List.mem_map.mpr ⟨dep, ?_, of_decide_eq_true same⟩)
      exact List.mem_reverse.mp member
    simp only [PendingMap.lookup_triggers, untriggered, Option.map_none, Option.none_or] at found
    obtain ⟨before, after⟩ := PendingMap.lookup_clear.mp found
    obtain ⟨started, unread, read⟩ := triggers d begun entry before
    refine ⟨started, fun e member same => unread e (still member) same, fun e member => ?_⟩
    rcases List.mem_append.mp member with old | new
    · exact read e old
    · obtain rfl := List.mem_singleton.mp new
      intro same
      have := unread e here same
      have := after same.symm
      omega

/-- A timer that expires in time sends nothing that leads to an enqueued dataset. -/
theorem inTurn_timer (held : InTurn dag enqueued built ⟨s, rest, current⟩)
    {sent : List CascadeRequest} (answer : sent.Perm (s.pending.due s.now))
    (inTime : InTime dag enqueued ⟨s, rest, current⟩ (.inner (.timer sent))) :
    InTurn dag enqueued built ⟨{ s with
      pending := s.pending.eraseAll sent, requests := s.requests ++ sent }, rest, current⟩ := by
  refine ⟨held.order, held.rest, held.current, held.locks, ?_⟩
  obtain ⟨requests, loop, events, upstream, past, triggers⟩ := held.covered
  have kept {d : String} {entry : Pending}
      (found : (s.pending.eraseAll sent).lookup d = some entry) :
      s.pending.lookup d = some entry := by
    rw [PendingMap.lookup_eraseAll] at found
    split at found
    case isTrue => cases found
    case isFalse => exact found
  refine ⟨fun request member feeds => ?_, loop, events, upstream,
    fun d entry found => past d entry (kept found),
    fun d begun entry found => triggers d begun entry (kept found)⟩
  rcases List.mem_append.mp member with old | new
  · exact requests request old feeds
  · obtain ⟨event, read, same⟩ := inTime request new feeds
    have begun := events event (List.mem_append_right _ read) (same ▸ feeds)
    obtain ⟨entry, pending, _⟩ := PendingMap.mem_due.mp (answer.mem_iff.mp new)
    exact (triggers _ begun entry (same ▸ pending)).2.2 event read rfl

theorem inTurn_step (ordered : Ordered dag enqueued) (held : InTurn dag enqueued built b)
    {action : BulkAction} {c : Bulk} (alone : Alone action) (inTime : InTime dag enqueued b action)
    (stepped : step dag action b = some c) :
    InTurn dag enqueued (fun d => if action = .inner (.start d) then built d + 1 else built d) c := by
  obtain ⟨s, rest, current⟩ := b
  cases action with
  | tryNext => simpa using inTurn_tryNext held stepped
  | inner action =>
      simp only [step] at stepped
      split at stepped
      case isFalse => cases stepped
      case isTrue may =>
      obtain ⟨t, moved, rfl⟩ := Option.map_eq_some_iff.mp stepped
      simp only [BulkAction.inner.injEq]
      cases System.step_moves moved with
      | advance ticks =>
          simp only [reduceCtorEq, if_false]
          exact { held with covered := { held.covered with
            past := fun d entry found => Nat.le_trans (held.covered.past d entry found)
              (Nat.le_add_right _ _) } }
      | lock => exact alone.elim
      | tick => exact alone.elim
      | @start _ name locked =>
          have counts : (fun d => if Action.start name = .start d then built d + 1 else built d) =
              fun d => if d = name then built d + 1 else built d := by
            funext d
            refine if_congr ⟨fun same => ?_, fun same => ?_⟩ rfl rfl
            · exact (Action.start.inj same).symm
            · rw [same]
          rw [counts]
          exact inTurn_start_build ordered held locked inTime
      | publish building =>
          simp only [reduceCtorEq, if_false]
          exact inTurn_publish ordered held building
      | release locked =>
          simp only [reduceCtorEq, if_false]
          exact inTurn_release held may
      | processEvent waiting =>
          simp only [reduceCtorEq, if_false]
          exact inTurn_processEvent held waiting
      | timer _ _ answer =>
          simp only [reduceCtorEq, if_false]
          exact inTurn_timer held answer inTime
      | @receive _ request later idle waiting =>
          simp only [reduceCtorEq, if_false]
          refine { held with covered := { held.covered with
            requests := fun other member => held.covered.requests other ?_
            loop := ?_ } }
          · exact waiting ▸ List.mem_cons_of_mem _ member
          · rintro d cascade (same | same)
            · cases same
              exact held.covered.requests request (waiting ▸ List.mem_cons_self ..)
            · cases same
      | coalesce trying locked =>
          simp only [reduceCtorEq, if_false]
          refine { held with covered := { held.covered with loop := ?_ } }
          rintro d cascade (same | same) <;> cases same
      | giveUp trying =>
          simp only [reduceCtorEq, if_false]
          refine { held with covered := { held.covered with loop := ?_ } }
          rintro d cascade (same | same) <;> cases same
      | @enter _ name cascade trying free =>
          simp only [reduceCtorEq, if_false]
          have unfed : ¬ Feeds dag enqueued name := held.covered.loop name cascade (.inl trying)
          have other {d : String} (member : d ∈ enqueued) : d ≠ name := by
            rintro rfl
            exact unfed (feeds_self member)
          refine ⟨held.order, held.rest, fun d here => ?_, fun d phase feeds found => ?_, ?_⟩
          · obtain ⟨phase, found, count⟩ := held.current d here
            refine ⟨phase, ?_, count⟩
            rw [AList.lookup_insert_ne (other (held.mem_current here)), found]
          · have ne : d ≠ name := by
              rintro rfl
              exact unfed feeds
            rw [AList.lookup_insert_ne ne] at found
            exact held.locks d phase feeds found
          · refine { held.covered with loop := ?_, triggers := fun d begun entry found => ?_ }
            · rintro d again (same | same)
              · cases same
              · cases same
                exact unfed
            · rw [AList.lookup_insert_ne (other begun.1)]
              exact held.covered.triggers d begun entry found

theorem inTurn_run (ordered : Ordered dag enqueued) {now : Nat} {actions : List BulkAction}
    (run : Run (step dag) (fun b action => Alone action ∧ InTime dag enqueued b action)
      (start now enqueued) actions b) : InTurn dag enqueued (builds actions) b := by
  refine run.invariant (P := fun actions b => InTurn dag enqueued (builds actions) b) ?_ ?_
  · exact inTurn_start dag now enqueued
  · intro before t action u held allowed stepped
    have counts : builds (before ++ [action]) =
        fun d => if action = .inner (.start d) then builds before d + 1 else builds before d := by
      funext d
      by_cases same : action = .inner (.start d) <;> simp [builds, same]
    rw [counts]
    exact inTurn_step ordered held allowed.1 allowed.2 stepped

/-- Until it is over, the task goes on, or the engine has a publish to read before it does. -/
theorem can_step (held : InTurn dag enqueued built b) (unfinished : ¬ b.Over) :
    ∃ action, Alone action ∧ InTime dag enqueued b action ∧ (step dag action b).isSome ∧
      (action = .tryNext ∨ ∃ d, b.current = some d ∧
        (action = .inner (.start d) ∨ action = .inner (.release d)) ∨
        action = .inner .processEvent) := by
  obtain ⟨s, rest, current⟩ := b
  cases current with
  | none =>
      cases rest with
      | nil => exact absurd ⟨rfl, rfl⟩ unfinished
      | cons name rest =>
          refine ⟨.tryNext, trivial, trivial, ?_, .inl rfl⟩
          simp only [step]
          split <;> rfl
  | some d =>
      obtain ⟨phase, found, _⟩ := held.current d rfl
      have found : s.locks.lookup d = some phase := found
      cases phase with
      | locked =>
          cases waiting : s.events with
          | nil =>
              refine ⟨.inner (.start d), trivial, fun _ event member => ?_, ?_,
                .inr ⟨d, .inl ⟨rfl, .inl rfl⟩⟩⟩
              · rw [waiting] at member
                cases member
              · simp [step, mayStep, System.step, found]
          | cons event later =>
              refine ⟨.inner .processEvent, trivial, trivial, ?_, .inr ⟨d, .inr rfl⟩⟩
              simp [step, mayStep, System.step, waiting, cascadeEngine]
      | building start =>
          refine ⟨.inner (.release d), trivial, trivial, ?_, .inr ⟨d, .inl ⟨rfl, .inr rfl⟩⟩⟩
          simp [step, mayStep, System.step, found]
      | published =>
          refine ⟨.inner (.release d), trivial, trivial, ?_, .inr ⟨d, .inl ⟨rfl, .inr rfl⟩⟩⟩
          simp [step, mayStep, System.step, found]

/-- When no timer overtakes the task, a reload of all datasets begins one build of each
enqueued dataset: none twice, and all of them until the task is over, which nothing stops. -/
theorem reload_all_builds_once (registry : Registry) (now : Nat) (actions : List BulkAction)
    (b : Bulk) (run : Run (step registry.dag)
      (fun b action => Alone action ∧ InTime registry.dag registry.enqueued b action)
      (start now registry.enqueued) actions b) :
    (∀ d ∈ registry.enqueued, builds actions d ≤ 1) ∧
    (b.Over → ∀ d ∈ registry.enqueued, builds actions d = 1) ∧
    (¬ b.Over → ∃ action, Alone action ∧ InTime registry.dag registry.enqueued b action ∧
      (step registry.dag action b).isSome ∧ (action = .tryNext ∨ ∃ d, b.current = some d ∧
        (action = .inner (.start d) ∨ action = .inner (.release d)) ∨
        action = .inner .processEvent)) := by
  have held := inTurn_run (ordered_enqueued registry) run
  obtain ⟨past, whole, built_past⟩ := held.order
  refine ⟨fun d member => ?_, fun ended d member => ?_, can_step held⟩
  · rw [whole] at member
    rcases List.mem_append.mp member with before | after
    · exact Nat.le_of_eq (built_past d before)
    · rcases List.mem_append.mp after with here | rest
      · obtain ⟨phase, _, count⟩ := held.current d (Option.mem_toList.mp here)
        rw [count]
        split <;> omega
      · rw [held.rest d rest]
        exact Nat.zero_le 1
  · rw [ended.1, ended.2] at whole
    simp only [Option.toList_none, List.append_nil] at whole
    exact built_past d (whole ▸ member)

/-- A view of one of two tables, which is refreshed with it. -/
def viewAndTables : Registry where
  datasets := [
    ⟨{ name := "view", kind := .query, dependsOn := ["table"],
       refresh := some ⟨none, true, 600, true, 0⟩ }, .published, .eager⟩,
    ⟨{ name := "table", kind := .parquet }, .published, .eager⟩,
    ⟨{ name := "other", kind := .parquet }, .published, .eager⟩]
  distinct := by decide

theorem Punctual.inTime {action : BulkAction} (punctual : b.Punctual dag action) :
    InTime dag enqueued b action := by
  unfold Punctual at punctual
  unfold InTime
  split at punctual
  · exact fun _ => punctual
  · exact fun request member _ => punctual request member
  · trivial

def viewReloaded : List BulkAction :=
  [.tryNext, .inner (.start "table"), .inner (.publish "table"), .inner (.release "table"),
    .inner .processEvent, .tryNext, .inner (.start "other"), .inner (.release "other"),
    .tryNext, .inner (.start "view"), .inner (.publish "view"), .inner (.release "view"),
    .inner .processEvent]

/-- The publish of the view is read before its timer expires. -/
theorem reload_all_builds_once_view : ∃ b : Bulk,
    Run (step viewAndTables.dag) (fun _ => Alone) (start 0 viewAndTables.enqueued)
      viewReloaded b ∧ builds viewReloaded "view" = 1 := by
  have run : Run (step viewAndTables.dag)
      (fun b action => Alone action ∧ b.Punctual viewAndTables.dag action)
      (start 0 viewAndTables.enqueued) viewReloaded _ := Machine.run_of_exec rfl
  refine ⟨_, run.weaken fun _ _ both => both.1, ?_⟩
  exact (reload_all_builds_once viewAndTables 0 viewReloaded _
    (run.weaken fun _ _ both => ⟨both.1, both.2.inTime⟩)).2.1 ⟨rfl, rfl⟩ "view" (by decide)

/-- The view has no debounce: its cascade build runs while the task is busy with the other
table, and then the task builds it again. -/
theorem reload_all_builds_twice : ¬ ∀ (registry : Registry) (now : Nat)
    (actions : List BulkAction) (b : Bulk), registry.dag.Acyclic →
    Run (step registry.dag) (fun _ => Alone) (start now registry.enqueued) actions b →
    b.Over → ∀ d ∈ registry.enqueued, builds actions d = 1 := by
  intro once
  have run : Run (step viewAndTables.dag) (fun _ => Alone) (start 0 viewAndTables.enqueued)
      [.tryNext, .inner (.start "table"), .inner (.publish "table"), .inner (.release "table"),
        .inner .processEvent, .tryNext, .inner (.start "other"), .inner (.timer [⟨"view", 600⟩]),
        .inner .receive, .inner .tryReload, .inner (.start "view"), .inner (.publish "view"),
        .inner (.release "view"), .inner (.publish "other"), .inner (.release "other"),
        .tryNext, .inner (.start "view"), .inner (.publish "view"), .inner (.release "view")] _ :=
    Machine.run_of_exec rfl
  have acyclic : viewAndTables.dag.Acyclic :=
    System.acyclic_of_rank (fun name => if name = "table" then 0 else 1) (by decide)
  exact absurd (once _ 0 _ _ acyclic run ⟨rfl, rfl⟩ "view" (by decide)) (by decide)

end Bulk

end Datapress.Refresh
