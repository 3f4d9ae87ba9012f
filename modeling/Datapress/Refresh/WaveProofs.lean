import Datapress.Refresh.Wave
import Datapress.Refresh.SchedulerProofs

/-! The order of a cascade wave. While every build waits for what is upstream of it, each
transitive dependent is rebuilt exactly once and after its rebuilt dependencies. -/
namespace Datapress.Refresh
open Machine (Run Anything)
open Relation (TransGen ReflTransGen)

namespace System
variable {dag : CascadeDag} {s t : System} {action : Action}

/-- Only the loop takes reload locks, and only for cascade requests. -/
structure Serial (s : System) : Prop where
  owner : ∀ d phase, s.locks.lookup d = some phase → s.loop = .building d true
  held : ∀ d cascade, s.loop = .building d cascade → ∃ phase, s.locks.lookup d = some phase
  cascade : ∀ d, s.loop ≠ .trying d false
  ended : ∀ d, s.locks.lookup d = some .published → s.HasPublished d

theorem serial_step (held : s.Serial) (internal : s.Internal action)
    (stepped : step dag action s = some t) : t.Serial := by
  cases step_moves stepped with
  | advance ticks => exact ⟨held.owner, held.held, held.cascade, held.ended⟩
  | lock free => exact internal.elim
  | @start _ name locked =>
      have loop := held.owner name _ locked
      refine ⟨?_, ?_, held.cascade, ?_⟩
      · intro d phase found
        by_cases same : d = name
        · subst same; exact loop
        · exact held.owner d phase (by rwa [AList.lookup_insert_ne same] at found)
      · intro d cascade building
        by_cases same : d = name
        · subst same; exact ⟨_, AList.lookup_insert _⟩
        · rw [AList.lookup_insert_ne same]
          exact held.held d cascade building
      · intro d found
        by_cases same : d = name
        · subst same
          rw [AList.lookup_insert] at found
          cases found
        · exact held.ended d (by rwa [AList.lookup_insert_ne same] at found)
  | @publish _ name buildStart building =>
      have loop := held.owner name _ building
      refine ⟨?_, ?_, held.cascade, ?_⟩
      · intro d phase found
        by_cases same : d = name
        · subst same; exact loop
        · exact held.owner d phase (by rwa [AList.lookup_insert_ne same] at found)
      · intro d cascade building
        by_cases same : d = name
        · subst same; exact ⟨_, AList.lookup_insert _⟩
        · rw [AList.lookup_insert_ne same]
          exact held.held d cascade building
      · intro d found
        by_cases same : d = name
        · subst same
          exact ⟨_, List.mem_append_right _ (List.mem_singleton.mpr rfl), rfl⟩
        · rw [AList.lookup_insert_ne same] at found
          obtain ⟨build, member, named⟩ := held.ended d found
          exact ⟨build, List.mem_append_left _ member, named⟩
  | @release _ name phase locked =>
      have loop := held.owner name _ locked
      have free : ∀ d, (s.locks.erase name).lookup d = none := by
        intro d
        by_cases same : d = name
        · subst same; exact AList.lookup_erase _ _
        · rw [AList.lookup_erase_ne same]
          by_contra taken
          obtain ⟨other, found⟩ := Option.ne_none_iff_exists'.mp taken
          have both := held.owner d other found
          rw [loop] at both
          cases both
          exact same rfl
      refine ⟨?_, ?_, ?_, ?_⟩
      · intro d phase found
        rw [free d] at found
        cases found
      · intro d cascade building
        simp [loop, Loop.leave] at building
      · intro d trying
        simp [loop, Loop.leave] at trying
      · intro d found
        rw [free d] at found
        cases found
  | processEvent waiting => exact ⟨held.owner, held.held, held.cascade, held.ended⟩
  | timer next expired answer => exact ⟨held.owner, held.held, held.cascade, held.ended⟩
  | @receive _ request rest idle waiting =>
      refine ⟨?_, ?_, ?_, held.ended⟩
      · intro d phase found
        have building := held.owner d phase found
        rw [idle] at building
        cases building
      · intro d cascade building; cases building
      · intro d trying; cases trying
  | tick idle => exact internal.elim
  | @coalesce _ name cascade phase trying taken =>
      have building := held.owner name phase taken
      rw [trying] at building
      cases building
  | @enter _ name cascade trying free =>
      have asked : cascade = true := by
        cases cascade with
        | true => rfl
        | false => exact absurd trying (held.cascade name)
      subst asked
      refine ⟨?_, ?_, ?_, ?_⟩
      · intro d phase found
        by_cases same : d = name
        · subst same; rfl
        · rw [AList.lookup_insert_ne same] at found
          have building := held.owner d phase found
          rw [trying] at building
          cases building
      · intro d cascade building
        cases building
        exact ⟨_, AList.lookup_insert _⟩
      · intro d other; cases other
      · intro d found
        by_cases same : d = name
        · subst same
          rw [AList.lookup_insert] at found
          cases found
        · exact held.ended d (by rwa [AList.lookup_insert_ne same] at found)
  | giveUp trying => exact internal.elim

/-- What is in the two channels. -/
structure Channels (s : System) : Prop where
  flow : s.processed ++ s.events = s.published
  requests : (s.requests.map (·.name)).Nodup
  served : ∀ d, s.Serves d → ¬ s.Queued d
  triggerAt : ∀ d entry, s.pending.lookup d = some entry → entry.triggerAt ≤ s.now

theorem channels_step (serial : s.Serial) (held : s.Channels) (allowed : s.InOrder dag action)
    (stepped : step dag action s = some t) : t.Channels := by
  cases step_moves stepped with
  | advance ticks =>
      refine ⟨held.flow, held.requests, held.served, ?_⟩
      intro d entry found
      exact Nat.le_add_right_of_le (held.triggerAt d entry found)
  | lock free => exact allowed.1.elim
  | start locked => exact ⟨held.flow, held.requests, held.served, held.triggerAt⟩
  | publish building =>
      refine ⟨?_, held.requests, held.served, held.triggerAt⟩
      rw [← List.append_assoc, held.flow]
  | @release _ name phase locked =>
      refine ⟨held.flow, held.requests, ?_, held.triggerAt⟩
      have loop := serial.owner name _ locked
      intro d serves
      simp [Serves, loop, Loop.leave] at serves
  | @processEvent _ event rest waiting =>
      refine ⟨?_, held.requests, held.served, ?_⟩
      · rw [List.append_assoc, List.singleton_append, ← waiting, held.flow]
      · intro d entry found
        rw [PendingMap.lookup_triggers] at found
        cases triggered : (dag.dependents event.name).reverse.find? fun dep => dep.name = d with
        | some dep =>
            rw [triggered] at found
            obtain rfl := Option.some.inj found
            exact le_rfl
        | none =>
            rw [triggered] at found
            exact held.triggerAt d entry (PendingMap.lookup_clear.mp found).1
  | @timer _ fireAt sent next expired answer =>
      refine ⟨held.flow, ?_, ?_, ?_⟩
      · rw [List.map_append]
        refine List.Nodup.append held.requests ?_ ?_
        · exact (answer.map _).nodup_iff.mpr (PendingMap.due_nodup _)
        · intro d queued fired
          obtain ⟨request, member, rfl⟩ := List.mem_map.mp fired
          exact (allowed.2 request member).1 queued
      · intro d serves queued
        simp only [Queued, List.map_append, List.mem_append] at queued
        rcases queued with earlier | fired
        · exact held.served d serves earlier
        · obtain ⟨request, member, rfl⟩ := List.mem_map.mp fired
          exact (allowed.2 request member).2.1 serves
      · intro d entry found
        rw [PendingMap.lookup_eraseAll] at found
        split at found
        · cases found
        · exact held.triggerAt d entry found
  | @receive _ request rest idle waiting =>
      have unique := held.requests
      rw [waiting, List.map_cons, List.nodup_cons] at unique
      refine ⟨held.flow, unique.2, ?_, held.triggerAt⟩
      rintro d (same | building) queued
      · cases same
        exact unique.1 queued
      · cases building
  | tick idle => exact allowed.1.elim
  | @coalesce _ name cascade phase trying taken =>
      have building := serial.owner name phase taken
      rw [trying] at building
      cases building
  | @enter _ name cascade trying free =>
      refine ⟨held.flow, held.requests, ?_, held.triggerAt⟩
      rintro d (same | building) queued
      · cases same
      · cases building
        exact held.served name (.inl trying) queued
  | giveUp trying => exact allowed.1.elim

/-- Every dependent of a processed publish is on its way to a rebuild, or has had one. -/
def Touched (dag : CascadeDag) (s : System) : Prop :=
  ∀ event ∈ s.processed, ∀ d, dag.Upstream event.name d →
    d ∈ s.pending ∨ s.Queued d ∨ s.Serves d ∨ s.HasPublished d

theorem touched_step (serial : s.Serial) (channels : s.Channels) (held : s.Touched dag)
    (internal : s.Internal action) (stepped : step dag action s = some t) : t.Touched dag := by
  cases step_moves stepped with
  | advance ticks => exact held
  | lock free => exact internal.elim
  | start locked => exact held
  | publish building =>
      intro event member d edge
      rcases held event member d edge with waiting | asked | serves | ⟨build, known, named⟩
      · exact .inl waiting
      · exact .inr (.inl asked)
      · exact .inr (.inr (.inl serves))
      · exact .inr (.inr (.inr ⟨build, List.mem_append_left _ known, named⟩))
  | @release _ name phase locked =>
      have loop := serial.owner name _ locked
      intro event member d edge
      rcases held event member d edge with waiting | asked | (trying | building) | published
      · exact .inl waiting
      · exact .inr (.inl asked)
      · rw [loop] at trying; cases trying
      · rw [loop] at building
        cases building
        exact .inr (.inr (.inr (serial.ended name internal)))
      · exact .inr (.inr (.inr published))
  | @processEvent _ event rest waiting =>
      intro earlier member d edge
      rcases List.mem_append.mp member with old | new
      · rcases held earlier old d edge with pending | asked | serves | published
        · rcases mem_processed dag event pending with stays | ⟨rfl, _⟩
          · exact .inl stays
          · refine .inr (.inr (.inr ⟨event, ?_, rfl⟩))
            show event ∈ s.published
            rw [← channels.flow, waiting]
            exact List.mem_append_right _ List.mem_cons_self
        · exact .inr (.inl asked)
        · exact .inr (.inr (.inl serves))
        · exact .inr (.inr (.inr published))
      · obtain rfl := List.mem_singleton.mp new
        exact .inl (mem_triggers edge)
  | @timer _ fireAt sent next expired answer =>
      intro event member d edge
      rcases held event member d edge with pending | asked | serves | published
      · by_cases fired : d ∈ sent.map (·.name)
        · refine .inr (.inl ?_)
          simp only [Queued, List.map_append]
          exact List.mem_append_right _ fired
        · left
          rw [← AList.lookup_isSome, PendingMap.lookup_eraseAll, if_neg fired]
          exact AList.lookup_isSome.mpr pending
      · refine .inr (.inl ?_)
        simp only [Queued, List.map_append]
        exact List.mem_append_left _ asked
      · exact .inr (.inr (.inl serves))
      · exact .inr (.inr (.inr published))
  | @receive _ request rest idle waiting =>
      intro event member d edge
      rcases held event member d edge with pending | asked | (trying | building) | published
      · exact .inl pending
      · simp only [Queued, waiting, List.map_cons, List.mem_cons] at asked
        rcases asked with rfl | later
        · exact .inr (.inr (.inl (.inl rfl)))
        · exact .inr (.inl later)
      · rw [idle] at trying; cases trying
      · rw [idle] at building; cases building
      · exact .inr (.inr (.inr published))
  | tick idle => exact internal.elim
  | @coalesce _ name cascade phase trying taken =>
      have building := serial.owner name phase taken
      rw [trying] at building
      cases building
  | @enter _ name cascade trying free =>
      intro event member d edge
      rcases held event member d edge with pending | asked | (same | building) | published
      · exact .inl pending
      · exact .inr (.inl asked)
      · rw [trying] at same
        cases same
        exact .inr (.inr (.inl (.inr rfl)))
      · rw [trying] at building; cases building
      · exact .inr (.inr (.inr published))
  | giveUp trying => exact internal.elim

/-- A build of `d` is running or has published. -/
def Begun (s : System) (d : String) : Prop :=
  (∃ start, s.locks.lookup d = some (.building start)) ∨ s.HasPublished d

/-- Nothing can ask for another build of `d`: what is upstream rests, no request for `d` is
left, and a pending entry is one its build covers. -/
structure Resting (dag : CascadeDag) (s : System) (d : String) : Prop where
  above : ∀ u, TransGen dag.Upstream u d → ¬ s.Active u
  unasked : ¬ s.Queued d
  idle : s.loop ≠ .trying d true
  past : s.locks.lookup d ≠ some .locked
  covered : ∀ entry, s.pending.lookup d = some entry → ∃ start, entry.triggerAt ≤ start ∧
    (s.locks.lookup d = some (.building start) ∨
      ∃ event ∈ s.events, event.name = d ∧ event.buildStart = start)

/-- No dataset is built twice. -/
structure Once (s : System) : Prop where
  publishes : ∀ d, (s.publishes d).length ≤ 1
  building : ∀ d start, s.locks.lookup d = some (.building start) → ¬ s.HasPublished d

/-- Rest above is not disturbed by a step that activates nothing new there. -/
theorem Resting.above_of {d : String} (rests : s.Resting dag d)
    (wakes : ∀ u, TransGen dag.Upstream u d → t.Active u → s.Active u) :
    ∀ u, TransGen dag.Upstream u d → ¬ t.Active u := by
  intro u path active
  exact rests.above u path (wakes u path active)

theorem publishes_eq_nil {d : String} (unpublished : ¬ s.HasPublished d) : s.publishes d = [] := by
  simp only [publishes, List.filter_eq_nil_iff, decide_eq_true_eq]
  intro build member named
  exact unpublished ⟨build, member, named⟩

theorem once_step (rests : ∀ d, s.Begun d → s.Resting dag d) (held : s.Once)
    (internal : s.Internal action) (stepped : step dag action s = some t) : t.Once := by
  cases step_moves stepped with
  | advance ticks => exact ⟨held.publishes, held.building⟩
  | lock free => exact internal.elim
  | @start _ name locked =>
      refine ⟨held.publishes, ?_⟩
      intro d start found
      by_cases same : d = name
      · subst same
        intro published
        exact (rests d (.inr published)).past locked
      · exact held.building d start (by rwa [AList.lookup_insert_ne same] at found)
  | @publish _ name buildStart building =>
      have fresh := held.building name buildStart building
      refine ⟨?_, ?_⟩
      · intro d
        by_cases same : name = d
        · subst same
          have none := publishes_eq_nil fresh
          simp only [publishes] at none ⊢
          simp [List.filter_append, none]
        · have kept := held.publishes d
          simp only [publishes] at kept ⊢
          simpa [List.filter_append, same] using kept
      · intro d start found
        by_cases same : d = name
        · subst same
          rw [AList.lookup_insert] at found
          cases found
        · rw [AList.lookup_insert_ne same] at found
          rintro ⟨build, member, named⟩
          rcases List.mem_append.mp member with old | new
          · exact held.building d start found ⟨build, old, named⟩
          · obtain rfl := List.mem_singleton.mp new
            exact same named.symm
  | @release _ name phase locked =>
      refine ⟨held.publishes, ?_⟩
      intro d start found
      by_cases same : d = name
      · subst same
        rw [AList.lookup_erase] at found
        cases found
      · exact held.building d start (by rwa [AList.lookup_erase_ne same] at found)
  | processEvent waiting => exact ⟨held.publishes, held.building⟩
  | timer next expired answer => exact ⟨held.publishes, held.building⟩
  | receive idle waiting => exact ⟨held.publishes, held.building⟩
  | tick idle => exact internal.elim
  | coalesce trying taken => exact ⟨held.publishes, held.building⟩
  | @enter _ name cascade trying free =>
      refine ⟨held.publishes, ?_⟩
      intro d start found
      by_cases same : d = name
      · subst same
        rw [AList.lookup_insert] at found
        cases found
      · exact held.building d start (by rwa [AList.lookup_insert_ne same] at found)
  | giveUp trying => exact internal.elim

theorem resting_step (serial : s.Serial) (channels : s.Channels)
    (held : ∀ d, s.Begun d → s.Resting dag d) (allowed : s.InOrder dag action)
    (stepped : step dag action s = some t) : ∀ d, t.Begun d → t.Resting dag d := by
  intro d begun
  cases step_moves stepped with
  | advance ticks =>
      have rests := held d begun
      exact ⟨rests.above, rests.unasked, rests.idle, rests.past, rests.covered⟩
  | lock free => exact allowed.1.elim
  | @start _ name locked =>
      by_cases same : d = name
      · -- The build that starts here: the condition on the step puts everything above to rest.
        subst same
        have loop := serial.owner d _ locked
        refine ⟨allowed.2, channels.served d (.inr loop), ?_, ?_, ?_⟩
        · intro trying; rw [loop] at trying; cases trying
        · simp [AList.lookup_insert]
        · intro entry found
          exact ⟨s.now, channels.triggerAt d entry found, .inl (AList.lookup_insert _)⟩
      · have before : s.Begun d := by
          rcases begun with ⟨start, found⟩ | published
          · exact .inl ⟨start, by rwa [AList.lookup_insert_ne same] at found⟩
          · exact .inr published
        have rests := held d before
        refine ⟨rests.above, rests.unasked, rests.idle, ?_, ?_⟩
        · rw [AList.lookup_insert_ne same]; exact rests.past
        · intro entry found
          obtain ⟨start, covers, source⟩ := rests.covered entry found
          exact ⟨start, covers, by rwa [AList.lookup_insert_ne same]⟩
  | @publish _ name buildStart building =>
      have loop := serial.owner name _ building
      have before : s.Begun d := by
        rcases begun with ⟨start, found⟩ | ⟨build, member, named⟩
        · by_cases same : d = name
          · subst same; exact .inl ⟨_, building⟩
          · exact .inl ⟨start, by rwa [AList.lookup_insert_ne same] at found⟩
        · rcases List.mem_append.mp member with old | new
          · exact .inr ⟨build, old, named⟩
          · obtain rfl := List.mem_singleton.mp new
            obtain rfl := named
            exact .inl ⟨_, building⟩
      have rests := held d before
      refine ⟨rests.above_of ?_, rests.unasked, rests.idle, ?_, ?_⟩
      · intro u path active
        rcases active with waiting | asked | serves | ⟨event, member, named⟩
        · exact .inl waiting
        · exact .inr (.inl asked)
        · exact .inr (.inr (.inl serves))
        · rcases List.mem_append.mp member with old | new
          · exact .inr (.inr (.inr ⟨event, old, named⟩))
          · obtain rfl := List.mem_singleton.mp new
            obtain rfl := named
            exact .inr (.inr (.inl (.inr loop)))
      · by_cases same : d = name
        · subst same; simp [AList.lookup_insert]
        · rw [AList.lookup_insert_ne same]; exact rests.past
      · intro entry found
        obtain ⟨start, covers, source⟩ := rests.covered entry found
        refine ⟨start, covers, ?_⟩
        rcases source with taken | ⟨event, member, known⟩
        · by_cases same : d = name
          · subst same
            rw [building] at taken
            cases taken
            exact .inr ⟨_, List.mem_append_right _ (List.mem_singleton.mpr rfl), rfl, rfl⟩
          · exact .inl (by rwa [AList.lookup_insert_ne same])
        · exact .inr ⟨event, List.mem_append_left _ member, known⟩
  | @release _ name phase locked =>
      have loop := serial.owner name _ locked
      have before : s.Begun d := by
        rcases begun with ⟨start, found⟩ | published
        · by_cases same : d = name
          · subst same
            rw [AList.lookup_erase] at found
            cases found
          · exact .inl ⟨start, by rwa [AList.lookup_erase_ne same] at found⟩
        · exact .inr published
      have rests := held d before
      refine ⟨rests.above_of ?_, rests.unasked, ?_, ?_, ?_⟩
      · intro u path active
        rcases active with waiting | asked | serves | sent
        · exact .inl waiting
        · exact .inr (.inl asked)
        · simp [Serves, loop, Loop.leave] at serves
        · exact .inr (.inr (.inr sent))
      · simp [loop, Loop.leave]
      · by_cases same : d = name
        · subst same; simp [AList.lookup_erase]
        · rw [AList.lookup_erase_ne same]; exact rests.past
      · intro entry found
        obtain ⟨start, covers, source⟩ := rests.covered entry found
        refine ⟨start, covers, ?_⟩
        rcases source with taken | sent
        · by_cases same : d = name
          · subst same
            rw [show s.locks.lookup d = some .published from allowed.1] at taken
            cases taken
          · exact .inl (by rwa [AList.lookup_erase_ne same])
        · exact .inr sent
  | @processEvent _ event rest waiting =>
      have rests := held d begun
      have active : s.Active event.name :=
        .inr (.inr (.inr ⟨event, waiting ▸ List.mem_cons_self, rfl⟩))
      refine ⟨rests.above_of ?_, rests.unasked, rests.idle, rests.past, ?_⟩
      · intro u path awake
        rcases awake with pending | asked | serves | ⟨later, member, named⟩
        · by_cases edge : dag.Upstream event.name u
          · exact absurd active (rests.above _ (.head edge path))
          · left
            rw [← AList.lookup_isSome, PendingMap.lookup_triggers] at pending
            have missing : ((dag.dependents event.name).reverse.find? fun dep => dep.name = u) =
                none := by
              rw [List.find?_eq_none]
              intro dep inside named
              apply edge
              exact List.mem_map.mpr ⟨dep, List.mem_reverse.mp inside, by simpa using named⟩
            rw [missing] at pending
            obtain ⟨entry, found⟩ := Option.isSome_iff_exists.mp pending
            exact AList.lookup_isSome.mp
              (Option.isSome_iff_exists.mpr ⟨entry, (PendingMap.lookup_clear.mp found).1⟩)
        · exact .inr (.inl asked)
        · exact .inr (.inr (.inl serves))
        · refine .inr (.inr (.inr ⟨later, ?_, named⟩))
          rw [waiting]
          exact List.mem_cons_of_mem _ member
      · intro entry found
        rw [PendingMap.lookup_triggers] at found
        cases triggered : (dag.dependents event.name).reverse.find? fun dep => dep.name = d with
        | some dep =>
            have edge : dag.Upstream event.name d := List.mem_map.mpr
              ⟨dep, List.mem_reverse.mp (List.mem_of_find?_eq_some triggered),
                by simpa using List.find?_some triggered⟩
            exact absurd active (rests.above _ (.single edge))
        | none =>
            rw [triggered] at found
            obtain ⟨old, uncovered⟩ := PendingMap.lookup_clear.mp found
            obtain ⟨start, covers, source⟩ := rests.covered entry old
            refine ⟨start, covers, ?_⟩
            rcases source with taken | ⟨sent, member, named, since⟩
            · exact .inl taken
            · rw [waiting] at member
              rcases List.mem_cons.mp member with rfl | later
              · have := uncovered named.symm
                omega
              · exact .inr ⟨sent, later, named, since⟩
  | @timer _ fireAt sent next expired answer =>
      have rests := held d begun
      have unfired : d ∉ sent.map (·.name) := by
        intro fired
        obtain ⟨request, member, rfl⟩ := List.mem_map.mp fired
        obtain ⟨entry, found, _⟩ := PendingMap.mem_due.mp (answer.mem_iff.mp member)
        obtain ⟨unasked, unserved, unsent⟩ := allowed.2 request member
        obtain ⟨start, _, taken | ⟨event, known, named, _⟩⟩ := rests.covered entry found
        · exact unserved (.inr (serial.owner _ _ taken))
        · exact unsent event known named
      refine ⟨rests.above_of ?_, ?_, rests.idle, rests.past, ?_⟩
      · intro u path awake
        rcases awake with pending | asked | serves | events
        · rw [← AList.lookup_isSome, PendingMap.lookup_eraseAll] at pending
          split at pending
          · cases pending
          · exact .inl (AList.lookup_isSome.mp pending)
        · simp only [Queued, List.map_append, List.mem_append] at asked
          rcases asked with earlier | fired
          · exact .inr (.inl earlier)
          · obtain ⟨request, member, rfl⟩ := List.mem_map.mp fired
            obtain ⟨entry, found, _⟩ := PendingMap.mem_due.mp (answer.mem_iff.mp member)
            exact .inl (AList.lookup_isSome.mp (Option.isSome_iff_exists.mpr ⟨entry, found⟩))
        · exact .inr (.inr (.inl serves))
        · exact .inr (.inr (.inr events))
      · simp only [Queued, List.map_append, List.mem_append, not_or]
        exact ⟨rests.unasked, unfired⟩
      · intro entry found
        rw [PendingMap.lookup_eraseAll, if_neg unfired] at found
        exact rests.covered entry found
  | @receive _ request rest idle waiting =>
      have rests := held d begun
      have asked : s.Queued request.name := by simp [Queued, waiting]
      refine ⟨rests.above_of ?_, ?_, ?_, rests.past, rests.covered⟩
      · intro u path awake
        rcases awake with pending | later | (same | building) | events
        · exact .inl pending
        · refine .inr (.inl ?_)
          simp only [Queued, waiting, List.map_cons]
          exact List.mem_cons_of_mem _ later
        · cases same
          exact .inr (.inl asked)
        · cases building
        · exact .inr (.inr (.inr events))
      · intro later
        apply rests.unasked
        simp only [Queued, waiting, List.map_cons]
        exact List.mem_cons_of_mem _ later
      · intro same
        cases same
        exact rests.unasked asked
  | tick idle => exact allowed.1.elim
  | @coalesce _ name cascade phase trying taken =>
      have building := serial.owner name phase taken
      rw [trying] at building
      cases building
  | @enter _ name cascade trying free =>
      have asked : cascade = true := by
        cases cascade with
        | true => rfl
        | false => exact absurd trying (serial.cascade name)
      subst asked
      have before : s.Begun d := by
        rcases begun with ⟨start, found⟩ | published
        · by_cases same : d = name
          · subst same
            rw [AList.lookup_insert] at found
            cases found
          · exact .inl ⟨start, by rwa [AList.lookup_insert_ne same] at found⟩
        · exact .inr published
      have rests := held d before
      have other : d ≠ name := by
        rintro rfl
        exact rests.idle trying
      refine ⟨rests.above_of ?_, rests.unasked, ?_, ?_, ?_⟩
      · intro u path awake
        rcases awake with pending | asked | (same | building) | events
        · exact .inl pending
        · exact .inr (.inl asked)
        · cases same
        · cases building
          exact .inr (.inr (.inl (.inl trying)))
        · exact .inr (.inr (.inr events))
      · intro same; cases same
      · rw [AList.lookup_insert_ne other]; exact rests.past
      · intro entry found
        obtain ⟨start, covers, source⟩ := rests.covered entry found
        exact ⟨start, covers, by rwa [AList.lookup_insert_ne other]⟩
  | giveUp trying => exact allowed.1.elim

/-- Only the names of the graph are asked for, and only they and the root publish. -/
structure Known (dag : CascadeDag) (root : String) (s : System) : Prop where
  asked : ∀ d, d ∈ s.pending ∨ s.Queued d ∨ s.Serves d → d ∈ dag.names
  published : ∀ build ∈ s.published, build.name ∈ root :: dag.names

theorem upstream_names {u d : String} (edge : dag.Upstream u d) : d ∈ dag.names := by
  obtain ⟨dep, inside, rfl⟩ := List.mem_map.mp edge
  unfold CascadeDag.dependents at inside
  cases found : dag.lookup u with
  | none => simp [found] at inside
  | some deps =>
      rw [found] at inside
      exact List.mem_flatMap.mpr
        ⟨⟨u, deps⟩, AList.mem_lookup_iff.mp found, List.mem_map.mpr ⟨dep, inside, rfl⟩⟩

theorem known_step {root : String} (serial : s.Serial) (held : s.Known dag root)
    (internal : s.Internal action) (stepped : step dag action s = some t) : t.Known dag root := by
  cases step_moves stepped with
  | advance ticks => exact ⟨held.asked, held.published⟩
  | lock free => exact internal.elim
  | start locked => exact ⟨held.asked, held.published⟩
  | @publish _ name buildStart building =>
      refine ⟨held.asked, ?_⟩
      intro build member
      rcases List.mem_append.mp member with old | new
      · exact held.published build old
      · obtain rfl := List.mem_singleton.mp new
        have serves := serial.owner name _ building
        exact List.mem_cons_of_mem _ (held.asked name (.inr (.inr (.inr serves))))
  | @release _ name phase locked =>
      have loop := serial.owner name _ locked
      refine ⟨?_, held.published⟩
      rintro d (waiting | asked | serves)
      · exact held.asked d (.inl waiting)
      · exact held.asked d (.inr (.inl asked))
      · simp [Serves, loop, Loop.leave] at serves
  | @processEvent _ event rest waiting =>
      refine ⟨?_, held.published⟩
      rintro d (pending | asked | serves)
      · by_cases edge : dag.Upstream event.name d
        · exact upstream_names edge
        · rw [← AList.lookup_isSome, PendingMap.lookup_triggers] at pending
          have missing : ((dag.dependents event.name).reverse.find? fun dep => dep.name = d) =
              none := by
            rw [List.find?_eq_none]
            intro dep inside named
            apply edge
            exact List.mem_map.mpr ⟨dep, List.mem_reverse.mp inside, by simpa using named⟩
          rw [missing] at pending
          obtain ⟨entry, found⟩ := Option.isSome_iff_exists.mp pending
          refine held.asked d (.inl (AList.lookup_isSome.mp ?_))
          exact Option.isSome_iff_exists.mpr ⟨entry, (PendingMap.lookup_clear.mp found).1⟩
      · exact held.asked d (.inr (.inl asked))
      · exact held.asked d (.inr (.inr serves))
  | @timer _ fireAt sent next expired answer =>
      refine ⟨?_, held.published⟩
      rintro d (pending | asked | serves)
      · rw [← AList.lookup_isSome, PendingMap.lookup_eraseAll] at pending
        split at pending
        · cases pending
        · exact held.asked d (.inl (AList.lookup_isSome.mp pending))
      · simp only [Queued, List.map_append, List.mem_append] at asked
        rcases asked with earlier | fired
        · exact held.asked d (.inr (.inl earlier))
        · obtain ⟨request, member, rfl⟩ := List.mem_map.mp fired
          obtain ⟨entry, found, _⟩ := PendingMap.mem_due.mp (answer.mem_iff.mp member)
          exact held.asked _ (.inl (AList.lookup_isSome.mp
            (Option.isSome_iff_exists.mpr ⟨entry, found⟩)))
      · exact held.asked d (.inr (.inr serves))
  | @receive _ request rest idle waiting =>
      refine ⟨?_, held.published⟩
      rintro d (pending | later | (same | building))
      · exact held.asked d (.inl pending)
      · refine held.asked d (.inr (.inl ?_))
        simp only [Queued, waiting, List.map_cons]
        exact List.mem_cons_of_mem _ later
      · cases same
        exact held.asked _ (.inr (.inl (by simp [Queued, waiting])))
      · cases building
  | tick idle => exact internal.elim
  | coalesce trying taken =>
      refine ⟨?_, held.published⟩
      rintro d (pending | asked | (same | building))
      · exact held.asked d (.inl pending)
      · exact held.asked d (.inr (.inl asked))
      · cases same
      · cases building
  | @enter _ name cascade trying free =>
      refine ⟨?_, held.published⟩
      rintro d (pending | asked | (same | building))
      · exact held.asked d (.inl pending)
      · exact held.asked d (.inr (.inl asked))
      · cases same
      · cases building
        exact held.asked name (.inr (.inr (.inl trying)))
  | giveUp trying => exact internal.elim

/-- Everything that holds throughout a wave in order. -/
structure Wave (dag : CascadeDag) (root : Publish) (s : System) : Prop where
  serial : s.Serial
  channels : s.Channels
  touched : s.Touched dag
  once : s.Once
  rests : ∀ d, s.Begun d → s.Resting dag d
  known : s.Known dag root.name
  rooted : root ∈ s.published

theorem wave_initial (acyclic : dag.Acyclic) (now : Nat) (root : Publish) :
    (wave now root).Wave dag root where
  serial := by
    constructor
    · intro d phase found; cases found
    · intro d cascade building; cases building
    · intro d trying; cases trying
    · intro d found; cases found
  channels := by
    constructor
    · rfl
    · exact List.nodup_nil
    · intro d _ queued; cases queued
    · intro d entry found; cases found
  touched := by intro event member; cases member
  once := by
    constructor
    · intro d; exact List.length_filter_le _ [root]
    · intro d start found; cases found
  rests := by
    rintro d (⟨start, found⟩ | ⟨build, member, rfl⟩)
    · cases found
    · obtain rfl := List.mem_singleton.mp member
      refine ⟨?_, ?_, ?_, ?_, ?_⟩
      · intro u path active
        rcases active with pending | queued | (trying | building) | ⟨event, sent, rfl⟩
        · cases pending
        · cases queued
        · cases trying
        · cases building
        · obtain rfl := List.mem_singleton.mp sent
          exact acyclic _ path
      · intro queued; cases queued
      · intro trying; cases trying
      · intro found; cases found
      · intro entry found; cases found
  known := by
    constructor
    · rintro d (pending | queued | (trying | building))
      · cases pending
      · cases queued
      · cases trying
      · cases building
    · intro build member
      obtain rfl := List.mem_singleton.mp member
      exact List.mem_cons_self
  rooted := List.mem_singleton.mpr rfl

theorem published_mono (stepped : step dag action s = some t) {build : Publish}
    (member : build ∈ s.published) : build ∈ t.published := by
  cases step_moves stepped with
  | publish building => exact List.mem_append_left _ member
  | _ => exact member

theorem wave_step {root : Publish} (held : s.Wave dag root) (allowed : s.InOrder dag action)
    (stepped : step dag action s = some t) : t.Wave dag root where
  serial := serial_step held.serial allowed.1 stepped
  channels := channels_step held.serial held.channels allowed stepped
  touched := touched_step held.serial held.channels held.touched allowed.1 stepped
  once := once_step held.rests held.once allowed.1 stepped
  rests := resting_step held.serial held.channels held.rests allowed stepped
  known := known_step held.serial held.known allowed.1 stepped
  rooted := published_mono stepped held.rooted

theorem wave_run (acyclic : dag.Acyclic) {now : Nat} {root : Publish} {actions : List Action}
    (run : Run (step dag) (InOrder dag) (wave now root) actions s) : s.Wave dag root :=
  run.keeps (P := fun t => t.Wave dag root) (wave_initial acyclic now root)
    fun held allowed stepped => wave_step held allowed stepped

/-- Along a path from the root, everything that rests has published. -/
theorem published_along {root : Publish} (held : s.Wave dag root) {u : String}
    (path : ReflTransGen dag.Upstream root.name u)
    (rests : ∀ v, ReflTransGen dag.Upstream root.name v → ReflTransGen dag.Upstream v u →
      ¬ s.Active v) : s.HasPublished u := by
  induction path with
  | refl => exact ⟨root, held.rooted, rfl⟩
  | @tail v w early edge ih =>
      obtain ⟨build, member, named⟩ := ih fun x start rest => rests x start (rest.tail edge)
      have quiet := rests v early (.single edge)
      have processed : build ∈ s.processed := by
        have delivered := member
        rw [← held.channels.flow] at delivered
        rcases List.mem_append.mp delivered with done | waiting
        · exact done
        · exact absurd (.inr (.inr (.inr ⟨build, waiting, named⟩))) quiet
      have still := rests w (early.tail edge) .refl
      rcases held.touched build processed w (named ▸ edge) with
        pending | asked | serves | published
      · exact absurd (.inl pending) still
      · exact absurd (.inr (.inl asked)) still
      · exact absurd (.inr (.inr (.inl serves))) still
      · exact published

theorem Complete.inactive (complete : s.Complete) (d : String) : ¬ s.Active d := by
  obtain ⟨events, pending, requests, loop⟩ := complete
  rintro (waiting | asked | (trying | building) | ⟨event, member, _⟩)
  · rw [pending] at waiting; cases waiting
  · simp [Queued, requests] at asked
  · rw [loop] at trying; cases trying
  · rw [loop] at building; cases building
  · rw [events] at member; cases member

/-- How far the loop is with its current request; after a publish the count of publishes
takes over. -/
def stage (s : System) : Nat :=
  match s.loop with
  | .idle => 1
  | .trying _ _ => 3
  | .building d _ =>
    match s.locks.lookup d with
    | some .locked => 4
    | some (.building _) => 5
    | _ => 0

/-- What every step but the passing of time makes larger. -/
def progress (s : System) : Nat :=
  s.processed.length + 6 * s.published.length + s.requests.length + s.stage

theorem due_ne_nil {pending : PendingMap} {fireAt now : Nat}
    (next : pending.nextFire = some fireAt) (expired : fireAt ≤ now) : pending.due now ≠ [] := by
  obtain ⟨entry, member, rfl⟩ := List.mem_map.mp (List.min?_mem next)
  intro empty
  have asked : (⟨entry.1, entry.2.timeout⟩ : CascadeRequest) ∈ pending.due now :=
    List.mem_map.mpr ⟨entry, List.mem_filter.mpr ⟨member, by simpa using expired⟩, rfl⟩
  rw [empty] at asked
  cases asked

theorem progress_step (serial : s.Serial) (internal : s.Internal action)
    (stepped : step dag action s = some t) :
    s.progress + (work [action]).length ≤ t.progress := by
  cases step_moves stepped with
  | advance ticks => exact le_rfl
  | lock free => exact internal.elim
  | @start _ name locked =>
      have loop := serial.owner name _ locked
      simp [progress, stage, work, loop, locked]
  | @publish _ name buildStart building =>
      have loop := serial.owner name _ building
      simp only [progress, stage, work, loop, building, AList.lookup_insert, List.length_append,
        List.length_singleton, Bool.not_false, List.filter_cons_of_pos, List.filter_nil]
      omega
  | @release _ name phase locked =>
      have loop := serial.owner name _ locked
      have ended : s.locks.lookup name = some .published := internal
      simp [progress, stage, work, loop, ended, Loop.leave]
  | processEvent waiting =>
      simp only [progress, stage, work, List.length_append, List.length_singleton, Bool.not_false,
        List.filter_cons_of_pos, List.filter_nil]
      omega
  | @timer _ fireAt sent next expired answer =>
      have some : 0 < sent.length := by
        rw [answer.length_eq]
        exact List.length_pos_of_ne_nil (due_ne_nil next expired)
      simp only [progress, stage, work, List.length_append, List.length_singleton, Bool.not_false,
        List.filter_cons_of_pos, List.filter_nil]
      omega
  | receive idle waiting =>
      simp only [progress, stage, work, idle, waiting, List.length_cons, List.length_nil,
        Bool.not_false, List.filter_cons_of_pos, List.filter_nil]
      omega
  | tick idle => exact internal.elim
  | @coalesce _ name cascade phase trying taken =>
      have building := serial.owner name phase taken
      rw [trying] at building
      cases building
  | enter trying free => simp [progress, stage, work, trying]
  | giveUp trying => exact internal.elim

theorem progress_le {root : Publish} (held : s.Wave dag root) :
    s.progress ≤ 8 * dag.names.length + 12 := by
  have requests : s.requests.length ≤ dag.names.length := by
    have inside : s.requests.map (·.name) ⊆ dag.names := fun d asked =>
      held.known.asked d (.inr (.inl asked))
    simpa only [List.length_map] using
      (List.subperm_of_subset held.channels.requests inside).length_le
  have published : s.published.length ≤ dag.names.length + 1 := by
    have unique : (s.published.map (·.name)).Nodup := by
      rw [List.nodup_iff_count_le_one]
      intro d
      have small := held.once.publishes d
      rw [List.count, List.countP_map, List.countP_eq_length_filter]
      simpa only [publishes, Function.comp_def, beq_eq_decide] using small
    have inside : s.published.map (·.name) ⊆ root.name :: dag.names := by
      intro d member
      obtain ⟨build, known, rfl⟩ := List.mem_map.mp member
      exact held.known.published build known
    simpa only [List.length_map, List.length_cons] using
      (List.subperm_of_subset unique inside).length_le
  have processed : s.processed.length ≤ s.published.length := by
    rw [← held.channels.flow, List.length_append]
    omega
  have stage : s.stage ≤ 5 := by
    unfold System.stage
    split
    · omega
    · omega
    · split <;> omega
  unfold progress
  omega

theorem work_bounded (acyclic : dag.Acyclic) {now : Nat} {root : Publish} {actions : List Action}
    (run : Run (step dag) (InOrder dag) (wave now root) actions s) :
    (work actions).length ≤ 8 * dag.names.length + 5 := by
  have counted : 7 + (work actions).length ≤ s.progress ∧ s.Wave dag root := by
    refine run.invariant (P := fun done t => 7 + (work done).length ≤ t.progress ∧ t.Wave dag root)
      ⟨?_, wave_initial acyclic now root⟩ ?_
    · exact le_rfl
    · intro before t action u held allowed stepped
      have more := progress_step held.2.serial allowed.1 stepped
      refine ⟨?_, wave_step held.2 allowed stepped⟩
      simp only [work, List.filter_append, List.length_append] at more held ⊢
      omega
  have bound := progress_le counted.2
  omega

/-- A wave that is not over can go on, if need be after some time. -/
theorem can_go_on (serial : s.Serial) (unfinished : ¬ s.Complete) :
    ∃ ticks action, ({ s with now := s.now + ticks } : System).Internal action ∧
      work [action] ≠ [] ∧ (step dag action { s with now := s.now + ticks }).isSome := by
  cases loop : s.loop with
  | trying name cascade =>
      refine ⟨0, .tryReload, trivial, by simp [work], ?_⟩
      simp only [step]
      cases s.locks.lookup name with
      | some phase => rfl
      | none => rfl
  | building name cascade =>
      obtain ⟨phase, taken⟩ := serial.held name cascade loop
      cases phase with
      | locked => exact ⟨0, .start name, trivial, by simp [work], by simp [step, taken]⟩
      | building start => exact ⟨0, .publish name, trivial, by simp [work], by simp [step, taken]⟩
      | published => exact ⟨0, .release name, taken, by simp [work], by simp [step, taken]⟩
  | idle =>
      cases events : s.events with
      | cons event rest => exact ⟨0, .processEvent, trivial, by simp [work], rfl⟩
      | nil =>
          cases requests : s.requests with
          | cons request rest => exact ⟨0, .receive, trivial, by simp [work], rfl⟩
          | nil =>
              have waiting : s.pending.entries ≠ [] := by
                intro empty
                exact unfinished ⟨events, AList.ext empty, requests, loop⟩
              have least : s.pending.nextFire ≠ none := by
                simpa [PendingMap.nextFire] using waiting
              obtain ⟨fireAt, next⟩ := Option.ne_none_iff_exists'.mp least
              refine ⟨fireAt, .timer (s.pending.due (s.now + fireAt)), trivial, by simp [work], ?_⟩
              simp [step, cascadeEngine, next]

/-- Where the ranks rise along the edges they rise along the paths. -/
theorem rank_lt {rank : String → Nat}
    (rises : ∀ entry ∈ dag.entries, ∀ dep ∈ entry.2, rank entry.1 < rank dep.name)
    {u d : String} (path : TransGen dag.Upstream u d) : rank u < rank d := by
  have edges : ∀ u d, dag.Upstream u d → rank u < rank d := by
    intro u d edge
    obtain ⟨dep, inside, rfl⟩ := List.mem_map.mp edge
    unfold CascadeDag.dependents at inside
    cases found : dag.lookup u with
    | none => simp [found] at inside
    | some deps =>
        rw [found] at inside
        exact rises ⟨u, deps⟩ (AList.mem_lookup_iff.mp found) dep inside
  induction path with
  | single edge => exact edges _ _ edge
  | tail _ edge ih => exact ih.trans (edges _ _ edge)

theorem acyclic_of_rank (rank : String → Nat)
    (rises : ∀ entry ∈ dag.entries, ∀ dep ∈ entry.2, rank entry.1 < rank dep.name) :
    dag.Acyclic :=
  fun _ cycle => lt_irrefl _ (rank_lt rises cycle)

theorem Active.mem_activeNames {d : String} (active : s.Active d) : d ∈ s.activeNames := by
  unfold activeNames
  rcases active with waiting | asked | (trying | building) | ⟨event, member, named⟩
  · simp [AList.mem_keys.mp waiting]
  · have : d ∈ s.requests.map (·.name) := asked
    simp only [List.mem_append]
    exact .inl (.inl (.inr this))
  · simp [trying]
  · simp [building]
  · have : d ∈ s.events.map (·.name) := List.mem_map.mpr ⟨event, member, named⟩
    simp only [List.mem_append]
    exact .inl (.inr this)

theorem Ranked.settled {rank : String → Nat}
    (rises : ∀ entry ∈ dag.entries, ∀ dep ∈ entry.2, rank entry.1 < rank dep.name)
    (ranked : s.Ranked rank action) : s.Settled dag action := by
  cases action with
  | start d =>
      intro u path active
      exact absurd (rank_lt rises path) (Nat.not_lt.mpr (ranked u active.mem_activeNames))
  | timer sent => exact ranked
  | _ => trivial

/-- A wave in which every build waits for what is upstream of it: a build starts after its
rebuilt dependencies have published, nothing is published twice, and when the wave is over
every transitive dependent has been rebuilt exactly once. The wave is over after a bounded
number of steps, and until then it can go on. -/
theorem wave_order (dag : CascadeDag) (acyclic : dag.Acyclic) (now : Nat) (root : Publish)
    (actions : List Action) (s : System)
    (run : Run (step dag) (InOrder dag) (wave now root) actions s) :
    (∀ before d after t, actions = before ++ .start d :: after →
      Run (step dag) (InOrder dag) (wave now root) before t → ∀ u, dag.Upstream u d →
      ReflTransGen dag.Upstream root.name u → t.HasPublished u) ∧
    (∀ d, (s.publishes d).length ≤ 1) ∧
    (s.Complete → ∀ d, TransGen dag.Upstream root.name d → (s.publishes d).length = 1) ∧
    (work actions).length ≤ 8 * dag.names.length + 5 ∧
    (¬ s.Complete → ∃ ticks action, ({ s with now := s.now + ticks } : System).Internal action ∧
      work [action] ≠ [] ∧ (step dag action { s with now := s.now + ticks }).isSome) := by
  have held := wave_run acyclic run
  refine ⟨?_, held.once.publishes, ?_, work_bounded acyclic run, can_go_on held.serial⟩
  · intro before d after t whole reached u edge path
    subst whole
    obtain ⟨middle, early, late⟩ := run.split
    obtain rfl := early.unique reached
    rw [← List.singleton_append] at late
    obtain ⟨next, first, _⟩ := late.split
    have single : Run (step dag) (InOrder dag) middle ([] ++ [.start d]) next := first
    obtain ⟨start, none, allowed, _⟩ := single.last
    cases none.unique (.nil _)
    refine published_along (wave_run acyclic reached) path ?_
    intro v _ rest
    exact allowed.2 v (TransGen.tail' rest edge)
  · intro complete d path
    obtain ⟨build, member, named⟩ :=
      published_along held path.to_reflTransGen fun v _ _ => complete.inactive v
    have found : build ∈ s.publishes d := List.mem_filter.mpr ⟨member, by simpa using named⟩
    have small := held.once.publishes d
    have some := List.length_pos_of_mem found
    omega

/-- Two paths from `a` to `d`, whose debounce outlasts the rebuild of `b`. -/
def diamond : CascadeDag :=
  AList.insert "b" [⟨"d", 200, 9⟩] (AList.insert "a" [⟨"b", 50, 9⟩, ⟨"d", 200, 9⟩] ∅)

/-- Both dependents are rebuilt once. -/
theorem wave_order_diamond : ∃ s : System,
    Run (step diamond) Anything (wave 0 ⟨"a", 0, 0⟩)
      [.processEvent, .advance 50, .timer [⟨"b", 9⟩], .receive, .tryReload, .start "b",
        .publish "b", .release "b", .processEvent, .advance 200, .timer [⟨"d", 9⟩], .receive,
        .tryReload, .start "d", .publish "d", .release "d", .processEvent] s ∧
      (s.publishes "b").length = 1 ∧ (s.publishes "d").length = 1 := by
  let rank (name : String) : Nat := if name = "a" then 0 else if name = "b" then 1 else 2
  have rises : ∀ entry ∈ diamond.entries, ∀ dep ∈ entry.2, rank entry.1 < rank dep.name := by decide
  have run : Run (step diamond) (fun s action => s.Internal action ∧ s.Ranked rank action)
      (wave 0 ⟨"a", 0, 0⟩)
      [.processEvent, .advance 50, .timer [⟨"b", 9⟩], .receive, .tryReload, .start "b",
        .publish "b", .release "b", .processEvent, .advance 200, .timer [⟨"d", 9⟩], .receive,
        .tryReload, .start "d", .publish "d", .release "d", .processEvent] _ :=
    Machine.run_of_exec rfl
  obtain ⟨_, _, rebuilt, _⟩ := wave_order diamond (acyclic_of_rank rank rises) 0 ⟨"a", 0, 0⟩ _ _
    (run.weaken fun _ _ both => ⟨both.1, both.2.settled rises⟩)
  refine ⟨_, run.weaken fun _ _ _ => trivial, ?_, ?_⟩
  · exact rebuilt ⟨rfl, rfl, rfl, rfl⟩ "b" (.single (List.mem_map.mpr ⟨⟨"b", 50, 9⟩, by decide, rfl⟩))
  · exact rebuilt ⟨rfl, rfl, rfl, rfl⟩ "d" (.single (List.mem_map.mpr ⟨⟨"d", 200, 9⟩, by decide, rfl⟩))

/-- Two paths of different length from `a` to `d`: the short one expires first, so `d` is
rebuilt before its dependency `b` and once more after it. -/
theorem wave_rebuilds_twice : ¬ ∀ (dag : CascadeDag) (now : Nat) (root : Publish)
    (actions : List Action) (s : System), dag.Acyclic →
    Run (step dag) Internal (wave now root) actions s → s.Complete →
    ∀ d, TransGen dag.Upstream root.name d → (s.publishes d).length = 1 := by
  intro once
  have run : Run (step (AList.insert "b" [⟨"d", 50, 9⟩]
        (AList.insert "a" [⟨"b", 100, 9⟩, ⟨"d", 50, 9⟩] ∅))) Internal (wave 0 ⟨"a", 0, 0⟩)
      [.processEvent, .advance 50, .timer [⟨"d", 9⟩], .receive, .tryReload, .start "d",
        .publish "d", .release "d", .processEvent, .advance 50, .timer [⟨"b", 9⟩], .receive,
        .tryReload, .start "b", .publish "b", .release "b", .processEvent, .advance 50,
        .timer [⟨"d", 9⟩], .receive, .tryReload, .start "d", .publish "d", .release "d",
        .processEvent] _ := Machine.run_of_exec rfl
  have acyclic : CascadeDag.Acyclic (AList.insert "b" [⟨"d", 50, 9⟩]
      (AList.insert "a" [⟨"b", 100, 9⟩, ⟨"d", 50, 9⟩] ∅)) :=
    acyclic_of_rank (fun name => if name = "a" then 0 else if name = "b" then 1 else 2) (by decide)
  have single := once _ 0 _ _ _ acyclic run ⟨rfl, rfl, rfl, rfl⟩ "d"
    (.single (List.mem_map.mpr ⟨⟨"d", 50, 9⟩, by decide, rfl⟩))
  exact absurd single (by decide)

end System
end Datapress.Refresh
