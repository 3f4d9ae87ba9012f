import Datapress.Refresh.Scheduler
import Datapress.Refresh.CascadeProofs

/-! Lost cascades. A dependent stays owed a refresh, or has had one, in every state of a
run exactly when every dropped cascade request is dispensable at its drop. -/
namespace Datapress.Refresh
open Machine (Run Anything)

namespace System
variable {dag : CascadeDag}

/-- Everything a step can do, one rule for each outcome. -/
inductive Moves (dag : CascadeDag) : Action → System → System → Prop where
  | advance {s : System} (ticks) : Moves dag (.advance ticks) s { s with now := s.now + ticks }
  | lock {s : System} {name} : s.locks.lookup name = none →
      Moves dag (.lock name) s { s with locks := s.locks.insert name .locked }
  | start {s : System} {name} : s.locks.lookup name = some .locked →
      Moves dag (.start name) s { s with locks := s.locks.insert name (.building s.now) }
  | publish {s : System} {name buildStart} : s.locks.lookup name = some (.building buildStart) →
      Moves dag (.publish name) s { s with
        locks := s.locks.insert name .published
        events := s.events ++ [⟨name, buildStart, s.now⟩]
        published := s.published ++ [⟨name, buildStart, s.now⟩] }
  | release {s : System} {name phase} : s.locks.lookup name = some phase →
      Moves dag (.release name) s { s with
        locks := s.locks.erase name, loop := s.loop.leave name }
  | processEvent {s : System} {event rest} : s.events = event :: rest →
      Moves dag .processEvent s { s with
        events := rest
        pending := (dag.dependents event.name).foldl (PendingMap.trigger s.now)
          (s.pending.clear event.name event.buildStart)
        processed := s.processed ++ [event] }
  | timer {s : System} {fireAt sent} : s.pending.nextFire = some fireAt → fireAt ≤ s.now →
      sent.Perm (s.pending.due s.now) →
      Moves dag (.timer sent) s { s with
        pending := s.pending.eraseAll sent, requests := s.requests ++ sent }
  | receive {s : System} {request rest} : s.loop = .idle → s.requests = request :: rest →
      Moves dag .receive s { s with loop := .trying request.name true, requests := rest }
  | tick {s : System} {name} : s.loop = .idle →
      Moves dag (.tick name) s { s with loop := .trying name false }
  | coalesce {s : System} {name cascade phase} : s.loop = .trying name cascade →
      s.locks.lookup name = some phase → Moves dag .tryReload s { s with loop := .idle }
  | enter {s : System} {name cascade} : s.loop = .trying name cascade →
      s.locks.lookup name = none → Moves dag .tryReload s { s with
        locks := s.locks.insert name .locked, loop := .building name cascade }
  | giveUp {s : System} {name cascade} : s.loop = .trying name cascade →
      Moves dag .giveUp s { s with loop := .idle }

theorem step_moves {action : Action} {s t : System} (stepped : step dag action s = some t) :
    Moves dag action s t := by
  cases action with
  | advance ticks => obtain rfl := Option.some.inj stepped; exact .advance ticks
  | lock name =>
      simp only [step] at stepped
      split at stepped
      case h_1 => cases stepped
      case h_2 free => obtain rfl := Option.some.inj stepped; exact .lock free
  | start name =>
      simp only [step] at stepped
      split at stepped
      case h_1 held => obtain rfl := Option.some.inj stepped; exact .start held
      case h_2 => cases stepped
  | publish name =>
      simp only [step] at stepped
      split at stepped
      case h_1 held => obtain rfl := Option.some.inj stepped; exact .publish held
      case h_2 => cases stepped
  | release name =>
      simp only [step] at stepped
      split at stepped
      case h_1 held => obtain rfl := Option.some.inj stepped; exact .release held
      case h_2 => cases stepped
  | processEvent =>
      simp only [step] at stepped
      split at stepped
      case h_1 => cases stepped
      case h_2 event rest waiting =>
        obtain rfl := Option.some.inj stepped
        exact .processEvent waiting
  | timer sent =>
      obtain ⟨pending, fired, rfl⟩ := Option.map_eq_some_iff.mp stepped
      obtain ⟨⟨fireAt, next, expired⟩, answer, rfl⟩ := cascadeEngine_timer.mp fired
      exact .timer next expired answer
  | receive =>
      simp only [step] at stepped
      split at stepped
      case h_1 idle waiting =>
        obtain rfl := Option.some.inj stepped
        exact .receive idle waiting
      case h_2 => cases stepped
  | tick name =>
      simp only [step] at stepped
      split at stepped
      case h_1 idle => obtain rfl := Option.some.inj stepped; exact .tick idle
      case h_2 => cases stepped
  | tryReload =>
      simp only [step] at stepped
      split at stepped
      case h_1 trying =>
        split at stepped
        case h_1 held => obtain rfl := Option.some.inj stepped; exact .coalesce trying held
        case h_2 free => obtain rfl := Option.some.inj stepped; exact .enter trying free
      case h_2 => cases stepped
  | giveUp =>
      simp only [step] at stepped
      split at stepped
      case h_1 trying => obtain rfl := Option.some.inj stepped; exact .giveUp trying
      case h_2 => cases stepped

/-- The clock is ahead of every publish, a pending entry is no older than the processed
publishes that trigger it, and every event belongs to a publish. -/
structure Timely (dag : CascadeDag) (s : System) : Prop where
  events : ∀ event ∈ s.events, event.time ≤ s.now ∧ event ∈ s.published
  processed : ∀ event ∈ s.processed, event.time ≤ s.now
  triggers : ∀ event ∈ s.processed, ∀ d ∈ (dag.dependents event.name).map (·.name),
    ∀ entry, s.pending.lookup d = some entry → event.time ≤ entry.triggerAt

/-- The loop is at work on a request for `d` with a build that covers the publish. -/
def InFlight (s : System) (event : Publish) (d : String) : Prop :=
  s.loop = .trying d true ∨ s.loop = .building d true ∧
    (s.locks.lookup d = some .locked ∨
      ∃ start, s.locks.lookup d = some (.building start) ∧ event.time ≤ start)

/-- What `Covered` rests on while a build is under way. -/
def Owed (s : System) (event : Publish) (d : String) : Prop :=
  d ∈ s.pending ∨ s.Queued d ∨ s.InFlight event d ∨ s.RebuiltSince event d

theorem Owed.covered {s : System} {event : Publish} {d : String} (owed : s.Owed event d) :
    s.Covered event d := by
  rcases owed with waiting | queued | (trying | ⟨building, _⟩) | rebuilt
  · exact .inl waiting
  · exact .inr (.inl queued)
  · exact .inr (.inr (.inl (.inl trying)))
  · exact .inr (.inr (.inl (.inr building)))
  · exact .inr (.inr (.inr rebuilt))

theorem timely_initial (now : Nat) : (initial now).Timely dag where
  events := by intro event member; cases member
  processed := by intro event member; cases member
  triggers := by intro event member; cases member

theorem timely_step {action : Action} {s t : System} (held : s.Timely dag)
    (stepped : step dag action s = some t) : t.Timely dag := by
  cases step_moves stepped with
  | advance ticks =>
      refine ⟨?_, ?_, held.triggers⟩
      · intro event member
        exact ⟨Nat.le_add_right_of_le (held.events event member).1, (held.events event member).2⟩
      · intro event member
        exact Nat.le_add_right_of_le (held.processed event member)
  | lock free => exact ⟨held.events, held.processed, held.triggers⟩
  | start locked => exact ⟨held.events, held.processed, held.triggers⟩
  | publish building =>
      refine ⟨?_, held.processed, held.triggers⟩
      intro event member
      rcases List.mem_append.mp member with earlier | new
      · have known := held.events event earlier
        exact ⟨known.1, List.mem_append_left _ known.2⟩
      · obtain rfl := List.mem_singleton.mp new
        exact ⟨le_rfl, List.mem_append_right _ new⟩
  | release locked => exact ⟨held.events, held.processed, held.triggers⟩
  | @processEvent _ event rest waiting =>
      have first := held.events event (waiting ▸ List.mem_cons_self)
      refine ⟨?_, ?_, ?_⟩
      · intro later member
        exact held.events later (waiting ▸ List.mem_cons_of_mem _ member)
      · intro earlier member
        rcases List.mem_append.mp member with old | new
        · exact held.processed earlier old
        · obtain rfl := List.mem_singleton.mp new
          exact first.1
      · intro earlier member d edge entry found
        rw [PendingMap.lookup_triggers] at found
        have past : earlier.time ≤ s.now := by
          rcases List.mem_append.mp member with old | new
          · exact held.processed earlier old
          · obtain rfl := List.mem_singleton.mp new
            exact first.1
        cases triggered : (dag.dependents event.name).reverse.find? fun dep => dep.name = d with
        | some dep =>
            rw [triggered] at found
            obtain rfl := Option.some.inj found
            exact past
        | none =>
            rw [triggered] at found
            have old : earlier ∈ s.processed := by
              rcases List.mem_append.mp member with old | new
              · exact old
              · obtain rfl := List.mem_singleton.mp new
                obtain ⟨dep, inside, named⟩ := List.mem_map.mp edge
                have missing := List.find?_eq_none.mp triggered dep (List.mem_reverse.mpr inside)
                simp only [named, decide_true, not_true] at missing
            exact held.triggers earlier old d edge entry (PendingMap.lookup_clear.mp found).1
  | timer next expired answer =>
      refine ⟨held.events, held.processed, ?_⟩
      intro event member d edge entry found
      rw [PendingMap.lookup_eraseAll] at found
      split at found
      · cases found
      · exact held.triggers event member d edge entry found
  | receive idle waiting => exact ⟨held.events, held.processed, held.triggers⟩
  | tick idle => exact ⟨held.events, held.processed, held.triggers⟩
  | coalesce trying locked => exact ⟨held.events, held.processed, held.triggers⟩
  | enter trying free => exact ⟨held.events, held.processed, held.triggers⟩
  | giveUp trying => exact ⟨held.events, held.processed, held.triggers⟩

/-- A processed event leaves a trigger for each of its dependents. -/
theorem mem_triggers {pending : PendingMap} {now : Nat} {deps : List CascadeDep} {d : String}
    (edge : d ∈ deps.map (·.name)) : d ∈ deps.foldl (PendingMap.trigger now) pending := by
  obtain ⟨dep, inside, rfl⟩ := List.mem_map.mp edge
  rw [← AList.lookup_isSome, PendingMap.lookup_triggers]
  have found : (deps.reverse.find? fun other => other.name = dep.name).isSome := by
    rw [List.find?_isSome]
    exact ⟨dep, List.mem_reverse.mpr inside, by simp⟩
  obtain ⟨last, same⟩ := Option.isSome_iff_exists.mp found
  rw [same]
  rfl

/-- What an event does to a pending entry of `d`: it stays unless the event covers it. -/
theorem mem_processed {s : System} {d : String} (dag : CascadeDag) (event : Publish)
    (waiting : d ∈ s.pending) :
    d ∈ (dag.dependents event.name).foldl (PendingMap.trigger s.now)
        (s.pending.clear event.name event.buildStart) ∨
      d = event.name ∧ ∃ entry, s.pending.lookup d = some entry ∧
        entry.triggerAt ≤ event.buildStart := by
  obtain ⟨entry, found⟩ := Option.isSome_iff_exists.mp (AList.lookup_isSome.mpr waiting)
  by_cases covered : d = event.name ∧ entry.triggerAt ≤ event.buildStart
  · exact .inr ⟨covered.1, entry, found, covered.2⟩
  · left
    have kept : (s.pending.clear event.name event.buildStart).lookup d = some entry :=
      PendingMap.lookup_clear.mpr ⟨found, fun same => by
        have := not_and.mp covered same
        omega⟩
    rw [← AList.lookup_isSome, PendingMap.lookup_triggers, kept]
    cases (dag.dependents event.name).reverse.find? fun dep => dep.name = d with
    | none => rfl
    | some dep => rfl

/-- Every processed publish is owed to each of its dependents. -/
def AllOwed (dag : CascadeDag) (s : System) : Prop :=
  ∀ event ∈ s.processed, ∀ d ∈ (dag.dependents event.name).map (·.name), s.Owed event d

theorem Dispensable.owed {s t : System} {event : Publish} {d : String}
    (spare : s.Dispensable dag d) (member : event ∈ s.processed)
    (edge : d ∈ (dag.dependents event.name).map (·.name)) (pending : t.pending = s.pending)
    (requests : t.requests = s.requests) (published : t.published = s.published) :
    t.Owed event d := by
  rcases spare with waiting | queued | rebuilt
  · exact .inl (pending ▸ waiting)
  · refine .inr (.inl ?_)
    simpa only [Queued, requests] using queued
  · refine .inr (.inr (.inr ?_))
    simpa only [RebuiltSince, published] using rebuilt event member edge

/-- An owed refresh stays owed when each reason for it survives in some form. -/
theorem Owed.transfer {s t : System} {event : Publish} {d : String} (owed : s.Owed event d)
    (pending : d ∈ s.pending → t.Owed event d) (queued : s.Queued d → t.Owed event d)
    (flight : s.InFlight event d → t.Owed event d)
    (published : ∀ build ∈ s.published, build ∈ t.published) : t.Owed event d := by
  rcases owed with waiting | asked | under | ⟨build, member, named, since⟩
  · exact pending waiting
  · exact queued asked
  · exact flight under
  · exact .inr (.inr (.inr ⟨build, published build member, named, since⟩))

/-- A build under way for `d` is seen through any change of another lock. -/
theorem InFlight.other {s t : System} {event : Publish} {d : String}
    (flight : s.InFlight event d) (loop : t.loop = s.loop)
    (locks : t.locks.lookup d = s.locks.lookup d) : t.InFlight event d := by
  unfold InFlight
  rw [loop, locks]
  exact flight

theorem allOwed_step {action : Action} {s t : System} (timely : s.Timely dag)
    (held : s.AllOwed dag) (harmless : s.DropsHarmlessly dag action)
    (stepped : step dag action s = some t) : t.AllOwed dag := by
  cases step_moves stepped with
  | advance ticks => exact held
  | @lock _ name free =>
      intro event member d edge
      refine (held event member d edge).transfer .inl (fun asked => .inr (.inl asked)) ?_
        fun _ member => member
      intro flight
      by_cases same : d = name
      · subst same
        rcases flight with trying | ⟨_, taken | ⟨start, taken, _⟩⟩
        · exact .inr (.inr (.inl (.inl trying)))
        · rw [free] at taken; cases taken
        · rw [free] at taken; cases taken
      · exact .inr (.inr (.inl (flight.other rfl (AList.lookup_insert_ne same))))
  | @start _ name locked =>
      intro event member d edge
      refine (held event member d edge).transfer .inl (fun asked => .inr (.inl asked)) ?_
        fun _ member => member
      intro flight
      by_cases same : d = name
      · subst same
        rcases flight with trying | ⟨building, _⟩
        · exact .inr (.inr (.inl (.inl trying)))
        · have past := timely.processed event member
          refine .inr (.inr (.inl (.inr ⟨building, .inr ⟨s.now, ?_, past⟩⟩)))
          exact AList.lookup_insert _
      · exact .inr (.inr (.inl (flight.other rfl (AList.lookup_insert_ne same))))
  | @publish _ name buildStart building =>
      intro event member d edge
      refine (held event member d edge).transfer .inl (fun asked => .inr (.inl asked)) ?_
        fun _ member => List.mem_append_left _ member
      intro flight
      by_cases same : d = name
      · subst same
        rcases flight with trying | ⟨_, taken | ⟨start, taken, since⟩⟩
        · exact .inr (.inr (.inl (.inl trying)))
        · rw [building] at taken; cases taken
        · rw [building] at taken
          cases taken
          refine .inr (.inr (.inr ⟨_, List.mem_append_right _ (List.mem_singleton.mpr rfl), rfl, ?_⟩))
          exact since
      · exact .inr (.inr (.inl (flight.other rfl (AList.lookup_insert_ne same))))
  | @release _ name phase locked =>
      intro event member d edge
      refine (held event member d edge).transfer .inl (fun asked => .inr (.inl asked)) ?_
        fun _ member => member
      intro flight
      rcases flight with trying | ⟨building, taken⟩
      · refine .inr (.inr (.inl (.inl ?_)))
        simp only [trying, Loop.leave]
      · by_cases same : d = name
        · subst same
          have unpublished : s.locks.lookup d ≠ some .published := by
            rcases taken with taken | ⟨start, taken, _⟩
            · rw [taken]; simp
            · rw [taken]; simp
          have spare : s.Dispensable dag d := by
            apply harmless
            simp only [dropped, if_pos (And.intro building unpublished), Option.mem_def]
          exact spare.owed member edge rfl rfl rfl
        · refine .inr (.inr (.inl (.inr ⟨?_, ?_⟩)))
          · simp only [building, Loop.leave, if_neg same]
          · simpa only [AList.lookup_erase_ne same] using taken
  | @processEvent _ event rest waiting =>
      intro earlier member d edge
      rcases List.mem_append.mp member with old | new
      · refine (held earlier old d edge).transfer ?_ (fun asked => .inr (.inl asked))
          (fun flight => .inr (.inr (.inl (flight.other rfl rfl)))) fun _ member => member
        intro pending
        rcases mem_processed dag event pending with
          stays | ⟨same, entry, found, covered⟩
        · exact .inl stays
        · have known := (timely.events event (waiting ▸ List.mem_cons_self)).2
          have triggered := timely.triggers earlier old d edge entry found
          exact .inr (.inr (.inr ⟨event, known, same.symm, triggered.trans covered⟩))
      · obtain rfl := List.mem_singleton.mp new
        exact .inl (mem_triggers edge)
  | @timer _ fireAt sent next expired answer =>
      intro event member d edge
      refine (held event member d edge).transfer ?_ (fun asked => .inr (.inl ?_))
        (fun flight => .inr (.inr (.inl (flight.other rfl rfl)))) fun _ member => member
      · intro pending
        by_cases fired : d ∈ sent.map (·.name)
        · refine .inr (.inl ?_)
          simp only [Queued, List.map_append]
          exact List.mem_append_right _ fired
        · left
          rw [← AList.lookup_isSome, PendingMap.lookup_eraseAll, if_neg fired]
          exact AList.lookup_isSome.mpr pending
      · simp only [Queued, List.map_append]
        exact List.mem_append_left _ asked
  | @receive _ request rest idle waiting =>
      intro event member d edge
      refine (held event member d edge).transfer .inl ?_ ?_ fun _ member => member
      · intro asked
        simp only [Queued, waiting, List.map_cons, List.mem_cons] at asked
        rcases asked with rfl | later
        · exact .inr (.inr (.inl (.inl rfl)))
        · exact .inr (.inl later)
      · rintro (trying | ⟨building, _⟩)
        · rw [idle] at trying; cases trying
        · rw [idle] at building; cases building
  | @tick _ name idle =>
      intro event member d edge
      refine (held event member d edge).transfer .inl (fun asked => .inr (.inl asked)) ?_
        fun _ member => member
      rintro (trying | ⟨building, _⟩)
      · rw [idle] at trying; cases trying
      · rw [idle] at building; cases building
  | @coalesce _ name cascade phase trying taken =>
      intro event member d edge
      refine (held event member d edge).transfer .inl (fun asked => .inr (.inl asked)) ?_
        fun _ member => member
      rintro (same | ⟨building, _⟩)
      · rw [trying] at same
        cases same
        have spare : s.Dispensable dag name := by
          apply harmless
          simp [dropped, trying, taken]
        exact spare.owed member edge rfl rfl rfl
      · rw [trying] at building; cases building
  | @enter _ name cascade trying free =>
      intro event member d edge
      refine (held event member d edge).transfer .inl (fun asked => .inr (.inl asked)) ?_
        fun _ member => member
      rintro (same | ⟨building, _⟩)
      · rw [trying] at same
        cases same
        exact .inr (.inr (.inl (.inr ⟨rfl, .inl (AList.lookup_insert _)⟩)))
      · rw [trying] at building; cases building
  | @giveUp _ name cascade trying =>
      intro event member d edge
      refine (held event member d edge).transfer .inl (fun asked => .inr (.inl asked)) ?_
        fun _ member => member
      rintro (same | ⟨building, _⟩)
      · rw [trying] at same
        cases same
        have spare : s.Dispensable dag name := by
          apply harmless
          simp [dropped, trying]
        exact spare.owed member edge rfl rfl rfl
      · rw [trying] at building; cases building

theorem allOwed_run {now : Nat} {actions : List Action} {s : System}
    (run : Run (step dag) (DropsHarmlessly dag) (initial now) actions s) : s.AllOwed dag := by
  have both : s.Timely dag ∧ s.AllOwed dag := by
    refine run.keeps (P := fun t => t.Timely dag ∧ t.AllOwed dag) ⟨timely_initial now, ?_⟩ ?_
    · intro event member; cases member
    · intro t action u held harmless stepped
      exact ⟨timely_step held.1 stepped, allOwed_step held.1 held.2 harmless stepped⟩
  exact both.2

/-- A drop that is not dispensable leaves its dataset uncovered. -/
theorem lost_of_drop {action : Action} {s t : System} {d : String}
    (drop : s.dropped action = some d) (needed : ¬ s.Dispensable dag d)
    (stepped : step dag action s = some t) : ¬ t.NoLostCascade dag := by
  intro safe
  simp only [Dispensable, not_or, not_forall] at needed
  obtain ⟨still, unasked, event, member, edge, stale⟩ := needed
  have after : t.pending = s.pending ∧ t.requests = s.requests ∧ t.loop = .idle ∧
      t.published = s.published ∧ t.processed = s.processed := by
    cases step_moves stepped with
    | coalesce trying taken => exact ⟨rfl, rfl, rfl, rfl, rfl⟩
    | @enter _ name cascade trying free =>
        simp only [dropped, trying] at drop
        cases cascade with
        | true => simp [free] at drop
        | false => cases drop
    | giveUp trying => exact ⟨rfl, rfl, rfl, rfl, rfl⟩
    | @release _ name phase locked =>
        simp only [dropped] at drop
        split at drop
        case isTrue ends =>
          refine ⟨rfl, rfl, ?_, rfl, rfl⟩
          simp only [ends.1, Loop.leave, if_true]
        case isFalse => cases drop
    | _ => cases drop
  obtain ⟨pending, requests, loop, published, processed⟩ := after
  rcases safe event (processed ▸ member) d edge with waiting | asked | (trying | building) | rebuilt
  · exact still (pending ▸ waiting)
  · exact unasked (by simpa only [Queued, requests] using asked)
  · rw [loop] at trying; cases trying
  · rw [loop] at building; cases building
  · exact stale (by simpa only [RebuiltSince, published] using rebuilt)

/-- In a run of the scheduler, the engine and the locks, no cascade is lost in any state
exactly when every dropped cascade request is dispensable at its drop. -/
theorem no_lost_cascade_iff (dag : CascadeDag) (now : Nat) (actions : List Action) (s : System)
    (run : Run (step dag) Anything (initial now) actions s) :
    (∀ before after t, actions = before ++ after →
      Run (step dag) Anything (initial now) before t → t.NoLostCascade dag) ↔
    Run (step dag) (DropsHarmlessly dag) (initial now) actions s := by
  constructor
  · intro safe
    induction run with
    | nil => exact .nil _
    | @snoc labels t action u before _ stepped ih =>
        have early := ih fun first second middle whole reached => by
          refine safe first (second ++ [action]) middle ?_ reached
          rw [whole, List.append_assoc]
        refine .snoc early ?_ stepped
        intro d drop
        by_contra needed
        refine lost_of_drop drop needed stepped (safe (labels ++ [action]) [] u ?_ ?_)
        · rw [List.append_nil]
        · exact .snoc before trivial stepped
  · intro harmless before after t whole reached
    subst whole
    obtain ⟨middle, early, _⟩ := harmless.split
    have same : middle = t := (early.weaken fun _ _ _ => trivial).unique reached
    subst same
    intro event member d edge
    exact (allOwed_run early event member d edge).covered

/-- An upstream publish during a manual build of its dependent: the request waits until
that build has released the lock, and the rebuild covers it. -/
theorem no_lost_cascade_waits : ∃ t, Run (step (AList.insert "u" [⟨"d", 5, 9⟩] ∅)) Anything (initial 0)
    [.lock "d", .start "d", .advance 1, .lock "u", .start "u", .publish "u", .processEvent,
      .advance 5, .publish "d", .release "d", .processEvent, .timer [⟨"d", 9⟩], .receive, .tryReload,
      .start "d"] t ∧ t.NoLostCascade (AList.insert "u" [⟨"d", 5, 9⟩] ∅) := by
  have run : Run (step (AList.insert "u" [⟨"d", 5, 9⟩] ∅)) Anything (initial 0)
      [.lock "d", .start "d", .advance 1, .lock "u", .start "u", .publish "u", .processEvent,
        .advance 5, .publish "d", .release "d", .processEvent, .timer [⟨"d", 9⟩], .receive,
        .tryReload, .start "d"] _ := Machine.run_of_exec rfl
  refine ⟨_, run, ?_⟩
  exact (no_lost_cascade_iff (AList.insert "u" [⟨"d", 5, 9⟩] ∅) 0 _ _ run).mpr
    (Machine.run_of_exec rfl) _ [] _ (List.append_nil _).symm run

/-- The request for `d` coalesces with a build of `d` that started before the publish of
`u`, and nothing remembers the trigger. -/
theorem cascade_lost : ¬ ∀ dag now actions s, Run (step dag) Anything (initial now) actions s →
    s.NoLostCascade dag := by
  intro safe
  have run : Run (step (AList.insert "u" [⟨"d", 0, 9⟩] ∅)) Anything (initial 0)
      [.lock "d", .start "d", .advance 1, .lock "u", .start "u", .publish "u", .processEvent,
        .timer [⟨"d", 9⟩], .receive, .tryReload] _ := Machine.run_of_exec rfl
  rcases safe _ _ _ _ run ⟨"u", 1, 1⟩ (by decide) "d" (by decide) with
    waiting | asked | served | rebuilt
  · exact absurd waiting (by decide)
  · exact absurd asked (by decide)
  · exact absurd served (by decide)
  · exact absurd rebuilt (by decide)

end System
end Datapress.Refresh
