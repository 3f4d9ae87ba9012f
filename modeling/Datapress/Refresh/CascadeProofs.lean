import Datapress.Refresh.Cascade

/-! The law of the pending map: an entry leaves it only through a build that covers its
last trigger or through the one request its debounce allows. -/
namespace Datapress.Refresh
open Machine (Run Anything)

namespace PendingMap
variable {pending : PendingMap} {d : String}

/-- What stays when a publish is processed: everything its build does not cover. -/
theorem lookup_clear {published : String} {buildStart : Nat} {entry : Pending} :
    (pending.clear published buildStart).lookup d = some entry ↔
      pending.lookup d = some entry ∧ (d = published → buildStart < entry.triggerAt) := by
  unfold clear
  by_cases same : d = published
  · subst same
    cases found : pending.lookup d with
    | none => simp [found]
    | some current =>
        by_cases covered : current.triggerAt ≤ buildStart
        · simp only [if_pos covered, AList.lookup_erase, reduceCtorEq, false_iff]
          rintro ⟨same, later⟩
          obtain rfl := Option.some.inj same
          exact absurd (later trivial) (Nat.not_lt.mpr covered)
        · simp only [if_neg covered, found]
          grind
  · cases pending.lookup published with
    | none => simp [same]
    | some current =>
        by_cases covered : current.triggerAt ≤ buildStart
        · simp [same, covered]
        · simp [same, covered]

theorem lookup_trigger (now : Nat) (dep : CascadeDep) :
    (pending.trigger now dep).lookup d =
      if dep.name = d then
        some { fireAt := now + dep.debounce, timeout := dep.timeout, triggerAt := now }
      else pending.lookup d := by
  unfold trigger
  by_cases same : dep.name = d
  · subst same; simp
  · simp [same, AList.lookup_insert_ne (Ne.symm same)]

/-- The last dependent of that name wins. -/
theorem lookup_triggers (now : Nat) (deps : List CascadeDep) :
    (deps.foldl (trigger now) pending).lookup d =
      ((deps.reverse.find? fun dep => dep.name = d).map fun dep =>
        { fireAt := now + dep.debounce, timeout := dep.timeout, triggerAt := now : Pending }).or
        (pending.lookup d) := by
  induction deps generalizing pending with
  | nil => rfl
  | cons dep rest ih =>
      rw [List.foldl_cons, ih, lookup_trigger, List.reverse_cons, List.find?_append]
      cases rest.reverse.find? fun dep => dep.name = d with
      | some later => rfl
      | none =>
          by_cases same : dep.name = d
          · simp [same]
          · simp [same]

theorem mem_due {now : Nat} {request : CascadeRequest} :
    request ∈ pending.due now ↔ ∃ entry, pending.lookup request.name = some entry ∧
      entry.fireAt ≤ now ∧ request.timeout = entry.timeout := by
  simp only [due, List.mem_map, List.mem_filter, decide_eq_true_eq]
  constructor
  · rintro ⟨⟨name, entry⟩, ⟨member, expired⟩, rfl⟩
    exact ⟨entry, AList.mem_lookup_iff.mpr member, expired, rfl⟩
  · rintro ⟨entry, found, expired, same⟩
    refine ⟨⟨request.name, entry⟩, ⟨AList.mem_lookup_iff.mp found, expired⟩, ?_⟩
    cases request
    simp_all

/-- A timer sends no two requests for one dataset. -/
theorem due_nodup (now : Nat) : ((pending.due now).map (·.name)).Nodup := by
  have unique : (pending.entries.map Sigma.fst).Nodup := pending.nodupKeys
  have kept : ((pending.entries.filter fun entry => decide (entry.2.fireAt ≤ now)).map
      Sigma.fst).Nodup := unique.sublist (List.filter_sublist.map _)
  simpa only [due, List.map_map, Function.comp_def] using kept

theorem lookup_eraseAll (fired : List CascadeRequest) :
    (pending.eraseAll fired).lookup d =
      if d ∈ fired.map (·.name) then none else pending.lookup d := by
  unfold eraseAll
  induction fired generalizing pending with
  | nil => simp
  | cons request rest ih =>
      rw [List.foldl_cons, ih]
      by_cases later : d ∈ rest.map (·.name)
      · simp [later]
      · by_cases same : d = request.name
        · subst same
          simp
        · rw [AList.lookup_erase_ne same]
          simp [later, same]

end PendingMap

/-- What a step records for a dataset: when, and the debounce of the edge that did. -/
structure Trigger where
  time : Nat
  debounce : Nat
deriving Repr, DecidableEq

/-- The trigger a processed publish event records for `d`: of several edges from the
published dataset to `d` the last one counts. -/
def EngineStep.trigger (dag : CascadeDag) (d : String) : EngineStep → Option Trigger
  | .publish name _ now => ((dag.dependents name).reverse.find? fun dep => dep.name = d).map fun dep =>
      { time := now, debounce := dep.debounce }
  | .timer _ _ => none

/-- The requests a step sends for `d`. -/
def EngineStep.requests (d : String) : EngineStep → List CascadeRequest
  | .publish _ _ _ => []
  | .timer _ sent => sent.filter (·.name = d)

def lastTrigger (dag : CascadeDag) (history : List EngineStep) (d : String) : Option Trigger :=
  history.reverse.findSome? (·.trigger dag d)

/-- The steps since the last one that sent a request for `d`, newest first. -/
def sinceRequest (history : List EngineStep) (d : String) : List EngineStep :=
  history.reverse.takeWhile fun s => (s.requests d).isEmpty

theorem lastTrigger_append (dag : CascadeDag) (history : List EngineStep) (s : EngineStep)
    (d : String) :
    lastTrigger dag (history ++ [s]) d = (s.trigger dag d).or (lastTrigger dag history d) := by
  simp only [lastTrigger, List.reverse_append, List.reverse_singleton, List.singleton_append,
    List.findSome?_cons]
  cases s.trigger dag d <;> rfl

theorem sinceRequest_append (history : List EngineStep) (s : EngineStep) (d : String) :
    sinceRequest (history ++ [s]) d =
      if (s.requests d).isEmpty then s :: sinceRequest history d else [] := by
  simp only [sinceRequest, List.reverse_append, List.reverse_singleton, List.singleton_append,
    List.takeWhile_cons]

/-- The two ways in which the pending entry of `d` may disappear after `history`. -/
inductive Disappears (dag : CascadeDag) (history : List EngineStep) (d : String) :
    EngineStep → Prop where
  | covered {last buildStart now} : lastTrigger dag history d = some last →
      last.time ≤ buildStart → Disappears dag history d (.publish d buildStart now)
  | sent {last now sent} : lastTrigger dag history d = some last →
      last.time + last.debounce ≤ now → (EngineStep.requests d (.timer now sent)).length = 1 →
      Disappears dag history d (.timer now sent)

/-- A pending entry is what the last trigger wrote. -/
def Recorded (dag : CascadeDag) (history : List EngineStep) (pending : PendingMap) : Prop :=
  ∀ d entry, pending.lookup d = some entry → ∃ last, lastTrigger dag history d = some last ∧
    entry.triggerAt = last.time ∧ entry.fireAt = last.time + last.debounce

/-- A pending entry goes back to an upstream publish after the last request. -/
def Fresh (dag : CascadeDag) (history : List EngineStep) (pending : PendingMap) : Prop :=
  ∀ d entry, pending.lookup d = some entry → ∃ upstream buildStart now,
    .publish upstream buildStart now ∈ sinceRequest history d ∧
    d ∈ (dag.dependents upstream).map (·.name)

variable {dag : CascadeDag} {history : List EngineStep} {pending next : PendingMap}

theorem cascadeEngine_timer {now : Nat} {sent : List CascadeRequest} :
    cascadeEngine dag (.timer now sent) pending = some next ↔
      (∃ fireAt, pending.nextFire = some fireAt ∧ fireAt ≤ now) ∧
        sent.Perm (pending.due now) ∧ pending.eraseAll sent = next := by
  simp only [cascadeEngine]
  cases pending.nextFire with
  | none => simp
  | some fireAt => simp [and_assoc]

theorem recorded_step {s : EngineStep} (held : Recorded dag history pending)
    (stepped : cascadeEngine dag s pending = some next) : Recorded dag (history ++ [s]) next := by
  intro d entry found
  rw [lastTrigger_append]
  cases s with
  | publish name buildStart now =>
      obtain rfl := Option.some.inj stepped
      rw [PendingMap.lookup_triggers] at found
      simp only [EngineStep.trigger]
      cases triggered : (dag.dependents name).reverse.find? fun dep => dep.name = d with
      | some dep =>
          rw [triggered] at found
          obtain rfl := Option.some.inj found
          exact ⟨_, rfl, rfl, rfl⟩
      | none =>
          rw [triggered] at found
          exact held d entry (PendingMap.lookup_clear.mp found).1
  | timer now sent =>
      obtain ⟨_, _, rfl⟩ := cascadeEngine_timer.mp stepped
      rw [PendingMap.lookup_eraseAll] at found
      split at found
      · cases found
      · simpa only [EngineStep.trigger, Option.none_or] using held d entry found

theorem fresh_step {s : EngineStep} (held : Fresh dag history pending)
    (stepped : cascadeEngine dag s pending = some next) : Fresh dag (history ++ [s]) next := by
  intro d entry found
  rw [sinceRequest_append]
  cases s with
  | publish name buildStart now =>
      obtain rfl := Option.some.inj stepped
      rw [PendingMap.lookup_triggers] at found
      simp only [EngineStep.requests, List.isEmpty_nil, if_true]
      cases triggered : (dag.dependents name).reverse.find? fun dep => dep.name = d with
      | some dep =>
          have edge : dep ∈ dag.dependents name := by
            simpa only [List.mem_reverse] using List.mem_of_find?_eq_some triggered
          have named : dep.name = d := by simpa using List.find?_some triggered
          refine ⟨name, buildStart, now, List.mem_cons_self, ?_⟩
          exact List.mem_map.mpr ⟨dep, edge, named⟩
      | none =>
          rw [triggered] at found
          obtain ⟨upstream, start, time, member, edge⟩ :=
            held d entry (PendingMap.lookup_clear.mp found).1
          exact ⟨upstream, start, time, List.mem_cons_of_mem _ member, edge⟩
  | timer now sent =>
      obtain ⟨_, _, rfl⟩ := cascadeEngine_timer.mp stepped
      rw [PendingMap.lookup_eraseAll] at found
      split at found
      case isTrue => cases found
      case isFalse unsent =>
        have quiet : (EngineStep.requests d (.timer now sent)).isEmpty := by
          simp only [EngineStep.requests, List.isEmpty_iff, List.filter_eq_nil_iff,
            decide_eq_true_eq]
          intro request member named
          exact unsent (List.mem_map.mpr ⟨request, member, named⟩)
        rw [if_pos quiet]
        obtain ⟨upstream, start, time, member, edge⟩ := held d entry found
        exact ⟨upstream, start, time, List.mem_cons_of_mem _ member, edge⟩

theorem run_recorded (run : Run (cascadeEngine dag) Anything ∅ history pending) :
    Recorded dag history pending ∧ Fresh dag history pending := by
  refine run.invariant (P := fun h p => Recorded dag h p ∧ Fresh dag h p) ?_ ?_
  · constructor
    · intro d entry found; cases found
    · intro d entry found; cases found
  · intro before p s q held _ stepped
    exact ⟨recorded_step held.1 stepped, fresh_step held.2 stepped⟩

/-- Requests for one dataset in the answer of a timer. -/
theorem requests_length {now : Nat} {sent : List CascadeRequest} {d : String}
    (fired : sent.Perm (pending.due now)) (asked : d ∈ sent.map (·.name)) :
    (EngineStep.requests d (.timer now sent)).length = 1 := by
  have unique : (sent.map (·.name)).Nodup :=
    (fired.map _).nodup_iff.mpr (PendingMap.due_nodup now)
  have once : (sent.map (·.name)).count d = 1 := List.count_eq_one_of_mem unique asked
  rw [List.count, List.countP_map, List.countP_eq_length_filter] at once
  simpa only [EngineStep.requests, Function.comp_def, beq_eq_decide] using once

theorem disappears {s : EngineStep} {d : String} (held : Recorded dag history pending)
    (stepped : cascadeEngine dag s pending = some next) (before : d ∈ pending)
    (after : d ∉ next) : Disappears dag history d s := by
  obtain ⟨entry, found⟩ := Option.isSome_iff_exists.mp (AList.lookup_isSome.mpr before)
  obtain ⟨last, recorded, triggerAt, fireAt⟩ := held d entry found
  rw [← AList.lookup_eq_none] at after
  cases s with
  | publish name buildStart now =>
      obtain rfl := Option.some.inj stepped
      rw [PendingMap.lookup_triggers, Option.or_eq_none_iff] at after
      by_cases kept : d = name → buildStart < entry.triggerAt
      · rw [PendingMap.lookup_clear.mpr ⟨found, kept⟩] at after
        cases after.2
      · obtain ⟨rfl, covered⟩ := Classical.not_imp.mp kept
        exact .covered recorded (by omega)
  | timer now sent =>
      obtain ⟨_, fired, rfl⟩ := cascadeEngine_timer.mp stepped
      rw [PendingMap.lookup_eraseAll, found] at after
      have asked : d ∈ sent.map (·.name) := by
        by_contra unsent
        rw [if_neg unsent] at after
        cases after
      obtain ⟨request, member, rfl⟩ := List.mem_map.mp asked
      obtain ⟨same, expired⟩ := PendingMap.mem_due.mp (fired.mem_iff.mp member)
      rw [found] at expired
      obtain rfl := Option.some.inj expired.1
      refine .sent recorded ?_ (requests_length fired asked)
      rw [← fireAt]
      exact expired.2.1

theorem dependents_push {dag : CascadeDag} {dep : CascadeDep} {upstream u : String} :
    (dag.push dep upstream).dependents u =
      dag.dependents u ++ if u = upstream then [dep] else [] := by
  unfold CascadeDag.push CascadeDag.dependents
  by_cases same : u = upstream
  · subst same; simp
  · simp [same, AList.lookup_insert_ne same]

theorem mem_pushes {dag : CascadeDag} {new dep : CascadeDep} {u : String} {ups : List String} :
    dep ∈ (ups.foldl (CascadeDag.push new) dag).dependents u ↔
      dep ∈ dag.dependents u ∨ u ∈ ups ∧ dep = new := by
  induction ups generalizing dag with
  | nil => simp
  | cons upstream rest ih =>
      rw [List.foldl_cons, ih, dependents_push]
      by_cases same : u = upstream
      · simp only [same, if_true, List.mem_append, List.mem_cons, true_or]
        grind
      · simp [same]

/-- The edges of the configured graph: a dataset refreshed on upstream reloads is a
dependent, with its own debounce, of every dataset it depends on. -/
theorem mem_cascadeDag {datasets : List CascadeSource} {dep : CascadeDep} {u : String} :
    dep ∈ (cascadeDag datasets).dependents u ↔ ∃ d ∈ datasets, d.onUpstreamReload ∧
      u ∈ d.dependsOn ∧ dep = { name := d.name, debounce := d.debounce, timeout := d.timeout } := by
  have folded : ∀ dag : CascadeDag, dep ∈ (datasets.foldl CascadeDag.extend dag).dependents u ↔
      dep ∈ dag.dependents u ∨ ∃ d ∈ datasets, d.onUpstreamReload ∧ u ∈ d.dependsOn ∧
        dep = { name := d.name, debounce := d.debounce, timeout := d.timeout } := by
    induction datasets with
    | nil => intro dag; simp
    | cons d rest ih =>
        intro dag
        rw [List.foldl_cons, ih]
        by_cases cascades : d.onUpstreamReload
        · simp only [CascadeDag.extend, cascades, if_true, mem_pushes, List.mem_cons]
          grind
        · simp [CascadeDag.extend, cascades]
  have start := folded ∅
  simpa [CascadeDag.dependents, cascadeDag] using start

/-- In the configured graph the debounce of a trigger is the dataset's own. -/
theorem trigger_debounce {datasets : List CascadeSource} {d : String} {s : EngineStep}
    {recorded : Trigger} (triggered : s.trigger (cascadeDag datasets) d = some recorded) :
    ∃ source ∈ datasets, source.name = d ∧ source.debounce = recorded.debounce := by
  cases s with
  | timer now sent => cases triggered
  | publish name buildStart now =>
      obtain ⟨dep, found, rfl⟩ := Option.map_eq_some_iff.mp triggered
      have edge : dep ∈ (cascadeDag datasets).dependents name := by
        simpa only [List.mem_reverse] using List.mem_of_find?_eq_some found
      have named : dep.name = d := by simpa using List.find?_some found
      obtain ⟨source, member, _, _, rfl⟩ := mem_cascadeDag.mp edge
      exact ⟨source, member, named, rfl⟩

/-- Whatever publish events and clock readings the engine has processed: a pending entry
disappears only by a publish whose build covers its last trigger or by one request no
earlier than the debounce allows; a trigger later than a build's start survives that
build's publish; and every request goes back to an upstream publish since the last one. -/
theorem cascade_clearing (dag : CascadeDag) (history : List EngineStep) (pending : PendingMap)
    (run : Run (cascadeEngine dag) Anything ∅ history pending) :
    (∀ s next d, cascadeEngine dag s pending = some next → d ∈ pending → d ∉ next →
      Disappears dag history d s) ∧
    (∀ d last buildStart now next, d ∈ pending → lastTrigger dag history d = some last →
      buildStart < last.time → cascadeEngine dag (.publish d buildStart now) pending = some next →
      d ∈ next) ∧
    (∀ now sent next, cascadeEngine dag (.timer now sent) pending = some next →
      ∀ request ∈ sent, ∃ upstream buildStart published,
        .publish upstream buildStart published ∈ sinceRequest history request.name ∧
        request.name ∈ (dag.dependents upstream).map (·.name)) := by
  obtain ⟨recorded, fresh⟩ := run_recorded run
  refine ⟨?_, ?_, ?_⟩
  · intro s next d stepped before after
    exact disappears recorded stepped before after
  · intro d last buildStart now next before same later stepped
    by_contra after
    cases disappears recorded stepped before after with
    | covered found covered =>
        have unique := Option.some.inj (same.symm.trans found)
        rw [unique] at later
        exact absurd covered (Nat.not_le.mpr later)
  · intro now sent next stepped request member
    obtain ⟨_, fired, _⟩ := cascadeEngine_timer.mp stepped
    obtain ⟨entry, found, _⟩ := PendingMap.mem_due.mp (fired.mem_iff.mp member)
    exact fresh request.name entry found

/-- An upstream publish during a build of its dependent: the trigger at 60 outlives the
publish of the build that started at 10. -/
theorem cascade_clearing_mid_build :
    "derived" ∈ (AList.insert "derived" ⟨260, 5, 60⟩ ∅ : PendingMap) :=
  (cascade_clearing (AList.insert "base" [⟨"derived", 200, 5⟩] ∅)
    [.publish "base" 0 0, .publish "base" 60 60] _ (Machine.run_of_exec rfl)).2.1 "derived" ⟨60, 200⟩
    10 90 _ (by decide) (by decide) (by decide) rfl

end Datapress.Refresh
