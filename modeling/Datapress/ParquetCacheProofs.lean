import Datapress.ParquetCache

/-! When a cached Parquet export is of the newest generation. -/
namespace Datapress.ParquetCache
open Machine (Run Anything)

namespace Exports
variable {Rows : Type} {s t : Exports Rows}

/-- What holds between a request and the generations published since it began. -/
structure Observed (newest : Option (Generation Rows)) (request : Request Rows) : Prop where
  newest : ∀ generation, newest = some generation → generation ∈ request.window
  built : ∀ generation, request.phase = .built generation → generation ∈ request.window

structure Sound (s : Exports Rows) : Prop where
  /-- A cached export that is not of the newest generation will be invalidated. -/
  fresh : ∀ cached, s.cache = some cached → s.newest = some cached ∨ 0 < s.owed
  requests : ∀ request ∈ s.requests, Observed s.newest request
  answers : ∀ answer ∈ s.answers, Coherent answer

theorem sound_initial : Sound ({} : Exports Rows) where
  fresh := nofun
  requests := nofun
  answers := nofun

/-- A request that goes on to a phase leaves the others as they are. -/
theorem Sound.enter {request : Request Rows} {i : Nat} (phase : Phase Rows) (sound : s.Sound)
    (here : s.requests[i]? = some request)
    (built : ∀ generation, phase = .built generation → generation ∈ request.window) :
    (s.enter i request phase).Sound := by
  refine ⟨sound.fresh, fun other member => ?_, sound.answers⟩
  obtain older | rfl := List.mem_or_eq_of_mem_set member
  · exact sound.requests other older
  · exact ⟨(sound.requests request (List.mem_of_getElem? here)).newest, built⟩

theorem Sound.answer {request : Request Rows} {exported : Generation Rows} {i : Nat}
    (cached : Bool) (sound : s.Sound) (here : s.requests[i]? = some request)
    (inside : exported ∈ request.window) (newest : cached = true → s.newest = some exported) :
    (s.answer i request exported cached).Sound := by
  have entered := sound.enter .done here nofun
  refine ⟨entered.fresh, entered.requests, ?_⟩
  exact List.forall_mem_cons.mpr ⟨⟨⟨exported, inside, rfl⟩, newest⟩, sound.answers⟩

theorem sound_step {action : Action Rows} (sound : s.Sound) (kept : s.Keeps action)
    (stepped : step action s = some t) : t.Sound := by
  cases action with
  | publish publisher rows =>
      obtain rfl := Option.some.inj stepped
      refine ⟨fun cached found => .inr ?_, ?_, sound.answers⟩
      · cases invalidates : publisher.invalidates with
        | true =>
            rw [if_pos rfl]
            exact Nat.succ_pos s.owed
        | false =>
            rw [if_neg Bool.false_ne_true]
            obtain impossible | none | owed := kept
            · rw [invalidates] at impossible
              cases impossible
            · rw [none] at found
              cases found
            · exact owed
      · intro request member
        obtain ⟨earlier, inside, rfl⟩ := List.mem_map.mp member
        refine ⟨fun generation newest => ?_, fun generation built => ?_⟩
        · rw [← Option.some.inj newest]
          exact List.mem_cons_self
        · exact List.mem_cons_of_mem _ ((sound.requests earlier inside).built generation built)
  | invalidate =>
      obtain ⟨_, made⟩ := Option.ite_none_right_eq_some.mp stepped
      obtain rfl := Option.some.inj made
      exact ⟨nofun, sound.requests, sound.answers⟩
  | abandon =>
      obtain ⟨_, made⟩ := Option.ite_none_right_eq_some.mp stepped
      obtain rfl := Option.some.inj made
      refine ⟨fun cached found => ?_, sound.requests, sound.answers⟩
      obtain none | others := kept
      · exact absurd (none.symm.trans found) nofun
      · right
        show 0 < s.owed - 1
        omega
  | unregister =>
      obtain rfl := Option.some.inj stepped
      exact ⟨sound.fresh, sound.requests, sound.answers⟩
  | request =>
      simp only [step] at stepped
      split at stepped
      case h_2 => cases stepped
      case h_1 generation newest _ =>
        obtain rfl := Option.some.inj stepped
        refine ⟨sound.fresh, ?_, sound.answers⟩
        intro request member
        obtain older | began := List.mem_append.mp member
        · exact sound.requests request older
        · obtain rfl := List.mem_singleton.mp began
          refine ⟨fun other same => ?_, nofun⟩
          obtain rfl := Option.some.inj (newest.symm.trans same)
          exact List.mem_singleton_self generation
  | lookup i =>
      simp only [step] at stepped
      split at stepped
      case h_2 => cases stepped
      case h_1 window here =>
        split at stepped
        case h_1 cached found =>
          obtain rfl := Option.some.inj stepped
          have newest : s.newest = some cached := by
            obtain same | owed := sound.fresh cached found
            · exact same
            · obtain none | settled := kept
              · exact absurd (none.symm.trans found) nofun
              · omega
          have inside := (sound.requests _ (List.mem_of_getElem? here)).newest cached newest
          exact sound.answer _ here inside fun _ => newest
        case h_2 =>
          obtain rfl := Option.some.inj stepped
          exact sound.enter _ here nofun
  | build i =>
      simp only [step] at stepped
      split at stepped
      case h_2 => cases stepped
      case h_1 window here =>
        split at stepped
        case h_1 generation newest _ =>
          obtain rfl := Option.some.inj stepped
          refine sound.enter _ here fun other same => ?_
          cases same
          exact (sound.requests _ (List.mem_of_getElem? here)).newest generation newest
        case h_2 =>
          obtain rfl := Option.some.inj stepped
          exact sound.enter _ here nofun
  | insert i =>
      simp only [step] at stepped
      split at stepped
      case h_2 => cases stepped
      case h_1 window generation here =>
        obtain rfl := Option.some.inj stepped
        have inside := (sound.requests _ (List.mem_of_getElem? here)).built generation rfl
        have answered := sound.answer false here inside nofun
        refine ⟨fun cached found => ?_, answered.requests, answered.answers⟩
        cases found
        exact kept generation (by rw [here]; rfl)
  | leave i =>
      obtain ⟨request, here, rfl⟩ := Option.map_eq_some_iff.mp stepped
      exact sound.enter _ here nofun

end Exports

/-- In a run under the condition, every export holds the rows of a generation that was published
during its request, and every cached one is of the newest generation. -/
theorem exports_coherent {Rows : Type} {actions : List (Action Rows)} {s : Exports Rows}
    (run : Run Exports.step Exports.Keeps {} actions s) : ∀ answer ∈ s.answers, Exports.Coherent answer :=
  (run.keeps Exports.sound_initial fun sound kept stepped =>
    Exports.sound_step sound kept stepped).answers

/-- A reload drops the export, and the next request builds a new one. -/
theorem exports_coherent_reload : ∃ s : Exports Nat, s.answers.length = 3 ∧
    ∀ answer ∈ s.answers, Exports.Coherent answer := by
  have run : Run Exports.step Exports.Keeps {}
      [.publish .firstTouch 1, .request, .lookup 0, .build 0, .insert 0, .request, .lookup 1,
        .publish .reload 2, .invalidate, .request, .lookup 2, .build 2, .insert 2] _ :=
    Machine.run_of_exec (s := ({} : Exports Nat)) rfl
  exact ⟨_, rfl, exports_coherent run⟩

/-- A scheduled reload leaves the export of the older generation in the cache. -/
theorem export_served_stale : ∃ s : Exports Nat,
    Run Exports.step Anything {}
      [.publish .firstTouch 1, .request, .lookup 0, .build 0, .insert 0, .publish .schedule 2,
        .request, .lookup 1] s ∧
    ∃ answer ∈ s.answers, answer.cached = true ∧ answer.exported.rows = 1 ∧
      answer.window.map (·.rows) = [2] ∧ ¬ Exports.Coherent answer := by
  have run : Run Exports.step Anything {}
      [.publish .firstTouch 1, .request, .lookup 0, .build 0, .insert 0, .publish .schedule 2,
        .request, .lookup 1] _ := Machine.run_of_exec (s := ({} : Exports Nat)) rfl
  refine ⟨_, run, _, List.mem_cons_self, rfl, rfl, rfl, ?_⟩
  rintro ⟨_, newest⟩
  cases newest rfl

end Datapress.ParquetCache
