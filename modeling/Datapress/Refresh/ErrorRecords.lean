import Datapress.Refresh.HeapConservation

/-! What the loop records of the ticks that fail, and when the text of an error ends it. -/
namespace Datapress.Refresh
open Machine (Run Anything)

namespace RunLoop

/-- The text of a build that fails is cut between characters. -/
def CutsErrors (s : RunLoop) (event : LoopEvent) : Prop :=
  ∀ entry error, s.finishes event = some (entry, .failed error) → Cuts error

end RunLoop

namespace Traced

/-- No text has ended the loop, and the error of every failed tick is recorded. -/
structure Recorded (w : Traced) : Prop where
  running : w.loop.turn ≠ .panicked .slice
  recorded : ∀ f ∈ w.failed, ∃ record, (f.1, record) ∈ w.loop.recorded ∧
    ∃ error ∈ record.lastError, Truncates f.2 error

theorem Recorded.silent {w u : Traced} (recorded : w.Recorded) (failed : u.failed = w.failed)
    (kept : w.loop.recorded <+: u.loop.recorded) (running : u.loop.turn ≠ .panicked .slice) :
    u.Recorded where
  running := running
  recorded := by
    rw [failed]
    intro f member
    obtain ⟨record, stored, cut⟩ := recorded.recorded f member
    exact ⟨record, kept.subset stored, cut⟩

/-- A tick whose message is cut between characters has it recorded. -/
theorem Recorded.tick {w u : Traced} {entry : Entry} {tickStart wall : Nat} {outcome : TickOutcome}
    (recorded : w.Recorded) (cuts : ∀ message ∈ outcome.message entry.timeout, Cuts message)
    (ticked : u.loop = w.loop.tick entry tickStart wall outcome)
    (failed : u.failed = w.failed ++
      ((outcome.message entry.timeout).map (entry.name, ·)).toList) : u.Recorded := by
  obtain ⟨record, said, same⟩ := @RunLoop.tick_eq w.loop entry tickStart wall outcome cuts
  obtain ⟨later, running⟩ := @RunLoop.reschedule_recorded (w.loop.record entry.name record)
    { entry with consecutiveFailures := RunLoop.recount entry outcome } tickStart wall
    (RunLoop.interval entry outcome)
  rw [← same, ← ticked] at later running
  refine ⟨running, ?_⟩
  rw [failed]
  intro f member
  rcases List.mem_append.mp member with before | now
  · obtain ⟨record', stored, cut⟩ := recorded.recorded f before
    exact ⟨record', later.subset (List.mem_append_left _ stored), cut⟩
  · rw [Option.mem_toList, Option.map_eq_some_iff] at now
    obtain ⟨message, spoken, rfl⟩ := now
    obtain ⟨error, cut⟩ := Option.isSome_iff_exists.mp
      (truncateError_isSome_iff.mpr (cuts message spoken))
    refine ⟨record, later.subset (List.mem_append_right _ List.mem_cons_self), error, ?_,
      truncates_of_truncateError cut⟩
    exact (said message spoken).trans cut

theorem recorded_step_iff {w u : Traced} {event : LoopEvent} (recorded : w.Recorded)
    (stepped : w.step event = some u) : u.Recorded ↔ w.loop.CutsErrors event := by
  obtain ⟨loop, moved, rfl⟩ := Option.map_eq_some_iff.mp stepped
  have quiet (silent : w.loop.finishes event = none) : w.loop.CutsErrors event := by
    intro entry error finished
    cases silent.symm.trans finished
  cases RunLoop.effect moved with
  | idle idle =>
      refine iff_of_true (recorded.silent ?_ idle.recorded ?_) (quiet idle.finishes)
      · simp only [idle.finishes, Option.bind_none, Option.toList_none, List.append_nil]
      · exact fun panicked => recorded.running (idle.panicked panicked)
  | returns stopped silent _ =>
      refine iff_of_true (recorded.silent ?_ ?_ ?_) (quiet silent)
      · simp only [silent, Option.bind_none, Option.toList_none, List.append_nil]
      · rw [stopped]
        exact List.prefix_refl _
      · rw [stopped]
        nofun
  | pops selecting popped due left =>
      refine iff_of_true (recorded.silent ?_ ?_ ?_) (quiet rfl)
      · exact List.append_nil _
      · rw [left]
      · rw [left]
        nofun
  | @ends entry tickStart outcome wall building ticked =>
      have finishes : w.loop.finishes (.done outcome wall) = some (entry, outcome) := by
        rw [RunLoop.finishes, building]
      constructor
      · rintro ⟨running, _⟩ _ error finished
        obtain ⟨rfl, rfl⟩ := Prod.mk.inj (Option.some.inj (finishes.symm.trans finished))
        by_contra torn
        apply running
        have sliced := @RunLoop.tick_sliced w.loop entry tickStart wall (.failed error) error rfl torn
        dsimp only
        rw [ticked, sliced]
        rfl
      · intro cuts
        refine recorded.tick ?_ ticked ?_
        · intro message said
          cases outcome with
          | timeout => exact cuts_timeout said
          | failed error =>
              obtain rfl := Option.some.inj said
              exact cuts entry error finishes
          | coalesced => cases said
          | published stats => cases said
        · simp only [finishes, Option.bind_some]

theorem start_recorded (schedules : List DatasetSchedule) (now : Nat) (rng : UInt64) :
    (start schedules now rng).Recorded := by
  constructor
  · intro panicked
    rw [start, RunLoop.start] at panicked
    split at panicked <;> cases panicked
  · intro failure member
    cases member

end Traced

/-- An error is cut to its record just when it is short or a character ends with its first 499
bytes, and no error ends the loop or is missing from the records just when that holds of all errors
of the builds: what is said of a timeout is always cut. -/
theorem error_recorded_iff {schedules : List DatasetSchedule} {now : Nat} {rng : UInt64}
    {events : List LoopEvent} {t : Traced}
    (run : Run Traced.step Anything (.start schedules now rng) events t) :
    (∀ msg, (∃ error, truncateError msg = some error ∧ Truncates msg error) ↔ Cuts msg) ∧
    ((∀ before u, before <+: events →
        Run Traced.step Anything (.start schedules now rng) before u → u.Recorded) ↔
      Run Traced.step (fun w event => w.loop.CutsErrors event) (.start schedules now rng)
        events t) := by
  constructor
  · intro msg
    rw [← truncateError_isSome_iff, Option.isSome_iff_exists]
    constructor
    · rintro ⟨error, cut, _⟩
      exact ⟨error, cut⟩
    · rintro ⟨error, cut⟩
      exact ⟨error, cut, truncates_of_truncateError cut⟩
  · rw [run.always_iff (P := Traced.Recorded) (J := fun _ => True) trivial]
    · exact and_iff_right (Traced.start_recorded schedules now rng)
    · exact fun _ _ => trivial
    · intro w event u _ recorded stepped
      exact Traced.recorded_step_iff recorded stepped

/-- A tick that times out. -/
theorem error_recorded_timeout :
    (∀ msg, (∃ error, truncateError msg = some error ∧ Truncates msg error) ↔ Cuts msg) ∧
    ∃ t, Run Traced.step Anything (.start [⟨"orders", 60000, 30000, false⟩] 0 0)
        [.advance 60000000000, .fire, .acquired, .done .timeout 0] t ∧
      ∀ before u, before <+: [LoopEvent.advance 60000000000, .fire, .acquired, .done .timeout 0] →
        Run Traced.step Anything (.start [⟨"orders", 60000, 30000, false⟩] 0 0) before u →
        u.Recorded := by
  have ran : Run Traced.step (fun w event => w.loop.CutsErrors event)
      (.start [⟨"orders", 60000, 30000, false⟩] 0 0)
      [.advance 60000000000, .fire, .acquired, .done .timeout 0] _ :=
    .snoc (.snoc (.snoc (.snoc (.nil _) nofun rfl) nofun rfl) nofun rfl)
      (by rintro _ _ ⟨⟩) rfl
  have run : Run Traced.step Anything _ _ _ := ran.weaken fun _ _ _ => trivial
  exact ⟨(error_recorded_iff run).1, _, run, (error_recorded_iff run).2.mpr ran⟩

/-- A build whose error has a character across the cut ends the loop. -/
theorem error_panics : ¬ ((∀ msg, ∃ error, truncateError msg = some error ∧ Truncates msg error) ∧
    ∀ (schedules : List DatasetSchedule) (now : Nat) (rng : UInt64) (events : List LoopEvent)
      (t : Traced), Run Traced.step Anything (.start schedules now rng) events t →
      t.Recorded) := by
  rintro ⟨_, recorded⟩
  have built : Run Traced.step Anything (.start [⟨"orders", 60000, 30000, false⟩] 0 0)
      [.advance 60000000000, .fire, .acquired] _ :=
    .snoc (.snoc (.snoc (.nil _) trivial rfl) trivial rfl) trivial rfl
  have run := built.snoc (a := .done (.failed (tornError 498)) 0) trivial rfl
  have running := (recorded _ _ _ _ _ run).running
  have torn (s : RunLoop) (entry : Entry) (tickStart : Nat) :
      s.tick entry tickStart 0 (.failed (tornError 498)) = s.stop (.panicked .slice) :=
    RunLoop.tick_sliced rfl tornError_torn
  simp only [torn] at running
  exact running rfl

end Datapress.Refresh
