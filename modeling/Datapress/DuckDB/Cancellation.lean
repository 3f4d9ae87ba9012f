import Datapress.DuckDB.ReloadAtomicity
import Datapress.Library.Machine

/-! Reloads and scheduled ticks of one dataset whose futures can be dropped. A build runs on
a blocking thread to its end, whether or not the reload that has started it still waits. -/
namespace Datapress.DuckDB
open Datapress.Storage
open Machine (Run)

variable {Rows : Type}

/-- The reload that holds the lock of the dataset. -/
inductive Holder where
  | building
  | built (result : Except AppError (DatasetSchema × Int))

structure Service (Rows : Type) extends Registry Rows where
  engine : Engine Rows
  /-- The reloads that wait for the lock. -/
  waiting : Nat := 0
  holder : Option Holder := none
  /-- The builds that run on after their reload was dropped. -/
  orphans : Nat := 0

inductive Action (Rows : Type) where
  | reload
  | tick
  | acquire
  | finish (outside : Outside)
  | record
  /-- A reload is dropped while it waits for the lock. -/
  | leave
  /-- The reload that holds the lock is dropped. -/
  | abandon
  | finishOrphan (outside : Outside)
  /-- The data behind the sources changes. -/
  | upstream (execute : String → Db Rows → Except AppError Rows)
    (scan : String → Except AppError Rows)

/-- What a reload does when its build has ended. -/
def Registry.record (s : Registry Rows) : Except AppError (DatasetSchema × Int) → Registry Rows
  | .ok (schema, rows) =>
    { s with schema := some schema, rowCount := some rows, status := some .published }
  | .error _ => { s with status := some (if s.schema.isSome then .published else .failed) }

namespace Service

/-- `reload_inner` up to the blocking build. -/
def start (s : Service Rows) : Service Rows :=
  { s with status := some .building, holder := some .building }

def replaceSources (s : Service Rows) (execute : String → Db Rows → Except AppError Rows)
    (scan : String → Except AppError Rows) : Service Rows :=
  { s with engine := { s.engine with execute, scan } }

section
variable [ToLowercase] (storage : Option MaterializationStorage) (d : BuildConfig)

def step (action : Action Rows) (s : Service Rows) : Option (Service Rows) :=
  match action, s.holder with
  | .reload, _ => some { s with waiting := s.waiting + 1 }
  | .tick, none => some s.start
  | .tick, some _ => some s
  | .acquire, none => if 0 < s.waiting then some { s.start with waiting := s.waiting - 1 } else none
  | .finish outside, some .building =>
    let (result, db) := rebuild s.engine storage outside d s.db
    some { s with db, holder := some (.built (result.map fun built => (built.1, built.2.1))) }
  | .record, some (.built result) =>
    some { s with toRegistry := s.toRegistry.record result, holder := none }
  | .leave, _ => if 0 < s.waiting then some { s with waiting := s.waiting - 1 } else none
  | .abandon, some .building => some { s with holder := none, orphans := s.orphans + 1 }
  | .abandon, some (.built _) => some { s with holder := none }
  | .finishOrphan outside, _ =>
    if 0 < s.orphans then
      some { s with db := (rebuild s.engine storage outside d s.db).2, orphans := s.orphans - 1 }
    else none
  | .upstream execute scan, _ => some (s.replaceSources execute scan)
  | _, _ => none

/-- The rows that the dataset serves. -/
def Serves (s : Service Rows) (rows : Rows) : Prop := s.engine.rows s.db d.name = .ok rows

/-- The schema and the count that describe the rows. -/
def Fits (s : Service Rows) (rows : Rows) (schema : DatasetSchema) (count : Int) : Prop :=
  (DatasetSchema.new d.name (s.engine.columns rows)).withFilters d.predicateFilter
    d.projectionFilter = .ok schema ∧ count = s.engine.count rows

/-- The builds that run on a blocking thread. -/
def running (s : Service Rows) : Nat :=
  s.orphans + match s.holder with
    | some .building => 1
    | _ => 0

/-- While no reload holds the lock and no build runs, the caches describe what is served,
and two builds never run together. -/
structure Coherent (s : Service Rows) : Prop where
  cached : s.holder = none → s.orphans = 0 → ∀ rows, s.Serves d rows →
    s.status = some .published ∧
      ∃ schema count, s.schema = some schema ∧ s.rowCount = some count ∧ s.Fits d rows schema count
  alone : s.running ≤ 1

/-- A reload is dropped with the lock only while nothing is served, its build then fails
before it starts the next one; a build recovers from its failures; and the data behind what
is served does not change. -/
def Undisturbed (s : Service Rows) : Action Rows → Prop
  | .tick => s.holder = none → s.orphans = 0
  | .acquire => s.orphans = 0
  | .finish outside => Recovers s.engine storage outside d s.db ∧
      s.db.relations.lookup d.name ≠ some (.view (.generation outside.genId))
  | .abandon => ∀ rows, ¬ s.Serves d rows
  | .finishOrphan _ => course s.engine storage d s.db = .stops
  | .upstream execute scan => ∀ rows, (s.replaceSources execute scan).Serves d rows ↔ s.Serves d rows
  | _ => True

/-- The caches describe what is served. -/
def Described (s : Service Rows) : Prop := ∀ rows, s.Serves d rows →
  ∃ schema count, s.schema = some schema ∧ s.rowCount = some count ∧ s.Fits d rows schema count

/-- The result of the build that the lock is held for describes what is served, and before
there is one the caches do. -/
structure Sound (s : Service Rows) : Prop where
  orphans : s.orphans = 0 ∨ s.orphans = 1 ∧ s.holder = none ∧ ∀ rows, ¬ s.Serves d rows
  described : (∀ schema count, s.holder ≠ some (.built (.ok (schema, count)))) → s.Described d
  built : ∀ schema count, s.holder = some (.built (.ok (schema, count))) →
    ∀ rows, s.Serves d rows → s.Fits d rows schema count
  status : s.holder = none → ∀ rows, s.Serves d rows → s.status = some .published

variable {storage d} {s t : Service Rows}

theorem Sound.coherent (sound : s.Sound d) : s.Coherent d where
  cached free _ rows serves := by
    have described := sound.described (by rw [free]; nofun) rows serves
    exact ⟨sound.status free rows serves, described⟩
  alone := by
    obtain none | ⟨one, free, _⟩ := sound.orphans
    · rw [running, none]
      split <;> omega
    · rw [running, one, free]
      exact le_rfl

theorem sound_of_coherent (coherent : s.Coherent d) (free : s.holder = none) (none : s.orphans = 0) :
    s.Sound d where
  orphans := .inl none
  described _ rows serves := (coherent.cached free none rows serves).2
  built _ _ held := by
    rw [free] at held
    cases held
  status _ rows serves := (coherent.cached free none rows serves).1

/-- A build that has succeeded has described and counted what is served. -/
theorem rebuild_fits {outside : Outside} {engine : Engine Rows} {db t : Db Rows}
    {schema : DatasetSchema} {count : Int} {flags : Bool × Bool}
    (ran : rebuild engine storage outside d db = (.ok (schema, count, flags), t)) {rows : Rows}
    (serves : engine.rows t d.name = .ok rows) :
    (DatasetSchema.new d.name (engine.columns rows)).withFilters d.predicateFilter
      d.projectionFilter = .ok schema ∧ count = engine.count rows := by
  have held : (rebuild engine storage outside d).wp (fun built t => ∀ rows,
      engine.rows t d.name = .ok rows →
        (DatasetSchema.new d.name (engine.columns rows)).withFilters d.predicateFilter
          d.projectionFilter = .ok built.1 ∧ built.2.1 = engine.count rows) (fun _ _ => True) db := by
    rw [rebuild, Attempt.wp_bind]
    refine Attempt.wp_iff.mpr ⟨fun _ t _ => ?_, fun _ _ _ => trivial⟩
    rw [Attempt.wp_bind]
    cases read : engine.rows t d.name with
    | error e =>
        rw [introspectSchema, Attempt.wp_inspect, read]
        cases outside.faults .describeAgain <;> exact trivial
    | ok served =>
        cases accepted : (DatasetSchema.new d.name (engine.columns served)).withFilters
            d.predicateFilter d.projectionFilter with
        | error e => exact (introspectSchema_wp_of_error read accepted).mpr trivial
        | ok schema =>
            rw [introspectSchema_wp_of_ok read accepted]
            split
            · rw [Attempt.wp_bind, countRows, Attempt.wp_inspect, read]
              cases outside.faults .countRows with
              | some e => exact trivial
              | none =>
                  rintro rows same
                  obtain rfl := Except.ok.inj (read.symm.trans same)
                  exact ⟨accepted, rfl⟩
            · exact trivial
  exact (Attempt.wp_iff.mp held).1 _ _ ran rows serves

/-- A build whose source fails changes nothing. -/
theorem rebuild_of_stops {outside : Outside} {engine : Engine Rows} {db : Db Rows}
    (stops : course engine storage d db = .stops) : (rebuild engine storage outside d db).2 = db := by
  have replaced : (replaceTable engine storage outside d).wp (fun _ _ => False)
      (fun _ t => t = db) db := by
    rw [replaceTable_wp, stops]
  have kept : (rebuild engine storage outside d).wp (fun _ t => t = db) (fun _ t => t = db) db := by
    rw [rebuild, Attempt.wp_bind]
    exact Attempt.wp_mono replaced (fun _ _ impossible => impossible.elim) fun _ _ same => same
  exact Attempt.wp_snd.mp kept

theorem Sound.start (sound : s.Sound d) (free : s.holder = none) (none : s.orphans = 0) :
    s.start.Sound d where
  orphans := .inl none
  described _ := sound.described (by rw [free]; nofun)
  built _ _ held := by cases held
  status held := by cases held

theorem sound_step {action : Action Rows} (sound : s.Sound d)
    (allowed : s.Undisturbed storage d action) (stepped : step storage d action s = some t) :
    t.Sound d := by
  cases action with
  | reload =>
      cases stepped
      exact ⟨sound.orphans, sound.described, sound.built, sound.status⟩
  | tick =>
      cases held : s.holder with
      | none =>
          simp only [step, held] at stepped
          cases stepped
          exact sound.start held (allowed held)
      | some holder =>
          simp only [step, held] at stepped
          cases stepped
          exact sound
  | acquire =>
      cases held : s.holder with
      | none =>
          simp only [step, held] at stepped
          obtain ⟨_, same⟩ := Option.ite_none_right_eq_some.mp stepped
          cases same
          have started := sound.start held allowed
          exact ⟨started.orphans, started.described, started.built, started.status⟩
      | some holder =>
          simp only [step, held] at stepped
          cases stepped
  | finish outside =>
      cases held : s.holder with
      | none => simp [step, held] at stepped
      | some holder =>
          cases holder with
          | built result => simp [step, held] at stepped
          | building =>
              have free : s.orphans = 0 := sound.orphans.resolve_right fun busy => by
                rw [held] at busy
                cases busy.2.1
              have described := sound.described (by rw [held]; nofun)
              simp only [step, held, Option.some.injEq] at stepped
              subst stepped
              rcases ran : rebuild s.engine storage outside d s.db with ⟨e | ⟨schema, count, flags⟩, db⟩
              · -- A build that fails leaves the rows as the caches describe them.
                have same := (Attempt.wp_iff.mp ((rebuild_recovers allowed.2).mpr allowed.1)).2 e db ran
                refine ⟨.inl free, fun _ rows serves => ?_, nofun, nofun⟩
                exact described rows (same.2.symm.trans serves)
              · refine ⟨.inl free, fun unbuilt => absurd rfl (unbuilt schema count), ?_, nofun⟩
                rintro _ _ ⟨⟩ rows serves
                exact rebuild_fits ran serves
  | record =>
      cases held : s.holder with
      | none => simp [step, held] at stepped
      | some holder =>
          cases holder with
          | building => simp [step, held] at stepped
          | built result =>
              have free : s.orphans = 0 := sound.orphans.resolve_right fun busy => by
                rw [held] at busy
                cases busy.2.1
              simp only [step, held, Option.some.injEq] at stepped
              subst stepped
              cases result with
              | ok built =>
                  obtain ⟨schema, count⟩ := built
                  have fits := sound.built _ _ held
                  exact ⟨.inl free, fun _ rows serves => ⟨schema, count, rfl, rfl, fits rows serves⟩,
                    nofun, fun _ _ _ => rfl⟩
              | error e =>
                  have described := sound.described (by rw [held]; nofun)
                  refine ⟨.inl free, fun _ => described, nofun, fun _ rows serves => ?_⟩
                  obtain ⟨schema, count, cached, _⟩ := described rows serves
                  show some (if s.schema.isSome then DatasetStatus.published else .failed) = _
                  rw [cached]
                  rfl
  | leave =>
      obtain ⟨_, same⟩ := Option.ite_none_right_eq_some.mp stepped
      cases same
      exact ⟨sound.orphans, sound.described, sound.built, sound.status⟩
  | abandon =>
      have unserved : ∀ rows, ¬ s.Serves d rows := allowed
      cases held : s.holder with
      | none => simp [step, held] at stepped
      | some holder =>
          have free : s.orphans = 0 := sound.orphans.resolve_right fun busy => by
            rw [held] at busy
            cases busy.2.1
          cases holder with
          | building =>
              simp only [step, held, Option.some.injEq] at stepped
              subst stepped
              exact ⟨.inr ⟨congrArg (· + 1) free, rfl, unserved⟩,
                fun _ rows serves => absurd serves (unserved rows), nofun,
                fun _ rows serves => absurd serves (unserved rows)⟩
          | built result =>
              simp only [step, held, Option.some.injEq] at stepped
              subst stepped
              exact ⟨.inl free, fun _ rows serves => absurd serves (unserved rows), nofun,
                fun _ rows serves => absurd serves (unserved rows)⟩
  | finishOrphan outside =>
      obtain ⟨busy, same⟩ := Option.ite_none_right_eq_some.mp stepped
      cases same
      obtain ⟨one, free, unserved⟩ := sound.orphans.resolve_left (by omega)
      have still (rows : Rows) : s.engine.rows (rebuild s.engine storage outside d s.db).2 d.name ≠
          .ok rows := by
        rw [rebuild_of_stops allowed]
        exact unserved rows
      refine ⟨.inl ?_, fun _ rows serves => absurd serves (still rows), ?_,
        fun _ rows serves => absurd serves (still rows)⟩
      · show s.orphans - 1 = 0
        omega
      · intro _ _ held
        rw [show s.holder = _ from held] at free
        cases free
  | upstream execute scan =>
      cases stepped
      have same (rows : Rows) := allowed rows
      refine ⟨?_, fun unbuilt rows serves => ?_, fun schema count held rows serves => ?_,
        fun free rows serves => ?_⟩
      · refine sound.orphans.imp_right fun ⟨one, free, unserved⟩ => ⟨one, free, fun rows serves => ?_⟩
        exact unserved rows ((same rows).mp serves)
      · exact sound.described unbuilt rows ((same rows).mp serves)
      · exact sound.built schema count held rows ((same rows).mp serves)
      · exact sound.status free rows ((same rows).mp serves)

/-- From a coherent service at rest, undisturbed reloads and ticks keep it coherent. -/
theorem reloads_coherent {actions : List (Action Rows)} (coherent : s.Coherent d)
    (free : s.holder = none) (none : s.orphans = 0)
    (run : Run (step storage d) (Undisturbed storage d) s actions t) : t.Coherent d := by
  have sound : t.Sound d := run.keeps (sound_of_coherent coherent free none)
    fun sound allowed stepped => sound_step sound allowed stepped
  exact sound.coherent

/-- A reload that nobody drops is `reload_inner`. -/
theorem reloadInner_of_run {outside : Outside} (free : s.holder = none) :
    ∃ middle built t, step storage d .tick s = some middle ∧
      step storage d (.finish outside) middle = some built ∧
      step storage d .record built = some t ∧
      t.toRegistry = (reloadInner s.engine storage outside d s.toRegistry).2 := by
  let out := rebuild s.engine storage outside d s.db
  have finished : step storage d (.finish outside) s.start = some { s.start with
      db := out.2
      holder := some (.built (out.1.map fun built => (built.1, built.2.1))) } := rfl
  refine ⟨s.start, _, _, by simp only [step, free], finished, rfl, ?_⟩
  rw [reloadInner, show rebuild s.engine storage outside d s.db = out from rfl]
  rcases out with ⟨e | ⟨schema, count, flags⟩, db⟩
  · rfl
  · rfl

end
/-! A reload that is timed out while its build runs. -/
section
attribute [local instance] asciiToLowercase

def plainEvents : BuildConfig where
  name := "events"
  sql := none
  kind := .parquet
  scanClause := .ok "read_parquet(['events/*.parquet'])"

def eventsAtRest : Service (List String) where
  db := { relations := AList.singleton "events" (.table ["id"]), dir := ∅ }
  schema := (DatasetSchema.new "events" ((columnsOnly []).columns ["id"]))
  rowCount := some 1
  status := some .published
  engine := columnsOnly ["id"]

theorem eventsAtRest_coherent : eventsAtRest.Coherent plainEvents where
  cached _ _ rows serves := by
    cases serves
    exact ⟨rfl, _, _, rfl, rfl, rfl, rfl⟩
  alone := by decide

/-- The files get a second column while the build runs. -/
def widened : Action (List String) :=
  .upstream (fun _ _ => .ok ["id", "kind"]) fun _ => .ok ["id", "kind"]

theorem reloads_coherent_widened : ∃ t,
    Run (step none plainEvents) (Undisturbed none plainEvents) eventsAtRest
      [.tick, widened, .finish { genId := "01J" }, .record] t ∧ t.Coherent plainEvents := by
  have recovers : Undisturbed none plainEvents
      (eventsAtRest.start.replaceSources (fun _ _ => .ok ["id", "kind"]) fun _ => .ok ["id", "kind"])
      (.finish { genId := "01J" }) := ⟨fun _ _ => .inl (by decide), by decide⟩
  have run : Run (step none plainEvents) (Undisturbed none plainEvents) eventsAtRest
      [.tick, widened, .finish { genId := "01J" }, .record] _ :=
    .snoc (.snoc (.snoc (.snoc (.nil _) (fun _ => rfl) rfl) (fun _ => Iff.rfl) rfl) recovers rfl)
      trivial rfl
  exact ⟨_, run, reloads_coherent eventsAtRest_coherent rfl rfl run⟩

/-- The build of a reload that was dropped leaves the dataset as building, with the old
row count, and another build can run beside it. -/
theorem dropped_reload_incoherent : ∃ t u,
    Run (step none plainEvents) Machine.Anything eventsAtRest
      [.tick, .abandon, widened, .finishOrphan { genId := "01J" }] t ∧ ¬ t.Coherent plainEvents ∧
    Run (step none plainEvents) Machine.Anything eventsAtRest [.tick, .abandon, .tick] u ∧
      ¬ u.Coherent plainEvents := by
  refine ⟨_, _, .snoc (.snoc (.snoc (.snoc (.nil _) trivial rfl) trivial rfl) trivial rfl) trivial rfl,
    fun coherent => ?_, .snoc (.snoc (.snoc (.nil _) trivial rfl) trivial rfl) trivial rfl,
    fun coherent => ?_⟩
  · have status := (coherent.cached rfl rfl ["id", "kind"] rfl).1
    revert status
    decide
  · have alone := coherent.alone
    revert alone
    decide

end
end Service
end Datapress.DuckDB
