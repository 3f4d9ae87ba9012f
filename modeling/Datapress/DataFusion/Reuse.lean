import Mathlib.Data.List.Perm.Basic
import Datapress.DataFusion.MaterializeProofs

/-! When a build publishes the rows of its statement, and when it adopts a generation that is
on storage already. -/
namespace Datapress.DataFusion.Materialize
open Datapress.Storage
open Machine (Run)

namespace Builds
variable {Upstream Rows : Type} {engine : QueryEngine Upstream Rows}
  {storage : Option MaterializationStorage} {s t : Builds Upstream Rows} {id : String}
  {d : QueryDataset} {upstream : Upstream} {rows : Rows} {a : Action Upstream Rows}

/-- The rows of the dataset's statement over the dependencies. -/
def Yields (engine : QueryEngine Upstream Rows) (d : QueryDataset) (upstream : Upstream)
    (rows : Rows) : Prop :=
  ∃ sql, d.sql = some sql ∧ engine.execute (applySortBy sql d.sortBy) upstream = .ok rows

/-- A manifest records the statement of the configuration and the schema of its result. -/
def Matches (engine : QueryEngine Upstream Rows) (d : QueryDataset) (upstream : Upstream)
    (manifest : GenerationManifest) : Prop :=
  ∃ sql rows, d.sql = some sql ∧ manifest.sqlHash = fnv1aHash sql ∧
    Yields engine d upstream rows ∧ manifest.schemaHash = fnv1aHash (engine.fingerprint rows)

/-- A build finds a generation it may reuse only when the server boots, and its schema is the
one the statement results in. A collector keeps what the builds under way write or adopt. -/
def Legal (engine : QueryEngine Upstream Rows) (storage : Option MaterializationStorage)
    (s : Builds Upstream Rows) : Action Upstream Rows → Prop
  | .start trigger opens => opens = true → ∀ sql id manifest, s.dataset.sql = some sql →
      reusable storage s.dataset sql s.dir = some (id, manifest) →
      trigger = .boot ∧ ∃ rows, Yields engine s.dataset s.upstream rows ∧
        manifest.schemaHash = fnv1aHash (engine.fingerprint rows)
  | .collect i stuck => ∀ id ∈ s.building, s.Leaves storage id (.collect i stuck)
  | _ => True

instance (engine : QueryEngine Upstream Rows) (storage : Option MaterializationStorage)
    (s : Builds Upstream Rows) : ∀ a, Decidable (s.Legal engine storage a)
  | .start trigger opens =>
    decidable_of_iff (opens = true → ∀ sql ∈ s.dataset.sql,
      ∀ found ∈ reusable storage s.dataset sql s.dir, trigger = .boot ∧
        ∃ rows ∈ (engine.execute (applySortBy sql s.dataset.sortBy) s.upstream).toOption,
          found.2.schemaHash = fnv1aHash (engine.fingerprint rows)) <| by
      constructor
      · intro legal opened sql id manifest asked found
        obtain ⟨boot, rows, made, schema⟩ := legal opened sql asked _ found
        exact ⟨boot, rows, ⟨sql, asked, Fallible.toOption_eq_some_iff.mp made⟩, schema⟩
      · rintro legal opened sql asked ⟨id, manifest⟩ found
        obtain ⟨boot, rows, ⟨_, same, made⟩, schema⟩ := legal opened sql id manifest asked found
        obtain rfl := Option.some.inj (same.symm.trans asked)
        exact ⟨boot, rows, Fallible.toOption_eq_some_iff.mpr made, schema⟩
  | .collect i stuck =>
    inferInstanceAs (Decidable (∀ id ∈ s.building, s.Leaves storage id (.collect i stuck)))
  | .upstream _ | .restart .. | .create .. | .write .. | .writeManifest _ | .list _ | .publish _
  | .fail _ => .isTrue trivial

/-- What a stage says of its directory and of the rows of its build. -/
def Current (engine : QueryEngine Upstream Rows) (s : Builds Upstream Rows)
    (job : Job Upstream Rows) : Prop :=
  match job.stage with
  | .adopting id => job.trigger = .boot ∧ ∃ generation manifest,
      s.dir.lookup id = some generation ∧ generation.manifest = some manifest ∧
      Matches engine s.dataset job.seen manifest
  | .resident rows | .spilling rows => Yields engine s.dataset job.seen rows
  | .writing id rows => s.dir.lookup id = some { rows := none } ∧
      Yields engine s.dataset job.seen rows
  | .written id rows => s.dir.lookup id = some { rows := some rows } ∧
      Yields engine s.dataset job.seen rows
  | .sealed id | .listed id _ | .collected id => ∃ rows manifest,
      s.dir.lookup id = some { rows := some rows, manifest := some manifest } ∧
      Yields engine s.dataset job.seen rows

/-- The generation that a build is still to seal. -/
def unsealed (job : Job Upstream Rows) : Option String :=
  match job.stage with
  | .writing id _ | .written id _ => some id
  | _ => none

/-- The builds are current, and no two of them write the same generation. -/
structure Fresh (engine : QueryEngine Upstream Rows) (s : Builds Upstream Rows) : Prop where
  used : ∀ id ∈ s.dir, id ∈ s.used
  current : ∀ job ∈ s.jobs, Current engine s job
  apart : (s.jobs.filterMap unsealed).Nodup

theorem execute_of_collectRows {sql : String}
    (made : collectRows engine d sql upstream = .ok rows) :
    engine.execute (applySortBy sql d.sortBy) upstream = .ok rows := by
  obtain ⟨found, executed, some⟩ := Fallible.bind_ok_iff.mp made
  split at some
  · cases some
  · rw [executed, some]

theorem yields_of_evaluate {sql : String} {spills : Bool} (asked : d.sql = some sql)
    (made : evaluate engine storage d sql upstream = .ok (rows, spills)) :
    Yields engine d upstream rows := by
  refine ⟨sql, asked, execute_of_collectRows ?_⟩
  unfold evaluate at made
  split at made
  case h_4 | h_5 => cases made
  all_goals
    obtain ⟨found, collected, same⟩ := Fallible.map_ok_iff.mp made
    cases same
    exact collected

/-- What a build has is there. -/
theorem Current.mem_dir {job : Job Upstream Rows} (current : Current engine s job)
    (has : job.stage.directory = some id) : id ∈ s.dir := by
  rw [← AList.lookup_isSome]
  unfold Current at current
  cases at_stage : job.stage <;> rw [at_stage] at current has <;> cases has
  case adopting =>
    obtain ⟨_, generation, _, here, _⟩ := current
    rw [here]
    rfl
  case writing | written => rw [current.1]; rfl
  case sealed | listed | collected =>
    obtain ⟨rows, manifest, here, _⟩ := current
    rw [here]
    rfl

/-- What is still to be sealed has no manifest, and everything else has one. -/
theorem Current.manifest {job : Job Upstream Rows} (current : Current engine s job)
    {generation : Generation (Option Rows)} (has : job.stage.directory = some id)
    (here : s.dir.lookup id = some generation) :
    generation.manifest = none ↔ unsealed job = some id := by
  unfold Current at current
  unfold unsealed
  cases at_stage : job.stage <;> rw [at_stage] at current has <;> cases has
  case adopting =>
    obtain ⟨_, same, manifest, there, sealed, _⟩ := current
    obtain rfl := Option.some.inj (here.symm.trans there)
    simp [sealed]
  case writing | written =>
    obtain rfl := Option.some.inj (here.symm.trans current.1)
    simp
  case sealed | listed | collected =>
    obtain ⟨rows, manifest, there, _⟩ := current
    obtain rfl := Option.some.inj (here.symm.trans there)
    simp

/-- A build depends on its own directory alone. -/
theorem Current.congr {job : Job Upstream Rows} (current : Current engine s job)
    (dataset : t.dataset = s.dataset)
    (same : ∀ id, job.stage.directory = some id → t.dir.lookup id = s.dir.lookup id) :
    Current engine t job := by
  unfold Current at current ⊢
  rw [dataset]
  cases at_stage : job.stage <;> rw [at_stage] at current same
  case resident | spilling => exact current
  all_goals
    dsimp only at current ⊢
    rw [same _ rfl]
    exact current

theorem directory_of_unsealed {job : Job Upstream Rows} (own : unsealed job = some id) :
    job.stage.directory = some id := by
  unfold unsealed at own
  split at own
  case h_1 at_stage | h_2 at_stage => rw [at_stage, ← own]; rfl
  case h_3 => cases own

theorem jobs_perm {i : Nat} {job : Job Upstream Rows} (here : s.jobs[i]? = some job) :
    (job :: s.jobs.eraseIdx i).Perm s.jobs := by
  obtain ⟨inside, rfl⟩ := List.getElem?_eq_some_iff.mp here
  exact List.getElem_cons_eraseIdx_perm inside

namespace Fresh
variable {i : Nat} {job : Job Upstream Rows}

theorem apart_others (fresh : s.Fresh engine) (here : s.jobs[i]? = some job)
    (own : unsealed job = some id) : ∀ other ∈ s.jobs.eraseIdx i, unsealed other ≠ some id := by
  intro other member same
  have distinct := ((jobs_perm here).filterMap unsealed).nodup_iff.mpr fresh.apart
  rw [List.filterMap_cons_some own, List.nodup_cons] at distinct
  exact distinct.1 (List.mem_filterMap.mpr ⟨other, member, same⟩)

/-- What a build is still to seal no other build writes or adopts. -/
theorem alone (fresh : s.Fresh engine) (here : s.jobs[i]? = some job)
    (own : unsealed job = some id) :
    ∀ other ∈ s.jobs.eraseIdx i, other.stage.directory ≠ some id := by
  intro other member has
  have current := fresh.current job (List.mem_of_getElem? here)
  have there := directory_of_unsealed own
  obtain ⟨generation, found⟩ :=
    Option.isSome_iff_exists.mp (AList.lookup_isSome.mpr (current.mem_dir there))
  have incomplete := (current.manifest there found).mpr own
  have again := fresh.current other (List.mem_of_mem_eraseIdx member)
  exact fresh.apart_others here own other member ((again.manifest has found).mp incomplete)

/-- A build goes on, and leaves the directories of the others alone. -/
theorem atStage (fresh : s.Fresh engine) (here : s.jobs[i]? = some job) {stage : Stage Rows}
    {dir : Dir Rows} {used : List String} (all : ∀ id ∈ dir, id ∈ used)
    (own : Current engine { s.atStage i job stage with dir, used } { job with stage })
    (same : ∀ other ∈ s.jobs.eraseIdx i, ∀ id, other.stage.directory = some id →
      dir.lookup id = s.dir.lookup id)
    (once : ∀ id, unsealed { job with stage } = some id →
      ∀ other ∈ s.jobs.eraseIdx i, unsealed other ≠ some id) :
    Fresh engine { s.atStage i job stage with dir, used } where
  used := all
  current other member := by
    obtain rfl | old := List.mem_cons.mp member
    · exact own
    · exact (fresh.current other (List.mem_of_mem_eraseIdx old)).congr rfl (same other old)
  apart := by
    have distinct := ((jobs_perm here).filterMap unsealed).nodup_iff.mpr fresh.apart
    have rest : ((s.jobs.eraseIdx i).filterMap unsealed).Nodup :=
      distinct.sublist ((List.sublist_cons_self _ _).filterMap unsealed)
    change (({ job with stage } :: s.jobs.eraseIdx i).filterMap unsealed).Nodup
    cases seals : unsealed { job with stage } with
    | none =>
        rw [List.filterMap_cons_none seals]
        exact rest
    | some id =>
        rw [List.filterMap_cons_some seals, List.nodup_cons]
        refine ⟨fun member => ?_, rest⟩
        obtain ⟨other, inside, same⟩ := List.mem_filterMap.mp member
        exact once id seals other inside same

theorem erase (fresh : s.Fresh engine) (i : Nat) (served : Option (Served Rows)) :
    Fresh engine { s with served, jobs := s.jobs.eraseIdx i } where
  used := fresh.used
  current job member := (fresh.current job (List.mem_of_mem_eraseIdx member)).congr rfl
    fun _ _ => rfl
  apart := fresh.apart.sublist ((List.eraseIdx_sublist _ i).filterMap unsealed)

/-- A build starts, and has sealed nothing. -/
theorem start (fresh : s.Fresh engine) {job : Job Upstream Rows}
    (current : Current engine s job) (none : unsealed job = none) :
    Fresh engine { s with jobs := job :: s.jobs } where
  used := fresh.used
  current other member := by
    obtain rfl | old := List.mem_cons.mp member
    · exact current.congr rfl fun _ _ => rfl
    · exact (fresh.current other old).congr rfl fun _ _ => rfl
  apart := by
    change ((job :: s.jobs).filterMap unsealed).Nodup
    rw [List.filterMap_cons_none none]
    exact fresh.apart

theorem mem_booted {dir : Dir Rows} (member : id ∈ bootGcStorage storage stuck dir) :
    id ∈ dir := by
  rw [bootGcStorage] at member
  split at member
  · exact (DatasetDir.mem_gcGenerations.mp member).1
  · exact member

/-- What a collector leaves it does not change. -/
theorem lookup_left (fresh : s.Fresh engine) (listing : s.Listing)
    (legal : s.Legal engine storage (.collect i stuck))
    (stepped : Builds.step engine storage (.collect i stuck) s = some t) (building : id ∈ s.building) :
    t.dir.lookup id = s.dir.lookup id := by
  obtain ⟨other, member, has⟩ := mem_building.mp building
  have inside := (fresh.current other member).mem_dir has
  have left := (mem_collected listing stepped inside).mpr (legal id building)
  obtain ⟨generation, found⟩ := Option.isSome_iff_exists.mp (AList.lookup_isSome.mpr left)
  rw [found]
  cases step_moves stepped with
  | collect => exact (lookup_collected found).symm

/-- A build under the condition stays current. -/
theorem step (fresh : s.Fresh engine) (listing : s.Listing) (legal : s.Legal engine storage a)
    (stepped : Builds.step engine storage a s = some t) : t.Fresh engine := by
  have grows : ∀ {id : String} {generation : Generation (Option Rows)}, id ∈ s.used →
      ∀ other ∈ s.dir.insert id generation, other ∈ s.used := by
    intro id generation known other member
    obtain rfl | old := (AList.mem_insert _).mp member
    · exact known
    · exact fresh.used other old
  cases step_moves stepped with
  | upstream =>
      exact ⟨fresh.used, fun job member => (fresh.current job member).congr rfl fun _ _ => rfl,
        fresh.apart⟩
  | idle => exact fresh
  | restart => exact ⟨fun id member => fresh.used id (mem_booted member), nofun, List.nodup_nil⟩
  | @start trigger opens stage origin =>
      cases stage with
      | adopting id =>
          refine fresh.start ?_ rfl
          obtain ⟨sql, manifest, asked, opened, found⟩ := origin
          obtain ⟨boot, rows, yields, schema⟩ := legal opened sql id manifest asked found
          obtain ⟨statement, generation, here, sealed⟩ := reusable_eq_some found
          exact ⟨boot, generation, manifest, here, sealed, sql, rows, asked, statement, yields,
            schema⟩
      | resident rows | spilling rows =>
          refine fresh.start ?_ rfl
          obtain ⟨sql, asked, made⟩ := origin
          exact yields_of_evaluate asked made
      | writing | written | sealed | listed | collected => exact origin.elim
  | @create i id job rows here spilling new =>
      have yields := fresh.current job (List.mem_of_getElem? here)
      rw [Current, spilling] at yields
      have apart : ∀ other ∈ s.jobs.eraseIdx i, other.stage.directory ≠ some id := by
        intro other member has
        have current := fresh.current other (List.mem_of_mem_eraseIdx member)
        exact new (fresh.used id (current.mem_dir has))
      refine fresh.atStage here ?_ ⟨AList.lookup_insert _, yields⟩ ?_ ?_
      · intro other member
        obtain rfl | old := (AList.mem_insert _).mp member
        · exact List.mem_cons_self
        · exact List.mem_cons_of_mem _ (fresh.used other old)
      · intro other member id' has
        refine AList.lookup_insert_ne ?_
        rintro rfl
        exact apart other member has
      · rintro _ ⟨⟩ other member same
        exact apart other member (directory_of_unsealed same)
  | @write i part id job rows here writing =>
      have own : unsealed job = some id := by rw [unsealed, writing]
      have current := fresh.current job (List.mem_of_getElem? here)
      have inside := current.mem_dir (directory_of_unsealed own)
      rw [Current, writing] at current
      refine fresh.atStage here (grows (fresh.used id inside)) ⟨?_, current.2⟩ ?_ ?_
      · rw [AList.lookup_insert, if_pos inside]
      · intro other member id' has
        refine AList.lookup_insert_ne ?_
        rintro rfl
        exact fresh.alone here own other member has
      · rintro _ ⟨⟩
        exact fresh.apart_others here own
  | @writeManifest i id job rows sql here asked written =>
      have own : unsealed job = some id := by rw [unsealed, written]
      have current := fresh.current job (List.mem_of_getElem? here)
      have inside := current.mem_dir (directory_of_unsealed own)
      rw [Current, written] at current
      let manifest : GenerationManifest :=
        { sqlHash := fnv1aHash sql, schemaHash := fnv1aHash (engine.fingerprint rows) }
      refine fresh.atStage here (grows (fresh.used id inside)) ⟨rows, manifest, ?_, current.2⟩ ?_
        nofun
      · rw [AList.lookup_insert, rowsIn, current.1]
        rfl
      · intro other member id' has
        refine AList.lookup_insert_ne ?_
        rintro rfl
        exact fresh.alone here own other member has
  | @list i id job here done =>
      have current := fresh.current job (List.mem_of_getElem? here)
      rw [Current, done] at current
      exact fresh.atStage here fresh.used current (fun _ _ _ _ => rfl) nofun
  | @collect i stuck id found job kept here stores listed =>
      have current := fresh.current job (List.mem_of_getElem? here)
      rw [Current, listed] at current
      obtain ⟨rows, manifest, there, yields⟩ := current
      have left (id) (building : id ∈ s.building) := fresh.lookup_left listing legal stepped building
      refine fresh.atStage here (fun other member => fresh.used other ?_)
        ⟨rows, manifest, ?_, yields⟩ ?_ nofun
      · obtain ⟨generation, found⟩ := Option.isSome_iff_exists.mp (AList.lookup_isSome.mpr member)
        exact AList.lookup_isSome.mp (by rw [lookup_collected found]; rfl)
      · refine (left id (mem_building.mpr ⟨job, List.mem_of_getElem? here, ?_⟩)).trans there
        rw [listed]
        rfl
      · intro other member id' has
        exact left id' (mem_building.mpr ⟨other, List.mem_of_mem_eraseIdx member, has⟩)
  | publish here ready => exact fresh.erase _ _
  | fail here => exact fresh.erase _ _

end Fresh
end Builds

/-- In a run whose builds reuse a generation only at boot and with the schema of the statement's
result, and whose collectors keep what the builds under way have, a reload publishes the rows of
the statement over the dependencies as they were when the build ran, and what is adopted records
the statement and its schema. -/
theorem reload_publishes_fresh {Upstream Rows : Type} {engine : QueryEngine Upstream Rows}
    {storage : Option MaterializationStorage} {dataset : QueryDataset} {upstream : Upstream}
    {dir : Dir Rows} {actions : List (Action Upstream Rows)} {s t : Builds Upstream Rows} {i : Nat}
    (run : Run (Builds.step engine storage) (Builds.Legal engine storage)
      (.initial dataset upstream dir) actions s)
    (published : Builds.step engine storage (.publish i) s = some t) :
    ∃ job served, s.jobs[i]? = some job ∧ t.served = some served ∧
      (job.trigger = .reload →
        ∃ rows, served.rows t.dir = some rows ∧ Builds.Yields engine t.dataset job.seen rows) ∧
      ∀ id, job.stage = .adopting id → job.trigger = .boot ∧ ∃ generation manifest,
        t.dir.lookup id = some generation ∧ generation.manifest = some manifest ∧
        Builds.Matches engine t.dataset job.seen manifest := by
  obtain ⟨_, fresh⟩ := run.keeps (P := fun s => s.Listing ∧ s.Fresh engine)
    ⟨nofun, fun _ member => member, nofun, List.nodup_nil⟩ fun ⟨listing, fresh⟩ legal stepped =>
      ⟨Builds.listing_step listing stepped, fresh.step listing legal stepped⟩
  cases Builds.step_moves published with
  | @publish _ job served here ready =>
      have current := fresh.current job (List.mem_of_getElem? here)
      refine ⟨job, served, here, rfl, fun reloaded => ?_, fun id adopting => ?_⟩
      · rw [Builds.Current] at current
        cases at_stage : job.stage <;> rw [at_stage] at ready current
        case adopting =>
          rw [reloaded] at current
          cases current.1
        case resident rows => cases ready; exact ⟨rows, rfl, current⟩
        case collected id =>
          cases ready
          obtain ⟨rows, manifest, there, yields⟩ := current
          refine ⟨rows, ?_, yields⟩
          change (s.dir.lookup id).bind (·.rows) = some rows
          rw [there]
          rfl
        all_goals cases ready
      · rw [Builds.Current, adopting] at current
        exact current

/-! ### Two runs -/

/-- A dataset that asks for reuse at boot, and a statement of it. -/
def reusing : QueryDataset where
  name := "reusing"
  sql := some "SELECT n FROM base"
  materialize := some { residency := .lazy, reuseOnStart := true }

/-- A reload that starts after its dependency published 2, while the build of the startup is under
way, and publishes after it. -/
theorem reload_publishes_fresh_overtaken : ∃ s t : Builds Nat Nat,
    t.dir.keys = ["B", "A"] ∧ t.served = some (.stored "B") ∧
    ∃ job served, s.jobs[0]? = some job ∧ t.served = some served ∧ (job.trigger = .reload →
      ∃ rows, served.rows t.dir = some rows ∧ Builds.Yields counter t.dataset job.seen rows) ∧
    ∀ id, job.stage = .adopting id → job.trigger = .boot ∧ ∃ generation manifest,
      t.dir.lookup id = some generation ∧ generation.manifest = some manifest ∧
      Builds.Matches counter t.dataset job.seen manifest := by
  have run : Run (Builds.step counter onDisk) (Builds.Legal counter onDisk)
      (.initial reusing 1 ∅) ([.start .boot true, .upstream 2, .start .reload true] ++
        writes 1 "A" ++ [.publish 0] ++ writes 0 "B") _ := Machine.run_of_exec rfl
  exact ⟨_, _, rfl, rfl, reload_publishes_fresh run rfl⟩

/-- A reload adopts the generation that an earlier one wrote, and publishes stale rows. -/
theorem reload_publishes_stale : ∃ s job rows,
    Run (Builds.step counter onDisk) Machine.Anything (.initial reusing 1 ∅)
      (published "A" ++ [.upstream 2, .start .reload true]) s ∧
    s.jobs[0]? = some job ∧ job.trigger = .reload ∧ job.stage = .adopting "A" ∧ job.seen = 2 ∧
    ∃ t, Builds.step counter onDisk (.publish 0) s = some t ∧ t.served = some (.stored "A") ∧
      (Served.stored "A").rows t.dir = some rows ∧
      ¬ Builds.Yields counter t.dataset job.seen rows := by
  have run : Run (Builds.step counter onDisk) Machine.Anything (.initial reusing 1 ∅)
      (published "A" ++ [.upstream 2, .start .reload true]) _ := Machine.run_of_exec rfl
  refine ⟨_, _, 1, run, rfl, rfl, rfl, rfl, _, rfl, rfl, rfl, ?_⟩
  rintro ⟨sql, asked, executed⟩
  cases executed

end Datapress.DataFusion.Materialize
