import Datapress.DataFusion.Materialize

/-! Which generations the builds of a query dataset keep on storage. -/
namespace Datapress.DataFusion.Materialize
open Datapress.Storage
open Machine (Run Anything)

/-- What the served generation is stored under. -/
def Served.directory {Rows : Type} : Served Rows → Option String
  | .stored id => some id
  | .memory _ => none

/-- The generation that a build is about to publish. -/
def Stage.ready {Rows : Type} : Stage Rows → Option (Served Rows)
  | .adopting id | .collected id => some (.stored id)
  | .resident rows => some (.memory rows)
  | _ => none

/-- The directory that a build writes, or adopts. -/
def Stage.directory {Rows : Type} : Stage Rows → Option String
  | .adopting id | .writing id _ | .written id _ | .sealed id | .listed id _ | .collected id =>
    some id
  | .resident _ | .spilling _ => none

theorem Stage.directory_of_ready {Rows : Type} {stage : Stage Rows} {id : String}
    (ready : stage.ready = some (.stored id)) : stage.directory = some id := by
  cases stage <;> cases ready <;> rfl

namespace Builds
variable {Upstream Rows : Type} {engine : QueryEngine Upstream Rows}
  {storage : Option MaterializationStorage} {s t : Builds Upstream Rows} {id : String}
  {stuck : List String} {a : Action Upstream Rows}

/-! ### The steps -/

/-- Where the stage comes from that a build starts at. -/
def Origin (engine : QueryEngine Upstream Rows) (storage : Option MaterializationStorage)
    (s : Builds Upstream Rows) (opens : Bool) : Stage Rows → Prop
  | .adopting id => ∃ sql manifest, s.dataset.sql = some sql ∧ opens = true ∧
      reusable storage s.dataset sql s.dir = some (id, manifest)
  | .resident rows => ∃ sql, s.dataset.sql = some sql ∧
      evaluate engine storage s.dataset sql s.upstream = .ok (rows, false)
  | .spilling rows => ∃ sql, s.dataset.sql = some sql ∧
      evaluate engine storage s.dataset sql s.upstream = .ok (rows, true)
  | _ => False

/-- All that a step can do, with what it needs. -/
inductive Moves (engine : QueryEngine Upstream Rows) (storage : Option MaterializationStorage)
    (s : Builds Upstream Rows) : Action Upstream Rows → Builds Upstream Rows → Prop where
  | upstream {now} : Moves engine storage s (.upstream now) { s with upstream := now }
  | restart {dataset stuck} : Moves engine storage s (.restart dataset stuck) { s with
      dataset, dir := bootGcStorage storage stuck s.dir, served := none, jobs := [] }
  | idle {trigger opens} : Moves engine storage s (.start trigger opens) s
  | start {trigger opens stage} (origin : Origin engine storage s opens stage) :
      Moves engine storage s (.start trigger opens)
        { s with jobs := { trigger, seen := s.upstream, stage } :: s.jobs }
  | create {i id job rows} (here : s.jobs[i]? = some job) (spilling : job.stage = .spilling rows)
      (fresh : id ∉ s.used) : Moves engine storage s (.create i id)
        { s.atStage i job (.writing id rows) with
          dir := s.dir.insert id { rows := none }, used := id :: s.used }
  | write {i part id job rows} (here : s.jobs[i]? = some job)
      (writing : job.stage = .writing id rows) : Moves engine storage s (.write i part)
        { s.atStage i job (.written id rows) with
          dir := s.dir.insert id { rows := if id ∈ s.dir then some rows else part } }
  | writeManifest {i id job rows sql} (here : s.jobs[i]? = some job)
      (asked : s.dataset.sql = some sql) (written : job.stage = .written id rows) :
      Moves engine storage s (.writeManifest i)
        { s.atStage i job (.sealed id) with
          dir := s.dir.insert id { rows := s.rowsIn id, manifest := some {
            sqlHash := fnv1aHash sql, schemaHash := fnv1aHash (engine.fingerprint rows) } } }
  | list {i id job} (here : s.jobs[i]? = some job) (done : job.stage = .sealed id) :
      Moves engine storage s (.list i)
        (s.atStage i job (.listed id (s.dir.listCompleteGenerations.map (·.1))))
  | collect {i stuck id found job kept} (here : s.jobs[i]? = some job) (stores : storage = some kept)
      (listed : job.stage = .listed id found) : Moves engine storage s (.collect i stuck)
        { s.atStage i job (.collected id) with
          dir := gcStorageGenerations kept found id stuck s.dir }
  | publish {i job served} (here : s.jobs[i]? = some job)
      (ready : job.stage.ready = some served) :
      Moves engine storage s (.publish i) (s.publish i served)
  | fail {i job} (here : s.jobs[i]? = some job) :
      Moves engine storage s (.fail i) { s with jobs := s.jobs.eraseIdx i }

theorem start_moves (trigger : Trigger) (opens : Bool) :
    Moves engine storage s (.start trigger opens) (s.start engine storage trigger opens) := by
  simp only [start]
  split
  case h_1 => exact .idle
  case h_2 sql asked =>
    split
    case h_1 id manifest found =>
      refine .start ?_
      exact ⟨sql, manifest, asked, rfl, found⟩
    case h_2 =>
      split
      case h_1 rows made =>
        refine .start ?_
        exact ⟨sql, asked, made⟩
      case h_2 rows made =>
        refine .start ?_
        exact ⟨sql, asked, made⟩
      case h_3 => exact .idle

theorem step_moves (stepped : step engine storage a s = some t) :
    Moves engine storage s a t := by
  cases a with
  | upstream now => cases stepped; exact .upstream
  | restart dataset stuck => cases stepped; exact .restart
  | start trigger opens => cases stepped; exact start_moves trigger opens
  | create i id =>
      simp only [step] at stepped
      split at stepped
      case h_2 => cases stepped
      case h_1 job here =>
        split at stepped
        case h_2 => cases stepped
        case h_1 rows spilling =>
          obtain ⟨fresh, made⟩ := Option.ite_none_left_eq_some.mp stepped
          cases made
          exact .create here spilling fresh
  | write i part =>
      simp only [step] at stepped
      split at stepped
      case h_2 => cases stepped
      case h_1 job here =>
        split at stepped
        case h_2 => cases stepped
        case h_1 id rows writing => cases stepped; exact .write here writing
  | writeManifest i =>
      simp only [step] at stepped
      split at stepped
      case h_2 => cases stepped
      case h_1 job sql here asked =>
        split at stepped
        case h_2 => cases stepped
        case h_1 id rows written => cases stepped; exact .writeManifest here asked written
  | list i =>
      simp only [step] at stepped
      split at stepped
      case h_2 => cases stepped
      case h_1 job here =>
        split at stepped
        case h_2 => cases stepped
        case h_1 id done => cases stepped; exact .list here done
  | collect i stuck =>
      simp only [step] at stepped
      split at stepped
      case h_2 => cases stepped
      case h_1 job kept here =>
        split at stepped
        case h_2 => cases stepped
        case h_1 id found listed => cases stepped; exact .collect here rfl listed
  | publish i =>
      simp only [step] at stepped
      split at stepped
      case h_2 => cases stepped
      case h_1 job here =>
        cases at_stage : job.stage <;> rw [at_stage] at stepped
        case adopting | resident | collected =>
          cases stepped
          exact .publish here (by rw [at_stage]; rfl)
        all_goals cases stepped
  | fail i =>
      obtain ⟨job, here, rfl⟩ := Option.map_eq_some_iff.mp stepped
      exact .fail here

/-! ### What is in use -/

/-- The generations that builds under way write or adopt. -/
def building (s : Builds Upstream Rows) : List String :=
  s.jobs.filterMap fun job => job.stage.directory

/-- These and the one that is served. -/
def inUse (s : Builds Upstream Rows) : List String :=
  (s.served.bind Served.directory).toList ++ s.building

/-- The directories of the generations in use exist. -/
def Live (s : Builds Upstream Rows) : Prop := ∀ id ∈ s.inUse, id ∈ s.dir

/-- The build at this place is about to collect: its generation, and those it has listed. -/
def collecting (s : Builds Upstream Rows) (i : Nat) : Option (String × List String) :=
  s.jobs[i]?.bind fun job =>
    match job.stage with
    | .listed id found => some (id, found)
    | _ => none

/-- The collector of a build leaves the generation on local storage: it is complete, and it is the
build's own or one of the two newest that were listed; or its removal fails. -/
def Leaves (storage : Option MaterializationStorage) (s : Builds Upstream Rows) (id : String) :
    Action Upstream Rows → Prop
  | .collect i stuck => storage.map MaterializationStorage.backend = some .local →
      ∀ build ∈ s.collecting i, id ∈ s.dir.complete ∧
        (id = build.1 ∨ id ∈ build.2 ∧ build.2.countP (id < ·) < 2) ∨ id ∈ stuck
  | _ => True

/-- The collectors leave what is in use. -/
def Keeps (storage : Option MaterializationStorage) (s : Builds Upstream Rows)
    (a : Action Upstream Rows) : Prop := ∀ id ∈ s.inUse, s.Leaves storage id a

instance (storage : Option MaterializationStorage) (s : Builds Upstream Rows) (id : String) :
    ∀ a, Decidable (s.Leaves storage id a)
  | .collect i _ => inferInstanceAs (Decidable (_ → ∀ build ∈ s.collecting i, _))
  | .upstream _ | .restart .. | .start .. | .create .. | .write .. | .writeManifest _ | .list _
  | .publish _ | .fail _ => .isTrue trivial

instance (storage : Option MaterializationStorage) (s : Builds Upstream Rows)
    (a : Action Upstream Rows) : Decidable (s.Keeps storage a) :=
  inferInstanceAs (Decidable (∀ id ∈ s.inUse, _))

/-- What a collector has listed is what was complete then. -/
def Listing (s : Builds Upstream Rows) : Prop :=
  ∀ job ∈ s.jobs, ∀ id found, job.stage = .listed id found →
    ∃ dir : Dir Rows, found = dir.listCompleteGenerations.map (·.1)

theorem reusable_eq_some {d : QueryDataset} {sql : String} {dir : DatasetDir Rows}
    {manifest : GenerationManifest} (found : reusable storage d sql dir = some (id, manifest)) :
    manifest.sqlHash = fnv1aHash sql ∧
      ∃ generation, dir.lookup id = some generation ∧ generation.manifest = some manifest := by
  obtain ⟨_, kept⟩ := Option.ite_none_right_eq_some.mp found
  obtain ⟨kept, _, tried⟩ := Option.bind_eq_some_iff.mp kept
  rw [tryReuseGeneration] at tried
  split at tried
  case h_2 => cases tried
  case h_1 last _ _ newest =>
    obtain ⟨matched, same⟩ := Option.ite_none_right_eq_some.mp tried
    cases same
    exact ⟨matched, DatasetDir.mem_listCompleteGenerations.mp (List.mem_of_getLast? newest)⟩

theorem complete_of_reusable {d : QueryDataset} {sql : String} {dir : DatasetDir Rows}
    {manifest : GenerationManifest} (found : reusable storage d sql dir = some (id, manifest)) :
    id ∈ dir.complete := by
  obtain ⟨_, generation, here, sealed⟩ := reusable_eq_some found
  exact DatasetDir.mem_complete.mpr ⟨generation, here, by rw [sealed]; rfl⟩


theorem mem_building : id ∈ s.building ↔ ∃ job ∈ s.jobs, job.stage.directory = some id :=
  List.mem_filterMap

theorem mem_inUse : id ∈ s.inUse ↔ s.served = some (.stored id) ∨ id ∈ s.building := by
  rw [inUse, List.mem_append, Option.mem_toList, Option.bind_eq_some_iff]
  refine or_congr_left ⟨?_, fun serves => ⟨_, serves, rfl⟩⟩
  rintro ⟨served, serves, stored⟩
  cases served with
  | memory rows => cases stored
  | stored other => cases stored; exact serves

theorem collecting_eq {i : Nat} {job : Job Upstream Rows} {current : String} {found : List String}
    (here : s.jobs[i]? = some job) (listed : job.stage = .listed current found) :
    s.collecting i = some (current, found) := by
  rw [collecting, here, Option.bind_some, listed]

theorem job_of_others {i : Nat} {job new : Job Upstream Rows}
    (member : job ∈ new :: s.jobs.eraseIdx i) : job = new ∨ job ∈ s.jobs :=
  (List.mem_cons.mp member).imp_right List.mem_of_mem_eraseIdx

theorem listing_step (listing : s.Listing) (stepped : step engine storage a s = some t) :
    t.Listing := by
  have goes_on : ∀ {i : Nat} {job : Job Upstream Rows} {stage : Stage Rows},
      (∀ id found, stage = .listed id found →
        ∃ dir : Dir Rows, found = dir.listCompleteGenerations.map (·.1)) →
      ∀ other ∈ { job with stage } :: s.jobs.eraseIdx i, ∀ id found,
        other.stage = .listed id found →
        ∃ dir : Dir Rows, found = dir.listCompleteGenerations.map (·.1) := by
    intro i job stage new other member
    obtain rfl | old := job_of_others member
    · exact new
    · exact listing other old
  cases step_moves stepped with
  | upstream | idle => exact listing
  | restart => exact nofun
  | @start _ _ stage origin =>
      intro other member id found at_stage
      obtain rfl | old := List.mem_cons.mp member
      · obtain rfl : stage = .listed id found := at_stage
        exact origin.elim
      · exact listing other old id found at_stage
  | create | write | writeManifest | collect => exact goes_on nofun
  | list =>
      refine goes_on fun id found at_stage => ⟨s.dir, ?_⟩
      cases at_stage
      rfl
  | publish | fail => exact fun other member => listing other (List.mem_of_mem_eraseIdx member)

section
variable {dir fewer : Dir Rows} {found : List String} {current : String}

theorem mem_newest_listed (listed : found = dir.listCompleteGenerations.map (·.1)) :
    id ∈ found.reverse.take 2 ↔ id ∈ found ∧ found.countP (id < ·) < 2 := by
  have newest : found.reverse.take 2 = dir.newestTwo := by
    rw [DatasetDir.newestTwo, listed, List.map_take, List.map_reverse]
  have sorted : found.Perm dir.complete := by
    rw [listed, DatasetDir.map_listCompleteGenerations]
    exact List.perm_insertionSort _ _
  rw [newest, DatasetDir.mem_newestTwo, sorted.mem_iff, sorted.countP_eq]

theorem mem_keepIds (listed : found = dir.listCompleteGenerations.map (·.1)) :
    id ∈ keepIds found current ↔ id = current ∨ id ∈ found ∧ found.countP (id < ·) < 2 := by
  rw [← mem_newest_listed listed, keepIds]
  split
  · refine ⟨.inr, ?_⟩
    rintro (rfl | kept)
    · exact List.contains_iff_mem.mp ‹_›
    · exact kept
  · rw [List.mem_append, List.mem_singleton, or_comm]

theorem lookup_collected {kept : MaterializationStorage} {generation : Generation (Option Rows)}
    (here : (gcStorageGenerations kept found current stuck dir).lookup id = some generation) :
    dir.lookup id = some generation := by
  rw [gcStorageGenerations] at here
  split at here
  · exact DatasetDir.lookup_gcGenerations here
  · exact here

end

/-! ### Steps and runs -/

/-- What comes into use is there. -/
theorem inUse_step (stepped : step engine storage a s = some t) (used : id ∈ t.inUse) :
    id ∈ s.inUse ∨ id ∈ t.dir := by
  rw [mem_inUse, mem_building] at used ⊢
  have among : ∀ {jobs : List (Job Upstream Rows)} {new : Job Upstream Rows},
      (∀ job ∈ jobs, job = new ∨ job ∈ s.jobs) →
      s.served = some (.stored id) ∨ (∃ job ∈ jobs, job.stage.directory = some id) →
      (s.served = some (.stored id) ∨ ∃ job ∈ s.jobs, job.stage.directory = some id) ∨
        new.stage.directory = some id := by
    rintro jobs new among (serves | ⟨job, member, has⟩)
    · exact .inl (.inl serves)
    · obtain rfl | old := among job member
      · exact .inr has
      · exact .inl (.inr ⟨job, old, has⟩)
  have goes_on : ∀ {i : Nat} {job : Job Upstream Rows} (stage : Stage Rows),
      s.jobs[i]? = some job → job.stage.directory = stage.directory →
      (s.served = some (.stored id) ∨
        ∃ other ∈ { job with stage } :: s.jobs.eraseIdx i, other.stage.directory = some id) →
      s.served = some (.stored id) ∨ ∃ job ∈ s.jobs, job.stage.directory = some id := by
    intro i job stage here same used
    obtain old | has := among (fun other => job_of_others) used
    · exact old
    · exact .inr ⟨job, List.mem_of_getElem? here, same.trans has⟩
  cases step_moves stepped with
  | upstream | idle => exact .inl used
  | restart =>
      obtain serves | ⟨job, member, _⟩ := used
      · cases serves
      · cases member
  | @start _ _ stage origin =>
      obtain old | has := among (fun other => List.mem_cons.mp) used
      · exact .inl old
      · cases stage with
        | adopting other =>
            cases has
            obtain ⟨_, _, _, _, found⟩ := origin
            exact .inr (DatasetDir.mem_of_complete (complete_of_reusable found))
        | resident rows | spilling rows => cases has
        | writing | written | sealed | listed | collected => exact origin.elim
  | create here spilling fresh =>
      obtain old | has := among (fun other => job_of_others) used
      · exact .inl old
      · cases has
        exact .inr ((AList.mem_insert _).mpr (.inl rfl))
  | write here writing => exact .inl (goes_on (.written _ _) here (by rw [writing]; rfl) used)
  | writeManifest here _ written => exact .inl (goes_on (.sealed _) here (by rw [written]; rfl) used)
  | list here done => exact .inl (goes_on (.listed _ _) here (by rw [done]; rfl) used)
  | collect here _ listed => exact .inl (goes_on (.collected _) here (by rw [listed]; rfl) used)
  | @publish i job served here ready =>
      left
      obtain serves | ⟨other, member, has⟩ := used
      · obtain rfl : served = .stored id := Option.some.inj serves
        exact .inr ⟨job, List.mem_of_getElem? here, Stage.directory_of_ready ready⟩
      · exact .inr ⟨other, List.mem_of_mem_eraseIdx member, has⟩
  | fail here =>
      left
      obtain serves | ⟨other, member, has⟩ := used
      · exact .inl serves
      · exact .inr ⟨other, List.mem_of_mem_eraseIdx member, has⟩

/-- A collector itself changes nothing about what is in use. -/
theorem inUse_collect {i : Nat} (stepped : step engine storage (.collect i stuck) s = some t)
    (used : id ∈ s.inUse) : id ∈ t.inUse := by
  rw [mem_inUse, mem_building] at used ⊢
  cases step_moves stepped with
  | @collect _ _ current found job kept here _ listed =>
      obtain serves | ⟨other, member, has⟩ := used
      · exact .inl serves
      · right
        by_cases same : other = job
        · refine ⟨_, List.mem_cons_self, ?_⟩
          rw [same, listed] at has
          exact has
        · obtain ⟨j, there⟩ := List.mem_iff_getElem?.mp member
          have apart : j ≠ i := by
            rintro rfl
            exact same (Option.some.inj (there.symm.trans here))
          have rest : other ∈ s.jobs.eraseIdx i :=
            List.mem_eraseIdx_iff_getElem?.mpr ⟨j, apart, there⟩
          exact ⟨other, List.mem_cons_of_mem _ rest, has⟩

/-- Of what is there a collector leaves what `Leaves` says. -/
theorem mem_collected {i : Nat} (listing : s.Listing)
    (stepped : step engine storage (.collect i stuck) s = some t) (inside : id ∈ s.dir) :
    id ∈ t.dir ↔ s.Leaves storage id (.collect i stuck) := by
  cases step_moves stepped with
  | @collect _ _ current found job kept here stores listed =>
      subst stores
      obtain ⟨dir, same⟩ := listing job (List.mem_of_getElem? here) _ _ listed
      simp only [Leaves, collecting_eq here listed, Option.mem_some, forall_eq', Option.map_some,
        Option.some.injEq]
      rw [gcStorageGenerations]
      split
      case h_1 isLocal =>
        rw [DatasetDir.mem_gcGenerations, mem_keepIds same]
        simp [inside, isLocal]
      case h_2 remote => simp [inside, remote]

/-- A collector leaves what is in use just when it keeps it, and no other step removes it. -/
theorem live_step (listing : s.Listing) (live : s.Live)
    (stepped : step engine storage a s = some t) : t.Live ↔ s.Keeps storage a := by
  have always (free : ∀ id, s.Leaves storage id a) (grows : ∀ id, id ∈ s.dir → id ∈ t.dir) :
      t.Live ↔ s.Keeps storage a := by
    refine iff_of_true (fun id used => ?_) fun id _ => free id
    obtain before | there := inUse_step stepped used
    · exact grows id (live id before)
    · exact there
  cases step_moves stepped with
  | upstream | idle | start | list | publish | fail =>
      exact always (fun _ => trivial) fun _ here => here
  | create | write | writeManifest =>
      exact always (fun _ => trivial) fun _ here => (AList.mem_insert _).mpr (.inr here)
  | restart => exact iff_of_true nofun fun _ _ => trivial
  | collect =>
      constructor
      · intro still id used
        exact (mem_collected listing stepped (live id used)).mp
          (still id (inUse_collect stepped used))
      · intro keeps id used
        obtain before | there := inUse_step stepped used
        · exact (mem_collected listing stepped (live id before)).mpr (keeps id before)
        · exact there

end Builds

/-- Over a run of builds that overlap and may fail anywhere, the generation that is served and
those that builds under way write or adopt exist after every step, and with them after a publish
the generation it replaced, just when every collector keeps what is in use. -/
theorem generations_live {Upstream Rows : Type} {engine : QueryEngine Upstream Rows}
    {storage : Option MaterializationStorage} {dataset : QueryDataset} {upstream : Upstream}
    {dir : Dir Rows} {actions : List (Action Upstream Rows)} {s : Builds Upstream Rows}
    (run : Run (Builds.step engine storage) Anything (.initial dataset upstream dir) actions s) :
    ((∀ before t, before <+: actions →
        Run (Builds.step engine storage) Anything (.initial dataset upstream dir) before t →
        t.Live) ∧
      ∀ before t u i, before ++ [.publish i] <+: actions →
        Run (Builds.step engine storage) Anything (.initial dataset upstream dir) before t →
        Builds.step engine storage (.publish i) t = some u →
        (∀ id, u.served = some (.stored id) → id ∈ u.dir) ∧
          ∀ id, t.served = some (.stored id) → id ∈ u.dir) ↔
      Run (Builds.step engine storage) (Builds.Keeps storage) (.initial dataset upstream dir)
        actions s := by
  have always := run.always_iff (P := Builds.Live) (J := Builds.Listing) nofun
    Builds.listing_step Builds.live_step
  rw [and_iff_right (show Builds.Live (.initial dataset upstream dir) from nofun)] at always
  rw [← always]
  constructor
  · exact And.left
  · intro live
    refine ⟨live, fun before t u i inside early stepped => ⟨fun id serves => ?_, fun id served => ?_⟩⟩
    · exact live _ u inside (.snoc early trivial stepped) id (Builds.mem_inUse.mpr (.inl serves))
    · have serving := live before t ((List.prefix_append ..).trans inside) early id
        (Builds.mem_inUse.mpr (.inl served))
      cases Builds.step_moves stepped with
      | publish => exact serving

/-! ### Two runs -/

/-- An engine whose statements return the number their dependency publishes. -/
def counter : QueryEngine Nat Nat where
  execute _ upstream := .ok upstream
  isEmpty rows := rows == 0
  bytes _ := 8
  fingerprint _ := "n:Int64"

def onDisk : Option MaterializationStorage := some ⟨.local, 128⟩

def spilled : QueryDataset where
  name := "spilled"
  sql := some "SELECT n FROM base"
  materialize := some { residency := .lazy }

/-- The build at the place `i` writes its generation and collects. -/
def writes (i : Nat) (id : String) : List (Action Nat Nat) :=
  [.create i id, .write 0 none, .writeManifest 0, .list 0, .collect 0 []]

/-- A reload that is published. -/
def published (id : String) : List (Action Nat Nat) :=
  .start .reload true :: writes 0 id ++ [.publish 0]

/-- A reload that fails when its files are listed. -/
def unlisted (id : String) : List (Action Nat Nat) :=
  .start .reload true :: writes 0 id ++ [.fail 0]

/-- A reload comes during the build of the startup, and writes after that was published. -/
def overtaken : List (Action Nat Nat) :=
  [.start .boot true, .start .reload true] ++ writes 1 "A" ++ [.publish 0] ++ writes 0 "B" ++
    [.publish 0]

theorem generations_live_overtaken : ∃ s,
    Run (Builds.step counter onDisk) Anything (.initial spilled 1 ∅) overtaken s ∧
    s.served = some (.stored "B") ∧ s.dir.keys = ["B", "A"] ∧
    (∀ before t, before <+: overtaken →
      Run (Builds.step counter onDisk) Anything (.initial spilled 1 ∅) before t → t.Live) ∧
    ∀ before t u i, before ++ [.publish i] <+: overtaken →
      Run (Builds.step counter onDisk) Anything (.initial spilled 1 ∅) before t →
      Builds.step counter onDisk (.publish i) t = some u →
      (∀ id, u.served = some (.stored id) → id ∈ u.dir) ∧
        ∀ id, t.served = some (.stored id) → id ∈ u.dir := by
  have run : Run (Builds.step counter onDisk) Anything (.initial spilled 1 ∅) overtaken _ :=
    Machine.run_of_exec rfl
  have kept : Run (Builds.step counter onDisk) (Builds.Keeps onDisk) (.initial spilled 1 ∅)
      overtaken _ := Machine.run_of_exec rfl
  exact ⟨_, run, rfl, rfl, (generations_live run).mpr kept⟩

/-- Two reloads that fail after they were collected push the served generation out. The collector
of a build removes what a reload beside it has begun to write. -/
theorem served_generation_collected :
    (∃ s, Run (Builds.step counter onDisk) Anything (.initial spilled 1 ∅)
        (published "A" ++ unlisted "B" ++ unlisted "C") s ∧
      s.served = some (.stored "A") ∧ s.dir.keys = ["C", "B"]) ∧
    ∃ s, Run (Builds.step counter onDisk) Anything (.initial spilled 1 ∅)
        ([.start .boot true, .start .reload true, .create 0 "A"] ++ writes 1 "B") s ∧
      s.building = ["B", "A"] ∧ s.dir.keys = ["B"] :=
  ⟨⟨_, Machine.run_of_exec rfl, rfl, rfl⟩, _, Machine.run_of_exec rfl, rfl, rfl⟩

end Datapress.DataFusion.Materialize
