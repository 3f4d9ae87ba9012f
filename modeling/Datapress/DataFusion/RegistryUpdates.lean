import Mathlib.Data.Fintype.Basic
import Datapress.DataFusion.StoreProofs

/-! Operations on different datasets, in any order of their acts and one after the other. -/
namespace Datapress.DataFusion.Store
open Interleaving Machine

variable {Gen ι : Type} {tableRef : String → Option String}

/-- What an operation sees of the registry: the entries of its dataset, and its table. -/
def World.view (tableRef : String → Option String) (name : String) (w : World Gen ι) :
    Entry Gen × Option Gen :=
  (w.entry name, (tableRef name).bind fun ref => w.catalog.lookup ref)

/-- The answer of an act and what it makes of the view of its dataset. Other tables and the
owners of mutexes are not in view. -/
def Act.respond (tableRef : String → Option String) :
    (a : Act Gen) → Entry Gen × Option Gen → Ans a × Entry Gen × Option Gen
  | .config _, v => (v.1.config, v)
  | .dataset _, v => (v.1.dataset, v)
  | .status _, v => (v.1.status, v)
  | .deregisterTable name, v =>
    match tableRef name with
    | some _ => (.ok (), v.1, none)
    | none => (.error (.internal s!"failed to resolve {name}"), v)
  | .registerTable name provider, v =>
    match tableRef name, v.2 with
    | some ref, some _ => (.error (.internal s!"Execution error: The table {ref} already exists"), v)
    | some _, none => (.ok (), v.1, some provider)
    | none, _ => (.error (.internal s!"failed to resolve {name}"), v)
  | .tryLock, v => (false, v)
  | .tableNames, v => ([], v)
  | .table _, v => (none, v)
  | .insertConfig name settings, v => ((), (Act.insertConfig name settings).effect v.1, v.2)
  | .removeConfig name, v => ((), (Act.removeConfig name).effect v.1, v.2)
  | .storeDatasets edit, v => ((), (Act.storeDatasets edit).effect v.1, v.2)
  | .storeStatuses edit, v => ((), (Act.storeStatuses edit).effect v.1, v.2)
  | .recordPublish name gen, v => ((), (Act.recordPublish name gen).effect v.1, v.2)
  | .loadDatasets, v => ((), v)
  | .loadStatuses, v => ((), v)
  | .lockEntry _, v => ((), v)
  | .removeLockEntry _, v => ((), v)
  | .lock, v => ((), v)
  | .unlock, v => ((), v)
  | .build _, v => ((), v)

/-- The names are different, and so are their tables. -/
def Apart (tableRef : String → Option String) (first second : String) : Prop :=
  first ≠ second ∧ ∀ ref, tableRef first = some ref → tableRef second ≠ some ref

section
variable [DecidableEq ι] {i : ι} {a : Act Gen} {w after : World Gen ι} {own later : Locals Gen}
  {answer : Ans a} {name m : String}

theorem catalog_perform (on : a.On false name)
    (performed : perform tableRef i a w own = some (answer, after, later)) {ref : String}
    (other : tableRef name ≠ some ref) : after.catalog.lookup ref = w.catalog.lookup ref := by
  cases a with
  | deregisterTable n =>
      cases on
      simp only [perform] at performed
      split at performed
      case h_1 mine resolved =>
        cases performed
        have ne : ref ≠ mine := fun same => other (same ▸ resolved)
        exact AList.lookup_erase_ne ne
      case h_2 => cases performed; rfl
  | registerTable n provider =>
      cases on
      simp only [perform] at performed
      split at performed
      case h_1 mine resolved =>
        have ne : ref ≠ mine := fun same => other (same ▸ resolved)
        split at performed
        · cases performed; rfl
        · cases performed
          exact AList.lookup_insert_ne ne
      case h_2 => cases performed; rfl
  | _ =>
      simp only [perform] at performed
      repeat' split at performed
      all_goals first | cases performed; rfl | cases performed

theorem respond_perform (on : a.On false name) (clean : a.Clean w own)
    (performed : perform tableRef i a w own = some (answer, after, later)) :
    a.respond tableRef (w.view tableRef name) = (answer, after.view tableRef name) := by
  have entry := Act.entry_perform on clean performed name
  rw [if_pos rfl] at entry
  cases a with
  | deregisterTable n =>
      cases on
      simp only [perform] at performed
      split at performed
      case h_1 mine resolved =>
        cases performed
        simp [Act.respond, World.view, resolved, World.entry]
      case h_2 resolved =>
        cases performed
        simp [Act.respond, World.view, resolved]
  | registerTable n provider =>
      cases on
      simp only [perform] at performed
      split at performed
      case h_1 mine resolved =>
        split at performed
        case h_1 present =>
          cases performed
          simp [Act.respond, World.view, resolved, present]
        case h_2 absent =>
          cases performed
          simp [Act.respond, World.view, resolved, absent, World.entry]
      case h_2 resolved =>
        cases performed
        simp [Act.respond, World.view, resolved]
  | insertConfig _ _ | removeConfig _ | storeDatasets _ | storeStatuses _ | recordPublish _ _ =>
      cases performed
      exact Prod.ext rfl (Prod.ext entry.symm rfl)
  | config n | dataset n | status n =>
      cases on
      cases performed
      rfl
  | tryLock | tableNames | table _ => cases on
  | _ =>
      simp only [perform] at performed
      repeat' split at performed
      all_goals first | cases performed; rfl | cases performed

theorem view_perform (on : a.On false name) (clean : a.Clean w own)
    (performed : perform tableRef i a w own = some (answer, after, later))
    (apart : Apart tableRef m name) : after.view tableRef m = w.view tableRef m := by
  have entry := Act.entry_perform on clean performed m
  rw [if_neg apart.1] at entry
  refine Prod.ext entry ?_
  simp only [World.view]
  cases resolved : tableRef m with
  | none => rfl
  | some ref => exact catalog_perform on performed (apart.2 ref resolved)

end

/-! ### One after the other -/

/-- Runs the operations one after the other. -/
def runAll [DecidableEq ι] (tableRef : String → Option String) (ops : ι → Op Gen) :
    List ι → World Gen ι → Option (World Gen ι)
  | [], w => some w
  | i :: rest, w =>
    ((ops i).program.exec (semantics tableRef) i w default).bind fun (_, w, _) =>
      runAll tableRef ops rest w

/-- How far an operation alone has come: it has a mutex, it holds it, and its clones of the
maps are up to date. -/
structure Solo where
  chosen : Bool := false
  held : Bool := false
  datasets : Bool := false
  statuses : Bool := false

namespace Solo

def after (c : Solo) : Act Gen → Option Solo
  | .lockEntry _ => if c.held then none else some { c with chosen := true }
  | .lock => if c.chosen && !c.held then some { c with held := true } else none
  | .unlock => if c.held then some { c with held := false } else none
  | .loadDatasets => some { c with datasets := true }
  | .storeDatasets _ => if c.datasets then some { c with datasets := false } else none
  | .loadStatuses => some { c with statuses := true }
  | .storeStatuses _ => if c.statuses then some { c with statuses := false } else none
  | .tryLock | .tableNames | .table _ => none
  | _ => some c

def rule (a : Act Gen) (c : Solo) (post : Ans a → Solo → Prop) : Prop :=
  ∃ next, c.after a = some next ∧ ∀ answer, post answer next

/-- The state of an operation that runs alone. -/
structure Fits (c : Solo) (i : ι) (w : World Gen ι) (own : Locals Gen) : Prop where
  chosen : c.chosen = true → ∃ lock, own.lock = some lock
  held : c.held = true → ∃ lock, own.lock = some lock ∧ w.owner lock = some i
  others : ∀ lock, w.owner lock ≠ none → c.held = true ∧ own.lock = some lock
  datasets : c.datasets = true → own.newMap = w.datasets
  statuses : c.statuses = true → own.newStatuses = w.statuses

variable {c next : Solo} {i : ι} {a : Act Gen} {w : World Gen ι} {own : Locals Gen}

theorem Fits.clean (fits : c.Fits i w own) (allowed : c.after a = some next) : a.Clean w own := by
  cases a with
  | storeDatasets edit =>
      simp only [after] at allowed
      split at allowed
      · exact fits.datasets (by assumption)
      · cases allowed
  | storeStatuses edit =>
      simp only [after] at allowed
      split at allowed
      · exact fits.statuses (by assumption)
      · cases allowed
  | _ => trivial

variable [DecidableEq ι]

/-- Alone, an operation is never blocked. -/
theorem Fits.progress (tableRef : String → Option String) (fits : c.Fits i w own) (allowed : c.after a = some next) :
    ∃ result, perform tableRef i a w own = some result := by
  cases a with
  | lockEntry n =>
      simp only [perform]
      split <;> exact ⟨_, rfl⟩
  | lock =>
      simp only [after] at allowed
      split at allowed
      case isFalse => cases allowed
      case isTrue ready =>
        simp only [Bool.and_eq_true, Bool.not_eq_true'] at ready
        obtain ⟨lock, chosen⟩ := fits.chosen ready.1
        have free : w.owner lock = none := by
          by_contra owned
          exact absurd (fits.others lock owned).1 (by simp [ready.2])
        simp only [perform, chosen, free, Option.isNone_none, if_true]
        exact ⟨_, rfl⟩
  | unlock =>
      simp only [after] at allowed
      split at allowed
      case isFalse => cases allowed
      case isTrue held =>
        obtain ⟨lock, chosen, owner⟩ := fits.held held
        simp only [perform, chosen, owner, if_true]
        exact ⟨_, rfl⟩
  | tryLock => cases allowed
  | deregisterTable n =>
      simp only [perform]
      split <;> exact ⟨_, rfl⟩
  | registerTable n provider =>
      simp only [perform]
      repeat' split
      all_goals exact ⟨_, rfl⟩
  | _ => exact ⟨_, rfl⟩

theorem Fits.preserved {answer : Ans a} {later : World Gen ι} {mine : Locals Gen} (fits : c.Fits i w own)
    (allowed : c.after a = some next)
    (performed : perform tableRef i a w own = some (answer, later, mine)) :
    next.Fits i later mine := by
  cases a with
  | lockEntry n =>
      simp only [after] at allowed
      split at allowed
      case isTrue => cases allowed
      case isFalse free =>
        cases allowed
        have unlocked : ∀ lock, w.owner lock = none := by
          intro lock
          by_contra owned
          exact free (fits.others lock owned).1
        simp only [perform] at performed
        split at performed <;> cases performed
        all_goals
          exact ⟨fun _ => ⟨_, rfl⟩, fun held => absurd held free,
            fun lock owned => absurd (unlocked lock) owned, fits.datasets, fits.statuses⟩
  | lock =>
      simp only [after] at allowed
      split at allowed
      case isFalse => cases allowed
      case isTrue ready =>
        simp only [Bool.and_eq_true, Bool.not_eq_true'] at ready
        cases allowed
        simp only [perform] at performed
        repeat' split at performed
        all_goals cases performed
        rename_i lock chosen free
        refine ⟨fits.chosen, fun _ => ⟨lock, chosen, Function.update_self ..⟩, ?_, fits.datasets,
          fits.statuses⟩
        intro other owned
        by_cases same : other = lock
        · exact ⟨rfl, same ▸ chosen⟩
        · simp only [Function.update_of_ne same] at owned
          exact absurd (fits.others other owned).1 (by simp [ready.2])
  | unlock =>
      simp only [after] at allowed
      split at allowed
      case isFalse => cases allowed
      case isTrue held =>
        cases allowed
        simp only [perform] at performed
        repeat' split at performed
        all_goals cases performed
        rename_i lock chosen owner
        refine ⟨fits.chosen, fun held => (by cases held), fun other owned => ?_, fits.datasets,
          fits.statuses⟩
        by_cases same : other = lock
        · subst same
          simp at owned
        · simp only [Function.update_of_ne same] at owned
          have mine := (fits.others other owned).2
          rw [chosen] at mine
          exact absurd (Option.some.inj mine).symm same
  | tryLock | tableNames | table _ => cases allowed
  | storeDatasets edit =>
      simp only [after] at allowed
      split at allowed
      case isFalse => cases allowed
      case isTrue =>
        cases allowed
        cases performed
        exact ⟨fits.chosen, fits.held, fits.others, fun loaded => (by cases loaded), fits.statuses⟩
  | storeStatuses edit =>
      simp only [after] at allowed
      split at allowed
      case isFalse => cases allowed
      case isTrue =>
        cases allowed
        cases performed
        exact ⟨fits.chosen, fits.held, fits.others, fits.datasets, fun loaded => by cases loaded⟩
  | loadDatasets =>
      cases allowed
      cases performed
      exact ⟨fits.chosen, fits.held, fits.others, fun _ => rfl, fits.statuses⟩
  | loadStatuses =>
      cases allowed
      cases performed
      exact ⟨fits.chosen, fits.held, fits.others, fits.datasets, fun _ => rfl⟩
  | _ =>
      cases allowed
      simp only [perform] at performed
      repeat' split at performed
      all_goals cases performed
      all_goals exact ⟨fits.chosen, fits.held, fits.others, fits.datasets, fits.statuses⟩

end Solo

/-- Alone, a program does to its dataset what its answers say, and to no other. -/
theorem exec_alone [DecidableEq ι] (tableRef : String → Option String) {ρ : Type} {p : Task Gen ρ} {c : Solo} {i : ι} {w : World Gen ι}
    {own : Locals Gen} {name : String} {post : ρ → Solo → Prop} (meets : p.Meets Solo.rule c post)
    (uses : p.Uses (Act.On false name)) (fits : c.Fits i w own) :
    ∃ result u mine c, p.exec (semantics tableRef) i w own = some (result, u, mine) ∧
      post result c ∧ c.Fits i u mine ∧
      p.evaluate (Act.respond tableRef) (w.view tableRef name) = (result, u.view tableRef name) ∧
      (∀ m, Apart tableRef m name → u.view tableRef m = w.view tableRef m) ∧
      ∀ m, m ≠ name → u.entry m = w.entry m := by
  induction p generalizing c w own with
  | done result => exact ⟨result, w, own, c, rfl, meets, fits, rfl, fun _ _ => rfl, fun _ _ => rfl⟩
  | act a next ih =>
      obtain ⟨after, allowed, rest⟩ := meets
      obtain ⟨⟨answer, later, mine⟩, performed⟩ := fits.progress tableRef allowed
      have clean := fits.clean allowed
      obtain ⟨result, u, last, c, ran, ends, fits, evaluated, views, entries⟩ :=
        ih answer (rest answer) (uses.2 answer) (fits.preserved allowed performed)
      refine ⟨result, u, last, c, ?_, ends, fits, ?_, fun m apart => ?_, fun m other => ?_⟩
      · rw [Prog.exec]
        exact (congrArg (Option.bind · _) performed).trans ran
      · rw [Prog.evaluate, respond_perform uses.1 clean performed]
        exact evaluated
      · rw [views m apart, view_perform uses.1 clean performed apart]
      · rw [entries m other, Act.entry_perform uses.1 clean performed, if_neg other]

/-! ### The operations alone -/

section
variable {name : String} {c : Solo}

theorem setStatus_solo {status : DatasetStatus} {post : Unit → Solo → Prop}
    (ends : post () { c with statuses := false }) :
    (setStatus name status : Task Gen Unit).Meets Solo.rule c post :=
  ⟨_, rfl, fun _ => ⟨_, rfl, fun _ => ends⟩⟩

theorem insertDataset_solo {gen : Gen} {post : Unit → Solo → Prop}
    (ends : post () { c with datasets := false }) :
    (insertDataset name gen).Meets Solo.rule c post :=
  ⟨_, rfl, fun _ => ⟨_, rfl, fun _ => ends⟩⟩

theorem publish_solo {gen : Gen} {post : Except AppError Unit → Solo → Prop}
    (ends : ∀ result, post result { c with datasets := false, statuses := false }) :
    Prog.Meets Solo.rule (do
      insertDataset name gen
      setStatus name .published
      call (.recordPublish name gen)
      return .ok () : Task Gen (Except AppError Unit)) c post := by
  refine Prog.meets_bind.mpr (insertDataset_solo (Prog.meets_bind.mpr (setStatus_solo ?_)))
  exact ⟨_, rfl, fun _ => ends _⟩

theorem failed_solo {e : AppError} {status : DatasetStatus} {post : Except AppError Unit → Solo → Prop}
    (ends : ∀ result, post result { c with statuses := false }) :
    Prog.Meets Solo.rule (do setStatus name status; return .error e : Task Gen (Except AppError Unit))
      c post :=
  Prog.meets_bind.mpr (setStatus_solo (ends _))

/-- The operation holds its mutex, and its clones of the maps are used up. -/
abbrev Solo.guarding : Solo := { chosen := true, held := true }

variable {outcome : Except AppError Gen}

theorem guarded_solo {body : Task Gen (Except AppError Unit)}
    (meets : body.Meets Solo.rule .guarding fun _ c => c = .guarding) :
    (do call (.lockEntry name); guarded body).Meets Solo.rule {} fun _ c => c.held = false := by
  refine ⟨_, rfl, fun _ => ⟨_, rfl, fun _ => (Prog.meets_bind (p := body)).mpr ?_⟩⟩
  refine meets.mono (fun a c P Q implies => ?_) fun result c guarding => ?_
  · rintro ⟨next, allowed, rest⟩
    exact ⟨next, allowed, fun answer => implies _ _ (rest answer)⟩
  · subst guarding
    exact ⟨_, rfl, fun _ => rfl⟩

theorem buildOneStartup_solo {settings : Settings} :
    (buildOneStartup name settings (buildDataset name outcome)).Meets Solo.rule {}
      fun _ c => c.held = false := by
  refine Prog.meets_bind.mpr (setStatus_solo ⟨_, rfl, fun _ => ?_⟩)
  cases outcome with
  | error e => exact failed_solo fun _ => rfl
  | ok gen =>
      refine ⟨_, rfl, fun registered => ?_⟩
      cases registered with
      | error e => exact failed_solo fun _ => rfl
      | ok _ => exact ⟨_, rfl, fun _ => publish_solo fun _ => rfl⟩

theorem reloadInner_solo : (reloadInner name (buildDataset name outcome)).Meets Solo.rule .guarding
    fun _ c => c = .guarding := by
  refine Prog.meets_bind.mpr (setStatus_solo ⟨_, rfl, fun _ => ?_⟩)
  cases outcome with
  | error e =>
      refine ⟨_, rfl, fun found => ?_⟩
      cases found with
      | none => exact failed_solo fun _ => rfl
      | some _ => exact failed_solo fun _ => rfl
  | ok gen =>
      refine ⟨_, rfl, fun deregistered => ?_⟩
      cases deregistered with
      | error e => rfl
      | ok _ =>
          refine ⟨_, rfl, fun registered => ?_⟩
          cases registered with
          | error e => rfl
          | ok _ => exact publish_solo fun _ => rfl

theorem firstTouchBuild_solo : (firstTouchBuild name (buildDataset name outcome)).Meets Solo.rule {}
    fun _ c => c.held = false := by
  refine guarded_solo ⟨_, rfl, fun status => ?_⟩
  have built : (untouchedBuild name (buildDataset name outcome)).Meets Solo.rule .guarding
      fun _ c => c = .guarding := by
    refine ⟨_, rfl, fun config => ?_⟩
    cases config with
    | none => rfl
    | some _ =>
        refine Prog.meets_bind.mpr (setStatus_solo ⟨_, rfl, fun _ => ?_⟩)
        cases outcome with
        | error e => exact failed_solo fun _ => rfl
        | ok gen =>
            refine ⟨_, rfl, fun _ => ⟨_, rfl, fun registered => ?_⟩⟩
            cases registered with
            | error e => rfl
            | ok _ => exact publish_solo fun _ => rfl
  rcases status with _ | ⟨_ | _ | _ | _, _⟩
  case some.published => rfl
  all_goals exact built

/-- An operation that waits for its mutex drops it in the end. -/
theorem Op.solo {op : Op Gen} (waits : op.waits = true) :
    op.program.Meets Solo.rule {} fun _ c => c.held = false := by
  cases op with
  | setStatus name status => exact Prog.meets_bind.mpr (setStatus_solo rfl)
  | startup name settings outcome => exact buildOneStartup_solo
  | ensureReady name outcome =>
      refine ⟨_, rfl, fun status => ?_⟩
      rcases status with _ | ⟨_ | _ | _ | _, _ | _ | _⟩
      case some.pending.lazy => exact firstTouchBuild_solo
      all_goals rfl
  | reload name outcome =>
      refine ⟨_, rfl, fun config => ?_⟩
      cases config with
      | none => rfl
      | some _ => exact guarded_solo reloadInner_solo
  | tryReload name outcome => cases waits
  | register name settings validated outcome =>
      cases validated with
      | error e => rfl
      | ok _ =>
          refine ⟨_, rfl, fun found => ?_⟩
          cases found with
          | some _ => rfl
          | none =>
              refine guarded_solo ⟨_, rfl, fun found => ?_⟩
              cases found with
              | some _ => rfl
              | none =>
                  refine ⟨_, rfl, fun _ => ?_⟩
                  cases outcome with
                  | error e => rfl
                  | ok gen =>
                      refine ⟨_, rfl, fun registered => ?_⟩
                      cases registered with
                      | error e => rfl
                      | ok _ =>
                          refine Prog.meets_bind.mpr (insertDataset_solo ⟨_, rfl, fun _ => ?_⟩)
                          exact ⟨_, rfl, fun _ => ⟨_, rfl, fun _ => ⟨_, rfl, fun _ => rfl⟩⟩⟩
  | unregister name =>
      refine ⟨_, rfl, fun config => ?_⟩
      rcases config with _ | ⟨_ | _⟩
      case some.true =>
        refine guarded_solo ⟨_, rfl, fun _ => ⟨_, rfl, fun _ => ⟨_, rfl, fun _ => ?_⟩⟩⟩
        exact ⟨_, rfl, fun _ => ⟨_, rfl, fun _ => ⟨_, rfl, fun _ => ⟨_, rfl, fun _ => rfl⟩⟩⟩⟩
      all_goals rfl

end

/-! ### Interleaved and one after the other -/

section
variable [DecidableEq ι] {ops : ι → Op Gen}

/-- What the operations do one after the other, when their datasets are apart. -/
theorem runAll_spec (waits : ∀ i, (ops i).waits = true)
    (apart : ∀ i j, i ≠ j → Apart tableRef (ops i).name (ops j).name) {order : List ι}
    (once : order.Nodup) {w : World Gen ι} (unlocked : ∀ lock, w.owner lock = none) :
    ∃ u, runAll tableRef ops order w = some u ∧
      (∀ i ∈ order, u.view tableRef (ops i).name = ((ops i).program.evaluate (Act.respond tableRef)
        (w.view tableRef (ops i).name)).2) ∧
      (∀ i, i ∉ order → u.view tableRef (ops i).name = w.view tableRef (ops i).name) ∧
      ∀ m, (∀ i, (ops i).name ≠ m) → u.entry m = w.entry m := by
  induction order generalizing w with
  | nil => exact ⟨w, rfl, by simp, fun _ _ => rfl, fun _ _ => rfl⟩
  | cons i rest ih =>
      obtain ⟨absent, once⟩ := List.nodup_cons.mp once
      have fits : ({} : Solo).Fits i w (default : Locals Gen) :=
        ⟨nofun, nofun, fun lock owned => absurd (unlocked lock) owned, nofun, nofun⟩
      obtain ⟨result, v, own, c, ran, released, fits, evaluated, views, entries⟩ :=
        exec_alone tableRef (Op.solo (waits i)) (Op.uses_waits false (waits i)) fits
      have unlocked : ∀ lock, v.owner lock = none := by
        intro lock
        by_contra owned
        rw [(fits.others lock owned).1] at released
        cases released
      obtain ⟨u, others, ours, theirs, bystanders⟩ := ih once unlocked
      refine ⟨u, ?_, fun j member => ?_, fun j absent' => ?_, fun m other => ?_⟩
      · rw [runAll]
        exact (congrArg (Option.bind · _) ran).trans others
      · rcases List.mem_cons.mp member with rfl | later
        · rw [theirs j absent, evaluated]
        · have ne : j ≠ i := fun same => absent (same ▸ later)
          rw [ours j later, views _ (apart j i ne)]
      · obtain ⟨ne, absent'⟩ := not_or.mp (mt List.mem_cons.mpr absent')
        rw [theirs j absent', views _ (apart j i ne)]
      · rw [bystanders m other, entries m (other i).symm]

/-- No store overwrites another. -/
def StoresCleanly (s : System Gen ι) : Event ι → Prop
  | .step i =>
    match s.threads i with
    | .running (.act a _) own => a.Clean s.shared own
    | _ => True
  | _ => True

instance [DecidableEq Gen] (s : System Gen ι) : (e : Event ι) → Decidable (StoresCleanly s e)
  | .step i =>
    match ready : s.threads i with
    | .running (.act a _) own => decidable_of_iff (a.Clean s.shared own) (by simp [StoresCleanly, ready])
    | .running (.done _) _ | .idle | .returned _ | .dropped => isTrue (by simp [StoresCleanly, ready])
  | .start _ | .drop _ => isTrue trivial

/-- Operations on different datasets leave the maps that they leave one after the other,
in any order. -/
theorem no_lost_update (ops : ι → Op Gen) (waits : ∀ i, (ops i).waits = true)
    (apart : ∀ i j, i ≠ j → Apart tableRef (ops i).name (ops j).name) {w : World Gen ι}
    (unlocked : ∀ lock, w.owner lock = none) {events : List (Event ι)} {s : System Gen ι}
    (run : Run (System.step tableRef ops) StoresCleanly (Pool.initial w) events s)
    (returned : ∀ i, ∃ result, s.threads i = .returned result) {order : List ι}
    (once : order.Nodup) (all : ∀ i, i ∈ order) :
    ∃ u, runAll tableRef ops order w = some u ∧ ∀ name,
      s.shared.datasets.lookup name = u.datasets.lookup name ∧
      s.shared.statuses.lookup name = u.statuses.lookup name := by
  have cleanly : ∀ {s : System Gen ι} {i a next own}, StoresCleanly s (.step i) →
      s.threads i = .running (.act a next) own → a.Clean s.shared own := by
    intro s i a next own ok ready
    simpa only [StoresCleanly, ready] using ok
  obtain ⟨u, ran, ours, _, bystanders⟩ :=
    runAll_spec waits apart once unlocked
  refine ⟨u, ran, fun name => ?_⟩
  have same : s.shared.entry name = u.entry name := by
    by_cases mine : ∃ i, (ops i).name = name
    · obtain ⟨i, rfl⟩ := mine
      obtain ⟨result, finished⟩ := returned i
      have follows := Pool.follows_of_run (fun i w => w.view tableRef (ops i).name)
        (Act.respond tableRef) run (fun i => Op.uses_waits false (waits i))
        (fun ok ready on performed => ⟨respond_perform on (cleanly ok ready) performed,
          fun j ne => view_perform on (cleanly ok ready) performed (apart j _ ne)⟩)
        (fun _ _ _ _ => rfl) i
      rw [finished] at follows
      have seen := congrArg Prod.snd follows
      rw [← ours i (all i)] at seen
      exact congrArg Prod.fst seen
    · have other := not_exists.mp mine
      rw [bystanders name other]
      exact Pool.shared_of_run run (fun i => Op.uses_waits false (waits i))
        (P := fun (v : World Gen ι) => v.entry name = w.entry name) rfl
        (fun {s i a next own answer changed after} ok ready on performed kept => by
          rw [Act.entry_perform on (cleanly ok ready) performed, if_neg (Ne.symm (other i)), kept])
        (fun _ _ kept => kept)
  exact ⟨congrArg Entry.dataset same, congrArg Entry.status same⟩

end

/-- Reloads of two datasets. -/
def twoReloads : Bool → Op Nat
  | false => .reload "a" (.ok 2)
  | true => .reload "b" (.ok 3)

def twoDatasets : World Nat Bool :=
  load some [(⟨"a", ⟨false⟩, .eager⟩, 1), (⟨"b", ⟨false⟩, .eager⟩, 1)]

theorem twoReloads_apart : ∀ i j, i ≠ j → Apart some (twoReloads i).name (twoReloads j).name := by
  intro i j ne
  cases i <;> cases j
  · exact absurd rfl ne
  · exact ⟨by decide, fun ref same => by cases same; decide⟩
  · exact ⟨by decide, fun ref same => by cases same; decide⟩
  · exact absurd rfl ne

/-- The builds overlap, and each load is followed by its store. -/
theorem no_lost_update_two_reloads : ∃ s : System Nat Bool,
    Run (System.step some twoReloads) StoresCleanly
      (Pool.initial twoDatasets)
      (.start false :: List.replicate 8 (.step false) ++ .start true :: List.replicate 10 (.step true) ++
        List.replicate 7 (.step false) ++ List.replicate 5 (.step true)) s ∧
    ∃ u, runAll some twoReloads [true, false] twoDatasets = some u ∧
      ∀ name, s.shared.datasets.lookup name = u.datasets.lookup name ∧
        s.shared.statuses.lookup name = u.statuses.lookup name := by
  have run : Run (System.step some twoReloads) StoresCleanly
      (Pool.initial twoDatasets)
      (.start false :: List.replicate 8 (.step false) ++ .start true :: List.replicate 10 (.step true) ++
        List.replicate 7 (.step false) ++ List.replicate 5 (.step true)) _ := run_of_exec rfl
  refine ⟨_, run, no_lost_update twoReloads ?_ twoReloads_apart (fun _ => rfl) run ?_ (by decide) ?_⟩
  · decide
  · intro i
    cases i <;> exact ⟨_, rfl⟩
  · decide

/-- The reload of one dataset loads the state map, that of the other swaps its generation
in, and the first store takes it out again. -/
theorem publish_lost : ¬ ∀ (ops : Bool → Op Nat) (w : World Nat Bool),
    (∀ i, (ops i).waits = true) →
    (∀ i j, i ≠ j → Apart some (ops i).name (ops j).name) → (∀ lock, w.owner lock = none) →
    ∀ events s, Run (System.step some ops) Anything (Pool.initial w) events s →
      (∀ i, ∃ result, s.threads i = .returned result) →
      ∃ order u, runAll some ops order w = some u ∧ order.Nodup ∧ (∀ i, i ∈ order) ∧
        ∀ name, s.shared.datasets.lookup name = u.datasets.lookup name := by
  intro kept
  have run : Run (System.step some twoReloads) Anything
      (Pool.initial twoDatasets)
      (.start false :: List.replicate 9 (.step false) ++ .start true :: List.replicate 15 (.step true) ++
        List.replicate 6 (.step false)) _ := run_of_exec rfl
  obtain ⟨order, u, ran, once, all, same⟩ := kept twoReloads _ (by decide) twoReloads_apart
    (fun _ => rfl) _ _ run fun i => by cases i <;> exact ⟨_, rfl⟩
  obtain ⟨v, again, ours, _⟩ := runAll_spec (w := twoDatasets) (by decide) twoReloads_apart once
    fun _ => rfl
  cases ran.symm.trans again
  have lost : u.datasets.lookup "b" = some 1 := (same "b").symm
  have swapped : u.datasets.lookup "b" = some 3 := congrArg (·.1.dataset) (ours true (all true))
  cases lost.symm.trans swapped

end Datapress.DataFusion.Store
