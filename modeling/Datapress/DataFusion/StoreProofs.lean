import Mathlib.Data.Fintype.Defs
import Datapress.DataFusion.Store

/-! Operations that own the entries of their dataset. An operation is inside its dataset
while it holds the mutex that the lock table has for the name, or, where it takes no lock,
from its start to its end. When stores do not overwrite each other and operations enter
one at a time, what an operation does inside is what it does alone. -/
namespace Datapress.DataFusion.Store
open Interleaving

variable {Gen ι : Type}

/-- The entries of one dataset in the maps of the store. -/
structure Entry (Gen : Type) where
  config : Option Settings
  dataset : Option Gen
  status : Option (DatasetStatus × OnStart)
  lastGood : Option Gen

def World.entry (w : World Gen ι) (name : String) : Entry Gen where
  config := w.configs.lookup name
  dataset := w.datasets.lookup name
  status := w.statuses.lookup name
  lastGood := w.lastGood.lookup name

def Edit.value : Edit Gen → Option Gen
  | .insert _ gen => some gen
  | .remove _ => none

def Edit.keeps : Edit Gen → Option Gen → Option Gen
  | .insert _ _, old => old
  | .remove _, _ => none

def StatusEdit.value : StatusEdit → Option (DatasetStatus × OnStart) →
    Option (DatasetStatus × OnStart)
  | .set _ status, old => old.map fun entry => (status, entry.2)
  | .insert _ entry, _ => some entry
  | .remove _, _ => none

@[simp] theorem Edit.lookup_apply (edit : Edit Gen) (map : Map Gen) :
    (edit.apply map).lookup edit.name = edit.value := by
  cases edit with
  | insert name gen => exact AList.lookup_insert map
  | remove name => exact AList.lookup_erase name map

theorem Edit.lookup_apply_ne (edit : Edit Gen) (map : Map Gen) {name : String}
    (other : name ≠ edit.name) : (edit.apply map).lookup name = map.lookup name := by
  cases edit with
  | insert _ gen => exact AList.lookup_insert_ne other
  | remove _ => exact AList.lookup_erase_ne other

@[simp] theorem Edit.lookup_forget (edit : Edit Gen) (map : Map Gen) :
    (edit.forget map).lookup edit.name = edit.keeps (map.lookup edit.name) := by
  cases edit with
  | insert name gen => rfl
  | remove name => exact AList.lookup_erase name map

theorem Edit.lookup_forget_ne (edit : Edit Gen) (map : Map Gen) {name : String}
    (other : name ≠ edit.name) : (edit.forget map).lookup name = map.lookup name := by
  cases edit with
  | insert _ gen => rfl
  | remove _ => exact AList.lookup_erase_ne other

@[simp] theorem StatusEdit.lookup_apply (edit : StatusEdit)
    (map : Map (DatasetStatus × OnStart)) :
    (edit.apply map).lookup edit.name = edit.value (map.lookup edit.name) := by
  cases edit with
  | set name status =>
      simp only [apply, StatusEdit.name, value]
      cases present : map.lookup name with
      | none => exact present
      | some entry => exact AList.lookup_insert map
  | insert name entry => exact AList.lookup_insert map
  | remove name => exact AList.lookup_erase name map

theorem StatusEdit.lookup_apply_ne (edit : StatusEdit) (map : Map (DatasetStatus × OnStart))
    {name : String} (other : name ≠ edit.name) :
    (edit.apply map).lookup name = map.lookup name := by
  cases edit with
  | set _ status =>
      simp only [apply]
      split
      · exact AList.lookup_insert_ne other
      · rfl
  | insert _ entry => exact AList.lookup_insert_ne other
  | remove _ => exact AList.lookup_erase_ne other

/-! ### What an act does to the entries of its dataset -/

namespace Act

/-- The acts of the operations on a dataset; only some operations try a mutex. -/
def On (tries : Bool) (name : String) : Act Gen → Prop
  | .config n | .insertConfig n _ | .removeConfig n | .dataset n | .status n => n = name
  | .storeDatasets edit => edit.name = name
  | .storeStatuses edit => edit.name = name
  | .lockEntry n | .removeLockEntry n | .build n => n = name
  | .deregisterTable n | .registerTable n _ | .recordPublish n _ => n = name
  | .loadDatasets | .loadStatuses | .lock | .unlock => True
  | .tryLock => tries = true
  | .tableNames | .table _ => False

/-- What an act answers, where the entries determine it. -/
def answers (entry : Entry Gen) : (a : Act Gen) → Ans a → Prop
  | .config _, answer => answer = entry.config
  | .dataset _, answer => answer = entry.dataset
  | .status _, answer => answer = entry.status
  | _, _ => True

def effect : Act Gen → Entry Gen → Entry Gen
  | .insertConfig _ settings, entry => { entry with config := some settings }
  | .removeConfig _, entry => { entry with config := none }
  | .storeDatasets edit, entry =>
    { entry with dataset := edit.value, lastGood := edit.keeps entry.lastGood }
  | .storeStatuses edit, entry => { entry with status := edit.value entry.status }
  | .recordPublish _ gen, entry => { entry with lastGood := some gen }
  | _, entry => entry

/-- The acts that leave the locks alone. -/
def plain : Act Gen → Bool
  | .lockEntry _ | .removeLockEntry _ | .lock | .tryLock | .unlock => false
  | _ => true

/-- A store finds in its `ArcSwap` the map that the operation loaded. -/
def Clean (w : World Gen ι) (own : Locals Gen) : Act Gen → Prop
  | .storeDatasets _ => own.newMap = w.datasets
  | .storeStatuses _ => own.newStatuses = w.statuses
  | _ => True

instance [DecidableEq Gen] (w : World Gen ι) (own : Locals Gen) :
    (a : Act Gen) → Decidable (a.Clean w own)
  | .storeDatasets _ => decidable_of_iff (own.newMap.entries = w.datasets.entries) AList.ext_iff.symm
  | .storeStatuses _ =>
    decidable_of_iff (own.newStatuses.entries = w.statuses.entries) AList.ext_iff.symm
  | .config _ | .insertConfig _ _ | .removeConfig _ | .dataset _ | .loadDatasets | .status _
  | .loadStatuses | .lockEntry _ | .removeLockEntry _ | .lock | .tryLock | .unlock | .build _
  | .deregisterTable _ | .registerTable _ _ | .recordPublish _ _ | .tableNames | .table _ =>
    isTrue trivial

variable [DecidableEq ι] {tableRef : String → Option String} {i : ι} {a : Act Gen}
  {w after : World Gen ι} {own later : Locals Gen} {answer : Ans a} {tries : Bool} {name : String}

theorem answers_perform (on : a.On tries name)
    (performed : perform tableRef i a w own = some (answer, after, later)) :
    a.answers (w.entry name) answer := by
  cases a with
  | config n | dataset n | status n =>
      cases on
      cases performed
      rfl
  | _ => trivial

/-- The acts that change the entries change those of their own dataset. -/
theorem entry_perform (on : a.On tries name) (clean : a.Clean w own)
    (performed : perform tableRef i a w own = some (answer, after, later)) (m : String) :
    after.entry m = if m = name then a.effect (w.entry m) else w.entry m := by
  cases a with
  | insertConfig _ _ | removeConfig _ | recordPublish _ _ =>
      cases on
      cases performed
      by_cases same : m = name
      · subst same
        simp [World.entry, effect]
      · simp [World.entry, same]
  | storeDatasets edit =>
      cases on
      cases performed
      simp only [Clean] at clean
      by_cases same : m = edit.name
      · subst same
        simp [World.entry, effect, clean]
      · simp [World.entry, same, edit.lookup_apply_ne _ same, edit.lookup_forget_ne _ same, clean]
  | storeStatuses edit =>
      cases on
      cases performed
      simp only [Clean] at clean
      by_cases same : m = edit.name
      · subst same
        simp [World.entry, effect, clean]
      · simp [World.entry, same, edit.lookup_apply_ne _ same, clean]
  | _ =>
      simp only [effect, ite_self]
      simp only [perform] at performed
      repeat' split at performed
      all_goals first | cases performed; rfl | cases performed

theorem plain_perform (plain : a.plain = true)
    (performed : perform tableRef i a w own = some (answer, after, later)) :
    after.locks = w.locks ∧ after.owner = w.owner ∧ after.nextLock = w.nextLock ∧
      later.lock = own.lock := by
  cases a with
  | lockEntry n | removeLockEntry n | lock | tryLock | unlock => cases plain
  | _ =>
      simp only [perform] at performed
      repeat' split at performed
      all_goals cases performed; exact ⟨rfl, rfl, rfl, rfl⟩

end Act

/-! ### The acts of the operations -/

section
variable {tries : Bool} {name : String} {α : Type}

theorem setStatus_uses (status : DatasetStatus) :
    (setStatus name status : Task Gen Unit).Uses (Act.On tries name) :=
  ⟨trivial, fun _ => ⟨rfl, fun _ => trivial⟩⟩

theorem insertDataset_uses (gen : Gen) : (insertDataset name gen).Uses (Act.On tries name) :=
  ⟨trivial, fun _ => ⟨rfl, fun _ => trivial⟩⟩

theorem buildDataset_uses (outcome : Except AppError Gen) :
    (buildDataset name outcome).Uses (Act.On tries name) :=
  ⟨rfl, fun _ => trivial⟩

theorem guarded_uses {body : Task Gen α} (uses : body.Uses (Act.On tries name)) :
    (guarded body).Uses (Act.On tries name) :=
  ⟨trivial, fun _ => uses.bind fun _ => ⟨trivial, fun _ => trivial⟩⟩

/-- The end of a successful build, from the swap on. -/
theorem publish_uses (gen : Gen) : Prog.Uses (Act.On tries name) (do
    insertDataset name gen
    setStatus name .published
    call (.recordPublish name gen)
    return .ok () : Task Gen (Except AppError Unit)) :=
  (insertDataset_uses gen).bind fun _ => (setStatus_uses _).bind fun _ => ⟨rfl, fun _ => trivial⟩

variable {build : Task Gen (Except AppError Gen)}

theorem buildOneStartup_uses (settings : Settings) (uses : build.Uses (Act.On tries name)) :
    (buildOneStartup name settings build).Uses (Act.On tries name) := by
  refine (setStatus_uses _).bind fun _ => uses.bind fun result => ?_
  cases result with
  | error e => exact (setStatus_uses _).bind fun _ => trivial
  | ok gen =>
      refine ⟨rfl, fun registered => ?_⟩
      cases registered with
      | error e => exact (setStatus_uses _).bind fun _ => trivial
      | ok _ => exact ⟨rfl, fun _ => publish_uses gen⟩

/-- The first touch under its lock, where the dataset is not published yet. -/
def untouchedBuild (name : String) (build : Task Gen (Except AppError Gen)) :
    Task Gen (Except AppError Unit) := do
  let some _ ← call (.config name) | return .error (.notFound s!"dataset: {name}")
  setStatus name .building
  match ← build with
  | .ok gen =>
    let _ ← call (.deregisterTable name)
    match ← call (.registerTable name gen) with
    | .error e => return .error e
    | .ok () =>
      insertDataset name gen
      setStatus name .published
      call (.recordPublish name gen)
      return .ok ()
  | .error e =>
    setStatus name .failed
    return .error e

theorem firstTouchBuild_uses (uses : build.Uses (Act.On tries name)) :
    (firstTouchBuild name build).Uses (Act.On tries name) := by
  have built : (untouchedBuild name build).Uses (Act.On tries name) := by
    refine ⟨rfl, fun config => ?_⟩
    cases config with
    | none => trivial
    | some _ =>
        refine (setStatus_uses _).bind fun _ => uses.bind fun result => ?_
        cases result with
        | error e => exact (setStatus_uses _).bind fun _ => trivial
        | ok gen =>
            refine ⟨rfl, fun _ => ⟨rfl, fun registered => ?_⟩⟩
            cases registered with
            | error e => trivial
            | ok _ => exact publish_uses gen
  refine ⟨rfl, fun _ => guarded_uses ⟨rfl, fun status => ?_⟩⟩
  rcases status with _ | ⟨_ | _ | _ | _, _⟩
  case some.published => trivial
  all_goals exact built

theorem ensureReady_uses (uses : build.Uses (Act.On tries name)) :
    (ensureReady name build).Uses (Act.On tries name) := by
  refine ⟨rfl, fun status => ?_⟩
  rcases status with _ | ⟨_ | _ | _ | _, _ | _ | _⟩
  case some.pending.lazy => exact firstTouchBuild_uses uses
  all_goals trivial

theorem reloadInner_uses (uses : build.Uses (Act.On tries name)) :
    (reloadInner name build).Uses (Act.On tries name) := by
  refine (setStatus_uses _).bind fun _ => uses.bind fun result => ?_
  cases result with
  | error e =>
      refine ⟨rfl, fun found => ?_⟩
      cases found with
      | none => exact (setStatus_uses _).bind fun _ => trivial
      | some _ => exact (setStatus_uses _).bind fun _ => trivial
  | ok gen =>
      refine ⟨rfl, fun deregistered => ?_⟩
      cases deregistered with
      | error e => trivial
      | ok _ =>
          refine ⟨rfl, fun registered => ?_⟩
          cases registered with
          | error e => trivial
          | ok _ => exact publish_uses gen

theorem reload_uses (uses : build.Uses (Act.On tries name)) :
    (reload name build).Uses (Act.On tries name) := by
  refine ⟨rfl, fun config => ?_⟩
  cases config with
  | none => trivial
  | some _ => exact ⟨rfl, fun _ => guarded_uses (reloadInner_uses uses)⟩

theorem tryReload_uses (uses : build.Uses (Act.On true name)) :
    (tryReload name build).Uses (Act.On true name) := by
  refine ⟨rfl, fun config => ?_⟩
  cases config with
  | none => trivial
  | some _ =>
      refine ⟨rfl, fun _ => ⟨rfl, fun taken => ?_⟩⟩
      cases taken with
      | false => trivial
      | true => exact (reloadInner_uses uses).bind fun _ => ⟨trivial, fun _ => trivial⟩

theorem register_uses (settings : Settings) (validated : Except AppError Unit)
    (uses : build.Uses (Act.On tries name)) :
    (register name settings validated build).Uses (Act.On tries name) := by
  cases validated with
  | error e => trivial
  | ok _ =>
      refine ⟨rfl, fun found => ?_⟩
      cases found with
      | some _ => trivial
      | none =>
          refine ⟨rfl, fun _ => guarded_uses ⟨rfl, fun found => ?_⟩⟩
          cases found with
          | some _ => trivial
          | none =>
              refine uses.bind fun result => ?_
              cases result with
              | error e => trivial
              | ok gen =>
                  refine ⟨rfl, fun registered => ?_⟩
                  cases registered with
                  | error e => trivial
                  | ok _ =>
                      refine (insertDataset_uses gen).bind fun _ => ⟨rfl, fun _ => ?_⟩
                      exact ⟨trivial, fun _ => ⟨rfl, fun _ => ⟨rfl, fun _ => trivial⟩⟩⟩

theorem unregister_uses : (unregister name : Task Gen _).Uses (Act.On tries name) := by
  refine ⟨rfl, fun config => ?_⟩
  rcases config with _ | ⟨_ | _⟩
  case some.true =>
    refine ⟨rfl, fun _ => guarded_uses ⟨rfl, fun _ => ⟨trivial, fun _ => ⟨rfl, fun _ => ?_⟩⟩⟩⟩
    exact ⟨rfl, fun _ => ⟨trivial, fun _ => ⟨rfl, fun _ => ⟨rfl, fun _ => trivial⟩⟩⟩⟩
  all_goals trivial

end

/-- The operations that wait for the mutex where they need it. -/
def Op.waits : Op Gen → Bool
  | .tryReload _ _ => false
  | _ => true

/-- The program of an operation has acts on its own dataset only. -/
theorem Op.uses_waits (tries : Bool) {op : Op Gen} (waits : op.waits = true) :
    op.program.Uses (Act.On tries op.name) := by
  cases op with
  | setStatus name status => exact (setStatus_uses status).bind fun _ => trivial
  | startup name settings outcome => exact buildOneStartup_uses settings (buildDataset_uses outcome)
  | ensureReady name outcome => exact ensureReady_uses (buildDataset_uses outcome)
  | reload name outcome => exact reload_uses (buildDataset_uses outcome)
  | tryReload name outcome => cases waits
  | register name settings validated outcome =>
      exact register_uses settings validated (buildDataset_uses outcome)
  | unregister name => exact unregister_uses

theorem Op.uses (op : Op Gen) : op.program.Uses (Act.On true op.name) := by
  cases op with
  | tryReload name outcome => exact tryReload_uses (buildDataset_uses outcome)
  | _ => exact uses_waits true rfl

/-! ### Ownership -/

/-- The operations that take the lock of their dataset. -/
def Op.locked : Op Gen → Bool
  | .setStatus _ _ | .startup _ _ _ => false
  | _ => true

/-- Where an operation stands: it has taken no lock yet, it is inside its dataset with
these entries, or it has left. -/
inductive Stage (Gen : Type) where
  | out
  | inside (entry : Entry Gen)
  | left

/-- What operations promise about the entries of their dataset: `rest` where no operation
is inside, `enters` where this one goes in, `may` at each act of it inside. -/
structure Discipline (Gen : Type) where
  rest : Entry Gen → Prop
  enters : Op Gen → Entry Gen → Prop
  may : Op Gen → Act Gen → Entry Gen → Prop

namespace Discipline

/-- The rule of an act. -/
def rule (d : Discipline Gen) (op : Op Gen) :
    (a : Act Gen) → Stage Gen → (Ans a → Stage Gen → Prop) → Prop
  | .lock, stage, post =>
    stage = .out ∧ ∀ entry, d.rest entry → d.enters op entry → post () (.inside entry)
  | .tryLock, stage, post => stage = .out ∧ post false .out ∧
    ∀ entry, d.rest entry → d.enters op entry → post true (.inside entry)
  | .lockEntry _, stage, post => stage = .out ∧ post () .out
  | .unlock, .inside entry, post => op.locked = true ∧ d.may op .unlock entry ∧ d.rest entry ∧
    post () .left
  | .unlock, stage, post => stage = .left ∧ post () .left
  | .removeLockEntry n, stage, post => ∃ entry, stage = .inside entry ∧ op.locked = true ∧
    d.may op (.removeLockEntry n) entry ∧ d.rest entry ∧ post () .left
  | .build n, stage, post => ∃ entry, stage = .inside entry ∧
    d.may op (.build n) entry ∧ d.rest entry ∧ post () stage
  | a, .inside entry, post => d.may op a entry ∧
    ∀ answer, a.answers entry answer → post answer (.inside (a.effect entry))
  | a, stage, post => (∀ entry, a.effect entry = entry) ∧ ∀ answer, post answer stage

/-- How an operation ends: one that takes no lock is inside all along. -/
def Ends (d : Discipline Gen) (op : Op Gen) (stage : Stage Gen) : Prop :=
  if op.locked then ∀ entry, stage ≠ .inside entry else ∃ entry, stage = .inside entry ∧ d.rest entry

/-- The program of the operation follows the discipline. -/
def Governs (d : Discipline Gen) (op : Op Gen) : Prop :=
  if op.locked then op.program.Meets (d.rule op) .out fun _ => d.Ends op
  else ∀ entry, d.rest entry → d.enters op entry →
    op.program.Meets (d.rule op) (.inside entry) fun _ => d.Ends op

section
variable {d : Discipline Gen} {op : Op Gen} {a : Act Gen} {post : Ans a → Stage Gen → Prop}

theorem rule_inside {entry : Entry Gen} (plain : a.plain = true)
    (rule : d.rule op a (.inside entry) post) : d.may op a entry ∧
      ∀ answer, a.answers entry answer → post answer (.inside (a.effect entry)) := by
  cases a with
  | build n =>
      obtain ⟨_, same, may, _, holds⟩ := rule
      cases same
      exact ⟨may, fun _ _ => holds⟩
  | lockEntry _ | removeLockEntry _ | lock | tryLock | unlock => cases plain
  | _ => exact rule

theorem rule_outside {stage : Stage Gen} (plain : a.plain = true)
    (outside : ∀ entry, stage ≠ .inside entry) (rule : d.rule op a stage post) :
    (∀ entry, a.effect entry = entry) ∧ ∀ answer, post answer stage := by
  cases a with
  | build n =>
      obtain ⟨entry, same, _⟩ := rule
      exact absurd same (outside entry)
  | lockEntry _ | removeLockEntry _ | lock | tryLock | unlock => cases plain
  | _ =>
      cases stage with
      | inside entry => exact absurd rfl (outside entry)
      | _ => exact rule

theorem rule_may {entry : Entry Gen} (rule : d.rule op a (.inside entry) post) :
    d.may op a entry := by
  by_cases plain : a.plain = true
  · exact (rule_inside plain rule).1
  · cases a with
    | lock | tryLock | lockEntry _ => cases rule.1
    | unlock => exact rule.2.1
    | removeLockEntry n =>
        obtain ⟨_, same, _, may, _⟩ := rule
        cases same
        exact may
    | _ => exact absurd rfl plain

/-- Outside, no act changes the entries. -/
theorem effect_outside {stage : Stage Gen} (outside : ∀ entry, stage ≠ .inside entry)
    (rule : d.rule op a stage post) (entry : Entry Gen) : a.effect entry = entry := by
  by_cases plain : a.plain = true
  · exact (rule_outside plain outside rule).1 entry
  · cases a with
    | lockEntry _ | removeLockEntry _ | lock | tryLock | unlock => rfl
    | _ => exact absurd rfl plain

end
end Discipline

/-- Mutexes are made in the order of their numbers. -/
def World.Bounded (w : World Gen ι) : Prop :=
  (∀ lock, w.nextLock ≤ lock → w.owner lock = none) ∧
    ∀ name lock, w.locks.lookup name = some lock → lock < w.nextLock

/-- The operation has the mutex that the lock table has for the name. -/
def Holds (w : World Gen ι) (own : Locals Gen) (name : String) (i : ι) : Prop :=
  ∃ lock ∈ own.lock, w.locks.lookup name = some lock ∧ w.owner lock = some i

instance [DecidableEq ι] (w : World Gen ι) (own : Locals Gen) (name : String) (i : ι) :
    Decidable (Holds w own name i) :=
  inferInstanceAs (Decidable (∃ lock ∈ own.lock, _ ∧ _))

/-- Operation `i` is inside its dataset. -/
def Inside (ops : ι → Op Gen) (s : System Gen ι) (i : ι) : Prop :=
  match s.threads i with
  | .running _ own => (ops i).locked = true → Holds s.shared own (ops i).name i
  | _ => False

instance [DecidableEq ι] (ops : ι → Op Gen) (s : System Gen ι) (i : ι) :
    Decidable (Inside ops s i) :=
  match ready : s.threads i with
  | .running _ own =>
    decidable_of_iff ((ops i).locked = true → Holds s.shared own (ops i).name i) (by simp [Inside, ready])
  | .idle | .returned _ | .dropped => isFalse (by simp [Inside, ready])

/-- The act takes the mutex. -/
def Act.Takes (w : World Gen ι) (own : Locals Gen) : Act Gen → Prop
  | .lock => True
  | .tryLock => ∃ lock ∈ own.lock, w.owner lock = none
  | _ => False

instance (w : World Gen ι) (own : Locals Gen) : (a : Act Gen) → Decidable (a.Takes w own)
  | .lock => isTrue trivial
  | .tryLock => inferInstanceAs (Decidable (∃ lock ∈ own.lock, _))
  | .config _ | .insertConfig _ _ | .removeConfig _ | .dataset _ | .loadDatasets
  | .storeDatasets _ | .status _ | .loadStatuses | .storeStatuses _ | .lockEntry _
  | .removeLockEntry _ | .unlock | .build _ | .deregisterTable _ | .registerTable _ _
  | .recordPublish _ _ | .tableNames | .table _ => isFalse id

/-- The steps that respect ownership. An operation without a lock starts while none is
inside the dataset; a mutex taken is the one the lock table has, while no operation
without a lock is inside; either way the entries are as `enters` asks. No store
overwrites another. -/
def Orderly (enters : Op Gen → Entry Gen → Prop) (ops : ι → Op Gen) (s : System Gen ι) :
    Event ι → Prop
  | .start i => (ops i).locked = false → enters (ops i) (s.shared.entry (ops i).name) ∧
    ∀ j, (ops j).name = (ops i).name → ¬ Inside ops s j
  | .step i =>
    match s.threads i with
    | .running (.act a _) own => a.Clean s.shared own ∧ (a.Takes s.shared own →
        own.lock = s.shared.locks.lookup (ops i).name ∧
        enters (ops i) (s.shared.entry (ops i).name) ∧
        ∀ j, (ops j).locked = false → (ops j).name = (ops i).name → ¬ Inside ops s j)
    | _ => True
  | .drop _ => True

instance [DecidableEq ι] [Fintype ι] [DecidableEq Gen] (enters : Op Gen → Entry Gen → Prop)
    [∀ op entry, Decidable (enters op entry)] (ops : ι → Op Gen) (s : System Gen ι) :
    (e : Event ι) → Decidable (Orderly enters ops s e)
  | .start _ => inferInstanceAs (Decidable (_ → _ ∧ _))
  | .step i =>
    match ready : s.threads i with
    | .running (.act a _) own =>
      decidable_of_iff (a.Clean s.shared own ∧ (a.Takes s.shared own →
        own.lock = s.shared.locks.lookup (ops i).name ∧
        enters (ops i) (s.shared.entry (ops i).name) ∧
        ∀ j, (ops j).locked = false → (ops j).name = (ops i).name → ¬ Inside ops s j))
        (by simp [Orderly, ready])
    | .running (.done _) _ | .idle | .returned _ | .dropped => isTrue (by simp [Orderly, ready])
  | .drop _ => isTrue trivial

/-- An operation stands where its program takes it to be. -/
def Stands (ops : ι → Op Gen) (s : System Gen ι) (i : ι) : Stage Gen → Prop
  | .out => ¬ Inside ops s i ∧ ∀ lock, s.shared.owner lock ≠ some i
  | .inside entry => Inside ops s i ∧ entry = s.shared.entry (ops i).name
  | .left => ¬ Inside ops s i

/-- A running operation has acts on its dataset left, and they follow the discipline. -/
def Obeys (d : Discipline Gen) (ops : ι → Op Gen) (s : System Gen ι) (i : ι) : Prop :=
  ∀ rest own, s.threads i = .running rest own → rest.Uses (Act.On true (ops i).name) ∧
    ∃ stage, Stands ops s i stage ∧ rest.Meets (d.rule (ops i)) stage fun _ => d.Ends (ops i)

/-- The invariant: operations inside a dataset are alone there, and keep their promises. -/
structure Owned (d : Discipline Gen) (ops : ι → Op Gen) (s : System Gen ι) : Prop where
  alone : ∀ i j, Inside ops s i → Inside ops s j → (ops i).name = (ops j).name → i = j
  obeys : ∀ i, Obeys d ops s i
  rests : ∀ name, (∀ i, (ops i).name = name → ¬ Inside ops s i) → d.rest (s.shared.entry name)
  bounded : s.shared.Bounded
  idle : ∀ i, s.threads i = .idle → ∀ lock, s.shared.owner lock ≠ some i

section
variable [DecidableEq ι] {tableRef : String → Option String} {i j : ι} {a : Act Gen}
  {w after : World Gen ι} {own later other : Locals Gen} {answer : Ans a} {tries : Bool}
  {name m : String}

theorem owner_perform (performed : perform tableRef i a w own = some (answer, after, later))
    (ne : j ≠ i) (lock : Nat) : after.owner lock = some j ↔ w.owner lock = some j := by
  cases a with
  | lock | tryLock =>
      simp only [perform] at performed
      repeat' split at performed
      all_goals cases performed
      all_goals try rfl
      rename_i mine _ free
      by_cases same : lock = mine
      · subst same
        simp_all [ne.symm]
      · simp [same]
  | unlock =>
      simp only [perform] at performed
      repeat' split at performed
      all_goals cases performed
      rename_i mine _ held
      by_cases same : lock = mine
      · subst same
        simp [held, ne.symm]
      · simp [same]
  | lockEntry n =>
      simp only [perform] at performed
      split at performed <;> cases performed <;> rfl
  | removeLockEntry n =>
      cases performed
      rfl
  | _ => rw [(Act.plain_perform rfl performed).2.1]

theorem holds_perform (on : a.On tries name) (bounded : w.Bounded)
    (removes : ∀ n, a = .removeLockEntry n → Holds w own name i)
    (performed : perform tableRef i a w own = some (answer, after, later)) (ne : j ≠ i) :
    Holds after other m j ↔ Holds w other m j := by
  have owner := owner_perform performed ne
  cases a with
  | lockEntry n =>
      cases on
      simp only [perform] at performed
      split at performed
      case h_1 => cases performed; rfl
      case h_2 absent =>
        cases performed
        by_cases same : m = name
        · subst same
          simp [Holds, absent, bounded.1 w.nextLock le_rfl]
        · simp [Holds, same]
  | removeLockEntry n =>
      obtain ⟨mine, _, entry, held⟩ := removes n rfl
      cases on
      cases performed
      by_cases same : m = name
      · subst same
        simp [Holds, entry, held, ne.symm]
      · simp [Holds, same]
  | lock | tryLock | unlock =>
      have locks : after.locks = w.locks := by
        simp only [perform] at performed
        repeat' split at performed
        all_goals cases performed
        all_goals rfl
      simp only [Holds, locks, owner]
  | _ => simp only [Holds, (Act.plain_perform rfl performed).1, owner]

theorem bounded_perform (bounded : w.Bounded) (takes : a.Takes w own →
      own.lock = w.locks.lookup name)
    (performed : perform tableRef i a w own = some (answer, after, later)) : after.Bounded := by
  cases a with
  | lock | tryLock =>
      simp only [perform] at performed
      repeat' split at performed
      all_goals cases performed
      all_goals try exact bounded
      rename_i mine chosen free
      have entry : w.locks.lookup name = some mine := by
        rw [← takes (by first | trivial | exact ⟨mine, chosen, Option.isNone_iff_eq_none.mp free⟩),
          chosen]
      refine ⟨fun lock late => ?_, bounded.2⟩
      have before := bounded.2 name mine entry
      have ne : lock ≠ mine := by
        have late : w.nextLock ≤ lock := late
        omega
      simp [ne, bounded.1 lock late]
  | unlock =>
      simp only [perform] at performed
      repeat' split at performed
      all_goals cases performed
      rename_i mine _ _
      refine ⟨fun lock late => ?_, bounded.2⟩
      by_cases same : lock = mine
      · subst same
        simp
      · simp [same, bounded.1 lock late]
  | lockEntry n =>
      simp only [perform] at performed
      split at performed
      case h_1 => cases performed; exact bounded
      case h_2 absent =>
        cases performed
        refine ⟨fun lock late => bounded.1 lock (by simp only at late; omega), fun m lock entry => ?_⟩
        by_cases same : m = n
        · subst same
          simp only [AList.lookup_insert, Option.some.injEq] at entry
          exact entry ▸ Nat.lt_succ_self _
        · simp only [AList.lookup_insert_ne same] at entry
          exact Nat.lt_succ_of_lt (bounded.2 m lock entry)
  | removeLockEntry n =>
      cases performed
      refine ⟨bounded.1, fun m lock entry => ?_⟩
      by_cases same : m = n
      · subst same
        simp at entry
      · exact bounded.2 m lock (by simpa [same] using entry)
  | _ =>
      obtain ⟨locks, owner, next, _⟩ := Act.plain_perform rfl performed
      simpa only [World.Bounded, locks, owner, next] using bounded

end

/-! ### Runs -/

@[simp] theorem semantics_abandon [DecidableEq ι] {tableRef : String → Option String} (i : ι)
    (w : World Gen ι) : (semantics tableRef).abandon i w = abandon i w := rfl

section
variable {d : Discipline Gen} {ops : ι → Op Gen} {s t : System Gen ι} {i : ι} {e : Event ι}

/-- A step of operation `i` keeps the invariant when it leaves the others and their datasets
alone, enters where none is inside, and leaves the dataset at rest. -/
theorem Owned.change (owned : Owned d ops s)
    (threads : ∀ j, j ≠ i → t.threads j = s.threads j)
    (inside : ∀ j, j ≠ i → (Inside ops t j ↔ Inside ops s j))
    (owners : ∀ j, j ≠ i → ∀ lock, t.shared.owner lock = some j ↔ s.shared.owner lock = some j)
    (frame : ∀ n, n ≠ (ops i).name → t.shared.entry n = s.shared.entry n)
    (outside : ¬ Inside ops s i → t.shared.entry (ops i).name = s.shared.entry (ops i).name)
    (enters : ¬ Inside ops s i → Inside ops t i →
      ∀ j, (ops j).name = (ops i).name → ¬ Inside ops s j)
    (leaves : Inside ops s i → ¬ Inside ops t i → d.rest (t.shared.entry (ops i).name))
    (obeys : Obeys d ops t i)
    (bounded : t.shared.Bounded)
    (begun : t.threads i ≠ .idle) : Owned d ops t where
  alone := by
    have mine : ∀ j, j ≠ i → (ops j).name = (ops i).name → Inside ops t i → ¬ Inside ops t j := by
      intro j ne same now there
      have before := (inside j ne).mp there
      by_cases was : Inside ops s i
      · exact ne (owned.alone j i before was same)
      · exact enters was now j same before
    intro j k first second same
    by_cases ji : j = i
    · by_cases ki : k = i
      · exact ji.trans ki.symm
      · subst ji
        exact absurd second (mine k ki same.symm first)
    · by_cases ki : k = i
      · subst ki
        exact absurd first (mine j ji same second)
      · exact owned.alone j k ((inside j ji).mp first) ((inside k ki).mp second) same
  obeys := by
    intro j
    by_cases ne : j = i
    · exact ne ▸ obeys
    · intro rest own running
      rw [threads j ne] at running
      obtain ⟨uses, stage, stands, meets⟩ := owned.obeys j rest own running
      refine ⟨uses, stage, ?_, meets⟩
      cases stage with
      | out => exact ⟨mt (inside j ne).mp stands.1, fun lock => mt (owners j ne lock).mp (stands.2 lock)⟩
      | left => exact mt (inside j ne).mp stands
      | inside entry =>
          refine ⟨(inside j ne).mpr stands.1, stands.2.trans ?_⟩
          by_cases same : (ops j).name = (ops i).name
          · have was : ¬ Inside ops s i := fun was => ne (owned.alone j i stands.1 was same)
            rw [same, outside was]
          · rw [frame _ same]
  rests := by
    intro n empty
    by_cases same : n = (ops i).name
    · subst same
      have now := empty i rfl
      by_cases was : Inside ops s i
      · exact leaves was now
      · rw [outside was]
        refine owned.rests _ fun j other => ?_
        by_cases ne : j = i
        · exact ne ▸ was
        · exact mt (inside j ne).mpr (empty j other)
    · rw [frame n same]
      refine owned.rests n fun j other => ?_
      by_cases ne : j = i
      · exact absurd (ne ▸ other).symm same
      · exact mt (inside j ne).mpr (empty j other)
  bounded := bounded
  idle := by
    intro j idle lock
    by_cases ne : j = i
    · exact absurd (ne ▸ idle) begun
    · rw [threads j ne] at idle
      exact mt (owners j ne lock).mp (owned.idle j idle lock)

variable [DecidableEq ι] {tableRef : String → Option String}

theorem inside_set {shared : World Gen ι} {rest : Task Gen (Except AppError Unit)}
    {own : Locals Gen} :
    Inside ops ({ s with shared }.set i (.running rest own)) i ↔
      ((ops i).locked = true → Holds shared own (ops i).name i) := by
  simp only [Inside, Pool.set_threads_same, Pool.set_shared]

theorem inside_set_ne {shared : World Gen ι} {thread} {j : ι} (ne : j ≠ i)
    (holds : ∀ own, Holds shared own (ops j).name j ↔ Holds s.shared own (ops j).name j) :
    Inside ops ({ s with shared }.set i thread) j ↔ Inside ops s j := by
  simp only [Inside, Pool.set_threads_of_ne ne, Pool.set_shared]
  split
  · simp only [holds]
  · rfl

omit [DecidableEq ι] in
/-- Whoever takes the mutex of the lock table finds the dataset empty. -/
theorem Owned.vacant (owned : Owned d ops s) {lock : Nat}
    (entry : s.shared.locks.lookup (ops i).name = some lock) (free : s.shared.owner lock = none)
    (unlocked : ∀ j, (ops j).locked = false → (ops j).name = (ops i).name → ¬ Inside ops s j) :
    (∀ j, (ops j).name = (ops i).name → ¬ Inside ops s j) ∧
      d.rest (s.shared.entry (ops i).name) := by
  have none : ∀ j, (ops j).name = (ops i).name → ¬ Inside ops s j := by
    intro j same inside
    cases locked : (ops j).locked with
    | false => exact unlocked j locked same inside
    | true =>
        simp only [Inside] at inside
        split at inside
        · obtain ⟨held, _, table, owner⟩ := inside locked
          rw [same, entry] at table
          cases table
          rw [free] at owner
          cases owner
        · exact inside
  exact ⟨none, owned.rests _ none⟩

/-- What an act makes of the stage of its operation. -/
structure Act.Moves (d : Discipline Gen) (ops : ι → Op Gen) (s t : System Gen ι) (i : ι)
    (rest : Task Gen (Except AppError Unit)) (stage : Stage Gen) : Prop where
  meets : rest.Meets (d.rule (ops i)) stage fun _ => d.Ends (ops i)
  stands : Stands ops t i stage
  enters : ¬ Inside ops s i → Inside ops t i →
    ∀ j, (ops j).name = (ops i).name → ¬ Inside ops s j
  leaves : Inside ops s i → ¬ Inside ops t i → d.rest (t.shared.entry (ops i).name)

/-- An operation that takes the mutex of the lock table is inside. -/
theorem Owned.takes (owned : Owned d ops s) {own : Locals Gen} {lock : Nat}
    {rest : Task Gen (Except AppError Unit)} (chosen : own.lock = some lock)
    (free : (s.shared.owner lock).isNone = true)
    (ready : own.lock = s.shared.locks.lookup (ops i).name ∧
      d.enters (ops i) (s.shared.entry (ops i).name) ∧
      ∀ j, (ops j).locked = false → (ops j).name = (ops i).name → ¬ Inside ops s j)
    (meets : ∀ entry, d.rest entry → d.enters (ops i) entry →
      rest.Meets (d.rule (ops i)) (.inside entry) fun _ => d.Ends (ops i)) :
    Act.Moves d ops s ({ s with shared := { s.shared with
        owner := Function.update s.shared.owner lock (some i) } }.set i (.running rest own)) i
      rest (.inside (s.shared.entry (ops i).name)) := by
  obtain ⟨table, enters, unlocked⟩ := ready
  have table := chosen ▸ table.symm
  obtain ⟨none, atRest⟩ := owned.vacant table (Option.isNone_iff_eq_none.mp free) unlocked
  have inside : Inside ops ({ s with shared := { s.shared with
      owner := Function.update s.shared.owner lock (some i) } }.set i (.running rest own)) i :=
    inside_set.mpr fun _ => ⟨lock, chosen, table, Function.update_self ..⟩
  exact ⟨meets _ atRest enters, ⟨inside, rfl⟩, fun _ _ => none, fun _ no => absurd inside no⟩

theorem Owned.moves {a : Act Gen} {next : Ans a → Task Gen (Except AppError Unit)}
    {own later : Locals Gen} {answer : Ans a} {changed : World Gen ι} {stage : Stage Gen}
    (owned : Owned d ops s) (ready : s.threads i = .running (.act a next) own)
    (on : a.On true (ops i).name) (stands : Stands ops s i stage)
    (meets : (Prog.act a next).Meets (d.rule (ops i)) stage fun _ => d.Ends (ops i))
    (orderly : Orderly d.enters ops s (.step i))
    (performed : perform tableRef i a s.shared own = some (answer, changed, later)) :
    ∃ stage, Act.Moves d ops s ({ s with shared := changed }.set i (.running (next answer) later)) i
      (next answer) stage := by
  obtain ⟨clean, takes⟩ : a.Clean s.shared own ∧ (a.Takes s.shared own →
      own.lock = s.shared.locks.lookup (ops i).name ∧
      d.enters (ops i) (s.shared.entry (ops i).name) ∧
      ∀ j, (ops j).locked = false → (ops j).name = (ops i).name → ¬ Inside ops s j) := by
    simpa only [Orderly, ready] using orderly
  have was : Inside ops s i ↔ ((ops i).locked = true → Holds s.shared own (ops i).name i) := by
    simp only [Inside, ready]
  have entry := Act.entry_perform on clean performed (ops i).name
  rw [if_pos rfl] at entry
  by_cases plain : a.plain = true
  · obtain ⟨locks, owner, _, mine⟩ := Act.plain_perform plain performed
    have same : Inside ops ({ s with shared := changed }.set i (.running (next answer) later)) i ↔
        Inside ops s i := by
      rw [inside_set, was]
      simp only [Holds, locks, owner, mine]
    cases stage with
    | inside before =>
        obtain ⟨inside, rfl⟩ := stands
        obtain ⟨_, others⟩ := Discipline.rule_inside plain meets
        refine ⟨.inside _, others answer (Act.answers_perform on performed), ⟨same.mpr inside, entry.symm⟩,
          fun no => absurd inside no, fun _ no => absurd (same.mpr inside) no⟩
    | out =>
        obtain ⟨_, others⟩ := Discipline.rule_outside plain (by simp) meets
        refine ⟨.out, others answer, ⟨mt same.mp stands.1, fun lock => ?_⟩,
          fun no yes => absurd (same.mp yes) no, fun yes => absurd yes stands.1⟩
        rw [Pool.set_shared, owner]
        exact stands.2 lock
    | left =>
        obtain ⟨_, others⟩ := Discipline.rule_outside plain (by simp) meets
        exact ⟨.left, others answer, mt same.mp stands, fun no yes => absurd (same.mp yes) no,
          fun yes => absurd yes stands⟩
  · cases a with
    | lock =>
        obtain ⟨rfl, others⟩ := meets
        simp only [perform] at performed
        split at performed
        case h_2 => cases performed
        case h_1 lock chosen =>
          split at performed
          case isFalse => cases performed
          case isTrue free =>
            cases performed
            exact ⟨_, owned.takes chosen free (takes trivial) others⟩
    | tryLock =>
        obtain ⟨rfl, held, others⟩ := meets
        simp only [perform] at performed
        split at performed
        case h_2 => cases performed
        case h_1 lock chosen =>
          split at performed
          case isFalse =>
            cases performed
            have same : Inside ops ({ s with shared := s.shared }.set i (.running (next false) own)) i ↔
                Inside ops s i := inside_set.trans was.symm
            exact ⟨.out, held, ⟨mt same.mp stands.1, stands.2⟩,
              fun no yes => absurd (same.mp yes) no, fun yes => absurd yes stands.1⟩
          case isTrue free =>
            cases performed
            exact ⟨_, owned.takes chosen free
              (takes ⟨lock, chosen, Option.isNone_iff_eq_none.mp free⟩) others⟩
    | lockEntry n =>
        obtain ⟨rfl, others⟩ := meets
        have locked : (ops i).locked = true := by
          by_contra unlocked
          exact stands.1 (was.mpr fun yes => absurd yes unlocked)
        have owner : changed.owner = s.shared.owner := by
          simp only [perform] at performed
          split at performed <;> cases performed <;> rfl
        have out : ¬ Inside ops ({ s with shared := changed }.set i (.running (next ()) later)) i := by
          rw [inside_set]
          intro holds
          obtain ⟨lock, _, _, mine⟩ := holds locked
          exact stands.2 lock (owner ▸ mine)
        refine ⟨.out, others, ⟨out, fun lock => ?_⟩, fun _ yes => absurd yes out,
          fun yes => absurd yes stands.1⟩
        rw [Pool.set_shared, owner]
        exact stands.2 lock
    | removeLockEntry n =>
        obtain ⟨before, rfl, locked, _, rest, others⟩ := meets
        cases on
        cases performed
        obtain ⟨inside, rfl⟩ := stands
        have out : ¬ Inside ops ({ s with shared := { s.shared with
            locks := s.shared.locks.erase (ops i).name } }.set i (.running (next ()) own)) i := by
          rw [inside_set]
          intro holds
          obtain ⟨lock, _, table, _⟩ := holds locked
          simp at table
        exact ⟨.left, others, out, fun _ yes => absurd yes out, fun _ _ => rest⟩
    | unlock =>
        simp only [perform] at performed
        split at performed
        case h_2 => cases performed
        case h_1 lock chosen =>
          split at performed
          case isFalse => cases performed
          case isTrue mine =>
            cases performed
            have out : (ops i).locked = true → ¬ Inside ops ({ s with shared := { s.shared with
                owner := Function.update s.shared.owner lock none } }.set i
                  (.running (next ()) own)) i := by
              intro locked inside
              obtain ⟨held, handle, _, owner⟩ := inside_set.mp inside locked
              rw [chosen] at handle
              cases handle
              simp at owner
            cases stage with
            | out => exact absurd meets.1 (by simp)
            | left =>
                have locked : (ops i).locked = true := by
                  by_contra unlocked
                  exact stands (was.mpr fun yes => absurd yes unlocked)
                exact ⟨.left, meets.2, out locked, fun _ yes => absurd yes (out locked),
                  fun yes => absurd yes stands⟩
            | inside before =>
                obtain ⟨locked, _, rest, others⟩ := meets
                obtain ⟨inside, rfl⟩ := stands
                exact ⟨.left, others, out locked, fun _ yes => absurd yes (out locked),
                  fun _ _ => rest⟩
    | _ => exact absurd rfl plain

theorem owned_step (governs : ∀ op, d.Governs op) (owned : Owned d ops s)
    (orderly : Orderly d.enters ops s e) (stepped : System.step tableRef ops e s = some t) :
    Owned d ops t := by
  cases Pool.moves_of_step stepped with
  | @start i idle =>
      have outside : ¬ Inside ops s i := by simp only [Inside, idle, not_false_eq_true]
      have inside : Inside ops (s.set i (.running (ops i).program default)) i ↔
          (ops i).locked = false := by
        refine inside_set.trans ⟨fun holds => ?_, fun unlocked locked => ?_⟩
        · by_contra locked
          obtain ⟨_, none, _⟩ := holds (by simpa using locked)
          cases none
        · exact absurd (unlocked.symm.trans locked) Bool.false_ne_true
      refine owned.change (i := i) (fun j ne => Pool.set_threads_of_ne ne _)
        (fun j ne => inside_set_ne ne fun _ => Iff.rfl) (fun _ _ _ => Iff.rfl) (fun _ _ => rfl)
        (fun _ => rfl) (fun _ now => (orderly (inside.mp now)).2) (fun was => absurd was outside)
        ?_ owned.bounded (by simp)
      intro rest own running
      rw [Pool.set_threads_same] at running
      cases running
      refine ⟨(ops i).uses, ?_⟩
      have governed := governs (ops i)
      cases locked : (ops i).locked with
      | true =>
          simp only [Discipline.Governs, locked, if_true] at governed
          refine ⟨.out, ⟨?_, owned.idle i idle⟩, governed⟩
          rw [inside, locked]
          simp
      | false =>
          simp only [Discipline.Governs, locked, Bool.false_eq_true, if_false] at governed
          obtain ⟨enters, none⟩ := orderly locked
          exact ⟨.inside _, ⟨inside.mpr locked, rfl⟩, governed _ (owned.rests _ none) enters⟩
  | @ret i result own ready =>
      have outside : ¬ Inside ops (s.set i (.returned result)) i := by
        simp only [Inside, Pool.set_threads_same, not_false_eq_true]
      refine owned.change (i := i) (fun j ne => Pool.set_threads_of_ne ne _)
        (fun j ne => inside_set_ne ne fun _ => Iff.rfl) (fun _ _ _ => Iff.rfl) (fun _ _ => rfl)
        (fun _ => rfl) (fun _ now => absurd now outside) (fun was _ => ?_) ?_ owned.bounded (by simp)
      · obtain ⟨_, stage, stands, ends⟩ := owned.obeys i _ _ ready
        cases stage with
        | out => exact absurd was stands.1
        | left => exact absurd was stands
        | inside entry =>
            obtain ⟨_, rfl⟩ := stands
            simp only [Prog.meets_done, Discipline.Ends] at ends
            split at ends
            · exact absurd rfl (ends _)
            · obtain ⟨entry, same, rest⟩ := ends
              cases same
              exact rest
      · intro rest own running
        rw [Pool.set_threads_same] at running
        cases running
  | @act i a next own answer changed later ready performed =>
      obtain ⟨uses, stage, stands, meets⟩ := owned.obeys i _ _ ready
      obtain ⟨clean, takes⟩ : a.Clean s.shared own ∧ (a.Takes s.shared own →
          own.lock = s.shared.locks.lookup (ops i).name ∧ _) := by
        simpa only [Orderly, ready] using orderly
      obtain ⟨after, moves⟩ := owned.moves ready uses.1 stands meets orderly performed
      have entry := Act.entry_perform uses.1 clean performed
      have removes : ∀ n, a = .removeLockEntry n → Holds s.shared own (ops i).name i := by
        rintro n rfl
        obtain ⟨before, rfl, locked, _⟩ := meets
        have inside := stands.1
        simp only [Inside, ready] at inside
        exact inside locked
      refine owned.change (i := i) (fun j ne => Pool.set_threads_of_ne ne _)
        (fun j ne => inside_set_ne ne fun _ => holds_perform uses.1 owned.bounded removes performed ne)
        (fun j ne => owner_perform performed ne) (fun n ne => ?_) (fun outside => ?_) moves.enters
        moves.leaves ?_ (bounded_perform owned.bounded (fun taken => (takes taken).1) performed)
        (by simp)
      · exact (entry n).trans (if_neg ne)
      · refine (entry _).trans ((if_pos rfl).trans ?_)
        cases stage with
        | inside before => exact absurd stands.1 outside
        | out | left => exact Discipline.effect_outside (by simp) meets _
      · intro rest own running
        rw [Pool.set_threads_same] at running
        cases running
        exact ⟨uses.2 answer, after, moves.stands, moves.meets⟩
  | @drop i a next own ready awaits =>
      have outside : ¬ Inside ops ({ s with shared := abandon i s.shared }.set i .dropped) i := by
        simp only [Inside, Pool.set_threads_same, not_false_eq_true]
      have owners : ∀ j, j ≠ i → ∀ lock,
          (abandon i s.shared).owner lock = some j ↔ s.shared.owner lock = some j := by
        intro j ne lock
        simp only [abandon]
        split
        case isTrue mine => simp [mine, ne.symm]
        case isFalse => rfl
      refine owned.change (i := i) (fun j ne => Pool.set_threads_of_ne ne _)
        (fun j ne => inside_set_ne ne fun _ => ?_) owners (fun _ _ => rfl) (fun _ => rfl)
        (fun _ now => absurd now outside) (fun was _ => ?_) ?_ ⟨fun lock late => ?_, owned.bounded.2⟩
        (by simp)
      · simp only [semantics_abandon, Holds, owners j ne]
        rfl
      · obtain ⟨_, stage, stands, meets⟩ := owned.obeys i _ _ ready
        cases a with
        | lock =>
            obtain ⟨rfl, _⟩ := meets
            exact absurd was stands.1
        | build n =>
            obtain ⟨before, rfl, _, rest, _⟩ := meets
            exact stands.2 ▸ rest
        | _ => cases awaits
      · intro rest own running
        rw [Pool.set_threads_same] at running
        cases running
      · simp only [Pool.set_shared, semantics_abandon, abandon] at late ⊢
        rw [owned.bounded.1 lock late]
        rfl

theorem owned_run {start : World Gen ι} {events : List (Event ι)} (governs : ∀ op, d.Governs op)
    (rests : ∀ name, d.rest (start.entry name)) (bounded : start.Bounded)
    (unlocked : ∀ lock, start.owner lock = none)
    (run : Machine.Run (System.step tableRef ops) (Orderly d.enters ops) (Pool.initial start) events
      t) : Owned d ops t := by
  refine run.keeps ?_ fun owned orderly stepped => owned_step governs owned orderly stepped
  exact {
    alone := fun i _ inside => inside.elim
    obeys := fun i rest own running => by cases running
    rests := fun name _ => rests name
    bounded
    idle := fun i _ lock => by simp [Pool.initial, unlocked] }

end
end Datapress.DataFusion.Store
