import Mathlib.Data.List.AList
import Datapress.Library.Interleaving
import Datapress.Lifecycle

/-! The registry of the DataFusion store as its callers share it. Each access to the
configurations, to an `ArcSwap`, to the lock table, to a mutex or to the table catalog is
one act; the operations are programs of such acts, and a build ends as it is given to. -/
namespace Datapress.DataFusion.Store
open Interleaving

abbrev Map (α : Type) := AList fun _ : String => α

/-- The part of a dataset's configuration that the registry reads. -/
structure Settings where
  managed : Bool
deriving DecidableEq

structure World (Gen ι : Type) where
  configs : Map Settings
  datasets : Map Gen
  statuses : Map (DatasetStatus × OnStart)
  /-- The tables of the `SessionContext`. -/
  catalog : Map Gen
  /-- `reload_locks`: the mutex of a name. -/
  locks : Map Nat
  nextLock : Nat
  owner : Nat → Option ι
  /-- The generation of the last publish that was completed, until the dataset is removed.
  No operation reads it. -/
  lastGood : Map Gen

/-- The local variables of an operation: its clone of the mutex and its clones of the maps. -/
structure Locals (Gen : Type) where
  lock : Option Nat := none
  newMap : Map Gen := ∅
  newStatuses : Map (DatasetStatus × OnStart) := ∅

instance {Gen : Type} : Inhabited (Locals Gen) := ⟨{}⟩

/-- The change an operation makes to its clone of `datasets`. -/
inductive Edit (Gen : Type) where
  | insert (name : String) (gen : Gen)
  | remove (name : String)

/-- The change an operation makes to its clone of `statuses`. `set` keeps the start policy. -/
inductive StatusEdit where
  | set (name : String) (status : DatasetStatus)
  | insert (name : String) (entry : DatasetStatus × OnStart)
  | remove (name : String)

variable {Gen ι : Type}

def Edit.name : Edit Gen → String
  | .insert name _ => name
  | .remove name => name

def Edit.apply : Edit Gen → Map Gen → Map Gen
  | .insert name gen, map => map.insert name gen
  | .remove name, map => map.erase name

/-- A removal ends the life of the last good generation. -/
def Edit.forget : Edit Gen → Map Gen → Map Gen
  | .insert _ _, map => map
  | .remove name, map => map.erase name

def StatusEdit.name : StatusEdit → String
  | .set name _ => name
  | .insert name _ => name
  | .remove name => name

def StatusEdit.apply : StatusEdit → Map (DatasetStatus × OnStart) → Map (DatasetStatus × OnStart)
  | .set name status, map =>
    match map.lookup name with
    | some (_, onStart) => map.insert name (status, onStart)
    | none => map
  | .insert name entry, map => map.insert name entry
  | .remove name, map => map.erase name

inductive Act (Gen : Type) where
  | config (name : String)
  | insertConfig (name : String) (settings : Settings)
  | removeConfig (name : String)
  | dataset (name : String)
  /-- `(**self.datasets.load()).clone()` -/
  | loadDatasets
  /-- `self.datasets.store` of the clone with its change. -/
  | storeDatasets (edit : Edit Gen)
  | status (name : String)
  | loadStatuses
  | storeStatuses (edit : StatusEdit)
  /-- The clone of the name's mutex, which is made if there is none. -/
  | lockEntry (name : String)
  | removeLockEntry (name : String)
  | lock
  | tryLock
  /-- The guard is dropped. -/
  | unlock
  | build (name : String)
  | deregisterTable (name : String)
  | registerTable (name : String) (provider : Gen)
  | recordPublish (name : String) (gen : Gen)
  | tableNames
  | table (ref : String)

abbrev Ans : Act Gen → Type
  | .config _ => Option Settings
  | .dataset _ => Option Gen
  | .status _ => Option (DatasetStatus × OnStart)
  | .tryLock => Bool
  | .deregisterTable _ => Except AppError Unit
  | .registerTable _ _ => Except AppError Unit
  | .tableNames => List String
  | .table _ => Option Gen
  | _ => Unit

def Act.awaits : Act Gen → Bool
  | .lock => true
  | .build _ => true
  | _ => false

section
variable [DecidableEq ι] (tableRef : String → Option String)

/-- The acts. `tableRef` is the reference that the engine makes of a table's name, if it is
one of the default schema. A table is registered only where there is none. -/
def perform (i : ι) : (a : Act Gen) → World Gen ι → Locals Gen →
    Option (Ans a × World Gen ι × Locals Gen)
  | .config name, w, own => some (w.configs.lookup name, w, own)
  | .insertConfig name settings, w, own =>
    some ((), { w with configs := w.configs.insert name settings }, own)
  | .removeConfig name, w, own => some ((), { w with configs := w.configs.erase name }, own)
  | .dataset name, w, own => some (w.datasets.lookup name, w, own)
  | .loadDatasets, w, own => some ((), w, { own with newMap := w.datasets })
  | .storeDatasets edit, w, own => some ((),
      { w with datasets := edit.apply own.newMap, lastGood := edit.forget w.lastGood }, own)
  | .status name, w, own => some (w.statuses.lookup name, w, own)
  | .loadStatuses, w, own => some ((), w, { own with newStatuses := w.statuses })
  | .storeStatuses edit, w, own =>
    some ((), { w with statuses := edit.apply own.newStatuses }, own)
  | .lockEntry name, w, own =>
    match w.locks.lookup name with
    | some lock => some ((), w, { own with lock := some lock })
    | none => some ((),
        { w with locks := w.locks.insert name w.nextLock, nextLock := w.nextLock + 1 },
        { own with lock := some w.nextLock })
  | .removeLockEntry name, w, own => some ((), { w with locks := w.locks.erase name }, own)
  | .lock, w, own =>
    match own.lock with
    | some lock =>
      if (w.owner lock).isNone then
        some ((), { w with owner := Function.update w.owner lock (some i) }, own)
      else none
    | none => none
  | .tryLock, w, own =>
    match own.lock with
    | some lock =>
      if (w.owner lock).isNone then
        some (true, { w with owner := Function.update w.owner lock (some i) }, own)
      else some (false, w, own)
    | none => none
  | .unlock, w, own =>
    match own.lock with
    | some lock =>
      if w.owner lock = some i then
        some ((), { w with owner := Function.update w.owner lock none }, own)
      else none
    | none => none
  | .build _, w, own => some ((), w, own)
  | .deregisterTable name, w, own =>
    match tableRef name with
    | some ref => some (.ok (), { w with catalog := w.catalog.erase ref }, own)
    | none => some (.error (.internal s!"failed to resolve {name}"), w, own)
  | .registerTable name provider, w, own =>
    match tableRef name with
    | some ref =>
      match w.catalog.lookup ref with
      | some _ => some (.error (.internal s!"Execution error: The table {ref} already exists"), w, own)
      | none => some (.ok (), { w with catalog := w.catalog.insert ref provider }, own)
    | none => some (.error (.internal s!"failed to resolve {name}"), w, own)
  | .recordPublish name gen, w, own =>
    some ((), { w with lastGood := w.lastGood.insert name gen }, own)
  | .tableNames, w, own => some (w.catalog.keys, w, own)
  | .table ref, w, own => some (w.catalog.lookup ref, w, own)

/-- A dropped future releases the locks it holds. -/
def abandon (i : ι) (w : World Gen ι) : World Gen ι :=
  { w with owner := fun lock => if w.owner lock = some i then none else w.owner lock }

def semantics : Semantics (@Ans Gen) ι (World Gen ι) (Locals Gen) where
  perform := perform tableRef
  awaits := Act.awaits
  abandon

end

/-! ### The operations -/

abbrev Task (Gen α : Type) := Prog (@Ans Gen) α

abbrev call (a : Act Gen) : Task Gen (Ans a) := Prog.perform a

def setStatus (name : String) (status : DatasetStatus) : Task Gen Unit := do
  call .loadStatuses
  call (.storeStatuses (.set name status))

/-- The swap of the state map. -/
def insertDataset (name : String) (gen : Gen) : Task Gen Unit := do
  call .loadDatasets
  call (.storeDatasets (.insert name gen))

/-- Runs the body under the lock. -/
def guarded {α : Type} (body : Task Gen α) : Task Gen α := do
  call .lock
  let result ← body
  call .unlock
  return result

/-- A build that reads its own source. -/
def buildDataset (name : String) (outcome : Except AppError Gen) :
    Task Gen (Except AppError Gen) := do
  call (.build name)
  return outcome

def buildOneStartup (name : String) (settings : Settings)
    (build : Task Gen (Except AppError Gen)) : Task Gen (Except AppError Unit) := do
  setStatus name .building
  match ← build with
  | .ok gen =>
    match ← call (.registerTable name gen) with
    | .error e =>
      setStatus name .failed
      return .error e
    | .ok () =>
      call (.insertConfig name settings)
      insertDataset name gen
      setStatus name .published
      call (.recordPublish name gen)
      return .ok ()
  | .error e =>
    setStatus name .failed
    return .error e

def firstTouchBuild (name : String) (build : Task Gen (Except AppError Gen)) :
    Task Gen (Except AppError Unit) := do
  call (.lockEntry name)
  guarded do
    if let some (.published, _) ← call (.status name) then return .ok ()
    let some _ ← call (.config name) | return .error (.notFound s!"dataset: {name}")
    setStatus name .building
    match ← build with
    | .ok gen =>
      let _ ← call (.deregisterTable name)
      match ← call (.registerTable name gen) with
      | .error e => return .error e
      | .ok () =>
        insertDataset name gen
        setStatus name .published
        call (.recordPublish name gen)
        return .ok ()
    | .error e =>
      setStatus name .failed
      return .error e

def ensureReady (name : String) (build : Task Gen (Except AppError Gen)) :
    Task Gen (Except AppError Unit) := do
  match ← call (.status name) with
  | some (.published, _) => return .ok ()
  | some (.pending, .lazy) => firstTouchBuild name build
  | some (status, _) => return .error (.notReady name status.text)
  | none => return .error (.notFound s!"dataset: {name}")

/-- A failed build keeps the last good generation. -/
def reloadInner (name : String) (build : Task Gen (Except AppError Gen)) :
    Task Gen (Except AppError Unit) := do
  setStatus name .building
  match ← build with
  | .error e =>
    if (← call (.dataset name)).isSome then setStatus name .published
    else setStatus name .failed
    return .error e
  | .ok gen =>
    match ← call (.deregisterTable name) with
    | .error e => return .error e
    | .ok () =>
      match ← call (.registerTable name gen) with
      | .error e => return .error e
      | .ok () =>
        insertDataset name gen
        setStatus name .published
        call (.recordPublish name gen)
        return .ok ()

def reload (name : String) (build : Task Gen (Except AppError Gen)) :
    Task Gen (Except AppError Unit) := do
  let some _ ← call (.config name) | return .error (.notFound s!"dataset: {name}")
  call (.lockEntry name)
  guarded (reloadInner name build)

/-- A held lock means that another build is running: the call coalesces with it. -/
def tryReload (name : String) (build : Task Gen (Except AppError Gen)) :
    Task Gen (Except AppError Unit) := do
  let some _ ← call (.config name) | return .error (.notFound s!"dataset: {name}")
  call (.lockEntry name)
  if ← call .tryLock then
    let result ← reloadInner name build
    call .unlock
    return result
  else return .ok ()

def alreadyExists (name : String) : AppError :=
  .invalidValue s!"dataset '{name}' already exists"

def register (name : String) (settings : Settings) (validated : Except AppError Unit)
    (build : Task Gen (Except AppError Gen)) : Task Gen (Except AppError Unit) := do
  if let .error e := validated then return .error e
  if (← call (.dataset name)).isSome then return .error (alreadyExists name)
  call (.lockEntry name)
  guarded do
    if (← call (.dataset name)).isSome then return .error (alreadyExists name)
    match ← build with
    | .error e => return .error e
    | .ok gen =>
      match ← call (.registerTable name gen) with
      | .error e => return .error e
      | .ok () =>
        insertDataset name gen
        call (.insertConfig name settings)
        call .loadStatuses
        call (.storeStatuses (.insert name (.published, .eager)))
        call (.recordPublish name gen)
        return .ok ()

def unregister (name : String) : Task Gen (Except AppError Unit) := do
  match ← call (.config name) with
  | none => return .error (.notFound s!"dataset '{name}' not found")
  | some settings =>
    if !settings.managed then
      return .error (.forbidden
        s!"dataset '{name}' is not managed and cannot be unregistered")
    call (.lockEntry name)
    guarded do
      let _ ← call (.deregisterTable name)
      call .loadDatasets
      call (.storeDatasets (.remove name))
      call (.removeConfig name)
      call .loadStatuses
      call (.storeStatuses (.remove name))
      call (.removeLockEntry name)
      return .ok ()

/-- The operations on one dataset, each with the way its build will end. -/
inductive Op (Gen : Type) where
  | setStatus (name : String) (status : DatasetStatus)
  | startup (name : String) (settings : Settings) (outcome : Except AppError Gen)
  | ensureReady (name : String) (outcome : Except AppError Gen)
  | reload (name : String) (outcome : Except AppError Gen)
  | tryReload (name : String) (outcome : Except AppError Gen)
  | register (name : String) (settings : Settings) (validated : Except AppError Unit)
      (outcome : Except AppError Gen)
  | unregister (name : String)

namespace Op

def name : Op Gen → String
  | .setStatus name _ => name
  | .startup name _ _ => name
  | .ensureReady name _ => name
  | .reload name _ => name
  | .tryReload name _ => name
  | .register name _ _ _ => name
  | .unregister name => name

def program : Op Gen → Task Gen (Except AppError Unit)
  | .setStatus name status => do
    Store.setStatus name status
    return .ok ()
  | .startup name settings outcome => buildOneStartup name settings (buildDataset name outcome)
  | .ensureReady name outcome => Store.ensureReady name (buildDataset name outcome)
  | .reload name outcome => Store.reload name (buildDataset name outcome)
  | .tryReload name outcome => Store.tryReload name (buildDataset name outcome)
  | .register name settings validated outcome =>
    Store.register name settings validated (buildDataset name outcome)
  | .unregister name => Store.unregister name

end Op

/-! ### The system -/

abbrev System (Gen ι : Type) :=
  Pool (@Ans Gen) ι (Except AppError Unit) (World Gen ι) (Locals Gen)

abbrev System.step [DecidableEq ι] (tableRef : String → Option String) (ops : ι → Op Gen) :
    Event ι → System Gen ι → Option (System Gen ι) :=
  Pool.step (semantics tableRef) fun i => (ops i).program

/-- A dataset the server is configured with. -/
structure Declared where
  name : String
  settings : Settings
  onStart : OnStart

/-- The store before its startup builds: every dataset is pending. -/
def newNonblocking (datasets : List Declared) : World Gen ι where
  configs := (datasets.map fun d => ⟨d.name, d.settings⟩).toAList
  datasets := ∅
  statuses := (datasets.map fun d => ⟨d.name, .pending, d.onStart⟩).toAList
  catalog := ∅
  locks := ∅
  nextLock := 0
  owner _ := none
  lastGood := ∅

/-- The store after a start that builds every dataset first. -/
def load (tableRef : String → Option String) (built : List (Declared × Gen)) : World Gen ι where
  configs := (built.map fun (d, _) => ⟨d.name, d.settings⟩).toAList
  datasets := (built.map fun (d, gen) => ⟨d.name, gen⟩).toAList
  statuses := (built.map fun (d, _) => ⟨d.name, .published, d.onStart⟩).toAList
  catalog := (built.filterMap fun (d, gen) => (tableRef d.name).map (⟨·, gen⟩)).toAList
  locks := ∅
  nextLock := 0
  owner _ := none
  lastGood := (built.map fun (d, gen) => ⟨d.name, gen⟩).toAList

end Datapress.DataFusion.Store
