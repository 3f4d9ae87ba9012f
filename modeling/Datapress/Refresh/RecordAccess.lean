import Mathlib.Data.Finset.Basic
import Mathlib.Data.Finset.Dedup
import Datapress.Library.Duties
import Datapress.Refresh.FailureRecord

/-!
The refresh records of the two backends as their users share them: each access to the
configurations, to the published datasets, to the lock table, to a mutex or to the records is
one act, and the operations are programs of such acts. A build ends as it is given to.
-/
namespace Datapress.Refresh.Records
open Interleaving

abbrev Map (α : Type) := AList fun _ : String => α

structure World (ι : Type) where
  /-- The datasets that are configured, each with whether it is managed. -/
  configs : Map Bool
  datasets : Finset String
  records : RefreshRecords
  /-- `reload_locks`: the mutex of a name. -/
  locks : Map Nat
  nextLock : Nat
  owner : Nat → Option ι
  /-- The names with a generation that was published since they were registered. No operation
  reads it. -/
  published : Finset String

/-- The local variables of an operation: its clone of the mutex and that of the state map. -/
structure Locals where
  lock : Option Nat := none
  newMap : Finset String := ∅
deriving Inhabited

/-- A change of the published datasets. -/
inductive Edit where
  | insert (name : String)
  | remove (name : String)
deriving DecidableEq, Repr

def Edit.apply : Edit → Finset String → Finset String
  | .insert name, names => Insert.insert name names
  | .remove name, names => names.erase name

/-- The insertion of a generation publishes it. -/
def Edit.publish : Edit → Finset String → Finset String
  | .insert name, published => Insert.insert name published
  | .remove _, published => published

inductive Act where
  | config (name : String)
  | insertConfig (name : String) (managed : Bool)
  /-- The end of a registration. -/
  | removeConfig (name : String)
  | dataset (name : String)
  /-- `(**self.datasets.load()).clone()` -/
  | loadDatasets
  /-- `self.datasets.store` of the clone with its change. -/
  | storeDatasets (edit : Edit)
  /-- A change under the write lock of the map. -/
  | editDatasets (edit : Edit)
  /-- The clone of the name's mutex, which is made if there is none. -/
  | lockEntry (name : String)
  | removeLockEntry (name : String)
  | lock
  | tryLock
  | unlock
  /-- The engine works on the dataset. -/
  | work (name : String)
  | recordPublish (name now : String) (elapsedMs : Nat) (source : RefreshSource)
  | recordRefresh (name : String) (record : RefreshRecord)
  | refreshRecord (name : String)
  | removeRecord (name : String)

abbrev Ans : Act → Type
  | .config _ => Option Bool
  | .dataset _ => Bool
  | .tryLock => Bool
  | .refreshRecord _ => Option RefreshRecord
  | _ => Unit

def Act.awaits : Act → Bool
  | .lock => true
  | .work _ => true
  | _ => false

variable {ι : Type}

section
variable [DecidableEq ι]

def perform (i : ι) : (a : Act) → World ι → Locals → Option (Ans a × World ι × Locals)
  | .config name, w, own => some (w.configs.lookup name, w, own)
  | .insertConfig name managed, w, own =>
    some ((), { w with configs := w.configs.insert name managed }, own)
  | .removeConfig name, w, own => some ((),
      { w with configs := w.configs.erase name, published := w.published.erase name }, own)
  | .dataset name, w, own => some (decide (name ∈ w.datasets), w, own)
  | .loadDatasets, w, own => some ((), w, { own with newMap := w.datasets })
  | .storeDatasets edit, w, own => some ((),
      { w with datasets := edit.apply own.newMap, published := edit.publish w.published }, own)
  | .editDatasets edit, w, own => some ((),
      { w with datasets := edit.apply w.datasets, published := edit.publish w.published }, own)
  | .lockEntry name, w, own =>
    match w.locks.lookup name with
    | some lock => some ((), w, { own with lock := some lock })
    | none => some ((),
        { w with locks := w.locks.insert name w.nextLock, nextLock := w.nextLock + 1 },
        { own with lock := some w.nextLock })
  | .removeLockEntry name, w, own => some ((), { w with locks := w.locks.erase name }, own)
  | .lock, w, own =>
    match own.lock with
    | some lock =>
      if (w.owner lock).isNone then
        some ((), { w with owner := Function.update w.owner lock (some i) }, own)
      else none
    | none => none
  | .tryLock, w, own =>
    match own.lock with
    | some lock =>
      if (w.owner lock).isNone then
        some (true, { w with owner := Function.update w.owner lock (some i) }, own)
      else some (false, w, own)
    | none => none
  | .unlock, w, own =>
    match own.lock with
    | some lock =>
      if w.owner lock = some i then
        some ((), { w with owner := Function.update w.owner lock none }, own)
      else none
    | none => none
  | .work _, w, own => some ((), w, own)
  | .recordPublish name now elapsedMs source, w, own => some ((),
      { w with records := w.records.recordPublish name now elapsedMs source none }, own)
  | .recordRefresh name record, w, own =>
    some ((), { w with records := w.records.recordRefresh name record }, own)
  | .refreshRecord name, w, own => some (w.records.lookup name, w, own)
  | .removeRecord name, w, own => some ((), { w with records := w.records.erase name }, own)

/-- A dropped future releases the locks it holds. -/
def abandon (i : ι) (w : World ι) : World ι :=
  { w with owner := fun lock => if w.owner lock = some i then none else w.owner lock }

def semantics : Semantics Ans ι (World ι) Locals where
  perform := perform
  awaits := Act.awaits
  abandon

end

/-! ### The operations of the backends -/

abbrev Task (α : Type) := Prog Ans α

abbrev call (a : Act) : Task (Ans a) := Prog.perform a

/-- How the engine ends a build. A build that runs out of time is dropped. -/
inductive Build where
  | timeout
  | failed (error : String)
  | built (stats : ReloadStats) (now : String)
deriving DecidableEq, Repr

/-- DataFusion swaps a changed clone of the map in, DuckDB changes the map. -/
def edit : Backend → Edit → Task Unit
  | .dataFusion, edit => do
    call .loadDatasets
    call (.storeDatasets edit)
  | .duckdb, edit => call (.editDatasets edit)

/-- `reload_inner`: a failed build keeps the last good generation. -/
def reloadInner (backend : Backend) (name : String) (build : Build) : Task TickOutcome := do
  call (.work name)
  match build with
  | .timeout => return .timeout
  | .failed error =>
    let _ ← call (.dataset name)
    return .failed error
  | .built stats now =>
    edit backend (.insert name)
    call (.recordPublish name now stats.elapsedMs .manual)
    return .published stats

def notFound (name : String) : TickOutcome := .failed (AppError.notFound s!"dataset: {name}").display

def reload (backend : Backend) (name : String) (build : Build) : Task TickOutcome := do
  let some _ ← call (.config name) | return notFound name
  call (.lockEntry name)
  call .lock
  let outcome ← reloadInner backend name build
  call .unlock
  return outcome

/-- A held lock means that another build is running: the call coalesces with it. -/
def tryReload (backend : Backend) (name : String) (build : Build) : Task TickOutcome := do
  let some _ ← call (.config name) | return notFound name
  call (.lockEntry name)
  if ← call .tryLock then
    let outcome ← reloadInner backend name build
    call .unlock
    return outcome
  else return .coalesced

/-- A startup build of DataFusion, which takes no lock. -/
def buildOneStartup (name : String) (managed : Bool) (build : Build) : Task Unit := do
  call (.work name)
  if let .built _ now := build then
    call (.insertConfig name managed)
    edit .dataFusion (.insert name)
    call (.recordPublish name now 0 .startup)

/-- The build of a lazy dataset of DataFusion on its first query; `ready` is what it finds the
status to be under the lock. -/
def firstTouchBuild (name : String) (ready : Bool) (build : Build) : Task Unit := do
  call (.lockEntry name)
  call .lock
  if !ready then
    if let some _ ← call (.config name) then
      call (.work name)
      if let .built _ now := build then
        edit .dataFusion (.insert name)
        call (.recordPublish name now 0 .startup)
  call .unlock

/-- A registration that has passed validation. -/
def register (backend : Backend) (name : String) (managed : Bool) (build : Build) :
    Task Unit := do
  if ← call (.dataset name) then return
  call (.lockEntry name)
  call .lock
  if !(← call (.dataset name)) then
    call (.work name)
    if let .built stats now := build then
      edit backend (.insert name)
      call (.insertConfig name managed)
      call (.recordPublish name now stats.elapsedMs .manual)
  call .unlock

def unregister (backend : Backend) (name : String) : Task Unit := do
  let some true ← call (.config name) | return
  call (.lockEntry name)
  call .lock
  if backend = .duckdb then call (.work name)
  edit backend (.remove name)
  call (.removeConfig name)
  call (.removeRecord name)
  call (.removeLockEntry name)
  call .unlock

/-! ### The operations of the scheduler -/

/-- The record of a tick that fails, where the loop survives the cut of its error. -/
def tickFailure (failures : UInt32) (message : String) : Option RefreshRecord :=
  (truncateError message).map fun error =>
    { consecutiveFailures := failures + 1, lastError := some error }

/-- What a tick records of its outcome. -/
def tickRecord (failures : UInt32) (timeout : Nat) (now : String) (source : RefreshSource) :
    TickOutcome → Option RefreshRecord
  | .timeout => tickFailure failures s!"timed out after {debugDuration timeout}"
  | .failed error => tickFailure failures error
  | .coalesced => some {}
  | .published stats => some {
      lastRefreshAt := some now
      lastRefreshDurationMs := some stats.elapsedMs
      refreshSource := some source }

/-- The arm of `run_loop` for an entry of its heap; a panic ends it. -/
def tick (backend : Backend) (name : String) (failures : UInt32) (timeout : Nat)
    (now next : String) (build : Build) : Task Unit := do
  let outcome ← tryReload backend name build
  if let some record := tickRecord failures timeout now .schedule outcome then
    call (.recordRefresh name record)
    call (.recordRefresh name { nextRefreshAt := some next })

/-- The arm for a cascade request. -/
def cascade (backend : Backend) (name now : String) (build : Build) : Task Unit := do
  match ← tryReload backend name build with
  | .published stats =>
    call (.recordRefresh name {
      lastRefreshAt := some now
      lastRefreshDurationMs := some stats.elapsedMs
      refreshSource := some .cascade })
  | _ => return

/-- A reload of a `reload-all` wave, with `record_reload_failure` for one that fails. -/
def waveReload (backend : Backend) (name : String) (build : Build) : Task Unit := do
  match ← tryReload backend name build with
  | .failed error =>
    let record := (← call (.refreshRecord name)).getD {}
    let failures := record.consecutiveFailures
    call (.recordRefresh name { record with
      consecutiveFailures := if failures + 1 = 0 then failures else failures + 1
      lastError := some (String.ofList (error.toList.take 500)) })
  | _ => return

/-- The operations, each with the way its build will end. -/
inductive Op where
  | startup (name : String) (managed : Bool) (build : Build)
  | firstTouch (name : String) (ready : Bool) (build : Build)
  | reload (name : String) (build : Build)
  | register (name : String) (managed : Bool) (build : Build)
  | unregister (name : String)
  | tick (name : String) (failures : UInt32) (timeout : Nat) (now next : String) (build : Build)
  | cascade (name now : String) (build : Build)
  | waveReload (name : String) (build : Build)

/-- DuckDB builds before it serves, and has no first touch. -/
def Op.program (backend : Backend) : Op → Task Unit
  | .startup name managed build =>
    if backend = .dataFusion then buildOneStartup name managed build else return
  | .firstTouch name ready build =>
    if backend = .dataFusion then firstTouchBuild name ready build else return
  | .reload name build => do
    let _ ← Records.reload backend name build
    return
  | .register name managed build => Records.register backend name managed build
  | .unregister name => Records.unregister backend name
  | .tick name failures timeout now next build =>
    Records.tick backend name failures timeout now next build
  | .cascade name now build => Records.cascade backend name now build
  | .waveReload name build => Records.waveReload backend name build

/-! ### The system -/

abbrev System (ι : Type) := Pool Ans ι Unit (World ι) Locals

abbrev System.step [DecidableEq ι] (backend : Backend) (ops : ι → Op) :
    Event ι → System ι → Option (System ι) :=
  Pool.step semantics fun i => (ops i).program backend

/-- A dataset the server is configured with, and whether its startup build succeeds. -/
structure Declared where
  name : String
  managed : Bool
  built : Bool
deriving DecidableEq, Repr

/-- `new_nonblocking`: nothing is built yet, and there is no record. -/
def newNonblocking (declared : List Declared) : World ι where
  configs := (declared.map fun d => ⟨d.name, d.managed⟩).toAList
  datasets := ∅
  records := ∅
  locks := ∅
  nextLock := 0
  owner _ := none
  published := ∅

def startupRecord (now : String) : RefreshRecord where
  lastRefreshAt := some now
  lastRefreshDurationMs := some 0
  refreshSource := some .startup

/-- `load_registry`: every dataset of the configuration has a record. -/
def loadRegistry (declared : List Declared) (now : String) : World ι where
  configs := (declared.map fun d => ⟨d.name, d.managed⟩).toAList
  datasets := ((declared.filter (·.built)).map (·.name)).toFinset
  records := (declared.map fun d => ⟨d.name, startupRecord now⟩).toAList
  locks := ∅
  nextLock := 0
  owner _ := none
  published := ((declared.filter (·.built)).map (·.name)).toFinset

def opened (backend : Backend) (declared : List Declared) (now : String) : World ι :=
  match backend with
  | .dataFusion => newNonblocking declared
  | .duckdb => loadRegistry declared now

/-- A record exists for a configured dataset only, and it has a time of a refresh just when a
generation was published since the dataset was registered. -/
structure World.Truthful (w : World ι) : Prop where
  configured : ∀ name ∈ w.records, name ∈ w.configs
  refreshed : ∀ name ∈ w.configs,
    ((w.records.lookup name).bind (·.lastRefreshAt)).isSome ↔ name ∈ w.published

end Datapress.Refresh.Records
