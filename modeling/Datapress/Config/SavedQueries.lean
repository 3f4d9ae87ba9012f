import Datapress.Config.Registry
import Datapress.Library.Machine

/-! The requests of the saved-queries API step by step, with everything that runs beside them:
registrations in the background, `register_dataset` and the expiry of temporary datasets. -/
namespace Datapress.Config
open Machine (Run Anything)
open Refresh (SavedQueriesSettings)

/-- A file of the managed directory: what `to_managed_toml` says of a dataset, or the remains of
a write that failed halfway. -/
inductive ManagedFile where
  | describes (config : DatasetConfig)
  | torn

/-- Where a call of `register` comes from. -/
inductive Origin where
  /-- The request waits for the registration. -/
  | create (ttl : Option Nat)
  /-- The request was answered with 202. Nothing reads its lifetime. -/
  | spawned (ttl : Option Nat)
  | post
deriving DecidableEq

/-- How far a request has come, or a task in the background. -/
inductive Task where
  /-- `create_query` is about to write the file. -/
  | checked (config : DatasetConfig) (asyncMode : Bool)
  | registering (config : DatasetConfig) (origin : Origin)
  /-- `register` waits for the lock. -/
  | queued (config : DatasetConfig) (origin : Origin) (lock : Nat)
  | building (config : DatasetConfig) (origin : Origin) (lock : Nat)
  /-- `create_query` is about to schedule the expiry of what it has registered. -/
  | created (name : String) (ttl incarnation : Nat)
  | guarded (name : String)
  /-- The scheduler is about to unregister a dataset. -/
  | expiring (name : String) (incarnation : Nat)
  /-- `unregister` waits for the lock. An expiry knows what it was scheduled for. -/
  | removing (name : String) (expiry : Option Nat) (lock : Nat)
  /-- `delete_query` is about to remove the file. -/
  | unregistered (name : String)

/-- What a task asks `unregister` for. -/
def Task.asks : Task → Option (String × Option Nat)
  | .guarded name => some (name, none)
  | .expiring name incarnation => some (name, some incarnation)
  | _ => none

/-- A request was answered with success. -/
inductive Success where
  | created (name : String)
  | deleted (name : String)
deriving Repr, DecidableEq

/-- A request for an expiry. The incarnation is for reasoning only: the code has the name. -/
structure Expiry where
  fireAt : Nat
  name : String
  incarnation : Nat
deriving Repr, DecidableEq

/-- The server. A registration is the data of its dataset: each has its own number. -/
structure System where
  registry : Registry Nat
  incarnations : Nat
  /-- `<name>.toml` in the managed directory. -/
  files : AList fun _ : String => ManagedFile
  /-- `reload_locks` -/
  locks : AList fun _ : String => Nat
  nextLock : Nat := 0
  held : List Nat := []
  tasks : List Task := []
  now : Nat := 0
  /-- What has been sent to the scheduler, and what it has received. -/
  channel : List Expiry := []
  pending : List Expiry := []
  /-- The incarnations that were accepted with a lifetime, and those handed to the scheduler. -/
  promised : List Nat := []
  handed : List Nat := []
  successes : List Success := []

inductive WriteOutcome where
  | done
  | refused
  | torn
deriving Repr, DecidableEq

inductive Action where
  | create (request : CreateQueryRequest) (asyncMode : Bool) (authorized : Except AppError Unit)
  | write (i : Nat) (outcome : WriteOutcome)
  /-- `register` up to the wait for the lock. -/
  | precheck (i : Nat)
  | acquire (i : Nat)
  | finish (i : Nat) (built : Except AppError Unit)
  | schedule (i : Nat)
  | receive
  | advance (elapsed : Nat)
  | expire (i : Nat)
  | delete (name : String) (authorized : Except AppError Unit)
  /-- `unregister` up to the wait for the lock. -/
  | unregister (i : Nat)
  | remove (i : Nat)
  | removeFile (i : Nat) (removed : Bool)
  | post (config : DatasetConfig) (authorized : Except AppError Unit)
  /-- The startup, a first query or a reload builds a configured dataset. -/
  | publish (name : String)

namespace System

/-- The server with what has been registered and written so far. -/
def boot (registry : Registry Nat) (incarnations : Nat)
    (files : AList fun _ : String => ManagedFile) : System :=
  { registry, incarnations, files, locks := ∅ }

/-- The tasks when one goes on as another, or is over. -/
def others (s : System) (i : Nat) (next : Option Task) : List Task :=
  next.toList ++ s.tasks.eraseIdx i

def replace (s : System) (i : Nat) (next : Option Task) : System :=
  { s with tasks := s.others i next }

/-- The lock of a name, a new one when it has none. -/
def lockOf (s : System) (name : String) : Nat × System :=
  match s.locks.lookup name with
  | some lock => (lock, s)
  | none => (s.nextLock, { s with
      locks := s.locks.insert name s.nextLock, nextLock := s.nextLock + 1 })

def release (s : System) (lock : Nat) : System := { s with held := s.held.erase lock }

/-- `create_query` after the file: it answers, or waits for `register`. -/
def proceed (config : DatasetConfig) (ttl : Option Nat) (asyncMode : Bool) (s : System) :
    Task × System :=
  if asyncMode then
    (.registering config (.spawned ttl),
      { s with successes := .created config.name :: s.successes })
  else (.registering config (.create ttl), s)

/-- The dataset is registered, and the request that waited for it goes on. -/
def settle (config : DatasetConfig) (origin : Origin) (s : System) : Option Task × System :=
  let k := s.incarnations
  let s := { s with registry := s.registry.put config k, incarnations := k + 1 }
  match origin with
  | .create ttl =>
    let s := { s with successes := .created config.name :: s.successes }
    match config.temp, ttl with
    | true, some ttl => (some (.created config.name ttl k), { s with promised := k :: s.promised })
    | _, _ => (none, s)
  | .spawned ttl =>
    if config.temp && ttl.isSome then (none, { s with promised := k :: s.promised }) else (none, s)
  | .post => (none, s)

/-- `unregister` finds out whether the dataset is managed. -/
def lookUp (s : System) (i : Nat) (name : String) (expiry : Option Nat) : System :=
  match s.registry.mayUnregister name with
  | .error _ => s.replace i none
  | .ok _ =>
    let (lock, s) := s.lockOf name
    s.replace i (some (.removing name expiry lock))

variable [ToLowercase]

def step (parse : Sql.Parser) (settings : SavedQueriesSettings) :
    Action → System → Option System
  | .create request asyncMode authorized, s =>
    match s.registry.prepareQuery parse settings authorized request with
    | .error _ => some s
    | .ok config =>
      if config.temp then
        let (task, s) := s.proceed config request.ttl asyncMode
        some { s with tasks := task :: s.tasks }
      else some { s with tasks := .checked config asyncMode :: s.tasks }
  | .write i outcome, s =>
    match s.tasks[i]? with
    | some (.checked config asyncMode) =>
      match outcome with
      | .refused => some (s.replace i none)
      | .torn =>
        some { s.replace i none with files := s.files.insert config.name .torn }
      | .done =>
        let (task, s) := s.proceed config none asyncMode
        some { s.replace i task with files := s.files.insert config.name (.describes config) }
    | _ => none
  | .precheck i, s =>
    match s.tasks[i]? with
    | some (.registering config origin) =>
      match s.registry.mayRegister config (.ok 0) with
      | .error _ => some (s.replace i none)
      | .ok _ =>
        let (lock, s) := s.lockOf config.name
        some (s.replace i (some (.queued config origin lock)))
    | _ => none
  | .acquire i, s =>
    match s.tasks[i]? with
    | some (.queued config origin lock) =>
      if lock ∈ s.held then none
      else if s.registry.names.contains config.name then some (s.replace i none)
      else some { s.replace i (some (.building config origin lock)) with held := lock :: s.held }
    | _ => none
  | .finish i built, s =>
    match s.tasks[i]? with
    | some (.building config origin lock) =>
      match built with
      | .error _ => some ((s.replace i none).release lock)
      | .ok _ =>
        let (task, s) := s.settle config origin
        some ((s.replace i task).release lock)
    | _ => none
  | .schedule i, s =>
    match s.tasks[i]? with
    | some (.created name ttl incarnation) => some { s.replace i none with
        channel := s.channel ++ [⟨s.now + ttl, name, incarnation⟩]
        handed := incarnation :: s.handed }
    | _ => none
  | .receive, s =>
    match s.channel with
    | [] => none
    | request :: rest => some { s with channel := rest, pending := s.pending ++ [request] }
  | .advance elapsed, s => some { s with now := s.now + elapsed }
  | .expire i, s =>
    match s.pending[i]? with
    | some request =>
      if request.fireAt ≤ s.now then some { s with
        pending := s.pending.eraseIdx i
        tasks := .expiring request.name request.incarnation :: s.tasks }
      else none
    | none => none
  | .delete name authorized, s =>
    match s.registry.mayDelete settings authorized name with
    | .error _ => some s
    | .ok _ => some { s with tasks := .guarded name :: s.tasks }
  | .unregister i, s =>
    match s.tasks[i]?.bind Task.asks with
    | some (name, expiry) => some (s.lookUp i name expiry)
    | none => none
  | .remove i, s =>
    match s.tasks[i]? with
    | some (.removing name expiry lock) =>
      if lock ∈ s.held then none
      else
        let s := { s with registry := s.registry.drop name, locks := s.locks.erase name }
        match expiry with
        | some _ => some (s.replace i none)
        | none => some { s.replace i (some (.unregistered name)) with
            successes := .deleted name :: s.successes }
    | _ => none
  | .removeFile i removed, s =>
    match s.tasks[i]? with
    | some (.unregistered name) =>
      let s := s.replace i none
      if settings.dir.isSome && removed then some { s with files := s.files.erase name } else some s
    | _ => none
  | .post config authorized, s =>
    match authorized with
    | .error _ => some s
    | .ok _ => some { s with tasks := .registering config .post :: s.tasks }
  | .publish name, s =>
    if name ∈ s.registry.configs ∧ name ∉ s.registry.datasets then some { s with
      registry := { s.registry with datasets := s.registry.datasets.insert name s.incarnations }
      incarnations := s.incarnations + 1 }
    else none

end System
end Datapress.Config
