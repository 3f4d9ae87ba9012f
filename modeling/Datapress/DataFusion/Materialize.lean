import Datapress.Errors
import Datapress.Library.Machine
import Datapress.Schema
import Datapress.Storage

/-! The builds of a query dataset in the DataFusion store, with the generations they write, delete
and publish. A reload takes the lock of the dataset and a build of the startup does not, so that
builds may overlap. -/
namespace Datapress.DataFusion.Materialize
open Datapress.Storage

/-- What a build asks the query engine: `execute` plans a statement over the dependencies
as they are published and collects its rows, and `fingerprint` is `schema_fingerprint` of
their schema. -/
structure QueryEngine (Upstream Rows : Type) where
  execute : String → Upstream → Except AppError Rows
  isEmpty : Rows → Bool
  bytes : Rows → Nat
  fingerprint : Rows → String

/-- What asks for a build. -/
inductive Trigger where
  | boot
  /-- The first query of a dataset that is built lazily. -/
  | firstTouch
  | register
  /-- An explicit, scheduled or cascaded reload. -/
  | reload
deriving Repr, DecidableEq

section
variable {Upstream Rows : Type}

/-- The statement that a build executes. -/
def applySortBy (sql : String) (sortBy : List String) : String :=
  if sortBy.isEmpty then sql
  else
    let orderCols := ", ".intercalate (sortBy.map DatasetSchema.quoteIdent)
    s!"SELECT * FROM ({sql}) AS _m ORDER BY {orderCols}"

def effectiveResidency (d : QueryDataset) (storage : Option MaterializationStorage) :
    MaterializeResidency :=
  match d.residency, storage with
  | .auto, none => .memory
  | residency, _ => residency

def tryReuseGeneration (storage : MaterializationStorage) (sql : String)
    (dir : DatasetDir Rows) : Option (String × GenerationManifest) :=
  match storage.backend, dir.listCompleteGenerations.getLast? with
  | .local, some (id, manifest) =>
    if manifest.sqlHash = fnv1aHash sql then some (id, manifest) else none
  | _, _ => none

/-- The generation that a build adopts instead of executing the statement. -/
def reusable (storage : Option MaterializationStorage) (d : QueryDataset) (sql : String)
    (dir : DatasetDir Rows) : Option (String × GenerationManifest) :=
  if d.reuses then storage.bind fun storage => tryReuseGeneration storage sql dir else none

/-- The rows of the statement; a build needs some. -/
def collectRows (engine : QueryEngine Upstream Rows) (d : QueryDataset) (sql : String)
    (upstream : Upstream) : Except AppError Rows := do
  let rows ← engine.execute (applySortBy sql d.sortBy) upstream
  if engine.isEmpty rows then
    .error (.emptyDataset s!"dataset '{d.name}': query source produced no rows")
  else .ok rows

/-- The rows of a build, and whether they are written to storage. -/
def evaluate (engine : QueryEngine Upstream Rows) (storage : Option MaterializationStorage)
    (d : QueryDataset) (sql : String) (upstream : Upstream) : Except AppError (Rows × Bool) :=
  match effectiveResidency d storage, storage with
  | .memory, _ => (·, false) <$> collectRows engine d sql upstream
  | .lazy, some _ => (·, true) <$> collectRows engine d sql upstream
  | .auto, some storage =>
    (fun rows => (rows, decide (storage.threshold < engine.bytes rows))) <$>
      collectRows engine d sql upstream
  | .lazy, none =>
    .error (.internal s!"dataset '{d.name}': residency = lazy requires [server.storage]")
  | .auto, none =>
    .error (.internal s!"dataset '{d.name}': internal: auto residency without storage")

/-- The ids the collector keeps of those it has found complete: the newest two and the one just
written. -/
def keepIds (found : List String) (current : String) : List String :=
  let newest := found.reverse.take 2
  if newest.contains current then newest else newest ++ [current]

/-- `gc_storage_generations` once it has listed the complete generations. -/
def gcStorageGenerations (storage : MaterializationStorage) (found : List String)
    (current : String) (stuck : List String) (dir : DatasetDir Rows) : DatasetDir Rows :=
  match storage.backend with
  | .local => dir.gcGenerations (keepIds found current) stuck
  | .s3 => dir

def bootGcStorage (storage : Option MaterializationStorage) (stuck : List String)
    (dir : DatasetDir Rows) : DatasetDir Rows :=
  match storage.map MaterializationStorage.backend with
  | some .local => dir.gcGenerations dir.newestTwo stuck
  | _ => dir

end

/-- The directories of the generations. One that was removed under a build may be left with some
of its files or with none. -/
abbrev Dir (Rows : Type) := DatasetDir (Option Rows)

/-- The published generation: rows in memory, or a listing of a directory. -/
inductive Served (Rows : Type) where
  | memory (rows : Rows)
  | stored (id : String)
deriving DecidableEq

def Served.rows {Rows : Type} (dir : Dir Rows) : Served Rows → Option Rows
  | .memory rows => some rows
  | .stored id => (dir.lookup id).bind (·.rows)

/-- How far a build is. A collected generation has only to be published. -/
inductive Stage (Rows : Type) where
  | adopting (id : String)
  | resident (rows : Rows)
  | spilling (rows : Rows)
  /-- The first file has been created. -/
  | writing (id : String) (rows : Rows)
  | written (id : String) (rows : Rows)
  | sealed (id : String)
  /-- The collector has listed the complete generations. -/
  | listed (id : String) (found : List String)
  | collected (id : String)
deriving DecidableEq

/-- A build under way, and the dependencies as they were when it executed its statement. -/
structure Job (Upstream Rows : Type) where
  trigger : Trigger
  seen : Upstream
  stage : Stage Rows
deriving DecidableEq

structure Builds (Upstream Rows : Type) where
  dataset : QueryDataset
  upstream : Upstream
  dir : Dir Rows
  /-- The generation ids so far. -/
  used : List String
  served : Option (Served Rows) := none
  jobs : List (Job Upstream Rows) := []

/-- What the builds do, each by its place. -/
inductive Action (Upstream Rows : Type) where
  /-- A dependency publishes. -/
  | upstream (now : Upstream)
  /-- The server starts again, perhaps with another configuration of the dataset. -/
  | restart (dataset : QueryDataset) (stuck : List String)
  /-- `opens` says whether the files of an adopted generation can be listed. -/
  | start (trigger : Trigger) (opens : Bool)
  | create (i : Nat) (id : String)
  /-- `part` is what the files hold if the directory was removed under them. -/
  | write (i : Nat) (part : Option Rows)
  | writeManifest (i : Nat)
  | list (i : Nat)
  | collect (i : Nat) (stuck : List String)
  | publish (i : Nat)
  /-- The build fails or is dropped where it is. -/
  | fail (i : Nat)
deriving DecidableEq

namespace Builds
variable {Upstream Rows : Type}

def initial (dataset : QueryDataset) (upstream : Upstream) (dir : Dir Rows) :
    Builds Upstream Rows where
  dataset
  upstream
  dir
  used := dir.keys

/-- `build_query_dataset` up to its first write. -/
def start (engine : QueryEngine Upstream Rows) (storage : Option MaterializationStorage)
    (trigger : Trigger) (opens : Bool) (s : Builds Upstream Rows) : Builds Upstream Rows :=
  let building (stage : Stage Rows) : Builds Upstream Rows :=
    { s with jobs := { trigger, seen := s.upstream, stage } :: s.jobs }
  match s.dataset.sql with
  | none => s
  | some sql =>
    match reusable storage s.dataset sql s.dir, opens with
    | some (id, _), true => building (.adopting id)
    | _, _ =>
      match evaluate engine storage s.dataset sql s.upstream with
      | .ok (rows, true) => building (.spilling rows)
      | .ok (rows, false) => building (.resident rows)
      | .error _ => s

/-- The build goes on to its next stage. -/
def atStage (s : Builds Upstream Rows) (i : Nat) (job : Job Upstream Rows) (stage : Stage Rows) :
    Builds Upstream Rows :=
  { s with jobs := { job with stage } :: s.jobs.eraseIdx i }

def publish (s : Builds Upstream Rows) (i : Nat) (served : Served Rows) : Builds Upstream Rows :=
  { s with served := some served, jobs := s.jobs.eraseIdx i }

/-- What a build finds in its directory. -/
def rowsIn (s : Builds Upstream Rows) (id : String) : Option Rows :=
  (s.dir.lookup id).bind (·.rows)

def step (engine : QueryEngine Upstream Rows) (storage : Option MaterializationStorage) :
    Action Upstream Rows → Builds Upstream Rows → Option (Builds Upstream Rows)
  | .upstream now, s => some { s with upstream := now }
  | .restart dataset stuck, s =>
    some { s with dataset, dir := bootGcStorage storage stuck s.dir, served := none, jobs := [] }
  | .start trigger opens, s => some (s.start engine storage trigger opens)
  | .create i id, s =>
    match s.jobs[i]? with
    | some job =>
      match job.stage with
      | .spilling rows =>
        if id ∈ s.used then none
        else some { s.atStage i job (.writing id rows) with
          dir := s.dir.insert id { rows := none }, used := id :: s.used }
      | _ => none
    | none => none
  | .write i part, s =>
    match s.jobs[i]? with
    | some job =>
      match job.stage with
      | .writing id rows => some { s.atStage i job (.written id rows) with
          dir := s.dir.insert id { rows := if id ∈ s.dir then some rows else part } }
      | _ => none
    | none => none
  | .writeManifest i, s =>
    match s.jobs[i]?, s.dataset.sql with
    | some job, some sql =>
      match job.stage with
      | .written id rows =>
        let manifest : GenerationManifest :=
          { sqlHash := fnv1aHash sql, schemaHash := fnv1aHash (engine.fingerprint rows) }
        -- It creates the directory again when there is none.
        some { s.atStage i job (.sealed id) with
          dir := s.dir.insert id { rows := s.rowsIn id, manifest := some manifest } }
      | _ => none
    | _, _ => none
  | .list i, s =>
    match s.jobs[i]? with
    | some job =>
      match job.stage with
      | .sealed id => some (s.atStage i job
          (.listed id (s.dir.listCompleteGenerations.map (·.1))))
      | _ => none
    | none => none
  | .collect i stuck, s =>
    match s.jobs[i]?, storage with
    | some job, some storage =>
      match job.stage with
      | .listed id found => some { s.atStage i job (.collected id) with
          dir := gcStorageGenerations storage found id stuck s.dir }
      | _ => none
    | _, _ => none
  | .publish i, s =>
    match s.jobs[i]? with
    | some job =>
      match job.stage with
      | .adopting id | .collected id => some (s.publish i (.stored id))
      | .resident rows => some (s.publish i (.memory rows))
      | _ => none
    | none => none
  | .fail i, s => s.jobs[i]?.map fun _ => { s with jobs := s.jobs.eraseIdx i }

end Builds
end Datapress.DataFusion.Materialize
