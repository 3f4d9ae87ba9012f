import Datapress.DuckDB.Builds
import Datapress.Library.Machine

/-! The generations of a dataset on storage while builds write them, a view serves one of
them, and collectors delete the old ones. On local storage a build collects before it ends,
on S3 it leaves that to a task that works from a listing of its own. -/
namespace Datapress.DuckDB
open Datapress.Storage

/-- How far a build has come that writes its result to storage. -/
inductive Stage where
  | started
  /-- The directory of the generation is made, `COPY` has not returned. -/
  | writing
  | copied
  | viewed
  | sealed
  /-- `gc_generations` with the ids to keep. -/
  | collecting (keepIds : List String)
deriving Repr, DecidableEq

/-- There is something of the generation on storage and it is not complete. -/
def Stage.writes : Stage → Bool
  | .writing | .copied | .viewed => true
  | .started | .sealed | .collecting _ => false

/-- `gc_s3_generations_inner`. -/
inductive Collector where
  | started
  /-- The ids listed, those whose manifest is still to be looked for, those that have one. -/
  | checking (listed pending complete : List String)
  | deleting (pending : List String)
deriving Repr, DecidableEq

/-- The ids that a collector works from. -/
def Collector.names : Collector → List String
  | .started => []
  | .checking listed _ _ => listed
  | .deleting pending => pending

/-- The data files and the manifests by the ids of their generations, and the generation
that the view named by the dataset selects from. -/
structure Generations where
  data : List String := []
  manifests : List String := []
  view : Option String := none
  builds : AList fun _ : String => Stage := ∅
  collectors : List Collector := []

inductive Move where
  | start (id : String)
  /-- A build of `auto` residency that is below the threshold. -/
  | keepInMemory (id : String)
  /-- `storage_paths` on local storage. -/
  | createDir (id : String)
  | copy (id : String)
  | createView (id : String)
  | writeManifest (id : String)
  /-- `gc_storage`. -/
  | collect (id : String)
  /-- Each of the files of a directory is removed or stays. -/
  | remove (id generation : String) (data manifest : Bool)
  /-- A build ends, after its last step or with an error. -/
  | finish (id : String)
  | list (j : Nat)
  /-- A manifest that is there is not found when the request for it fails. -/
  | head (j : Nat) (found : Bool)
  | decide (j : Nat)
  /-- Each of the objects of a generation is deleted or the request for it fails. -/
  | delete (j : Nat) (data manifest : Bool)
  | stop (j : Nat)
deriving Repr, DecidableEq

namespace Generations

/-- What the collectors keep of the generations that have a manifest. -/
def newestTwo (complete : List String) : List String := Newest.newest 2 complete

/-- An id of `new_ulid` is none of these. -/
def mentions (s : Generations) (id : String) : Bool :=
  s.data.contains id || s.manifests.contains id || s.view == some id ||
    (s.builds.lookup id).isSome || s.collectors.any fun collector => collector.names.contains id

def atStage (s : Generations) (id : String) (stage : Stage) : Generations :=
  { s with builds := s.builds.insert id stage }

def ended (s : Generations) (id : String) : Generations :=
  { s with builds := s.builds.erase id }

def atPhase (s : Generations) (j : Nat) (collector : Collector) : Generations :=
  { s with collectors := s.collectors.set j collector }

def without (ids : List String) (id : String) : List String := ids.filter (· != id)

def removed (s : Generations) (id : String) (data manifest : Bool) : Generations :=
  { s with
    data := if data then without s.data id else s.data
    manifests := if manifest then without s.manifests id else s.manifests }

def step (backend : StorageBackendKind) (move : Move) (s : Generations) : Option Generations :=
  match move with
  | .start id => if s.mentions id then none else some (s.atStage id .started)
  | .keepInMemory id =>
    match s.builds.lookup id with
    | some .started => some { s.ended id with view := none }
    | _ => none
  | .createDir id =>
    match backend, s.builds.lookup id with
    | .local, some .started => some { s.atStage id .writing with data := id :: s.data }
    | _, _ => none
  | .copy id =>
    match backend, s.builds.lookup id with
    | .local, some .writing => if id ∈ s.data then some (s.atStage id .copied) else none
    | .s3, some .started => some { s.atStage id .copied with data := id :: s.data }
    | _, _ => none
  | .createView id =>
    match s.builds.lookup id with
    | some .copied =>
      if id ∈ s.data then some { s.atStage id .viewed with view := some id } else none
    | _ => none
  | .writeManifest id =>
    match s.builds.lookup id with
    | some .viewed => some { s.atStage id .sealed with manifests := id :: s.manifests }
    | _ => none
  | .collect id =>
    match backend, s.builds.lookup id with
    | .local, some .sealed => some (s.atStage id (.collecting (newestTwo s.manifests)))
    | .s3, some .sealed => some { s.ended id with collectors := s.collectors ++ [.started] }
    | _, _ => none
  | .remove id generation data manifest =>
    match s.builds.lookup id with
    | some (.collecting keepIds) =>
      if generation ∈ s.manifests ∧ generation ∈ keepIds then none
      else some (s.removed generation data manifest)
    | _ => none
  | .finish id => if (s.builds.lookup id).isSome then some (s.ended id) else none
  | .list j =>
    match s.collectors[j]? with
    | some .started =>
      let listed := (s.data ++ s.manifests).dedup
      some (s.atPhase j (.checking listed listed []))
    | _ => none
  | .head j found =>
    match s.collectors[j]? with
    | some (.checking listed (id :: rest) complete) =>
      if found then
        if id ∈ s.manifests then some (s.atPhase j (.checking listed rest (complete ++ [id])))
        else none
      else some (s.atPhase j (.checking listed rest complete))
    | _ => none
  | .decide j =>
    match s.collectors[j]? with
    | some (.checking listed [] complete) =>
      some (s.atPhase j (.deleting (listed.filter fun id => !(newestTwo complete).contains id)))
    | _ => none
  | .delete j data manifest =>
    match s.collectors[j]? with
    | some (.deleting (id :: rest)) => some ((s.atPhase j (.deleting rest)).removed id data manifest)
    | _ => none
  | .stop j => if j < s.collectors.length then some { s with collectors := s.collectors.eraseIdx j }
    else none

/-- The view serves the generation or a running build writes it. -/
def Live (s : Generations) (id : String) : Prop :=
  s.view = some id ∨ ∃ stage, s.builds.lookup id = some stage ∧ stage.writes

/-- A manifest is written only for the generation that is served, and no live generation is
deleted. -/
def Careful (s : Generations) : Move → Prop
  | .writeManifest id => s.view = some id
  | .remove _ generation _ _ => ¬ s.Live generation
  | .delete j _ _ => ∀ id rest, s.collectors[j]? = some (.deleting (id :: rest)) → ¬ s.Live id
  | _ => True

/-- The view selects from a generation whose data is there. -/
def ViewExists (s : Generations) : Prop := ∀ id, s.view = some id → id ∈ s.data

/-- No build moves the view while another one is between its view and its manifest or begins
to write while another one collects, and a collector decides for the live generations among
those it knows. -/
def Guarded (backend : StorageBackendKind) (s : Generations) : Move → Prop
  | .createView _ | .keepInMemory _ => ∀ id, s.builds.lookup id ≠ some .viewed
  | .createDir _ => ∀ id keepIds, s.builds.lookup id ≠ some (.collecting keepIds)
  | .collect _ => backend = .local → ∀ id, s.Live id → id ∈ newestTwo s.manifests
  | .decide j => ∀ listed complete, s.collectors[j]? = some (.checking listed [] complete) →
      ∀ id ∈ listed, s.Live id → id ∈ newestTwo complete
  | _ => True

/-- Neither a build nor a collector runs. -/
structure AtRest (s : Generations) : Prop where
  builds : s.builds = ∅
  collectors : s.collectors = []
  view : s.ViewExists

end Generations
end Datapress.DuckDB
