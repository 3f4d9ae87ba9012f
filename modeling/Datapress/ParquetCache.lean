import Datapress.Library.Machine

/-! The cache of Parquet exports, for one dataset name: the publishes under the name, the
invalidations that some of them are followed by, and the export requests between them. -/
namespace Datapress.ParquetCache

/-- A published generation. No two publishes under a name have the same version. -/
structure Generation (Rows : Type) where
  version : Nat
  rows : Rows
deriving Repr, DecidableEq

inductive Publisher where
  /-- `POST /datasets/{name}/reload`. -/
  | reload
  | reloadAll
  | schedule
  | cascade
  | register
  | firstTouch
deriving Repr, DecidableEq

/-- The handler and the wave task drop the export after they published. -/
def Publisher.invalidates : Publisher → Bool
  | .reload | .reloadAll => true
  | .schedule | .cascade | .register | .firstTouch => false

/-- How far `parquet_dataset` is. -/
inductive Phase (Rows : Type) where
  /-- The dataset exists and hides no column. -/
  | admitted
  /-- Nothing was cached. -/
  | building
  | built (generation : Generation Rows)
  | done
deriving Repr, DecidableEq

structure Request (Rows : Type) where
  /-- The generations that were published at some time since the request began. -/
  window : List (Generation Rows)
  phase : Phase Rows := .admitted
deriving Repr, DecidableEq

/-- The export that a request has built and not yet inserted. -/
def Request.pending {Rows : Type} (request : Request Rows) : Option (Generation Rows) :=
  match request.phase with
  | .built generation => some generation
  | _ => none

/-- An export that was served, whether it was cached, and the newest generation then. -/
structure Answer (Rows : Type) where
  window : List (Generation Rows)
  exported : Generation Rows
  cached : Bool
  newest : Option (Generation Rows)
deriving Repr, DecidableEq

structure Exports (Rows : Type) where
  newest : Option (Generation Rows) := none
  /-- Whether the newest generation is in the registry. -/
  live : Bool := false
  /-- The generation whose export is cached. -/
  cache : Option (Generation Rows) := none
  /-- The reloads that have published and not yet invalidated. -/
  owed : Nat := 0
  requests : List (Request Rows) := []
  answers : List (Answer Rows) := []
deriving Repr, DecidableEq

inductive Action (Rows : Type) where
  | publish (publisher : Publisher) (rows : Rows)
  | invalidate
  /-- A reload ends between its publish and its invalidation. -/
  | abandon
  /-- `delete_query` or the expiry of a temporary dataset. -/
  | unregister
  | request
  | lookup (i : Nat)
  /-- The backend encodes the generation it serves. -/
  | build (i : Nat)
  | insert (i : Nat)
  | leave (i : Nat)
deriving Repr, DecidableEq

namespace Exports
variable {Rows : Type}

def enter (s : Exports Rows) (i : Nat) (request : Request Rows) (phase : Phase Rows) :
    Exports Rows :=
  { s with requests := s.requests.set i { request with phase } }

def answer (s : Exports Rows) (i : Nat) (request : Request Rows) (exported : Generation Rows)
    (cached : Bool) : Exports Rows :=
  { s.enter i request .done with
    answers := ⟨request.window, exported, cached, s.newest⟩ :: s.answers }

def step : Action Rows → Exports Rows → Option (Exports Rows)
  | .publish publisher rows, s =>
    let generation := { version := (s.newest.map (·.version + 1)).getD 0, rows }
    some { s with
      newest := some generation
      live := true
      owed := if publisher.invalidates then s.owed + 1 else s.owed
      requests := s.requests.map fun r => { r with window := generation :: r.window } }
  | .invalidate, s =>
    if 0 < s.owed then some { s with owed := s.owed - 1, cache := none } else none
  | .abandon, s => if 0 < s.owed then some { s with owed := s.owed - 1 } else none
  | .unregister, s => some { s with live := false }
  | .request, s =>
    match s.newest, s.live with
    | some generation, true => some { s with requests := s.requests ++ [⟨[generation], .admitted⟩] }
    | _, _ => none
  | .lookup i, s =>
    match s.requests[i]? with
    | some ⟨window, .admitted⟩ =>
      match s.cache with
      | some cached => some (s.answer i ⟨window, .admitted⟩ cached true)
      | none => some (s.enter i ⟨window, .admitted⟩ .building)
    | _ => none
  | .build i, s =>
    match s.requests[i]? with
    | some ⟨window, .building⟩ =>
      match s.newest, s.live with
      | some generation, true => some (s.enter i ⟨window, .building⟩ (.built generation))
      | _, _ => some (s.enter i ⟨window, .building⟩ .done)
    | _ => none
  | .insert i, s =>
    match s.requests[i]? with
    | some ⟨window, .built generation⟩ =>
      some { s.answer i ⟨window, .built generation⟩ generation false with cache := some generation }
    | _ => none
  | .leave i, s => (s.requests[i]?).map fun request => s.enter i request .done

/-- An export holds the rows of a generation that was published during its request, and a
cached one is of the newest generation. -/
def Coherent (answer : Answer Rows) : Prop :=
  (∃ generation ∈ answer.window, generation.rows = answer.exported.rows) ∧
    (answer.cached = true → answer.newest = some answer.exported)

/-- No request finds an export between a publish and its invalidation; a publish that is not
followed by an invalidation, and a reload that never invalidates, find nothing cached or
leave the invalidation to another reload; and so does the insertion of an export that is
older than the newest generation. -/
def Keeps (s : Exports Rows) : Action Rows → Prop
  | .publish publisher _ => publisher.invalidates = true ∨ s.cache = none ∨ 0 < s.owed
  | .abandon => s.cache = none ∨ 1 < s.owed
  | .lookup _ => s.cache = none ∨ s.owed = 0
  | .insert i => ∀ generation ∈ s.requests[i]?.bind Request.pending,
      s.newest = some generation ∨ 0 < s.owed
  | .invalidate | .unregister | .request | .build _ | .leave _ => True

instance [DecidableEq Rows] (s : Exports Rows) : (action : Action Rows) → Decidable (s.Keeps action)
  | .publish publisher _ =>
    inferInstanceAs (Decidable (publisher.invalidates = true ∨ s.cache = none ∨ 0 < s.owed))
  | .abandon => inferInstanceAs (Decidable (s.cache = none ∨ 1 < s.owed))
  | .lookup _ => inferInstanceAs (Decidable (s.cache = none ∨ s.owed = 0))
  | .insert i => inferInstanceAs (Decidable (∀ generation ∈ s.requests[i]?.bind Request.pending,
      s.newest = some generation ∨ 0 < s.owed))
  | .invalidate | .unregister | .request | .build _ | .leave _ =>
    inferInstanceAs (Decidable True)

end Exports
end Datapress.ParquetCache
