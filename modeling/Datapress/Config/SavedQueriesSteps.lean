import Datapress.Config.Registrations
import Datapress.Config.SavedQueries
import Datapress.Sql.AllowlistProofs

/-! What each step of the saved-queries machine does, said once for the invariants. -/
namespace Datapress.Config
open Machine (Run Anything)
open Refresh (SavedQueriesSettings)

section
variable [ToLowercase] {parse : Sql.Parser} {settings : SavedQueriesSettings}

/-- The arrival of a request. -/
def Action.arrives : Action → Bool
  | .create .. | .delete .. | .post .. => true
  | _ => false

/-- All that a step can do, with what it needs. Only the steps of the locks leave open which lock
a name has. -/
inductive Moves (parse : Sql.Parser) (settings : SavedQueriesSettings) (s : System) :
    Action → System → Prop where
  /-- The request is turned down. -/
  | refused {a} (arrives : a.arrives = true) : Moves parse settings s a s
  | check {request asyncMode authorized config}
      (checks : s.registry.prepareQuery parse settings authorized request = .ok config)
      (kept : config.temp = false) : Moves parse settings s (.create request asyncMode authorized)
        { s with tasks := .checked config asyncMode :: s.tasks }
  | wait {request authorized config}
      (checks : s.registry.prepareQuery parse settings authorized request = .ok config)
      (temp : config.temp = true) : Moves parse settings s (.create request false authorized)
        { s with tasks := .registering config (.create request.ttl) :: s.tasks }
  | accept {request authorized config}
      (checks : s.registry.prepareQuery parse settings authorized request = .ok config)
      (temp : config.temp = true) : Moves parse settings s (.create request true authorized)
        { s with
          tasks := .registering config (.spawned request.ttl) :: s.tasks
          successes := .created config.name :: s.successes }
  | writeFails {i config asyncMode} (here : s.tasks[i]? = some (.checked config asyncMode)) :
      Moves parse settings s (.write i .refused)
        { s with tasks := s.others i none }
  | tear {i config asyncMode} (here : s.tasks[i]? = some (.checked config asyncMode)) :
      Moves parse settings s (.write i .torn)
        { s with
          tasks := s.others i none
          files := s.files.insert config.name .torn }
  | writeWait {i config} (here : s.tasks[i]? = some (.checked config false)) :
      Moves parse settings s (.write i .done)
        { s with
          tasks := s.others i (some (.registering config (.create none)))
          files := s.files.insert config.name (.describes config) }
  | writeAccept {i config} (here : s.tasks[i]? = some (.checked config true)) :
      Moves parse settings s (.write i .done)
        { s with
          tasks := s.others i (some (.registering config (.spawned none)))
          files := s.files.insert config.name (.describes config)
          successes := .created config.name :: s.successes }
  | precheckFails {i config origin e} (here : s.tasks[i]? = some (.registering config origin))
      (fails : s.registry.mayRegister config (.ok 0) = .error e) :
      Moves parse settings s (.precheck i) { s with tasks := s.others i none }
  | queue {i config origin k lock locks nextLock}
      (here : s.tasks[i]? = some (.registering config origin))
      (checks : s.registry.mayRegister config (.ok 0) = .ok k) :
      Moves parse settings s (.precheck i)
        { s with tasks := s.others i (some (.queued config origin lock)), locks, nextLock }
  | recheckFails {i config origin lock} (here : s.tasks[i]? = some (.queued config origin lock))
      (published : config.name ∈ s.registry.names) :
      Moves parse settings s (.acquire i) { s with tasks := s.others i none }
  | build {i config origin lock} (here : s.tasks[i]? = some (.queued config origin lock))
      (free : lock ∉ s.held) (fresh : config.name ∉ s.registry.names) :
      Moves parse settings s (.acquire i)
        { s with
          tasks := s.others i (some (.building config origin lock))
          held := lock :: s.held }
  | buildFails {i config origin lock e} (here : s.tasks[i]? = some (.building config origin lock)) :
      Moves parse settings s (.finish i (.error e))
        { s with tasks := s.others i none, held := s.held.erase lock }
  | put {i config origin lock next promised successes}
      (here : s.tasks[i]? = some (.building config origin lock))
      (settles : s.settle config origin = (next, { s with
        registry := s.registry.put config s.incarnations, incarnations := s.incarnations + 1
        promised, successes })) :
      Moves parse settings s (.finish i (.ok ()))
        { s with
          registry := s.registry.put config s.incarnations
          incarnations := s.incarnations + 1
          promised, successes
          tasks := s.others i next
          held := s.held.erase lock }
  | schedule {i name ttl k} (here : s.tasks[i]? = some (.created name ttl k)) :
      Moves parse settings s (.schedule i)
        { s with
          tasks := s.others i none
          channel := s.channel ++ [⟨s.now + ttl, name, k⟩]
          handed := k :: s.handed }
  | receive {request rest} (sent : s.channel = request :: rest) :
      Moves parse settings s .receive
        { s with channel := rest, pending := s.pending ++ [request] }
  | advance (elapsed) : Moves parse settings s (.advance elapsed) { s with now := s.now + elapsed }
  | expire {i request} (here : s.pending[i]? = some request) (due : request.fireAt ≤ s.now) :
      Moves parse settings s (.expire i)
        { s with
          pending := s.pending.eraseIdx i
          tasks := .expiring request.name request.incarnation :: s.tasks }
  | guard {name authorized} (checks : s.registry.mayDelete settings authorized name = .ok ()) :
      Moves parse settings s (.delete name authorized) { s with tasks := .guarded name :: s.tasks }
  | lookUpFails {i task name expiry e} (here : s.tasks[i]? = some task)
      (asks : task.asks = some (name, expiry)) (fails : s.registry.mayUnregister name = .error e) :
      Moves parse settings s (.unregister i) { s with tasks := s.others i none }
  | lookUp {i task name expiry lock locks nextLock} (here : s.tasks[i]? = some task)
      (asks : task.asks = some (name, expiry)) (checks : s.registry.mayUnregister name = .ok ()) :
      Moves parse settings s (.unregister i)
        { s with tasks := s.others i (some (.removing name expiry lock)), locks, nextLock }
  | removeExpired {i name k lock} (here : s.tasks[i]? = some (.removing name (some k) lock))
      (free : lock ∉ s.held) :
      Moves parse settings s (.remove i)
        { s with
          registry := s.registry.drop name
          locks := s.locks.erase name
          tasks := s.others i none }
  | removeDeleted {i name lock} (here : s.tasks[i]? = some (.removing name none lock))
      (free : lock ∉ s.held) :
      Moves parse settings s (.remove i)
        { s with
          registry := s.registry.drop name
          locks := s.locks.erase name
          tasks := s.others i (some (.unregistered name))
          successes := .deleted name :: s.successes }
  | keepFile {i name removed} (here : s.tasks[i]? = some (.unregistered name))
      (stays : (settings.dir.isSome && removed) = false) :
      Moves parse settings s (.removeFile i removed) { s with tasks := s.others i none }
  | removeFile {i name} (here : s.tasks[i]? = some (.unregistered name))
      (goes : settings.dir.isSome = true) :
      Moves parse settings s (.removeFile i true)
        { s with tasks := s.others i none, files := s.files.erase name }
  | post {config} : Moves parse settings s (.post config (.ok ()))
      { s with tasks := .registering config .post :: s.tasks }
  | publish {name} (configured : name ∈ s.registry.configs) (fresh : name ∉ s.registry.datasets) :
      Moves parse settings s (.publish name)
        { s with
          registry := { s.registry with
            datasets := s.registry.datasets.insert name s.incarnations }
          incarnations := s.incarnations + 1 }

omit [ToLowercase] in
/-- What a task is, or was before another one went on. -/
theorem System.mem_filterMap_others {α : Type} {f : Task → Option α} {s : System} {i : Nat}
    {next : Option Task} {x : α} (member : x ∈ (s.others i next).filterMap f) :
    next.bind f = some x ∨ x ∈ s.tasks.filterMap f := by
  obtain ⟨task, inside, is⟩ := List.mem_filterMap.mp member
  obtain new | old := List.mem_append.mp inside
  · exact .inl (Option.bind_eq_some_iff.mpr ⟨task, Option.mem_toList.mp new, is⟩)
  · exact .inr (List.mem_filterMap.mpr ⟨task, List.mem_of_mem_eraseIdx old, is⟩)

omit [ToLowercase] in
theorem System.lockOf_eq (s : System) (name : String) :
    ∃ lock locks nextLock, s.lockOf name = (lock, { s with locks, nextLock }) := by
  unfold lockOf
  split
  · exact ⟨_, s.locks, s.nextLock, rfl⟩
  · exact ⟨_, _, _, rfl⟩

omit [ToLowercase] in
theorem System.settle_eq (s : System) (config : DatasetConfig) (origin : Origin) :
    ∃ next promised successes, s.settle config origin = (next, { s with
      registry := s.registry.put config s.incarnations, incarnations := s.incarnations + 1
      promised, successes }) := by
  unfold settle
  cases origin with
  | create ttl =>
      dsimp only
      split
      · exact ⟨_, _, _, rfl⟩
      · exact ⟨_, s.promised, _, rfl⟩
  | spawned ttl =>
      dsimp only
      split
      · exact ⟨_, _, s.successes, rfl⟩
      · exact ⟨_, s.promised, s.successes, rfl⟩
  | post => exact ⟨_, s.promised, s.successes, rfl⟩

omit [ToLowercase] in
/-- What a registration leaves to do and promises. -/
theorem System.settle_cases {s t : System} {config : DatasetConfig} {origin : Origin}
    {next : Option Task} (settled : s.settle config origin = (next, t)) :
    ((∀ ttl, origin = .spawned (some ttl) → config.temp = false) ∧
      (next = none ∧ t.promised = s.promised ∨
        ∃ ttl, next = some (.created config.name ttl s.incarnations) ∧
          t.promised = s.incarnations :: s.promised)) ∨
    (config.temp = true ∧ (∃ ttl, origin = .spawned (some ttl)) ∧
      next = none ∧ t.promised = s.incarnations :: s.promised) := by
  unfold settle at settled
  cases origin with
  | create ttl =>
      dsimp only at settled
      split at settled
      case h_1 ttl _ =>
        cases settled
        exact .inl ⟨nofun, .inr ⟨ttl, rfl, rfl⟩⟩
      case h_2 =>
        cases settled
        exact .inl ⟨nofun, .inl ⟨rfl, rfl⟩⟩
  | spawned ttl =>
      dsimp only at settled
      split at settled
      case isTrue both =>
        cases settled
        obtain ⟨temp, given⟩ := Bool.and_eq_true_iff.mp both
        obtain ⟨ttl, rfl⟩ := Option.isSome_iff_exists.mp given
        exact .inr ⟨temp, ⟨ttl, rfl⟩, rfl, rfl⟩
      case isFalse neither =>
        cases settled
        refine .inl ⟨?_, .inl ⟨rfl, rfl⟩⟩
        rintro ttl is
        cases is
        simpa using neither
  | post =>
      cases settled
      exact .inl ⟨nofun, .inl ⟨rfl, rfl⟩⟩

omit [ToLowercase] in
/-- Only a request that waited is answered when the dataset is registered. -/
theorem System.settle_successes {s t : System} {config : DatasetConfig} {origin : Origin}
    {next : Option Task} (settled : s.settle config origin = (next, t)) :
    (∃ ttl, origin = .create ttl) ∧ t.successes = .created config.name :: s.successes ∨
      (∀ ttl, origin ≠ .create ttl) ∧ t.successes = s.successes := by
  unfold settle at settled
  cases origin with
  | create ttl =>
      left
      refine ⟨⟨ttl, rfl⟩, ?_⟩
      dsimp only at settled
      split at settled <;> (cases settled; rfl)
  | spawned ttl =>
      right
      refine ⟨nofun, ?_⟩
      dsimp only at settled
      split at settled <;> (cases settled; rfl)
  | post =>
      cases settled
      exact .inr ⟨nofun, rfl⟩

theorem System.step_moves {s t : System} {a : Action}
    (stepped : System.step parse settings a s = some t) : Moves parse settings s a t := by
  cases a with
  | create request asyncMode authorized =>
      simp only [step] at stepped
      split at stepped
      case h_1 => cases stepped; exact .refused rfl
      case h_2 config checks =>
        split at stepped
        case isTrue temp =>
          cases asyncMode with
          | false => cases stepped; exact .wait checks temp
          | true => cases stepped; exact .accept checks temp
        case isFalse kept => cases stepped; exact .check checks (by simpa using kept)
  | write i outcome =>
      simp only [step] at stepped
      split at stepped
      case h_1 config asyncMode here =>
        cases outcome with
        | refused => cases stepped; exact .writeFails here
        | torn => cases stepped; exact .tear here
        | done =>
            cases asyncMode with
            | false => cases stepped; exact .writeWait here
            | true => cases stepped; exact .writeAccept here
      case h_2 => cases stepped
  | precheck i =>
      simp only [step] at stepped
      split at stepped
      case h_1 config origin here =>
        split at stepped
        case h_1 fails => cases stepped; exact .precheckFails here fails
        case h_2 checks =>
          obtain ⟨lock, locks, nextLock, same⟩ := s.lockOf_eq config.name
          rw [same] at stepped
          cases stepped
          exact .queue here checks
      case h_2 => cases stepped
  | acquire i =>
      simp only [step] at stepped
      split at stepped
      case h_1 config origin lock here =>
        split at stepped
        case isTrue => cases stepped
        case isFalse free =>
          split at stepped
          case isTrue published =>
            cases stepped
            exact .recheckFails here (List.contains_iff_mem.mp published)
          case isFalse fresh =>
            cases stepped
            exact .build here free fun published => fresh (List.contains_iff_mem.mpr published)
      case h_2 => cases stepped
  | finish i built =>
      simp only [step] at stepped
      split at stepped
      case h_1 config origin lock here =>
        cases built with
        | error e => cases stepped; exact .buildFails here
        | ok done =>
            obtain ⟨next, promised, successes, same⟩ := s.settle_eq config origin
            simp only [same] at stepped
            cases stepped
            exact .put here same
      case h_2 => cases stepped
  | schedule i =>
      simp only [step] at stepped
      split at stepped
      case h_1 here => cases stepped; exact .schedule here
      case h_2 => cases stepped
  | receive =>
      simp only [step] at stepped
      split at stepped
      case h_1 => cases stepped
      case h_2 sent => cases stepped; exact .receive sent
  | advance elapsed => cases stepped; exact .advance elapsed
  | expire i =>
      simp only [step] at stepped
      split at stepped
      case h_1 request here =>
        split at stepped
        case isTrue due => cases stepped; exact .expire here due
        case isFalse => cases stepped
      case h_2 => cases stepped
  | delete name authorized =>
      simp only [step] at stepped
      split at stepped
      case h_1 => cases stepped; exact .refused rfl
      case h_2 checks => cases stepped; exact .guard checks
  | unregister i =>
      simp only [step] at stepped
      split at stepped
      case h_1 name expiry asked =>
        obtain ⟨task, here, asks⟩ := Option.bind_eq_some_iff.mp asked
        simp only [lookUp] at stepped
        split at stepped
        case h_1 fails => cases stepped; exact .lookUpFails here asks fails
        case h_2 checks =>
          obtain ⟨lock, locks, nextLock, same⟩ := s.lockOf_eq name
          rw [same] at stepped
          cases stepped
          exact .lookUp here asks checks
      case h_2 => cases stepped
  | remove i =>
      simp only [step] at stepped
      split at stepped
      case h_1 name expiry lock here =>
        split at stepped
        case isTrue => cases stepped
        case isFalse free =>
          cases expiry with
          | none => cases stepped; exact .removeDeleted here free
          | some k => cases stepped; exact .removeExpired here free
      case h_2 => cases stepped
  | removeFile i removed =>
      simp only [step] at stepped
      split at stepped
      case h_1 name here =>
        split at stepped
        case isTrue goes =>
          obtain ⟨dir, rfl⟩ := Bool.and_eq_true_iff.mp goes
          cases stepped
          exact .removeFile here dir
        case isFalse stays => cases stepped; exact .keepFile here (by simpa using stays)
      case h_2 => cases stepped
  | post config authorized =>
      cases authorized with
      | error e => cases stepped; exact .refused rfl
      | ok passed => cases stepped; exact .post
  | publish name =>
      simp only [step] at stepped
      split at stepped
      case isTrue both => cases stepped; exact .publish both.1 both.2
      case isFalse => cases stepped

/-- A delete of a managed dataset that is nobody's dependency passes its checks. -/
theorem System.step_delete {s : System} {name : String} {authorized : Except AppError Unit}
    (passed : settings.check { authorized } = .ok ()) (managed : s.registry.isManaged name = true)
    (alone : s.registry.dependents name = []) :
    System.step parse settings (.delete name authorized) s =
      some { s with tasks := .guarded name :: s.tasks } := by
  rw [System.step, Registry.mayDelete_of_alone passed managed alone]

/-- The dataset that a step registers. -/
def System.puts (s : System) : Action → Option DatasetConfig
  | .finish i (.ok _) =>
    match s.tasks[i]? with
    | some (.building config _ _) => some config
    | _ => none
  | _ => none

/-- The name that a step removes. -/
def System.removes (s : System) : Action → Option String
  | .remove i =>
    match s.tasks[i]? with
    | some (.removing name _ lock) => if lock ∈ s.held then none else some name
    | _ => none
  | _ => none

/-- The registry with a configured dataset published. -/
def System.published (s : System) (name : String) : Registry Nat :=
  { s.registry with datasets := s.registry.datasets.insert name s.incarnations }

/-- What a step does to the registry. -/
inductive System.Changes (s : System) (a : Action) (r : Registry Nat) : Prop where
  | keep (puts : s.puts a = none) (removes : s.removes a = none) (same : r = s.registry)
  | put (config) (puts : s.puts a = some config) (removes : s.removes a = none)
      (put : r = s.registry.put config s.incarnations)
  | drop (name) (puts : s.puts a = none) (removes : s.removes a = some name)
      (drop : r = s.registry.drop name)
  | publish (name) (puts : s.puts a = none) (removes : s.removes a = none)
      (configured : name ∈ s.registry.configs) (fresh : name ∉ s.registry.datasets)
      (published : r = s.published name)

theorem System.step_changes {s t : System} {a : Action}
    (stepped : System.step parse settings a s = some t) : s.Changes a t.registry := by
  cases step_moves stepped with
  | put here _ => exact .put _ (by simp only [puts, here]) rfl rfl
  | removeExpired here free | removeDeleted here free =>
      exact .drop _ rfl (by simp only [removes, here, if_neg free]) rfl
  | publish configured fresh => exact .publish _ rfl rfl configured fresh rfl
  | refused arrives =>
      cases a with
      | create | delete | post => exact .keep rfl rfl rfl
      | _ => cases arrives
  | check | wait | accept | writeFails | tear | writeWait | writeAccept | precheckFails | queue
  | recheckFails | build | buildFails | schedule | receive | advance | expire | guard
  | lookUpFails | lookUp | keepFile | removeFile | post => exact .keep rfl rfl rfl

end

section Runs
attribute [local instance] asciiToLowercase

def selectId (table : String) : Sql.Statement :=
  .query (.mk false [] (Sql.selectFrom "id" (Sql.named table)) [] [] [])

/-- Two statements parse. -/
def twoTables : Surroundings where
  parse sql :=
    if sql = "SELECT id FROM orders" then .ok [selectId "orders"]
    else if sql = "SELECT id FROM big" then .ok [selectId "big"]
    else .error "unknown text"
  cycle _ := []
  parquetFiles _ := .ok ()
  pathExists _ := true

/-- The API is on, and nothing is persisted. -/
def allowed : SavedQueriesSettings := { enabled := true, dir := none }

def persisting : SavedQueriesSettings := { enabled := true, dir := some "datasets.d" }

def keeping : CreateQueryRequest :=
  { name := "big", kind := .query, sql := "SELECT id FROM orders" }

/-- A server that has started with `orders`. -/
def booted : System :=
  .boot (.start orders.datasets (AList.singleton "orders" 0) fun _ => .published) 1 ∅

/-- A temporary dataset is created while its request waits. -/
def creates (name table : String) (ttl : Option Nat) : List Action :=
  [.create { name, sql := s!"SELECT id FROM {table}", ttl } false (.ok ()), .precheck 0,
    .acquire 0, .finish 0 (.ok ())]

end Runs
end Datapress.Config
