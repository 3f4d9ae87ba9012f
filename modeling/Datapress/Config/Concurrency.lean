import Datapress.Config.SavedQueriesSteps

/-! The requests that create and delete one dataset, in any interleaving: how their successes
alternate, and whether the managed file follows the registry. -/
namespace Datapress.Config
open Machine (Run Anything)
open Refresh (SavedQueriesSettings)

/-- What the managed directory should hold for a registered dataset. -/
def DatasetConfig.file (config : DatasetConfig) : Option ManagedFile :=
  if config.managed && !config.temp then some (.describes config) else none

def Origin.isSpawned : Origin → Bool
  | .spawned _ => true
  | _ => false

/-- What an unfinished request has already brought about for a name. -/
inductive Role where
  /-- A creation has written its file, or was answered. -/
  | creates (config : DatasetConfig) (origin : Origin)
  /-- A delete has unregistered the dataset, and may remove the file. -/
  | clears

def Role.isClears : Role → Bool
  | .clears => true
  | .creates .. => false

namespace Task

/-- The task belongs to a creation or a delete of the name. -/
def concerns (name : String) : Task → Bool
  | .checked config _ | .registering config _ | .queued config _ _ | .building config _ _ =>
    config.name = name
  | .created other _ _ | .guarded other | .expiring other _ | .removing other _ _
  | .unregistered other => other = name

def role (name : String) : Task → Option Role
  | .registering config origin | .queued config origin _ | .building config origin _ =>
    if config.name = name ∧ (!config.temp || origin.isSpawned) then some (.creates config origin)
    else none
  | .unregistered other => if other = name then some .clears else none
  | _ => none

/-- A creation of the name has passed the checks of `create_query`, and no expiry is for it. -/
def Regular (name : String) : Task → Prop
  | .checked config _ => config.name = name →
    config.managed = true ∧ config.temp = false ∧ config.validateForRegister = .ok ()
  | .registering config _ | .queued config _ _ | .building config _ _ =>
    config.name = name → config.validateForRegister = .ok ()
  | .expiring other _ | .removing other (some _) _ => other ≠ name
  | _ => True

end Task

/-- Between two successful creations of a name stands a successful delete. The last success comes
first. -/
def Alternates (name : String) (successes : List Success) : Prop :=
  ∀ later middle earlier,
    successes = later ++ .created name :: (middle ++ .created name :: earlier) →
    .deleted name ∈ middle

/-- The name was created and not deleted since. -/
def Opened (name : String) (successes : List Success) : Prop :=
  ∃ middle earlier, successes = middle ++ .created name :: earlier ∧ .deleted name ∉ middle

namespace System

/-- The file of a name is that of the registered dataset. -/
def Consistent (s : System) (name : String) : Prop :=
  s.files.lookup name = (s.registry.configs.lookup name).bind DatasetConfig.file

/-- No request for the name is in flight. -/
def Quiet (s : System) (name : String) : Prop := ∀ task ∈ s.tasks, task.concerns name = false

def roles (s : System) (name : String) : List Role := s.tasks.filterMap (Task.role name)

def absent (s : System) (name : String) : Bool :=
  decide (name ∉ s.registry.configs ∧ name ∉ s.registry.datasets)

/-- The name is not registered, and no request is between its first effect and its last. -/
def free (s : System) (name : String) : Bool := s.absent name && (s.roles name).isEmpty

/-- The step belongs to a creation or a delete, as far as it is about the name. -/
def requests (s : System) (name : String) : Action → Bool
  | .post config _ => !(config.name == name)
  | .expire i => (s.pending[i]?.map fun request => !(request.name == name)).getD true
  | _ => true

/-- A creation has its first effect while the name is free, a delete has its own while no creation
is on its way, and the writes, the builds and the removals that follow succeed. -/
def orderly [ToLowercase] (parse : Sql.Parser) (settings : SavedQueriesSettings) (s : System)
    (name : String) : Action → Bool
  | .create request asyncMode authorized =>
    match s.registry.prepareQuery parse settings authorized request with
    | .ok config => !(config.name = name && config.temp && asyncMode) || s.free name
    | .error _ => true
  | .write i outcome =>
    match s.tasks[i]? with
    | some (.checked config _) => config.name ≠ name ||
      match outcome with
      | .refused => true
      | .torn => false
      | .done => s.free name
    | _ => true
  | .finish i built =>
    match s.tasks[i]? with
    | some (.building config origin _) => config.name ≠ name ||
      if !config.temp || origin.isSpawned then built.isOk else !built.isOk || s.free name
    | _ => true
  | .remove i =>
    match s.tasks[i]? with
    | some (.removing other none _) => other ≠ name || (s.roles name).all Role.isClears
    | _ => true
  | .removeFile i removed =>
    match s.tasks[i]? with
    | some (.unregistered other) => other ≠ name || (s.files.lookup name).isNone ||
      (settings.dir.isSome && removed)
    | _ => true
  | _ => true

/-- How far the requests for a name have come, and what is then in the registry and on disk. -/
inductive Phase (s : System) (name : String) : Prop where
  | resting (roles : s.roles name = []) (consistent : s.Consistent name)
  | creating (config) (origin) (roles : s.roles name = [.creates config origin])
      (absent : s.absent name = true) (file : s.files.lookup name = config.file)
  | clearing (some : s.roles name ≠ []) (clears : ∀ role ∈ s.roles name, role = .clears)
      (absent : s.absent name = true)

/-- A name that was created and not deleted since is registered, or about to be. -/
structure Serial (s : System) (name : String) : Prop where
  phase : s.Phase name
  alternates : Alternates name s.successes
  opened : Opened name s.successes → name ∈ s.registry.configs ∨
    ∃ config ttl, .creates config (.spawned ttl) ∈ s.roles name

end System

theorem alternates_cons_iff {name : String} {last : Success} {earlier : List Success} :
    Alternates name (last :: earlier) ↔
      Alternates name earlier ∧ (last = .created name → ¬ Opened name earlier) := by
  constructor
  · intro alternates
    constructor
    · rintro later middle others rfl
      exact alternates (last :: later) middle others rfl
    · rintro rfl ⟨middle, others, rfl, undeleted⟩
      exact undeleted (alternates [] middle others rfl)
  · rintro ⟨alternates, fresh⟩ later middle others same
    cases later with
    | nil =>
        obtain ⟨rfl, rfl⟩ := List.cons.inj same
        by_contra undeleted
        exact fresh rfl ⟨middle, others, rfl, undeleted⟩
    | cons first later =>
        obtain ⟨rfl, rfl⟩ := List.cons.inj same
        exact alternates later middle others rfl

theorem opened_cons_iff {name : String} {last : Success} {earlier : List Success} :
    Opened name (last :: earlier) ↔
      last = .created name ∨ last ≠ .deleted name ∧ Opened name earlier := by
  constructor
  · rintro ⟨middle, others, same, undeleted⟩
    cases middle with
    | nil => exact .inl (List.cons.inj same).1
    | cons first middle =>
        obtain ⟨rfl, rfl⟩ := List.cons.inj same
        obtain ⟨apart, rest⟩ := List.mem_cons.not.mp undeleted |> not_or.mp
        exact .inr ⟨Ne.symm apart, middle, others, rfl, rest⟩
  · rintro (rfl | ⟨apart, middle, others, rfl, undeleted⟩)
    · exact ⟨[], earlier, rfl, List.not_mem_nil⟩
    · refine ⟨last :: middle, others, rfl, ?_⟩
      rintro (_ | ⟨_, member⟩)
      · exact apart rfl
      · exact undeleted member

namespace System

/-- A task goes on as another, and its role changes with it. -/
theorem roles_others {s : System} {i : Nat} {task : Task} {next : Option Task} {name : String}
    (here : s.tasks[i]? = some task) :
    ((task.role name).toList ++ (s.others i next).filterMap (Task.role name)).Perm
      ((next.bind (Task.role name)).toList ++ s.roles name) := by
  obtain ⟨inside, rfl⟩ := List.getElem?_eq_some_iff.mp here
  have all := (List.getElem_cons_eraseIdx_perm inside).filterMap (Task.role name)
  have first : (s.tasks[i] :: s.tasks.eraseIdx i).filterMap (Task.role name) =
      (s.tasks[i].role name).toList ++ (s.tasks.eraseIdx i).filterMap (Task.role name) := by
    rw [List.filterMap_cons]
    cases s.tasks[i].role name <;> rfl
  have new : next.toList.filterMap (Task.role name) = (next.bind (Task.role name)).toList := by
    cases next with
    | none => rfl
    | some task => cases role : task.role name <;> simp [role]
  rw [others, List.filterMap_append, new]
  rw [first] at all
  calc _ = (s.tasks[i].role name).toList ++ ((next.bind (Task.role name)).toList ++
        (s.tasks.eraseIdx i).filterMap (Task.role name)) := rfl
    _ |>.Perm ((next.bind (Task.role name)).toList ++ ((s.tasks[i].role name).toList ++
        (s.tasks.eraseIdx i).filterMap (Task.role name))) := by
      rw [← List.append_assoc, ← List.append_assoc]
      exact List.perm_append_comm.append_right _
    _ |>.Perm _ := all.append_left _

section
variable [ToLowercase] {parse : Sql.Parser} {settings : SavedQueriesSettings} {s t : System}
  {a : Action} {name : String}

theorem regular_step (regular : ∀ task ∈ s.tasks, task.Regular name)
    (requests : s.requests name a = true) (stepped : System.step parse settings a s = some t) :
    ∀ task ∈ t.tasks, task.Regular name := by
  have cons : ∀ {first : Task}, first.Regular name →
      ∀ task ∈ first :: s.tasks, task.Regular name := by
    intro first new
    exact List.forall_mem_cons.mpr ⟨new, regular⟩
  have others : ∀ {i : Nat} {next : Option Task}, (∀ task ∈ next, task.Regular name) →
      ∀ task ∈ s.others i next, task.Regular name := by
    intro i next new task member
    obtain fresh | old := List.mem_append.mp member
    · exact new task (Option.mem_toList.mp fresh)
    · exact regular task (List.mem_of_mem_eraseIdx old)
  have here : ∀ {i : Nat} {task : Task}, s.tasks[i]? = some task → task.Regular name :=
    fun found => regular _ (List.mem_of_getElem? found)
  have single : ∀ {i : Nat} {next : Task}, next.Regular name →
      ∀ task ∈ s.others i (some next), task.Regular name := by
    intro i next new
    exact others fun task is => Option.some.inj is ▸ new
  have ended : ∀ {i : Nat}, ∀ task ∈ s.others i none, task.Regular name :=
    others fun _ is => nomatch is
  cases step_moves stepped with
  | refused | receive | advance | publish => exact regular
  | check checks kept =>
      obtain ⟨managed, checked, _⟩ := Registry.prepareQuery_accepted checks
      exact cons fun _ => ⟨managed, kept, checked⟩
  | wait checks temp | accept checks temp =>
      exact cons fun _ => (Registry.prepareQuery_accepted checks).2.1
  | writeWait found | writeAccept found =>
      exact single fun same => (here found same).2.2
  | queue found | build found =>
      have before := here found
      exact single before
  | writeFails | tear | precheckFails | recheckFails | buildFails | schedule | lookUpFails
  | removeExpired | keepFile | removeFile => exact ended
  | removeDeleted => exact single True.intro
  | put found settles =>
      obtain ⟨_, ⟨rfl, _⟩ | ⟨ttl, rfl, _⟩⟩ | ⟨_, _, rfl, _⟩ := settle_cases settles
      · exact ended
      · exact single True.intro
      · exact ended
  | guard => exact cons True.intro
  | @expire i request found due =>
      apply cons
      rintro rfl
      simp [System.requests, found] at requests
  | @lookUp i task other expiry lock locks nextLock found asks checks =>
      cases expiry with
      | none => exact single True.intro
      | some k =>
          cases task with
          | expiring =>
              cases asks
              have before := here found
              exact single before
          | _ => cases asks
  | post =>
      apply cons
      intro same
      simp [System.requests, same] at requests

omit [ToLowercase] in
theorem absent_iff : s.absent name = true ↔
    name ∉ s.registry.configs ∧ name ∉ s.registry.datasets :=
  decide_eq_true_iff

omit [ToLowercase] in
theorem mem_roles {i : Nat} {task : Task} {role : Role} (here : s.tasks[i]? = some task)
    (is : task.role name = some role) : role ∈ s.roles name :=
  List.mem_filterMap.mpr ⟨task, List.mem_of_getElem? here, is⟩

omit [ToLowercase] in
/-- A creation that is on its way is alone, and nothing is registered. -/
theorem Phase.of_creates (phase : s.Phase name) {config : DatasetConfig} {origin : Origin}
    (member : .creates config origin ∈ s.roles name) : s.roles name = [.creates config origin] ∧
      s.absent name = true ∧ s.files.lookup name = config.file := by
  cases phase with
  | resting roles _ => rw [roles] at member; cases member
  | creating other source roles absent file =>
      rw [roles] at member
      cases List.mem_singleton.mp member
      exact ⟨roles, absent, file⟩
  | clearing _ clears _ => cases clears _ member

omit [ToLowercase] in
theorem Phase.of_clears (phase : s.Phase name) (member : .clears ∈ s.roles name) :
    (∀ role ∈ s.roles name, role = .clears) ∧ s.absent name = true := by
  cases phase with
  | resting roles _ => rw [roles] at member; cases member
  | creating config origin roles _ _ =>
      rw [roles] at member
      cases List.mem_singleton.mp member
  | clearing _ clears absent => exact ⟨clears, absent⟩

omit [ToLowercase] in
theorem Phase.of_free (phase : s.Phase name) (free : s.free name = true) :
    s.roles name = [] ∧ s.absent name = true ∧ s.files.lookup name = none := by
  obtain ⟨absent, empty⟩ := Bool.and_eq_true_iff.mp free
  have none := List.isEmpty_iff.mp empty
  refine ⟨none, absent, ?_⟩
  cases phase with
  | resting _ consistent =>
      rw [consistent, AList.lookup_eq_none.mpr (absent_iff.mp absent).1]
      rfl
  | creating config origin roles => cases none.symm.trans roles
  | clearing some => exact absurd none some

omit [ToLowercase] in
theorem Serial.not_opened (serial : s.Serial name) (absent : s.absent name = true)
    (waited : ∀ config ttl, .creates config (.spawned ttl) ∉ s.roles name) :
    ¬ Opened name s.successes := by
  intro opened
  obtain inside | ⟨config, ttl, member⟩ := serial.opened opened
  · exact (absent_iff.mp absent).1 inside
  · exact waited config ttl member

omit [ToLowercase] in
/-- A step that is not about the name, or changes nothing that counts. -/
theorem Serial.congr (serial : s.Serial name) (roles : (t.roles name).Perm (s.roles name))
    (configs : t.registry.configs.lookup name = s.registry.configs.lookup name)
    (absent : t.absent name = s.absent name)
    (files : t.files.lookup name = s.files.lookup name)
    (successes : t.successes = s.successes ∨ ∃ last, last ≠ .created name ∧ last ≠ .deleted name ∧
      t.successes = last :: s.successes) : t.Serial name := by
  obtain ⟨phase, alternates, opened⟩ := serial
  have known : name ∈ s.registry.configs → name ∈ t.registry.configs := by
    rw [← AList.lookup_isSome, ← AList.lookup_isSome, configs]
    exact id
  constructor
  · cases phase with
    | resting none consistent =>
        refine .resting (List.perm_nil.mp (none ▸ roles)) ?_
        rw [Consistent, files, configs]
        exact consistent
    | creating config origin alone fresh file =>
        exact .creating config origin (List.perm_singleton.mp (alone ▸ roles)) (absent.trans fresh)
          (files.trans file)
    | clearing some clears fresh =>
        refine .clearing (fun none => some ?_) (fun role member => ?_) (absent.trans fresh)
        · exact List.nil_perm.mp (none ▸ roles)
        · exact clears role (roles.mem_iff.mp member)
  · obtain same | ⟨last, uncreated, _, same⟩ := successes
    · rwa [same]
    · rw [same]
      exact alternates_cons_iff.mpr ⟨alternates, fun is => absurd is uncreated⟩
  · intro open'
    have before : Opened name s.successes := by
      obtain same | ⟨last, uncreated, _, same⟩ := successes
      · rwa [same] at open'
      · rw [same] at open'
        exact ((opened_cons_iff.mp open').resolve_left uncreated).2
    obtain inside | ⟨config, ttl, member⟩ := opened before
    · exact .inl (known inside)
    · exact .inr ⟨config, ttl, roles.mem_iff.mpr member⟩

omit [ToLowercase] in
/-- A creation has its first effect. -/
theorem Serial.starts (serial : s.Serial name) (free : s.free name = true)
    (config : DatasetConfig) {origin : Origin}
    (roles : (t.roles name).Perm (.creates config origin :: s.roles name))
    (registry : t.registry = s.registry) (file : t.files.lookup name = config.file)
    (successes : t.successes = s.successes ∨
      t.successes = .created name :: s.successes ∧ ∃ ttl, origin = .spawned ttl) :
    t.Serial name := by
  obtain ⟨none, absent, _⟩ := serial.phase.of_free free
  have closed := serial.not_opened absent fun config ttl member => by rw [none] at member; cases member
  have alone : t.roles name = [.creates config origin] := List.perm_singleton.mp (none ▸ roles)
  constructor
  · refine .creating config origin alone ?_ file
    rw [System.absent, registry]
    exact absent
  · obtain same | ⟨same, _⟩ := successes
    · rw [same]
      exact serial.alternates
    · rw [same]
      exact alternates_cons_iff.mpr ⟨serial.alternates, fun _ => closed⟩
  · intro opened
    obtain same | ⟨_, ttl, rfl⟩ := successes
    · rw [same] at opened
      exact absurd opened closed
    · exact .inr ⟨config, ttl, by rw [alone]; exact List.mem_singleton_self _⟩

omit [ToLowercase] in
/-- A task that has no role for the name goes on as one that has none, or ends. -/
theorem roles_quiet {i : Nat} {task : Task} {next : Option Task}
    (here : s.tasks[i]? = some task) (tasks : t.tasks = s.others i next)
    (before : task.role name = none) (after : next.bind (Task.role name) = none) :
    (t.roles name).Perm (s.roles name) := by
  have perm : ((task.role name).toList ++ (s.others i next).filterMap (Task.role name)).Perm _ :=
    roles_others here
  rw [before, after] at perm
  rw [roles, tasks]
  exact perm

omit [ToLowercase] in
theorem roles_same {i : Nat} {task : Task} {next : Task}
    (here : s.tasks[i]? = some task) (tasks : t.tasks = s.others i (some next))
    (same : next.role name = task.role name) : (t.roles name).Perm (s.roles name) := by
  have perm : ((task.role name).toList ++ (s.others i (some next)).filterMap
      (Task.role name)).Perm _ := roles_others here
  rw [Option.bind_some, same] at perm
  rw [roles, tasks]
  exact (List.perm_append_left_iff _).mp perm

omit [ToLowercase] in
theorem role_of_asks {task : Task} {x : String × Option Nat} (asks : task.asks = some x) :
    task.role name = none := by
  cases task with
  | guarded | expiring => rfl
  | _ => cases asks

omit [ToLowercase] in
theorem roles_cons {first : Task} (tasks : t.tasks = first :: s.tasks)
    (quiet : first.role name = none) : (t.roles name).Perm (s.roles name) := by
  rw [roles, tasks, List.filterMap_cons_none quiet, roles]

omit [ToLowercase] in
theorem roles_starts {i : Nat} {task next : Task} {role : Role} (here : s.tasks[i]? = some task)
    (tasks : t.tasks = s.others i (some next)) (before : task.role name = none)
    (after : next.role name = some role) : (t.roles name).Perm (role :: s.roles name) := by
  have perm : ((task.role name).toList ++ (s.others i (some next)).filterMap
      (Task.role name)).Perm _ := roles_others here
  rw [before, Option.bind_some, after] at perm
  rw [roles, tasks]
  exact perm

omit [ToLowercase] in
theorem roles_ends {i : Nat} {task : Task} {next : Option Task} {role : Role}
    (here : s.tasks[i]? = some task) (tasks : t.tasks = s.others i next)
    (before : task.role name = some role) (after : next.bind (Task.role name) = none) :
    (role :: t.roles name).Perm (s.roles name) := by
  have perm : ((task.role name).toList ++ (s.others i next).filterMap (Task.role name)).Perm _ :=
    roles_others here
  rw [before, after] at perm
  rw [roles, tasks]
  exact perm

/-- A registration whose request has written its file or was answered. -/
def Commits (name : String) (config : DatasetConfig) (origin : Origin) : Prop :=
  config.name = name ∧ (!config.temp || origin.isSpawned) = true

omit [ToLowercase] in
theorem Commits.role {config : DatasetConfig} {origin : Origin}
    (commits : Commits name config origin) :
    (Task.registering config origin).role name = some (.creates config origin) :=
  if_pos commits

omit [ToLowercase] in
theorem no_role {config : DatasetConfig} {origin : Origin}
    (uncommitted : ¬ Commits name config origin) :
    (Task.registering config origin).role name = none :=
  if_neg uncommitted

omit [ToLowercase] in
theorem absent_congr (configs : name ∈ t.registry.configs ↔ name ∈ s.registry.configs)
    (datasets : name ∈ t.registry.datasets ↔ name ∈ s.registry.datasets) :
    t.absent name = s.absent name := by
  simp only [absent, configs, datasets]

omit [ToLowercase] in
/-- A delete is done with the file. -/
theorem Serial.cleared (serial : s.Serial name)
    (roles : (.clears :: t.roles name).Perm (s.roles name)) (registry : t.registry = s.registry)
    (successes : t.successes = s.successes) (file : t.files.lookup name = none) :
    t.Serial name := by
  obtain ⟨clears, absent⟩ := serial.phase.of_clears (roles.subset List.mem_cons_self)
  have closed := serial.not_opened absent fun _ _ member => nomatch clears _ member
  have rest : ∀ role ∈ t.roles name, role = .clears := fun role member =>
    clears role (roles.subset (List.mem_cons_of_mem _ member))
  have still : t.absent name = true := by rw [System.absent, registry]; exact absent
  constructor
  · by_cases none : t.roles name = []
    · refine .resting none ?_
      rw [Consistent, file, AList.lookup_eq_none.mpr (absent_iff.mp still).1]
      rfl
    · exact .clearing none rest still
  · rw [successes]
    exact serial.alternates
  · rw [successes]
    exact fun opened => absurd opened closed

omit [ToLowercase] in
/-- A creation puts its dataset into the registry, and is answered if it has not been. -/
theorem Serial.registers (serial : s.Serial name) {config : DatasetConfig} (roles : t.roles name = [])
    (registered : t.registry.configs.lookup name = some config)
    (file : t.files.lookup name = config.file)
    (successes : t.successes = s.successes ∨
      t.successes = .created name :: s.successes ∧ ¬ Opened name s.successes) : t.Serial name := by
  constructor
  · refine .resting roles ?_
    rw [Consistent, registered, file]
    rfl
  · obtain same | ⟨same, closed⟩ := successes
    · rw [same]
      exact serial.alternates
    · rw [same]
      exact alternates_cons_iff.mpr ⟨serial.alternates, fun _ => closed⟩
  · intro _
    exact .inl (AList.lookup_isSome.mp (by rw [registered]; rfl))

omit [ToLowercase] in
theorem settle_role {config : DatasetConfig} {origin : Origin} {next : Option Task}
    (settled : s.settle config origin = (next, t)) : next.bind (Task.role name) = none := by
  obtain ⟨_, ⟨rfl, _⟩ | ⟨_, rfl, _⟩⟩ | ⟨_, _, rfl, _⟩ := settle_cases settled
  · rfl
  · rfl
  · rfl

theorem Serial.step (serial : s.Serial name) (regular : ∀ task ∈ s.tasks, task.Regular name)
    (requests : s.requests name a = true) (orderly : s.orderly parse settings name a = true)
    (stepped : System.step parse settings a s = some t) : t.Serial name := by
  have here : ∀ {i : Nat} {task : Task}, s.tasks[i]? = some task → task.Regular name :=
    fun found => regular _ (List.mem_of_getElem? found)
  have on_way : ∀ {i : Nat} {task : Task} {config : DatasetConfig} {origin : Origin},
      s.tasks[i]? = some task → task.role name = some (.creates config origin) →
      s.roles name = [.creates config origin] ∧ s.absent name = true ∧
        s.files.lookup name = config.file :=
    fun found is => serial.phase.of_creates (mem_roles found is)
  cases step_moves stepped with
  | refused => exact serial
  | receive | advance | check | guard | expire =>
      exact serial.congr (List.Perm.refl _) rfl rfl rfl (.inl rfl)
  | schedule found | writeFails found =>
      exact serial.congr (roles_quiet found rfl rfl rfl) rfl rfl rfl (.inl rfl)
  | lookUpFails found asks | lookUp found asks =>
      exact serial.congr (roles_quiet found rfl (role_of_asks asks) rfl) rfl rfl rfl (.inl rfl)
  | queue found | build found =>
      exact serial.congr (roles_same found rfl rfl) rfl rfl rfl (.inl rfl)
  | @post config =>
      have other : config.name ≠ name := by simpa [System.requests] using requests
      exact serial.congr (roles_cons rfl (no_role fun commits => other commits.1)) rfl rfl rfl
        (.inl rfl)
  | wait checks temp =>
      have uncommitted : ∀ {config ttl}, config.temp = true → ¬ Commits name config (.create ttl) := by
        rintro config ttl temp ⟨_, either⟩
        simp [temp, Origin.isSpawned] at either
      exact serial.congr (roles_cons rfl (no_role (uncommitted temp))) rfl rfl rfl (.inl rfl)
  | @accept request authorized config checks temp =>
      by_cases same : config.name = name
      · have free : s.free name = true := by simpa [System.orderly, checks, same, temp] using orderly
        obtain ⟨_, _, bare⟩ := serial.phase.of_free free
        have commits : Commits name config (.spawned request.ttl) := ⟨same, by simp [Origin.isSpawned]⟩
        refine serial.starts free config ?_ rfl ?_ (.inr ⟨by rw [same], request.ttl, rfl⟩)
        · rw [roles, List.filterMap_cons_some commits.role, roles]
        · simpa [DatasetConfig.file, temp] using bare
      · exact serial.congr (roles_cons rfl (no_role fun commits => same commits.1)) rfl rfl rfl
          (.inr ⟨.created config.name, fun is => same (Success.created.inj is), nofun, rfl⟩)
  | @tear i config asyncMode found =>
      have other : config.name ≠ name := by simpa [System.orderly, found] using orderly
      exact serial.congr (roles_quiet found rfl rfl rfl) rfl rfl
        (AList.lookup_insert_ne other.symm) (.inl rfl)
  | @writeWait i config found =>
      by_cases same : config.name = name
      · have free : s.free name = true := by simpa [System.orderly, found, same] using orderly
        obtain ⟨managed, kept, _⟩ := here found same
        have commits : Commits name config (.create none) := ⟨same, by simp [kept]⟩
        refine serial.starts free config (roles_starts found rfl rfl commits.role) rfl ?_ (.inl rfl)
        rw [DatasetConfig.file, managed, kept, ← same]
        exact AList.lookup_insert _
      · exact serial.congr (roles_quiet found rfl rfl (no_role fun commits => same commits.1)) rfl
          rfl (AList.lookup_insert_ne (Ne.symm same)) (.inl rfl)
  | @writeAccept i config found =>
      by_cases same : config.name = name
      · have free : s.free name = true := by simpa [System.orderly, found, same] using orderly
        obtain ⟨managed, kept, _⟩ := here found same
        have commits : Commits name config (.spawned none) := ⟨same, by simp [kept]⟩
        refine serial.starts free config (roles_starts found rfl rfl commits.role) rfl ?_
          (.inr ⟨by rw [same], none, rfl⟩)
        rw [DatasetConfig.file, managed, kept, ← same]
        exact AList.lookup_insert _
      · exact serial.congr (roles_quiet found rfl rfl (no_role fun commits => same commits.1)) rfl
          rfl (AList.lookup_insert_ne (Ne.symm same))
          (.inr ⟨.created config.name, fun is => same (Success.created.inj is), nofun, rfl⟩)
  | @precheckFails i config origin e found fails =>
      by_cases commits : Commits name config origin
      · obtain ⟨_, absent, _⟩ := on_way found commits.role
        have checked := here found commits.1
        have fresh : config.name ∉ s.registry.datasets := commits.1 ▸ (absent_iff.mp absent).2
        cases (Registry.mayRegister_of_fresh checked fresh).symm.trans fails
      · exact serial.congr (roles_quiet found rfl (no_role commits) rfl) rfl rfl rfl (.inl rfl)
  | @recheckFails i config origin lock found published =>
      by_cases commits : Commits name config origin
      · obtain ⟨_, absent, _⟩ := on_way found commits.role
        exact absurd published (commits.1 ▸ (absent_iff.mp absent).2)
      · exact serial.congr (roles_quiet found rfl (no_role commits) rfl) rfl rfl rfl (.inl rfl)
  | @buildFails i config origin lock e found =>
      by_cases commits : Commits name config origin
      · obtain ⟨same, kept⟩ := commits
        simp [System.orderly, found, same, kept, Except.isOk, Except.toBool] at orderly
      · exact serial.congr (roles_quiet found rfl (no_role commits) rfl) rfl rfl rfl (.inl rfl)
  | @put i config origin lock next promised successes found settles =>
      have quiet : next.bind (Task.role name) = none := settle_role settles
      have answered := settle_successes settles
      by_cases same : config.name = name
      · have registered : (s.registry.put config s.incarnations).configs.lookup name =
            some config := same ▸ AList.lookup_insert _
        by_cases commits : Commits name config origin
        · obtain ⟨alone, absent, file⟩ := on_way found commits.role
          have ends : (Role.creates config origin :: _).Perm _ :=
            roles_ends (t := { s with tasks := s.others i next }) found rfl commits.role quiet
          rw [alone] at ends
          refine serial.registers (List.perm_nil.mp ((List.perm_cons _).mp ends)) registered file ?_
          obtain ⟨⟨ttl, rfl⟩, new⟩ | ⟨_, old⟩ := answered
          · refine .inr ⟨same ▸ new, serial.not_opened absent fun other ttl member => ?_⟩
            rw [alone] at member
            cases List.mem_singleton.mp member
          · exact .inl old
        · have temporary : (!config.temp || origin.isSpawned) = false := by
            simpa [Commits, same] using commits
          have free : s.free name = true := by
            simpa [System.orderly, found, same, temporary, Except.isOk, Except.toBool] using orderly
          obtain ⟨none, absent, bare⟩ := serial.phase.of_free free
          have ends := roles_quiet (t := { s with tasks := s.others i next }) found rfl
            (no_role commits) quiet
          have file : s.files.lookup name = config.file := by
            have temp : config.temp = true := by simpa using (Bool.or_eq_false_iff.mp temporary).1
            simpa [DatasetConfig.file, temp] using bare
          refine serial.registers (List.perm_nil.mp (none ▸ ends)) registered file ?_
          obtain ⟨_, new⟩ | ⟨_, old⟩ := answered
          · refine .inr ⟨same ▸ new, serial.not_opened absent fun other ttl member => ?_⟩
            rw [none] at member
            cases member
          · exact .inl old
      · have others : name ≠ config.name := Ne.symm same
        refine serial.congr (roles_quiet found rfl (no_role fun commits => same commits.1) quiet)
          (AList.lookup_insert_ne others) (absent_congr ?_ ?_) rfl ?_
        · exact (AList.mem_insert _).trans (or_iff_right others)
        · exact (AList.mem_insert _).trans (or_iff_right others)
        · obtain ⟨_, new⟩ | ⟨_, old⟩ := answered
          · exact .inr ⟨.created config.name, fun is => same (Success.created.inj is), nofun, new⟩
          · exact .inl old
  | @removeExpired i other k lock found free =>
      have apart : name ≠ other := Ne.symm (here found)
      refine serial.congr (roles_quiet found rfl rfl rfl) (AList.lookup_erase_ne apart)
        (absent_congr ?_ ?_) rfl (.inl rfl)
      · exact AList.mem_erase.trans (and_iff_right apart)
      · exact AList.mem_erase.trans (and_iff_right apart)
  | @removeDeleted i other lock found free =>
      by_cases same : other = name
      · subst same
        have clears : ∀ role ∈ s.roles other, role = .clears := by
          have all : (s.roles other).all Role.isClears = true := by
            simpa [System.orderly, found] using orderly
          intro role member
          have is := List.all_eq_true.mp all role member
          cases role with
          | clears => rfl
          | creates => cases is
        have first : (Task.unregistered other).role other = some .clears := if_pos rfl
        have roles := roles_starts (t := { s with tasks := s.others i (some (.unregistered other)) })
          found rfl rfl first
        constructor
        · refine .clearing ?_ ?_ ?_
          · intro none
            exact List.cons_ne_nil _ _ (List.perm_nil.mp (none ▸ roles).symm)
          · intro role member
            obtain rfl | old := List.mem_cons.mp (roles.subset member)
            · rfl
            · exact clears role old
          · exact absent_iff.mpr ⟨fun inside => (AList.mem_erase.mp inside).1 rfl,
              fun inside => (AList.mem_erase.mp inside).1 rfl⟩
        · exact alternates_cons_iff.mpr ⟨serial.alternates, nofun⟩
        · intro opened
          obtain is | ⟨apart, _⟩ := opened_cons_iff.mp opened
          · cases is
          · exact absurd rfl apart
      · have apart : name ≠ other := Ne.symm same
        refine serial.congr (roles_quiet found rfl rfl (if_neg same)) (AList.lookup_erase_ne apart)
          (absent_congr ?_ ?_) rfl (.inr ⟨.deleted other, nofun, fun is =>
            same (Success.deleted.inj is), rfl⟩)
        · exact AList.mem_erase.trans (and_iff_right apart)
        · exact AList.mem_erase.trans (and_iff_right apart)
  | @keepFile i other removed found stays =>
      by_cases same : other = name
      · have bare : s.files.lookup name = none := by
          simpa [System.orderly, found, same, stays] using orderly
        exact serial.cleared (roles_ends found rfl (if_pos same) rfl) rfl rfl bare
      · exact serial.congr (roles_quiet found rfl (if_neg same) rfl) rfl rfl rfl (.inl rfl)
  | @removeFile i other found goes =>
      by_cases same : other = name
      · subst same
        exact serial.cleared (roles_ends found rfl (if_pos rfl) rfl) rfl rfl
          (AList.lookup_erase _ _)
      · exact serial.congr (roles_quiet found rfl (if_neg same) rfl) rfl rfl
          (AList.lookup_erase_ne (Ne.symm same)) (.inl rfl)
  | @publish other configured fresh =>
      refine serial.congr (List.Perm.refl _) rfl ?_ rfl (.inl rfl)
      by_cases same : name = other
      · subst same
        simp [System.absent, configured]
      · exact absent_congr Iff.rfl ((AList.mem_insert _).trans (or_iff_right same))

omit [ToLowercase] in
theorem Quiet.roles (quiet : s.Quiet name) : s.roles name = [] := by
  refine List.filterMap_eq_nil_iff.mpr fun task member => ?_
  have apart := quiet task member
  cases task with
  | registering | queued | building =>
      exact no_role fun commits => by simp [Task.concerns, commits.1] at apart
  | unregistered other => exact if_neg (by simpa [Task.concerns] using apart)
  | _ => rfl

/-- In every run of requests for a name that is orderly, the successes alternate, and the file is
that of the registered dataset whenever no request is in flight. -/
theorem requests_serial {registry : Registry Nat} {incarnations : Nat}
    {files : AList fun _ : String => ManagedFile} {labels : List Action}
    (start : (boot registry incarnations files).Consistent name)
    (run : Run (System.step parse settings)
      (fun s a => s.requests name a = true ∧ s.orderly parse settings name a = true)
      (boot registry incarnations files) labels t) :
    Alternates name t.successes ∧ (t.Quiet name → t.Consistent name) := by
  have invariant := run.keeps
    (P := fun s => s.Serial name ∧ ∀ task ∈ s.tasks, task.Regular name) ?_ ?_
  · obtain ⟨⟨phase, alternates, _⟩, _⟩ := invariant
    refine ⟨alternates, fun quiet => ?_⟩
    cases phase with
    | resting _ consistent => exact consistent
    | creating config origin roles => cases quiet.roles.symm.trans roles
    | clearing some => exact absurd quiet.roles some
  · refine ⟨⟨.resting rfl start, ?_, ?_⟩, fun _ member => nomatch member⟩
    · intro later middle earlier same
      cases later <;> cases same
    · rintro ⟨middle, earlier, same, _⟩
      cases middle <;> cases same
  · rintro s a u ⟨serial, regular⟩ ⟨requests, orderly⟩ stepped
    exact ⟨serial.step regular requests orderly stepped, regular_step regular requests stepped⟩

end
end System

section Runs
attribute [local instance] asciiToLowercase

private def storing : CreateQueryRequest := { keeping with materialize := some {} }

private def createBig : List Action :=
  [.create keeping false (.ok ()), .write 0 .done, .precheck 0, .acquire 0, .finish 0 (.ok ())]

private def created : System :=
  (Machine.exec (System.step twoTables.parse persisting) Anything createBig booted).getD booted

/-- `big` is created, deleted and created again. -/
theorem requests_serial_again : ∃ t : System,
    (Alternates "big" t.successes ∧ (t.Quiet "big" → t.Consistent "big")) ∧
    t.successes = [.created "big", .deleted "big", .created "big"] := by
  have start : booted.Consistent "big" := rfl
  let Orderly (s : System) (a : Action) : Prop :=
    s.requests "big" a = true ∧ s.orderly twoTables.parse persisting "big" a = true
  have first : Run (System.step twoTables.parse persisting) Orderly booted createBig created :=
    Machine.run_of_exec rfl
  have guarded : System.step twoTables.parse persisting (.delete "big" (.ok ())) created =
      some { created with tasks := .guarded "big" :: created.tasks } := by
    have alone : created.registry.dependents "big" = [] := List.mergeSort_nil
    exact System.step_delete rfl rfl alone
  have second : Run (System.step twoTables.parse persisting) Orderly
      { created with tasks := .guarded "big" :: created.tasks }
      ([.unregister 0, .remove 0, .removeFile 0 true] ++ createBig) _ := Machine.run_of_exec rfl
  have run := (first.append (.single ⟨rfl, rfl⟩ guarded)).append second
  exact ⟨_, System.requests_serial start run, rfl⟩

/-- Both requests pass the check before one of them registers. -/
private def twoRequests : List Action :=
  [.create keeping true (.ok ()), .create storing true (.ok ()), .write 1 .done, .write 1 .done,
    .precheck 1, .acquire 0, .finish 0 (.ok ()), .precheck 0]

/-- Both creations succeed, and the file is that of the dataset that is not registered. -/
theorem requests_not_serial : booted.Consistent "big" ∧ ∃ t : System,
    Run (System.step twoTables.parse persisting) (fun s a => s.requests "big" a = true) booted
      twoRequests t ∧
    ¬ Alternates "big" t.successes ∧ t.Quiet "big" ∧ ¬ t.Consistent "big" := by
  refine ⟨rfl, _, Machine.run_of_exec rfl, fun alternates => ?_, fun task member => ?_,
    fun consistent => ?_⟩
  · cases alternates [] [] [] rfl
  · exact absurd member List.not_mem_nil
  · have same := Option.some.inj consistent
    cases same

end Runs
end Datapress.Config
