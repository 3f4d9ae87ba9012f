import Datapress.Config.SavedQueriesSteps
import Datapress.Config.Validity

/-! Whether the datasets that queries read stay registered. -/
namespace Datapress.Config
open Machine (Run Anything)
open Refresh (SavedQueriesSettings)

section
variable [ToLowercase]

/-- The tables that the query of a dataset reads, lowercased. -/
def DatasetConfig.tables (parse : Sql.Parser) (d : DatasetConfig) : List String :=
  match d.source.kind, d.source.sql with
  | .query, some sql => Sql.baseTables parse sql
  | _, _ => []

/-- The query dataset has an entry that is the name ignoring case. -/
def DatasetConfig.DependsOn (d : DatasetConfig) (name : String) : Prop :=
  d.source.kind = .query ∧ ∃ dep ∈ d.source.dependsOn, toLowercase dep = toLowercase name

/-- The dataset reads what has the name ignoring case, by its entries or by its query. -/
def DatasetConfig.ReadsName (parse : Sql.Parser) (d : DatasetConfig) (name : String) : Prop :=
  d.DependsOn name ∨ toLowercase name ∈ d.tables parse

/-- Every entry of a query dataset is one of the names ignoring case. -/
def DatasetConfig.Resolved (names : List String) (d : DatasetConfig) : Prop :=
  d.source.kind = .query → ∀ dep ∈ d.source.dependsOn,
    ∃ name ∈ names, toLowercase dep = toLowercase name

/-- The entries of a dataset name all that its query reads. -/
def DatasetConfig.Declared (parse : Sql.Parser) (d : DatasetConfig) : Prop :=
  ∀ table ∈ d.tables parse, table ∈ d.source.dependsOn.map toLowercase

/-- The gate looks at all that the query of a dataset reads. -/
def DatasetConfig.Compared (parse : Sql.Parser) (d : DatasetConfig) : Prop :=
  d.source.kind = .query → ∀ sql ∈ d.source.sql, Sql.Compared parse sql

instance (d : DatasetConfig) (name : String) : Decidable (d.DependsOn name) :=
  inferInstanceAs (Decidable (_ ∧ _))

instance (parse : Sql.Parser) (d : DatasetConfig) (name : String) :
    Decidable (d.ReadsName parse name) :=
  inferInstanceAs (Decidable (_ ∨ _))

instance (names : List String) (d : DatasetConfig) : Decidable (d.Resolved names) :=
  inferInstanceAs (Decidable (_ → _))

instance (parse : Sql.Parser) (d : DatasetConfig) : Decidable (d.Declared parse) :=
  inferInstanceAs (Decidable (∀ table ∈ d.tables parse, _))

instance (parse : Sql.Parser) (d : DatasetConfig) : Decidable (d.Compared parse) :=
  inferInstanceAs (Decidable (_ → ∀ sql ∈ d.source.sql, _))

namespace DatasetConfig
variable {parse : Sql.Parser} {d : DatasetConfig} {name : String}

theorem Resolved.mono {names larger : List String} (subset : names ⊆ larger)
    (resolved : d.Resolved names) : d.Resolved larger := by
  intro kind dep member
  obtain ⟨name, inside, same⟩ := resolved kind dep member
  exact ⟨name, subset inside, same⟩

/-- What a dataset does not depend on may go. -/
theorem Resolved.erase {names : List String} (resolved : d.Resolved names)
    (free : ¬ d.DependsOn name) : d.Resolved (names.erase name) := by
  intro kind dep listed
  obtain ⟨other, inside, same⟩ := resolved kind dep listed
  have apart : other ≠ name := by
    rintro rfl
    exact free ⟨kind, dep, listed, same⟩
  exact ⟨other, (List.mem_erase_of_ne apart).mpr inside, same⟩

theorem kind_of_tables {table : String} (read : table ∈ d.tables parse) :
    d.source.kind = .query := by
  unfold tables at read
  split at read
  · assumption
  · cases read

theorem tables_eq {sql : String} (kind : d.source.kind = .query) (text : d.source.sql = some sql) :
    d.tables parse = Sql.baseTables parse sql := by
  rw [tables, kind, text]

theorem Declared.readsName_iff (declared : d.Declared parse) :
    d.ReadsName parse name ↔ d.DependsOn name := by
  refine ⟨?_, .inl⟩
  rintro (depends | read)
  · exact depends
  · obtain ⟨dep, listed, same⟩ := List.mem_map.mp (declared _ read)
    exact ⟨kind_of_tables read, dep, listed, same⟩

end DatasetConfig

/-! ### The registry -/

namespace Registry
variable {δ : Type} {r t : Registry δ} {name : String} {config : DatasetConfig}

/-- What the registered query datasets depend on is registered. -/
def Referential (r : Registry δ) : Prop :=
  ∀ config ∈ r.all, config.Resolved r.configs.keys

/-- What is published is configured, and what is configured has a status. -/
structure Complete (r : Registry δ) : Prop where
  published : ∀ name ∈ r.datasets, name ∈ r.configs
  tracked : ∀ name ∈ r.configs, name ∈ r.statuses

/-- No other dataset depends on the name. -/
def Unread (r : Registry δ) (name : String) : Prop :=
  ∀ config ∈ r.others name, ¬ config.DependsOn name

/-- No other query dataset has the name among its entries in another case. -/
def Spelled (r : Registry δ) (name : String) : Prop :=
  ∀ config ∈ r.others name, config.source.kind = .query →
    ∀ dep ∈ config.source.dependsOn, toLowercase dep = toLowercase name → dep = name

instance (r : Registry δ) (name : String) : Decidable (r.Spelled name) :=
  inferInstanceAs (Decidable (∀ config ∈ r.others name, _ → _))

omit [ToLowercase] in
theorem Complete.put (complete : r.Complete) {data : δ} : (r.put config data).Complete where
  published name inside := by
    obtain same | before := (AList.mem_insert _).mp inside
    · exact (AList.mem_insert _).mpr (.inl same)
    · exact (AList.mem_insert _).mpr (.inr (complete.published name before))
  tracked name inside := by
    obtain same | before := (AList.mem_insert _).mp inside
    · exact (AList.mem_insert _).mpr (.inl same)
    · exact (AList.mem_insert _).mpr (.inr (complete.tracked name before))

omit [ToLowercase] in
theorem Complete.drop (complete : r.Complete) : (r.drop name).Complete where
  published other inside := by
    obtain ⟨apart, before⟩ := AList.mem_erase.mp inside
    exact AList.mem_erase.mpr ⟨apart, complete.published other before⟩
  tracked other inside := by
    obtain ⟨apart, before⟩ := AList.mem_erase.mp inside
    exact AList.mem_erase.mpr ⟨apart, complete.tracked other before⟩

omit [ToLowercase] in
theorem others_of_erase (erased : t.configs = r.configs.erase name) : t.all = r.others name := by
  rw [all, erased]
  rfl

omit [ToLowercase] in
theorem all_of_put (put : t.configs = r.configs.insert config.name config) :
    t.all = config :: r.others config.name := by
  rw [all, put, AList.entries_insert]
  rfl

theorem Referential.put (referential : r.Referential)
    (put : t.configs = r.configs.insert config.name config)
    (own : config.Resolved (config.name :: r.configs.keys)) : t.Referential := by
  have names : t.configs.keys = config.name :: r.configs.keys.erase config.name := by
    rw [put, AList.keys_insert]
  have whole : config.name :: r.configs.keys ⊆ t.configs.keys := by
    rw [names]
    intro name member
    by_cases same : name = config.name
    · exact List.mem_cons.mpr (.inl same)
    · have inside := (List.mem_cons.mp member).resolve_left same
      exact List.mem_cons_of_mem _ ((List.mem_erase_of_ne same).mpr inside)
  rw [Referential, all_of_put put, List.forall_mem_cons]
  refine ⟨own.mono whole, fun other member => ?_⟩
  have before := referential other (others_subset member)
  exact before.mono fun name inside => whole (List.mem_cons_of_mem _ inside)

theorem Referential.erase (referential : r.Referential) (unread : r.Unread name)
    (erased : t.configs = r.configs.erase name) : t.Referential := by
  rw [Referential, others_of_erase erased, erased, AList.keys_erase]
  intro config member
  exact (referential config (others_subset member)).erase (unread config member)

omit [ToLowercase] in
/-- Beside a name there is what was there, or what has been put under another name. -/
theorem mem_others_put {other : DatasetConfig}
    (put : t.configs = r.configs.insert config.name config) (member : other ∈ t.others name) :
    other = config ∧ config.name ≠ name ∨ other ∈ r.others name := by
  obtain ⟨entry, inside, rfl⟩ := List.mem_map.mp member
  change entry ∈ t.configs.entries.kerase name at inside
  rw [put, AList.entries_insert] at inside
  by_cases same : config.name = name
  · subst same
    right
    have first : config.name =
        (⟨config.name, config⟩ : Sigma fun _ : String => DatasetConfig).1 := rfl
    rw [List.kerase_cons_eq first] at inside
    exact List.mem_map_of_mem inside
  · rw [List.kerase_cons_ne (Ne.symm same)] at inside
    obtain rfl | old := List.mem_cons.mp inside
    · exact .inl ⟨rfl, same⟩
    · rw [List.kerase_comm] at old
      right
      exact List.mem_map_of_mem ((List.kerase_sublist _ _).subset old)

omit [ToLowercase] in
theorem others_erase_subset {other : String} (erased : t.configs = r.configs.erase other) :
    t.others name ⊆ r.others name := by
  apply List.map_subset
  rw [erased]
  change (r.configs.entries.kerase other).kerase name ⊆ r.configs.entries.kerase name
  rw [List.kerase_comm]
  exact (List.kerase_sublist _ _).subset

/-- The guard of `delete_query` finds the entries that are spelled like the name. -/
theorem unread_of_mayDelete {settings : SavedQueriesSettings} {authorized : Except AppError Unit}
    (tracked : ∀ name ∈ r.configs, name ∈ r.statuses)
    (passed : r.mayDelete settings authorized name = .ok ()) (spelled : r.Spelled name) :
    r.Unread name := by
  rintro config member ⟨kind, dep, listed, same⟩
  obtain rfl := spelled config member kind dep listed same
  obtain ⟨_, guarded⟩ := Fallible.check_bind_ok_iff.mp passed
  obtain ⟨entry, inside, rfl⟩ := List.mem_map.mp member
  have registered := kerase_subset inside
  have found : r.configs.lookup entry.1 = some entry.2 := AList.mem_lookup_iff.mpr registered
  have tracks : entry.1 ∈ r.statuses.keys :=
    AList.mem_keys.mp (tracked _ (AList.lookup_isSome.mp (by rw [found]; rfl)))
  have dependent : entry.1 ∈ r.dependents dep := by
    rw [dependents, List.mem_mergeSort, List.mem_filter]
    refine ⟨tracks, ?_⟩
    simpa [found] using listed
  split at guarded
  · split at guarded <;> cases guarded
  · rw [Fallible.refuse_ok_iff] at guarded
    have none : r.dependents dep = [] := by simpa using guarded.1
    rw [none] at dependent
    cases dependent

end Registry

/-! ### What is under way -/

/-- The dataset that a task is going to register. -/
def Task.adds : Task → Option DatasetConfig
  | .checked config _ | .registering config _ | .queued config _ _ | .building config _ _ =>
    some config
  | _ => none

/-- The name that a task is going to remove, and nothing stops it any more. -/
def Task.drops : Task → Option String
  | .guarded name | .removing name _ _ => some name
  | _ => none

namespace System

def adding (s : System) : List DatasetConfig := s.tasks.filterMap Task.adds

def dropping (s : System) : List String := s.tasks.filterMap Task.drops

/-- No other dataset that is about to be registered reads what has the name. -/
def Unsought (parse : Sql.Parser) (s : System) (name : String) : Prop :=
  ∀ config ∈ s.adding, config.name ≠ name → ¬ config.ReadsName parse name

instance (parse : Sql.Parser) (s : System) (name : String) : Decidable (s.Unsought parse name) :=
  inferInstanceAs (Decidable (∀ config ∈ s.adding, _))

/-- Nobody reads what has the name, neither now nor soon. -/
def Unused (parse : Sql.Parser) (s : System) (name : String) : Prop :=
  (∀ config ∈ s.registry.others name, ¬ config.ReadsName parse name) ∧ s.Unsought parse name

instance (parse : Sql.Parser) (s : System) (name : String) : Decidable (s.Unused parse name) :=
  inferInstanceAs (Decidable (_ ∧ _))

/-- No step removes what another dataset reads. -/
def SparesRead (parse : Sql.Parser) (s : System) (a : Action) : Prop :=
  ∀ name, s.removes a = some name →
    ∀ config ∈ s.registry.others name, ¬ config.ReadsName parse name

/-- What the checks of the requests leave out. `create_query` is given a text whose tables its gate
sees. A registration brings the entries that its query needs. `delete_query` is asked for a name
that is spelled in the entries as it is registered. An expiry, which checks nothing, comes when
nobody reads the dataset. And nothing is created that reads what is being removed. -/
def Careful (parse : Sql.Parser) (settings : SavedQueriesSettings) (s : System) : Action → Prop
  | .create request _ authorized =>
    (s.registry.prepareQuery parse settings authorized request).isOk = true →
      Sql.Compared parse request.sql ∧ ∀ name ∈ s.dropping, request.name ≠ name →
        toLowercase name ∉ Sql.checkedTables parse request.sql
  | .post config (.ok _) =>
    config.Resolved (config.name :: s.registry.configs.keys) ∧ config.Declared parse ∧
      ∀ name ∈ s.dropping, config.name ≠ name → ¬ config.ReadsName parse name
  | .delete name authorized =>
    (s.registry.mayDelete settings authorized name).isOk = true →
      s.registry.Spelled name ∧ s.Unsought parse name
  | .unregister i => ∀ task ∈ s.tasks[i]?, ∀ expiry ∈ task.asks, expiry.2.isSome = true →
      s.Unused parse expiry.1
  | _ => True

instance (parse : Sql.Parser) (settings : SavedQueriesSettings) (s : System) :
    ∀ a, Decidable (s.Careful parse settings a)
  | .create .. => inferInstanceAs (Decidable (_ → _))
  | .post _ (.ok _) => inferInstanceAs (Decidable (_ ∧ _))
  | .post _ (.error _) => .isTrue trivial
  | .delete .. => inferInstanceAs (Decidable (_ → _))
  | .unregister i => inferInstanceAs (Decidable (∀ task ∈ s.tasks[i]?, _))
  | .write .. | .precheck _ | .acquire _ | .finish .. | .schedule _ | .receive | .advance _
  | .expire _ | .remove _ | .removeFile .. | .publish _ => .isTrue trivial

/-- What holds between the requests and the registry. -/
structure Linked (parse : Sql.Parser) (s : System) : Prop where
  complete : s.registry.Complete
  referential : s.registry.Referential
  declared : ∀ config ∈ s.registry.all ++ s.adding, config.Declared parse
  resolved : ∀ config ∈ s.adding, config.Resolved (config.name :: s.registry.configs.keys)
  unused : ∀ name ∈ s.dropping, s.Unused parse name

/-! ### Steps -/

variable {parse : Sql.Parser} {settings : SavedQueriesSettings} {s t : System} {a : Action}
  {config : DatasetConfig} {name : String}

/-- What is under way was so before, or a request has come for it. -/
theorem adding_step (stepped : System.step parse settings a s = some t)
    (member : config ∈ t.adding) : config ∈ s.adding ∨
      (∃ request asyncMode authorized, a = .create request asyncMode authorized ∧
        s.registry.prepareQuery parse settings authorized request = .ok config) ∨
      a = .post config (.ok ()) := by
  have quiet : ∀ {i : Nat} {next : Option Task}, next.bind Task.adds = none →
      config ∈ (s.others i next).filterMap Task.adds → config ∈ s.adding := by
    intro i next silent member
    obtain new | old := mem_filterMap_others member
    · cases silent.symm.trans new
    · exact old
  have goes_on : ∀ {i : Nat} {task next : Task}, s.tasks[i]? = some task →
      task.adds = next.adds → config ∈ (s.others i (some next)).filterMap Task.adds →
      config ∈ s.adding := by
    intro i task next here same member
    obtain new | old := mem_filterMap_others member
    · exact List.mem_filterMap.mpr ⟨task, List.mem_of_getElem? here, same.trans new⟩
    · exact old
  have arrives : ∀ {task : Task} {new : DatasetConfig}, task.adds = some new →
      config ∈ (task :: s.tasks).filterMap Task.adds → config = new ∨ config ∈ s.adding := by
    intro task new is member
    rw [List.filterMap_cons_some is] at member
    exact List.mem_cons.mp member
  cases step_moves stepped with
  | refused | advance | publish | receive | expire => exact .inl member
  | guard => exact .inl (by simpa [adding, Task.adds] using member)
  | writeFails | tear | precheckFails | recheckFails | buildFails | lookUpFails | removeExpired
  | keepFile | removeFile | removeDeleted | schedule => exact .inl (quiet rfl member)
  | lookUp => exact .inl (quiet rfl member)
  | put here settles =>
      obtain ⟨_, ⟨rfl, _⟩ | ⟨ttl, rfl, _⟩⟩ | ⟨_, _, rfl, _⟩ := settle_cases settles
      · exact .inl (quiet rfl member)
      · exact .inl (quiet rfl member)
      · exact .inl (quiet rfl member)
  | writeWait here | writeAccept here | queue here _ | build here _ _ =>
      exact .inl (goes_on here rfl member)
  | check checks _ | wait checks _ | accept checks _ =>
      obtain rfl | old := arrives rfl member
      · exact .inr (.inl ⟨_, _, _, rfl, checks⟩)
      · exact .inl old
  | post =>
      obtain rfl | old := arrives rfl member
      · exact .inr (.inr rfl)
      · exact .inl old

/-- What is being removed was so before, or a delete has passed its checks, or an expiry has
come. -/
theorem dropping_step (stepped : System.step parse settings a s = some t)
    (member : name ∈ t.dropping) : name ∈ s.dropping ∨
      (∃ authorized, a = .delete name authorized ∧
        s.registry.mayDelete settings authorized name = .ok ()) ∨
      ∃ i task k, a = .unregister i ∧ s.tasks[i]? = some task ∧
        task.asks = some (name, some k) := by
  have quiet : ∀ {i : Nat} {next : Option Task}, next.bind Task.drops = none →
      name ∈ (s.others i next).filterMap Task.drops → name ∈ s.dropping := by
    intro i next silent member
    obtain new | old := mem_filterMap_others member
    · cases silent.symm.trans new
    · exact old
  have arrives : ∀ {task : Task}, task.drops = none →
      name ∈ (task :: s.tasks).filterMap Task.drops → name ∈ s.dropping := by
    intro task silent member
    rwa [List.filterMap_cons_none silent] at member
  cases step_moves stepped with
  | refused | advance | publish | receive => exact .inl member
  | check | wait | accept | post | expire => exact .inl (arrives rfl member)
  | writeFails | tear | precheckFails | recheckFails | buildFails | lookUpFails | removeExpired
  | keepFile | removeFile | removeDeleted | schedule | writeWait | writeAccept | queue | build =>
      exact .inl (quiet rfl member)
  | put here settles =>
      obtain ⟨_, ⟨rfl, _⟩ | ⟨ttl, rfl, _⟩⟩ | ⟨_, _, rfl, _⟩ := settle_cases settles
      · exact .inl (quiet rfl member)
      · exact .inl (quiet rfl member)
      · exact .inl (quiet rfl member)
  | @guard other authorized checks =>
      obtain rfl | old := List.mem_cons.mp (by simpa [dropping, Task.drops] using member :
        name ∈ other :: s.tasks.filterMap Task.drops)
      · exact .inr (.inl ⟨_, rfl, checks⟩)
      · exact .inl old
  | @lookUp i task other expiry lock locks nextLock here asks checks =>
      obtain new | old := mem_filterMap_others member
      · cases new
        cases expiry with
        | some k => exact .inr (.inr ⟨i, task, k, rfl, here, asks⟩)
        | none =>
            have guarded : task.drops = some name := by
              cases task with
              | guarded other => cases asks; rfl
              | _ => cases asks
            exact .inl (List.mem_filterMap.mpr ⟨task, List.mem_of_getElem? here, guarded⟩)
      · exact .inl old

omit [ToLowercase] in
theorem adding_of_puts (puts : s.puts a = some config) : config ∈ s.adding := by
  cases a with
  | finish i built =>
      cases built with
      | error e => cases puts
      | ok done =>
          simp only [System.puts] at puts
          split at puts
          case h_1 here =>
            cases puts
            exact List.mem_filterMap.mpr ⟨_, List.mem_of_getElem? here, rfl⟩
          case h_2 => cases puts
  | _ => cases puts

omit [ToLowercase] in
theorem dropping_of_removes (removes : s.removes a = some name) : name ∈ s.dropping := by
  cases a with
  | remove i =>
      simp only [System.removes] at removes
      split at removes
      case h_1 here =>
        split at removes
        · cases removes
        · cases removes
          exact List.mem_filterMap.mpr ⟨_, List.mem_of_getElem? here, rfl⟩
      case h_2 => cases removes
  | _ => cases removes

/-! ### The invariant -/

/-- What can be said of a dataset as soon as its request has come. -/
structure Joins (parse : Sql.Parser) (s : System) (config : DatasetConfig) : Prop where
  declared : config.Declared parse
  resolved : config.Resolved (config.name :: s.registry.configs.keys)
  apart : ∀ name ∈ s.dropping, config.name ≠ name → ¬ config.ReadsName parse name

/-- `create_query` takes the entries from the text. -/
theorem Linked.joins_create (linked : s.Linked parse) {request : CreateQueryRequest}
    {asyncMode : Bool} {authorized : Except AppError Unit}
    (careful : s.Careful parse settings (.create request asyncMode authorized))
    (prepared : s.registry.prepareQuery parse settings authorized request = .ok config) :
    s.Joins parse config := by
  obtain ⟨compared, apart⟩ := careful (by rw [prepared]; rfl)
  obtain ⟨validated, accepted, rfl⟩ := Registry.prepareQuery_config prepared
  obtain ⟨stmt, facts⟩ := Sql.validate_ok accepted
  have lowered : ∀ dep ∈ validated.datasets, toLowercase dep = dep := fun dep listed =>
    Sql.checkedRelation_lowered ((facts.datasets dep).mp listed)
  have declared : (request.config validated.datasets).Declared parse := by
    intro table read
    have listed := facts.baseTables_subset compared read
    exact List.mem_map.mpr ⟨table, listed, lowered table listed⟩
  refine ⟨declared, fun _ dep listed => ?_, fun name member other reads => ?_⟩
  · obtain ⟨known, published, same⟩ := List.mem_map.mp (facts.datasets_subset listed)
    have configured := linked.complete.published known (AList.mem_keys.mpr published)
    refine ⟨known, List.mem_cons_of_mem _ (AList.mem_keys.mp configured), ?_⟩
    rw [lowered dep listed, same]
  · obtain ⟨_, dep, listed, same⟩ := declared.readsName_iff.mp reads
    apply apart name member other
    rw [← same, lowered dep listed, Sql.checkedTables, facts.parsed]
    exact (facts.datasets dep).mp listed

theorem Linked.joins (linked : s.Linked parse) (careful : s.Careful parse settings a)
    (stepped : System.step parse settings a s = some t) (member : config ∈ t.adding) :
    s.Joins parse config := by
  obtain old | ⟨request, asyncMode, authorized, rfl, prepared⟩ | rfl := adding_step stepped member
  · exact ⟨linked.declared config (List.mem_append_right _ old), linked.resolved config old,
      fun name removed other => (linked.unused name removed).2 config old other⟩
  · exact linked.joins_create careful prepared
  · obtain ⟨resolved, declared, apart⟩ := careful
    exact ⟨declared, resolved, apart⟩

/-- A delete that passes its checks removes what nobody reads. -/
theorem Linked.unused_delete (linked : s.Linked parse) {authorized : Except AppError Unit}
    (careful : s.Careful parse settings (.delete name authorized))
    (passed : s.registry.mayDelete settings authorized name = .ok ()) : s.Unused parse name := by
  obtain ⟨spelled, unsought⟩ := careful (by rw [passed]; rfl)
  refine ⟨fun config member reads => ?_, unsought⟩
  have declared := linked.declared config (List.mem_append_left _ (Registry.others_subset member))
  exact Registry.unread_of_mayDelete linked.complete.tracked passed spelled config member
    (declared.readsName_iff.mp reads)

/-- Nobody reads what is being removed, and no request has come that will. -/
theorem Linked.unused_step (linked : s.Linked parse) (careful : s.Careful parse settings a)
    (stepped : System.step parse settings a s = some t) (removed : name ∈ t.dropping) :
    s.Unused parse name ∧ t.Unsought parse name := by
  obtain old | ⟨authorized, rfl, passed⟩ | ⟨i, task, k, rfl, here, asks⟩ :=
    dropping_step stepped removed
  · exact ⟨linked.unused name old,
      fun config member => (linked.joins careful stepped member).apart name old⟩
  · have unused := linked.unused_delete careful passed
    refine ⟨unused, fun config member => ?_⟩
    obtain old | ⟨_, _, _, impossible, _⟩ | impossible := adding_step stepped member
    · exact unused.2 config old
    · cases impossible
    · cases impossible
  · have unused := careful task here _ asks rfl
    refine ⟨unused, fun config member => ?_⟩
    obtain old | ⟨_, _, _, impossible, _⟩ | impossible := adding_step stepped member
    · exact unused.2 config old
    · cases impossible
    · cases impossible

theorem Linked.sparesRead (linked : s.Linked parse) : s.SparesRead parse a :=
  fun name removes => (linked.unused name (dropping_of_removes removes)).1

section
variable (joins : ∀ config ∈ t.adding, s.Joins parse config)
  (unused : ∀ name ∈ t.dropping, s.Unused parse name ∧ t.Unsought parse name)
include joins unused

theorem Linked.keep (linked : s.Linked parse) (same : t.registry = s.registry) : t.Linked parse := by
  constructor
  · rw [same]
    exact linked.complete
  · rw [same]
    exact linked.referential
  · rw [same]
    intro config member
    obtain registered | adding := List.mem_append.mp member
    · exact linked.declared config (List.mem_append_left _ registered)
    · exact (joins config adding).declared
  · rw [same]
    exact fun config adding => (joins config adding).resolved
  · intro name removed
    refine ⟨?_, (unused name removed).2⟩
    rw [same]
    exact (unused name removed).1.1

theorem Linked.put {config : DatasetConfig} (linked : s.Linked parse) (waited : config ∈ s.adding)
    (put : t.registry = s.registry.put config s.incarnations) : t.Linked parse := by
  have configs : t.registry.configs = s.registry.configs.insert config.name config :=
    congrArg Registry.configs put
  have grows : s.registry.configs.keys ⊆ t.registry.configs.keys := by
    intro name known
    rw [configs, ← AList.mem_keys, AList.mem_insert]
    exact .inr (AList.mem_keys.mpr known)
  constructor
  · rw [put]
    exact linked.complete.put
  · exact linked.referential.put configs (linked.resolved config waited)
  · intro other member
    obtain registered | adding := List.mem_append.mp member
    · rw [Registry.all_of_put configs] at registered
      obtain rfl | old := List.mem_cons.mp registered
      · exact linked.declared other (List.mem_append_right _ waited)
      · exact linked.declared other (List.mem_append_left _ (Registry.others_subset old))
    · exact (joins other adding).declared
  · exact fun other adding => (joins other adding).resolved.mono (List.cons_subset_cons _ grows)
  · intro name removed
    refine ⟨fun other member => ?_, (unused name removed).2⟩
    obtain ⟨rfl, apart⟩ | old := Registry.mem_others_put configs member
    · exact (unused name removed).1.2 other waited apart
    · exact (unused name removed).1.1 other old

theorem Linked.drop {gone : String} (linked : s.Linked parse) (dropping : gone ∈ s.dropping)
    (drop : t.registry = s.registry.drop gone) : t.Linked parse := by
  have configs : t.registry.configs = s.registry.configs.erase gone := congrArg Registry.configs drop
  constructor
  · rw [drop]
    exact linked.complete.drop
  · refine linked.referential.erase (fun config member depends => ?_) configs
    exact (linked.unused gone dropping).1 config member (.inl depends)
  · intro config member
    obtain registered | adding := List.mem_append.mp member
    · rw [Registry.others_of_erase configs] at registered
      exact linked.declared config (List.mem_append_left _ (Registry.others_subset registered))
    · exact (joins config adding).declared
  · intro config adding
    have resolved := (joins config adding).resolved
    rw [configs, AList.keys_erase]
    by_cases own : config.name = gone
    · refine resolved.mono fun name known => ?_
      by_cases same : name = config.name
      · exact List.mem_cons.mpr (.inl same)
      · have inside := (List.mem_cons.mp known).resolve_left same
        exact List.mem_cons_of_mem _ ((List.mem_erase_of_ne (own ▸ same)).mpr inside)
    · have free : ¬ config.DependsOn gone := fun depends =>
        (joins config adding).apart gone dropping own (.inl depends)
      have still := resolved.erase free
      rwa [List.erase_cons_tail (by simpa using own)] at still
  · intro name removed
    refine ⟨fun config member => ?_, (unused name removed).2⟩
    exact (unused name removed).1.1 config (Registry.others_erase_subset configs member)

theorem Linked.publish {name : String} (linked : s.Linked parse)
    (configured : name ∈ s.registry.configs) (published : t.registry = s.published name) :
    t.Linked parse := by
  have configs : t.registry.configs = s.registry.configs := by rw [published]; rfl
  have all : t.registry.all = s.registry.all := by rw [Registry.all, configs]; rfl
  constructor
  · rw [published]
    refine ⟨fun other inside => ?_, linked.complete.tracked⟩
    obtain rfl | before := (AList.mem_insert _).mp inside
    · exact configured
    · exact linked.complete.published other before
  · rw [Registry.Referential, all, configs]
    exact linked.referential
  · rw [all]
    intro config member
    obtain registered | adding := List.mem_append.mp member
    · exact linked.declared config (List.mem_append_left _ registered)
    · exact (joins config adding).declared
  · rw [configs]
    exact fun config adding => (joins config adding).resolved
  · intro other removed
    refine ⟨fun config member => ?_, (unused other removed).2⟩
    rw [Registry.others, configs] at member
    exact (unused other removed).1.1 config member

end

/-- What is registered or removed leaves no entry open. -/
theorem Linked.step (linked : s.Linked parse) (careful : s.Careful parse settings a)
    (stepped : System.step parse settings a s = some t) : t.Linked parse := by
  have joins (config) (member : config ∈ t.adding) : s.Joins parse config :=
    linked.joins careful stepped member
  have unused (name) (removed : name ∈ t.dropping) :
      s.Unused parse name ∧ t.Unsought parse name := linked.unused_step careful stepped removed
  cases step_changes stepped with
  | keep puts removes same => exact linked.keep joins unused same
  | put config puts removes put => exact linked.put joins unused (adding_of_puts puts) put
  | drop gone puts removes drop => exact linked.drop joins unused (dropping_of_removes removes) drop
  | publish name puts removes configured fresh published =>
      exact linked.publish joins unused configured published

end System

/-! ### Runs -/

variable {around : Surroundings} {settings : SavedQueriesSettings} {cfg : AppConfig}
  {data : AList fun _ : String => Nat}

theorem referential_start {status : String → DatasetStatus} (valid : cfg.Valid around) :
    (Registry.start cfg.datasets data status).Referential := by
  rw [Registry.Referential, Registry.all_start valid.distinct,
    Registry.keys_start valid.distinct]
  intro config member kind dep listed
  obtain ⟨statement, answerable⟩ := valid.queries config member kind
  obtain ⟨other, among, same⟩ := List.mem_map.mp (answerable.known dep listed)
  exact ⟨other.name, List.mem_map_of_mem among, same.symm⟩

/-- The loader compares the entries with the tables that the gate finds. -/
theorem DatasetConfig.Answerable.declared {names : List String} {d : DatasetConfig}
    {statement : String} (answerable : d.Answerable around names statement)
    (compared : d.Compared around.parse) : d.Declared around.parse := by
  intro table read
  obtain ⟨validated, accepted, same⟩ := answerable.tables
  obtain ⟨stmt, facts⟩ := Sql.validate_ok accepted
  have kind := kind_of_tables read
  rw [tables_eq kind answerable.sql] at read
  exact (same table).mp (facts.baseTables_subset (compared kind statement answerable.sql) read)

theorem System.linked_boot {status : String → DatasetStatus} {incarnations : Nat}
    {files : AList fun _ : String => ManagedFile} (valid : cfg.Valid around)
    (built : ∀ name ∈ data, name ∈ cfg.datasets.map (·.name))
    (compared : ∀ d ∈ cfg.datasets, d.Compared around.parse) :
    (System.boot (.start cfg.datasets data status) incarnations files).Linked around.parse where
  complete := by
    have configs : (Registry.start cfg.datasets data status).configs.keys =
        cfg.datasets.map (·.name) := Registry.keys_start valid.distinct
    refine ⟨fun name inside => ?_, fun name inside => ?_⟩
    · rw [AList.mem_keys]
      exact configs ▸ built name inside
    · rw [AList.mem_keys] at inside ⊢
      have statuses : (Registry.start cfg.datasets data status).statuses.keys =
          cfg.datasets.map (·.name) := Registry.keys_map valid.distinct _
      exact statuses ▸ configs ▸ inside
  referential := referential_start valid
  declared := by
    intro config member
    obtain registered | adding := List.mem_append.mp member
    · have all : (Registry.start cfg.datasets data status).all = cfg.datasets :=
        Registry.all_start valid.distinct
      have known : config ∈ cfg.datasets := all ▸ registered
      intro table read
      obtain ⟨statement, answerable⟩ :=
        valid.queries config known (DatasetConfig.kind_of_tables read)
      exact answerable.declared (compared config known) table read
    · cases adding
  resolved := fun config member => nomatch member
  unused := fun name member => nomatch member

/-- From an accepted configuration every dependency stays registered, and no delete or expiry
removes what another dataset reads, as long as every step is careful. -/
theorem references_kept (accepted : cfg.validate around = .ok ())
    (compared : ∀ d ∈ cfg.datasets, d.Compared around.parse)
    (built : ∀ name ∈ data, name ∈ cfg.datasets.map (·.name))
    {status : String → DatasetStatus} {incarnations : Nat}
    {files : AList fun _ : String => ManagedFile} {labels : List Action} {t : System}
    (run : Run (System.step around.parse settings) (System.Careful around.parse settings)
      (.boot (.start cfg.datasets data status) incarnations files) labels t) :
    t.registry.Referential ∧
      Run (System.step around.parse settings) (System.SparesRead around.parse)
        (.boot (.start cfg.datasets data status) incarnations files) labels t := by
  have valid := AppConfig.validate_ok_iff.mp accepted
  obtain ⟨spares, linked⟩ := run.strengthen (System.linked_boot valid built compared)
    (fun linked careful stepped => System.Linked.step linked careful stepped)
    fun linked _ _ => System.Linked.sparesRead linked
  exact ⟨linked.referential, spares⟩

end

section Runs
attribute [local instance] asciiToLowercase

/-- `top` reads `big`. -/
private def stacking : List Action := creates "big" "orders" none ++ creates "top" "big" none

private def stacked : System :=
  (Machine.exec (System.step twoTables.parse allowed) Anything stacking booted).getD booted

private def leaves : List Action := [.unregister 0, .remove 0]

private def without (s : System) (name : String) : System :=
  (Machine.exec (System.step twoTables.parse allowed) Anything leaves
    { s with tasks := .guarded name :: s.tasks }).getD s

/-- `big` goes last. -/
private def goes : List Action :=
  stacking ++ [.delete "big" (.ok ())] ++ [.delete "top" (.ok ())] ++ leaves ++
    [.delete "big" (.ok ())] ++ leaves

private theorem stacked_delete :
    System.step twoTables.parse allowed (.delete "big" (.ok ())) stacked = some stacked := by
  cases passed : stacked.registry.mayDelete allowed (.ok ()) "big" with
  | error e => simp only [System.step, passed]
  | ok done =>
      have unread := Registry.unread_of_mayDelete (by decide) passed (by decide)
      have top := unread _ List.mem_cons_self
      exact absurd ⟨rfl, "big", List.mem_cons_self, rfl⟩ top

private def expires : List Action :=
  creates "big" "orders" (some 0) ++ creates "top" "big" none ++
    [.schedule 0, .receive, .expire 0, .unregister 0, .remove 0]

private theorem free_delete (s : System) (name : String)
    (managed : s.registry.isManaged name = true) (alone : s.registry.dependents name = [])
    (spelled : s.registry.Spelled name) (unsought : s.Unsought twoTables.parse name) :
    Run (System.step twoTables.parse allowed) (System.Careful twoTables.parse allowed) s
      [.delete name (.ok ())] { s with tasks := .guarded name :: s.tasks } :=
  .single (fun _ => ⟨spelled, unsought⟩) (System.step_delete rfl managed alone)

/-- The first delete is refused. -/
theorem references_kept_goes : ∃ t,
    t.successes = [.deleted "big", .deleted "top", .created "top", .created "big"] ∧
    t.registry.Referential ∧
    Run (System.step twoTables.parse allowed) (System.SparesRead twoTables.parse) booted goes t := by
  have accepted : orders.validate twoTables = .ok () := by rfl
  have first : Run (System.step twoTables.parse allowed)
    (System.Careful twoTables.parse allowed) booted stacking stacked := Machine.run_of_exec rfl
  have refused : Run (System.step twoTables.parse allowed) (System.Careful twoTables.parse allowed)
    stacked [.delete "big" (.ok ())] stacked := .single (fun _ => by decide) stacked_delete
  have top := free_delete stacked "top" rfl List.mergeSort_nil (by decide) (by decide)
  have second : Run (System.step twoTables.parse allowed) (System.Careful twoTables.parse allowed)
    { stacked with tasks := .guarded "top" :: stacked.tasks } leaves (without stacked "top") :=
    Machine.run_of_exec rfl
  have big := free_delete (without stacked "top") "big" rfl List.mergeSort_nil (by decide)
    (by decide)
  have third : Run (System.step twoTables.parse allowed) (System.Careful twoTables.parse allowed)
    { without stacked "top" with tasks := .guarded "big" :: (without stacked "top").tasks } leaves
    (without (without stacked "top") "big") := Machine.run_of_exec rfl
  have run := ((((first.append refused).append top).append second).append big).append third
  exact ⟨_, rfl, references_kept accepted (by decide) (by decide) run⟩

/-- The expiry of `big` leaves `top` without what it reads. -/
theorem references_not_kept : orders.validate twoTables = .ok () ∧
    ∃ t, Run (System.step twoTables.parse allowed) Anything booted expires t ∧
      ¬ t.registry.Referential := by
  refine ⟨by rfl, _, Machine.run_of_exec rfl, fun referential => ?_⟩
  have top := referential _ List.mem_cons_self rfl "big" (List.mem_singleton_self _)
  have named : ∃ name ∈ ["top", "orders"], toLowercase "big" = toLowercase name := top
  exact absurd named (by decide)

end Runs
end Datapress.Config
