import Datapress.Config.Registrations
import Datapress.Config.Startup

/-! What the calls at runtime do to the datasets of the configuration file, and what
`reload_config` registers. -/
namespace Datapress.Config
open Machine (Run Anything)
open Refresh (SavedQueriesSettings)

/-! ### The datasets of the file -/

inductive Call (δ : Type) where
  | registration (a : Registration δ)
  | deleteQuery (name : String) (authorized : Except AppError Unit)

section
variable {δ : Type} [ToLowercase] {parse : Sql.Parser} {settings : SavedQueriesSettings}

def Server.call (parse : Sql.Parser) (settings : SavedQueriesSettings) :
    Call δ → Server δ → Option (Server δ)
  | .registration a, s => s.step parse settings a
  | .deleteQuery name authorized, s => some { s with
      registry := s.registry.after (s.registry.deleteQuery settings authorized name) }

/-- The configuration, the status with the policy, and the data of a name. -/
def Registry.entry (r : Registry δ) (name : String) :
    Option DatasetConfig × Option (DatasetStatus × OnStart) × Option δ :=
  (r.configs.lookup name, r.statuses.lookup name, r.datasets.lookup name)

/-- Nothing is replaced or removed that is configured under one of the names. -/
def Registry.Keeps (names : List String) (before after : Registry δ) : Prop :=
  ∀ name ∈ names, name ∈ before.configs → after.entry name = before.entry name

/-- No registration passes its checks and its build under one of the names that is configured
already, and no delete passes its checks. -/
def Server.Spares (parse : Sql.Parser) (settings : SavedQueriesSettings) (names : List String)
    (s : Server δ) : Call δ → Prop
  | .registration a => ∀ config data, s.registered parse settings a = some (config, data) →
      config.name ∈ names → config.name ∉ s.registry.configs
  | .deleteQuery name authorized =>
      s.registry.mayDelete settings authorized name = .ok () → name ∉ names

omit [ToLowercase] in
theorem Registry.entry_put {r : Registry δ} {config : DatasetConfig} {data : δ} {name : String}
    (apart : name ≠ config.name) : (r.put config data).entry name = r.entry name := by
  simp only [entry, put, AList.lookup_insert_ne apart]

omit [ToLowercase] in
theorem Registry.entry_drop {r : Registry δ} {name other : String} (apart : other ≠ name) :
    (r.drop name).entry other = r.entry other := by
  simp only [entry, drop, AList.lookup_erase_ne apart]

theorem Server.keeps_iff {names : List String} {s t : Server δ} {a : Call δ}
    (stepped : s.call parse settings a = some t) :
    s.registry.Keeps names t.registry ↔ s.Spares parse settings names a := by
  cases a with
  | registration a =>
      obtain ⟨nothing, same⟩ | ⟨config, data, found, put⟩ := step_registry stepped
      · rw [same]
        refine iff_of_true (fun _ _ _ => rfl) fun config data found => ?_
        rw [nothing] at found
        cases found
      · rw [put]
        constructor
        · intro kept config' data' found' member configured
          obtain ⟨rfl, rfl⟩ := Prod.mk.inj (Option.some.inj (found.symm.trans found'))
          have now := congrArg (·.2.2) (kept config.name member configured)
          have absent := AList.lookup_eq_none.mpr (registered_accepted found).2
          simp only [Registry.entry, Registry.put, AList.lookup_insert, absent] at now
          cases now
        · intro spared name member configured
          have apart : name ≠ config.name := by
            rintro rfl
            exact spared config data found member configured
          exact Registry.entry_put apart
  | deleteQuery name authorized =>
      cases passed : s.registry.mayDelete settings authorized name with
      | error e =>
          have same : s.registry.deleteQuery settings authorized name = .error e := by
            rw [Registry.deleteQuery, passed]
            rfl
          simp only [Server.call, same, Registry.after, Option.some.injEq] at stepped
          subst stepped
          refine iff_of_true (fun _ _ _ => rfl) fun impossible => ?_
          have clash := passed.symm.trans impossible
          cases clash
      | ok _ =>
          simp only [Server.call, Registry.deleteQuery_of_mayDelete passed, Registry.after,
            Option.some.injEq] at stepped
          subst stepped
          constructor
          · intro kept _ member
            obtain ⟨config, found, _⟩ := Registry.mayDelete_managed passed
            have configured : name ∈ s.registry.configs :=
              AList.lookup_isSome.mp (by rw [found]; rfl)
            have now := congrArg (·.1) (kept name member configured)
            simp only [Registry.entry, Registry.drop, AList.lookup_erase, found] at now
            cases now
          · intro spared other member _
            have apart : other ≠ name := fun same => spared passed (same ▸ member)
            exact Registry.entry_drop apart

omit [ToLowercase] in
/-- What is kept is still configured. -/
theorem Registry.Keeps.trans {names : List String} {r t u : Registry δ} (first : r.Keeps names t)
    (second : t.Keeps names u) : r.Keeps names u := by
  intro name member configured
  have same := first name member configured
  have config : t.configs.lookup name = r.configs.lookup name := congrArg (·.1) same
  have still : name ∈ t.configs := by
    rw [← AList.lookup_isSome, config, AList.lookup_isSome]
    exact configured
  exact (second name member still).trans same

/-- What a dataset of the file has at one moment of a run, it has at every later one. -/
def Server.Protects (parse : Sql.Parser) (settings : SavedQueriesSettings) (names : List String)
    (s : Server δ) (calls : List (Call δ)) : Prop :=
  ∀ before later u v, before ++ later <+: calls →
    Run (Server.call parse settings) Anything s before u →
    Run (Server.call parse settings) Anything u later v → u.registry.Keeps names v.registry

theorem Server.protects_iff {names : List String} {s t : Server δ} {calls : List (Call δ)}
    (run : Run (Server.call parse settings) Anything s calls t) :
    s.Protects parse settings names calls ↔
      Run (Server.call parse settings) (Server.Spares parse settings names) s calls t := by
  constructor
  · intro protects
    induction run with
    | nil => exact .nil _
    | @snoc calls u a v before _ stepped ih =>
        refine .snoc (ih ?_) ?_ stepped
        · exact fun first later x y inside => protects first later x y
            (inside.trans (List.prefix_append ..))
        · exact (keeps_iff stepped).mp (protects calls [a] u v (List.prefix_refl _) before
            (.single trivial stepped))
  · rintro spared before later u v ⟨rest, rfl⟩ first second
    obtain ⟨w, whole, _⟩ := spared.split
    obtain ⟨u', early, late⟩ := whole.split
    have free {x y : Server δ} {labels : List (Call δ)} (r : Run (Server.call parse settings)
        (Server.Spares parse settings names) x labels y) :
        Run (Server.call parse settings) Anything x labels y := r.weaken fun _ _ _ => trivial
    obtain rfl := first.unique (free early)
    obtain rfl := second.unique (free late)
    exact late.keeps (P := fun y => u.registry.Keeps names y.registry) (fun _ _ _ => rfl)
      fun kept allowed stepped => kept.trans ((keeps_iff stepped).mpr allowed)

end

/-! ### `reload_config` -/

section
variable {δ : Type} {built again : DatasetConfig → Except AppError δ} {r : Registry δ}
  {file : List DatasetConfig}

/-- The registration of a dataset that is not published succeeds. -/
def succeeds (built : DatasetConfig → Except AppError δ) (d : DatasetConfig) : Bool :=
  d.validateForRegister.isOk && (built d).isOk

theorem register_of_succeeds {d : DatasetConfig} (fresh : d.name ∉ r.datasets)
    (good : succeeds built d = true) : ∃ data, r.register d (built d) = .ok (r.put d data) := by
  obtain ⟨checked, outcome⟩ := Bool.and_eq_true_iff.mp good
  have unknown : ¬ r.datasets.keys.contains d.name = true :=
    fun known => fresh (List.contains_iff_mem.mp known)
  cases passed : d.validateForRegister with
  | error e => rw [passed] at checked; cases checked
  | ok _ =>
      cases made : built d with
      | error e => rw [made] at outcome; cases outcome
      | ok data =>
          refine ⟨data, ?_⟩
          rw [Registry.register, Registry.mayRegister, passed]
          simp only [Fallible.ok_bind, if_neg unknown]
          rfl

theorem register_of_not_succeeds {d : DatasetConfig} (bad : succeeds built d = false) :
    ∃ e, r.register d (built d) = .error e := by
  cases result : r.register d (built d) with
  | error e => exact ⟨e, rfl⟩
  | ok t =>
      obtain ⟨data, accepted, _⟩ := Fallible.map_ok_iff.mp result
      obtain ⟨checked, rest⟩ := Fallible.check_bind_ok_iff.mp accepted
      obtain ⟨_, made⟩ := Fallible.refuse_ok_iff.mp rest
      rw [succeeds, checked, made] at bad
      cases bad

/-- What the loop reports, and which datasets it leaves published. -/
theorem reloadLoop_spec (built : DatasetConfig → Except AppError δ) (existing : List String)
    (report : ReloadReport)
    (distinct : (file.map (·.name)).Nodup)
    (fresh : ∀ d ∈ file, d.name ∉ existing → d.name ∉ r.datasets) :
    (reloadLoop built existing file report r).1.registered = report.registered ++
      ((file.filter fun d => !existing.contains d.name && succeeds built d).map (·.name)) ∧
    (reloadLoop built existing file report r).1.skipped = report.skipped ++
      ((file.filter fun d => existing.contains d.name).map (·.name)) ∧
    (reloadLoop built existing file report r).1.errors.map (·.1) = report.errors.map (·.1) ++
      ((file.filter fun d => !existing.contains d.name && !succeeds built d).map (·.name)) ∧
    ∀ name, name ∈ (reloadLoop built existing file report r).2.names ↔
      name ∈ r.names ∨
        ∃ d ∈ file, d.name = name ∧ d.name ∉ existing ∧ succeeds built d = true := by
  induction file generalizing report r with
  | nil => simp [reloadLoop]
  | cons d rest ih =>
      obtain ⟨first, others⟩ := List.nodup_cons.mp distinct
      obtain ⟨here, later⟩ := List.forall_mem_cons.mp fresh
      rw [reloadLoop]
      by_cases known : d.name ∈ existing
      · have known' : existing.contains d.name = true := List.contains_iff_mem.mpr known
        rw [if_pos known']
        obtain ⟨registered, skipped, errors, names⟩ := ih
          { report with skipped := report.skipped ++ [d.name] } others later
        refine ⟨?_, ?_, ?_, fun name => ?_⟩
        · simp [registered, known]
        · simp [skipped, known]
        · simp [errors, known]
        · simp [names, known]
      · have known' : ¬ existing.contains d.name = true := by simpa using known
        rw [if_neg known']
        cases good : succeeds built d with
        | true =>
            obtain ⟨data, put⟩ := register_of_succeeds (here known) good
            rw [put]
            have still : ∀ other ∈ rest, other.name ∉ existing →
                other.name ∉ (r.put d data).datasets := by
              intro other member new published
              obtain same | before := (AList.mem_insert _).mp published
              · exact first (List.mem_map.mpr ⟨other, member, same⟩)
              · exact later other member new before
            have grown (name : String) : name ∈ (r.put d data).names ↔ d.name = name ∨ name ∈ r.names :=
              (AList.mem_insert _).trans (or_congr_left eq_comm)
            obtain ⟨registered, skipped, errors, names⟩ := ih
              { report with registered := report.registered ++ [d.name] } others still
            refine ⟨?_, ?_, ?_, fun name => ?_⟩
            · simp [registered, known, good]
            · simp [skipped, known]
            · simp [errors, good]
            · rw [names, grown, or_assoc, or_left_comm]
              simp [known, good]
        | false =>
            obtain ⟨e, failed⟩ := register_of_not_succeeds (r := r) good
            rw [failed]
            obtain ⟨registered, skipped, errors, names⟩ := ih
              { report with errors := report.errors ++ [(d.name, e)] } others later
            refine ⟨?_, ?_, ?_, fun name => ?_⟩
            · simp [registered, good]
            · simp [skipped, known]
            · simp [errors, known, good]
            · simp [names, good]

/-- Every name of the file is in one of the three lists, once. -/
def ReloadReport.Covers (report : ReloadReport) (file : List DatasetConfig) : Prop :=
  (report.registered ++ report.skipped ++ report.errors.map (·.1)).Perm (file.map (·.name))

theorem perm_split (known good : DatasetConfig → Bool) (file : List DatasetConfig) :
    ((file.filter fun d => !known d && good d) ++ file.filter known ++
      file.filter fun d => !known d && !good d).Perm file := by
  have inner (p : DatasetConfig → Bool) : (file.filter fun d => !known d && p d) =
      (file.filter fun d => !known d).filter p := by
    rw [List.filter_filter]
    exact List.filter_congr fun d _ => Bool.and_comm ..
  rw [inner good, inner fun d => !good d]
  have new := List.filter_append_perm good (file.filter fun d => !known d)
  have all := List.filter_append_perm known file
  rw [List.append_assoc]
  exact (List.perm_append_comm_assoc ..).trans ((new.append_left _).trans all)

theorem mem_filter_name (distinct : (file.map (·.name)).Nodup) {d : DatasetConfig}
    (member : d ∈ file) (p : DatasetConfig → Bool) :
    d.name ∈ (file.filter p).map (·.name) ↔ p d = true := by
  constructor
  · intro found
    obtain ⟨other, kept, same⟩ := List.mem_map.mp found
    obtain ⟨among, passes⟩ := List.mem_filter.mp kept
    obtain rfl := List.inj_on_of_nodup_map distinct among member same
    exact passes
  · intro passes
    exact List.mem_map_of_mem (List.mem_filter.mpr ⟨member, passes⟩)

theorem mem_published (built : DatasetConfig → Except AppError δ) (r : Registry δ)
    (report : ReloadReport) (distinct : (file.map (·.name)).Nodup)
    {d : DatasetConfig} (member : d ∈ file) :
    d.name ∈ (reloadLoop built r.names file report r).2.names ↔
      d.name ∈ r.names ∨ succeeds built d = true := by
  have spec := reloadLoop_spec built r.names report distinct
    (fun _ _ new => new)
  rw [spec.2.2.2]
  constructor
  · rintro (before | ⟨other, among, same, _, good⟩)
    · exact .inl before
    · obtain rfl := List.inj_on_of_nodup_map distinct among member same
      exact .inr good
  · rintro (before | good)
    · exact .inl before
    · by_cases before : d.name ∈ r.names
      · exact .inl before
      · exact .inr ⟨d, member, rfl, before, good⟩

end

section
variable {δ : Type} [ToLowercase] {around : Surroundings} {parse : Sql.Parser}
  {settings : SavedQueriesSettings} {built : DatasetConfig → Except AppError δ}
  {r after : Registry δ} {report : ReloadReport} {cfg : AppConfig}

/-- The datasets that the loop calls `register` for, in its order. -/
def reloadCalls (parse : Sql.Parser) (settings : SavedQueriesSettings)
    (built : DatasetConfig → Except AppError δ) (r : Registry δ) (file : List DatasetConfig) :
    List DatasetConfig :=
  (reloadTurns built r.names file).filterMap fun turn =>
    (Server.tries parse settings ⟨r, []⟩ turn).map (·.1)

theorem reloadCalls_eq {file : List DatasetConfig} :
    reloadCalls parse settings built r file = file.filter fun d => !r.names.contains d.name := by
  induction file with
  | nil => rfl
  | cons d rest ih =>
      simp only [reloadCalls, reloadTurns, List.map_cons, List.filterMap_cons, Server.tries] at ih ⊢
      by_cases known : r.names.contains d.name = true
      · rw [if_pos known, List.filter_cons_of_neg (by simpa using known)]
        exact ih
      · rw [if_neg known, List.filter_cons_of_pos (by simpa using known)]
        exact congrArg (d :: ·) ih

/-- A dataset comes after those it reads. -/
def InOrder (calls : List DatasetConfig) : Prop :=
  ∀ u ∈ calls, ∀ d ∈ calls, d.Reads u → [u, d].Sublist calls

theorem inOrder_filter_iff {file : List DatasetConfig} {tried : DatasetConfig → Bool} :
    InOrder (file.filter tried) ↔ ∀ u ∈ file, tried u = true → ∀ d ∈ file, tried d = true →
      d.Reads u → [u, d].Sublist file := by
  constructor
  · intro ordered u first new d second new' reads
    exact (ordered u (List.mem_filter.mpr ⟨first, new⟩) d (List.mem_filter.mpr ⟨second, new'⟩)
      reads).trans List.filter_sublist
  · intro ordered u first d second reads
    obtain ⟨first, new⟩ := List.mem_filter.mp first
    obtain ⟨second, new'⟩ := List.mem_filter.mp second
    have kept := (ordered u first new d second new' reads).filter tried
    rwa [List.filter_cons_of_pos new, List.filter_cons_of_pos new', List.filter_nil] at kept

/-- What one `reload_config` reports, tries and settles. -/
theorem reloadConfig_spec (again : DatasetConfig → Except AppError δ) (accepted : cfg.validate around = .ok ())
    (ran : reloadConfig (.ok cfg) built r = .ok (report, after)) :
    report.Covers cfg.datasets ∧
    ((∀ d ∈ cfg.datasets, d.name ∈ report.registered ∨ d.name ∈ report.errors.map (·.1) ↔
        d.name ∉ r.configs) ↔
      ∀ d ∈ cfg.datasets, d.name ∈ r.names ↔ d.name ∈ r.configs) ∧
    (InOrder (reloadCalls parse settings built r cfg.datasets) ↔
      ∀ u ∈ cfg.datasets, u.name ∉ r.names → ∀ d ∈ cfg.datasets, d.name ∉ r.names →
        d.Reads u → [u, d].Sublist cfg.datasets) ∧
    ((reloadLoop again after.names cfg.datasets {} after).1.registered = [] ↔
      ∀ d ∈ cfg.datasets, d.name ∉ r.names → succeeds built d = false →
        succeeds again d = false) := by
  have distinct := (AppConfig.validate_ok_iff.mp accepted).distinct
  have made := Except.ok.inj ran
  obtain rfl : (reloadLoop built r.names cfg.datasets {} r).1 = report := congrArg Prod.fst made
  obtain rfl : (reloadLoop built r.names cfg.datasets {} r).2 = after := congrArg Prod.snd made
  obtain ⟨registered, skipped, errors, names⟩ := reloadLoop_spec built r.names {} distinct
    (fun _ _ new => new)
  refine ⟨?_, ?_, ?_, ?_⟩
  · rw [ReloadReport.Covers, registered, skipped, errors]
    simp only [List.nil_append, List.map_nil, ← List.map_append]
    exact (perm_split _ _ _).map _
  · refine forall₂_congr fun d member => ?_
    rw [registered, errors, List.nil_append, List.map_nil, List.nil_append,
      mem_filter_name distinct member, mem_filter_name distinct member]
    cases succeeds built d <;> simp [not_iff_not]
  · rw [reloadCalls_eq, inOrder_filter_iff]
    simp
  · have second := (reloadLoop_spec again (reloadLoop built r.names cfg.datasets {} r).2.names {}
      distinct (fun _ _ new => new)).1
    rw [second, List.nil_append, List.map_eq_nil_iff, List.filter_eq_nil_iff]
    refine forall₂_congr fun d member => ?_
    have published := mem_published built r {} distinct member
    simp only [Bool.and_eq_true, Bool.not_eq_true', List.contains_eq_mem, decide_eq_false_iff_not,
      published, not_or, Bool.not_eq_true, not_and, Bool.not_eq_true, and_imp]

/-- The configured datasets of the main file stay as they are just when no call passes its checks
under one of their names, and a reload does what it says just when the configured datasets are
published, the others are listed after those they read, and a build that failed fails again. -/
theorem configured_protected_iff (again : DatasetConfig → Except AppError δ)
    {toml managed : List DatasetConfig}
    (accepted : (cfg.withDatasets (toml ++ managed)).validate around = .ok ())
    {s t : Server δ} {calls : List (Call δ)}
    (run : Run (Server.call parse settings) Anything s calls t)
    (ran : reloadConfig (.ok (cfg.withDatasets (toml ++ managed))) built t.registry =
      .ok (report, after)) :
    (s.Protects parse settings (toml.map (·.name)) calls ↔
      Run (Server.call parse settings) (Server.Spares parse settings (toml.map (·.name))) s
        calls t) ∧
    report.Covers (toml ++ managed) ∧
    ((∀ d ∈ toml ++ managed, d.name ∈ report.registered ∨ d.name ∈ report.errors.map (·.1) ↔
        d.name ∉ t.registry.configs) ↔
      ∀ d ∈ toml ++ managed, d.name ∈ t.registry.names ↔ d.name ∈ t.registry.configs) ∧
    (InOrder (reloadCalls parse settings built t.registry (toml ++ managed)) ↔
      ∀ u ∈ toml ++ managed, u.name ∉ t.registry.names → ∀ d ∈ toml ++ managed,
        d.name ∉ t.registry.names → d.Reads u → [u, d].Sublist (toml ++ managed)) ∧
    ((reloadLoop again after.names (toml ++ managed) {} after).1.registered = [] ↔
      ∀ d ∈ toml ++ managed, d.name ∉ t.registry.names → succeeds built d = false →
        succeeds again d = false) := by
  exact ⟨Server.protects_iff run, reloadConfig_spec again accepted ran⟩

end

section Runs
attribute [local instance] asciiToLowercase

private def emptyRegistry : Registry Unit := .start [file "orders"] ∅ fun _ => .pending

private def api : SavedQueriesSettings := { enabled := true, dir := none }

private def bare : AppConfig := { datasets := [] }

private def elsewhere : DatasetConfig :=
  { file "orders" with source := { kind := .parquet, location := "other.parquet" } }

private theorem called (s : Server Unit) {a : Call Unit} {t : Server Unit}
    (stepped : s.call noFiles.parse api a = some t) :
    Run (Server.call noFiles.parse api) Anything s [a] t :=
  Run.single trivial stepped

/-- A saved query beside `orders`. -/
private def big : DatasetConfig := { file "big" with managed := true }

private def stocked : Registry Unit :=
  .start [file "orders", big] (AList.singleton "orders" ()) fun _ => .published

/-- `big` is deleted and comes back, and the file has a new dataset `items`. -/
private def removing : List (Call Unit) :=
  [.deleteQuery "big" (.ok ()), .registration (.register (file "big") (.ok ())),
    .registration (.reloadTurn ["orders"] (file "items") (.ok ()))]

private def rebuilt : Registry Unit :=
  ((stocked.drop "big").put (file "big") ()).put (file "items") ()

private theorem stocked_mayDelete : stocked.mayDelete api (.ok ()) "big" = .ok () := by
  have none : stocked.dependents "big" = [] := List.mergeSort_nil
  rw [Registry.mayDelete, none]
  rfl

theorem configured_protected_orders : ∃ t report after,
    Run (Server.call noFiles.parse api) Anything ⟨stocked, []⟩ removing t ∧
    reloadConfig (.ok (bare.withDatasets ([file "orders", file "items"] ++ []))) (fun _ => .ok ())
      t.registry = .ok (report, after) ∧
    (Server.Protects noFiles.parse api ["orders", "items"] ⟨stocked, []⟩ removing ↔
      Run (Server.call noFiles.parse api) (Server.Spares noFiles.parse api ["orders", "items"])
        ⟨stocked, []⟩ removing t) ∧
    report.Covers [file "orders", file "items"] := by
  have accepted : (bare.withDatasets ([file "orders", file "items"] ++ [])).validate noFiles =
      .ok () := by rfl
  have deleted : Server.call noFiles.parse api (.deleteQuery "big" (.ok ())) ⟨stocked, []⟩ =
      some ⟨stocked.drop "big", []⟩ := by
    rw [Server.call, Registry.deleteQuery_of_mayDelete stocked_mayDelete]
    rfl
  have run : Run (Server.call noFiles.parse api) Anything ⟨stocked, []⟩ removing ⟨rebuilt, []⟩ :=
    .snoc (.snoc (.snoc (.nil _) trivial deleted) trivial rfl) trivial rfl
  have ran : reloadConfig (.ok (bare.withDatasets ([file "orders", file "items"] ++ [])))
      (fun _ => .ok ()) rebuilt = .ok ({ skipped := ["orders", "items"] }, rebuilt) := rfl
  have whole := configured_protected_iff (fun _ => .ok ()) accepted run ran
  exact ⟨_, _, _, run, ran, whole.1, whole.2.1⟩

/-- The file says `managed = true`. -/
private def marked : DatasetConfig := { file "orders" with managed := true }

private def removable : Registry Unit := .start [marked] ∅ fun _ => .pending

private theorem removable_mayDelete : removable.mayDelete api (.ok ()) "orders" = .ok () := by
  have none : removable.dependents "orders" = [] := List.mergeSort_nil
  rw [Registry.mayDelete, none]
  rfl

/-- A dataset of the file that is not built yet is replaced by another of its name, and one that
says `managed = true` is deleted. -/
theorem configured_not_protected :
    (∃ t, Run (Server.call noFiles.parse api) Anything ⟨emptyRegistry, []⟩
        [.registration (.register elsewhere (.ok ()))] t ∧
      ¬ emptyRegistry.Keeps ["orders"] t.registry) ∧
    ∃ t, Run (Server.call noFiles.parse api) Anything ⟨removable, []⟩
        [.deleteQuery "orders" (.ok ())] t ∧ ¬ removable.Keeps ["orders"] t.registry := by
  refine ⟨⟨_, called _ rfl, fun kept => ?_⟩, ⟨removable.drop "orders", []⟩, called _ ?_, fun kept => ?_⟩
  · have data : some () = none :=
      congrArg (·.2.2) (kept "orders" (List.mem_singleton_self _) (by decide))
    cases data
  · rw [Server.call, Registry.deleteQuery_of_mayDelete removable_mayDelete]
    rfl
  · have config : none = some marked :=
      congrArg (·.1) (kept "orders" (List.mem_singleton_self _) (by decide))
    cases config

end Runs
end Datapress.Config
