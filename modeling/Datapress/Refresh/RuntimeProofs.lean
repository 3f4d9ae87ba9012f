import Mathlib.Data.List.Sigma
import Datapress.Refresh.Runtime

/-! Which datasets take part in refresh while datasets come and go. -/
namespace Datapress.Refresh
open Machine (Run Anything)

/-! ### The start -/

namespace Runtime
variable {env : Environment} {settings : SavedQueriesSettings} {s t : Runtime}
  {datasets : List DatasetConfig} {published : List String} {name : String}
  {config : DatasetConfig}

theorem schedule_name {schedule : DatasetSchedule} (asked : config.schedule = some schedule) :
    schedule.name = config.name := by
  obtain ⟨refresh, _, rest⟩ := Option.bind_eq_some_iff.mp asked
  obtain ⟨interval, _, made⟩ := Option.bind_eq_some_iff.mp rest
  rw [← Option.some.inj made]

theorem lookup_serve (distinct : (datasets.map (·.name)).Nodup) :
    (serve datasets published).configs.lookup name = some config ↔
      config ∈ datasets ∧ config.name = name := by
  let entries := datasets.map fun d => (⟨d.name, d⟩ : Sigma fun _ : String => DatasetConfig)
  have keys : entries.NodupKeys := by
    rw [List.NodupKeys, List.keys, List.map_map]
    exact distinct
  rw [serve, AList.lookup_to_alist, ← Option.mem_def, List.mem_dlookup_iff keys, List.mem_map]
  constructor
  · rintro ⟨d, member, same⟩
    cases same
    exact ⟨member, rfl⟩
  · rintro ⟨member, rfl⟩
    exact ⟨config, member, rfl⟩

variable (published) in
theorem lookup_serve_none (distinct : (datasets.map (·.name)).Nodup) :
    (serve datasets published).configs.lookup name = none ↔ name ∉ datasets.map (·.name) := by
  rw [Option.eq_none_iff_forall_ne_some, List.mem_map, not_exists]
  exact forall_congr' fun config => not_congr (lookup_serve distinct)

/-- Each schedule of the server is that of one dataset. -/
theorem filter_schedules (distinct : (datasets.map (·.name)).Nodup) (member : config ∈ datasets) :
    (datasets.filterMap DatasetConfig.schedule).filter (·.name = config.name) =
      config.schedule.toList := by
  induction datasets with
  | nil => cases member
  | cons d rest ih =>
      obtain ⟨new, distinct⟩ := List.nodup_cons.mp distinct
      have others {e : DatasetConfig} (outside : e.name ∉ rest.map (·.name)) :
          (rest.filterMap DatasetConfig.schedule).filter (·.name = e.name) = [] := by
        rw [List.filter_eq_nil_iff]
        intro schedule found
        obtain ⟨other, inside, asked⟩ := List.mem_filterMap.mp found
        rw [schedule_name asked, decide_eq_true_iff]
        exact fun same => outside (List.mem_map.mpr ⟨other, inside, same⟩)
      rw [List.filterMap_cons]
      obtain rfl | inside := List.mem_cons.mp member
      · cases asked : config.schedule with
        | none => exact others new
        | some schedule =>
            rw [List.filter_cons_of_pos (by simp [schedule_name asked]), others new]
            rfl
      · have apart : d.name ≠ config.name := fun same =>
          new (List.mem_map.mpr ⟨config, inside, same.symm⟩)
        cases asked : d.schedule with
        | none => exact ih distinct inside
        | some schedule =>
            rw [List.filter_cons_of_neg (by simp [schedule_name asked, apart])]
            exact ih distinct inside

theorem upstream_iff {u d : String} : (configuredDag datasets).Upstream u d ↔
    ∃ config ∈ datasets, config.name = d ∧ config.cascades ∧ u ∈ config.dependsOn := by
  constructor
  · intro edge
    obtain ⟨dep, member, rfl⟩ := List.mem_map.mp edge
    obtain ⟨source, found, refreshes, depends, rfl⟩ := mem_cascadeDag.mp member
    obtain ⟨config, inside, made⟩ := List.mem_filterMap.mp found
    obtain ⟨refresh, block, rfl⟩ := Option.map_eq_some_iff.mp made
    refine ⟨config, inside, rfl, ?_, depends⟩
    rw [DatasetConfig.cascades, block]
    exact refreshes
  · rintro ⟨config, inside, rfl, refreshes, depends⟩
    obtain ⟨refresh, block, asked⟩ := (Option.any_eq_true _ _).mp refreshes
    refine List.mem_map.mpr ⟨_, mem_cascadeDag.mpr ⟨_, List.mem_filterMap.mpr
      ⟨config, inside, congrArg (Option.map _) block⟩, asked, depends, rfl⟩, rfl⟩

/-- The server starts with what its datasets ask for, except that a misspelled upstream is
a node of the graph too. -/
theorem takesPart_serve (distinct : (datasets.map (·.name)).Nodup) :
    (serve datasets published).TakesPart ↔ Spelled datasets := by
  have edge {u d : String} : (serve datasets published).dag.Upstream u d ↔ _ := upstream_iff
  constructor
  · intro holds d inside refreshes u depends
    by_contra outside
    have none := (lookup_serve_none published distinct).mpr outside
    exact ((holds.gone u none).2 d.name).1 (edge.mpr ⟨d, inside, rfl, refreshes, depends⟩)
  · intro spelled
    refine ⟨?_, ?_, ?_⟩
    · intro name config found _ schedule asked
      obtain ⟨inside, rfl⟩ := (lookup_serve distinct).mp found
      rw [serve, filter_schedules distinct inside, asked]
      rfl
    · intro u d
      rw [edge]
      constructor
      · rintro ⟨config, inside, named, rest⟩
        exact ⟨config, (lookup_serve distinct).mpr ⟨inside, named⟩, rest⟩
      · rintro ⟨config, found, rest⟩
        obtain ⟨inside, named⟩ := (lookup_serve distinct).mp found
        exact ⟨config, inside, named, rest⟩
    · intro name none
      have outside := (lookup_serve_none _ distinct).mp none
      refine ⟨?_, fun other => ⟨?_, ?_⟩⟩
      · intro schedule found same
        obtain ⟨config, inside, asked⟩ := List.mem_filterMap.mp found
        exact outside (List.mem_map.mpr ⟨config, inside, (schedule_name asked).symm.trans same⟩)
      · intro upstream
        obtain ⟨config, inside, _, refreshes, depends⟩ := edge.mp upstream
        exact outside (spelled config inside refreshes name depends)
      · intro upstream
        obtain ⟨config, inside, rfl, _⟩ := edge.mp upstream
        exact outside (List.mem_map_of_mem inside)

/-! ### One operation -/

/-- Whether datasets take part depends on the configurations, the schedules and the graph. -/
theorem TakesPart.congr (holds : s.TakesPart) (configs : t.configs = s.configs)
    (schedules : t.schedules = s.schedules) (dag : t.dag = s.dag) : t.TakesPart where
  scheduled := by simpa only [configs, schedules] using @holds.scheduled
  cascades := by simpa only [configs, dag] using holds.cascades
  gone := by simpa only [configs, schedules, dag] using holds.gone

theorem takesPart_put (holds : s.TakesPart) : (s.put config).TakesPart ↔ s.Serves config := by
  have here : (s.put config).configs.lookup config.name = some config := AList.lookup_insert _
  have away {name : String} (other : name ≠ config.name) :
      (s.put config).configs.lookup name = s.configs.lookup name := AList.lookup_insert_ne other
  constructor
  · intro after
    refine ⟨fun kind schedule asked => after.scheduled here kind schedule asked, fun u => ?_⟩
    refine (after.cascades u config.name).trans ?_
    rw [here]
    simp
  · intro serves
    refine ⟨?_, ?_, ?_⟩
    · intro name found registered kind schedule asked
      by_cases same : name = config.name
      · subst same
        obtain rfl := Option.some.inj (here.symm.trans registered)
        exact serves.1 kind schedule asked
      · exact holds.scheduled ((away same).symm.trans registered) kind schedule asked
    · intro u d
      by_cases same : d = config.name
      · subst same
        rw [here]
        exact (serves.2 u).trans (by simp)
      · rw [away same]
        exact holds.cascades u d
    · intro name absent
      have other : name ≠ config.name := by
        rintro rfl
        rw [here] at absent
        cases absent
      exact holds.gone name ((away other).symm.trans absent)

theorem takesPart_drop (holds : s.TakesPart) : (s.drop name).TakesPart ↔ s.Free name := by
  have here : (s.drop name).configs.lookup name = none := AList.lookup_erase _ _
  have away {other : String} (apart : other ≠ name) :
      (s.drop name).configs.lookup other = s.configs.lookup other := AList.lookup_erase_ne apart
  constructor
  · intro after
    exact after.gone name here
  · intro free
    refine ⟨?_, ?_, ?_⟩
    · intro other config registered kind schedule asked
      have apart : other ≠ name := by
        rintro rfl
        rw [here] at registered
        cases registered
      exact holds.scheduled ((away apart).symm.trans registered) kind schedule asked
    · intro u d
      by_cases same : d = name
      · subst same
        rw [here]
        exact iff_of_false (free.2 u).2 (by simp)
      · rw [away same]
        exact holds.cascades u d
    · intro other absent
      by_cases same : other = name
      · subst same
        exact free
      · exact holds.gone other ((away same).symm.trans absent)

/-- Removing a dataset needs the check of `unregister` as well. -/
theorem mayUnregister_of_mayDelete {outside : Outside}
    (passed : s.mayDelete settings name outside = .ok ()) : s.mayUnregister name = .ok () := by
  obtain ⟨_, _, found⟩ := Fallible.bind_ok_iff.mp passed
  rw [mayUnregister]
  cases registered : s.configs.lookup name with
  | none => rw [registered] at found; cases found
  | some config =>
      rw [registered] at found
      cases managed : config.managed with
      | true => exact if_pos managed
      | false => simp [managed] at found

theorem takesPart_unregister (holds : s.TakesPart) :
    (s.after (s.unregister name)).TakesPart ↔ (s.mayUnregister name = .ok () → s.Free name) := by
  rw [unregister]
  cases s.mayUnregister name with
  | error e => exact iff_of_true holds nofun
  | ok _ => exact (takesPart_drop holds).trans ⟨fun free _ => free, fun free => free rfl⟩

theorem takesPart_register {outside : Outside} (holds : s.TakesPart) :
    (s.after (s.register config outside)).TakesPart ↔
      (s.mayRegister config outside = .ok () → s.Serves config) := by
  rw [register]
  cases s.mayRegister config outside with
  | error e => exact iff_of_true holds nofun
  | ok _ => exact (takesPart_put holds).trans ⟨fun serves _ => serves, fun serves => serves rfl⟩

variable [ToLowercase]

theorem takesPart_createQuery {request : CreateQueryRequest} {asyncMode : Bool} {now : Nat}
    {outside : Outside} (holds : s.TakesPart) :
    (s.after (s.createQuery env settings request asyncMode now outside)).TakesPart ↔
      s.Keeps env settings (.createQuery request asyncMode now outside) := by
  rw [createQuery, Keeps]
  cases s.prepareQuery env settings request outside with
  | error e => exact iff_of_true holds nofun
  | ok config =>
      simp only [Except.ok.injEq, forall_eq', Fallible.ok_bind]
      cases asyncMode with
      | true =>
          rw [if_pos rfl]
          exact iff_of_true (holds.congr rfl rfl rfl) nofun
      | false =>
          simp only [Bool.false_eq_true, if_false, forall_const]
          rw [← takesPart_register holds]
          cases s.register config outside with
          | error e => exact Iff.rfl
          | ok t =>
              -- what remains is to note when a temporary dataset expires
              cases config.temp <;> cases request.ttl <;>
                exact ⟨fun after => after.congr rfl rfl rfl, fun after => after.congr rfl rfl rfl⟩

/-- An operation keeps the datasets taking part just when it meets its condition. -/
theorem takesPart_step {operation : Operation} (holds : s.TakesPart)
    (stepped : step env settings operation s = some t) :
    t.TakesPart ↔ s.Keeps env settings operation := by
  cases operation with
  | createQuery request asyncMode now outside =>
      obtain rfl := Option.some.inj stepped
      exact takesPart_createQuery holds
  | register config outside =>
      simp only [step] at stepped
      rw [Keeps]
      cases authorized : outside.authorized with
      | error e =>
          rw [authorized] at stepped
          obtain rfl := Option.some.inj stepped
          exact iff_of_true holds nofun
      | ok _ =>
          rw [authorized] at stepped
          obtain rfl := Option.some.inj stepped
          exact (takesPart_register holds).trans ⟨fun kept _ => kept, fun kept => kept rfl⟩
  | runSpawned config outside =>
      obtain ⟨_, made⟩ := Option.ite_none_right_eq_some.mp stepped
      obtain rfl := Option.some.inj made
      exact takesPart_register (holds.congr rfl rfl rfl)
  | deleteQuery name outside =>
      obtain rfl := Option.some.inj stepped
      rw [deleteQuery, Keeps]
      cases passed : s.mayDelete settings name outside with
      | error e => exact iff_of_true holds nofun
      | ok _ =>
          have managed := mayUnregister_of_mayDelete passed
          rw [Fallible.ok_bind, unregister, managed]
          exact (takesPart_drop holds).trans ⟨fun free _ => free, fun free => free rfl⟩
  | expire fireAt name now =>
      obtain ⟨_, made⟩ := Option.ite_none_right_eq_some.mp stepped
      obtain rfl := Option.some.inj made
      exact takesPart_unregister (holds.congr rfl rfl rfl)
  | publish name =>
      obtain ⟨_, made⟩ := Option.ite_none_right_eq_some.mp stepped
      obtain rfl := Option.some.inj made
      exact iff_of_true (holds.congr rfl rfl rfl) trivial

end Runtime

/-- Over a run from an accepted configuration, all registered datasets take part in refresh
just when the configuration spells its upstreams as they are registered and each operation
registers what the server has served, or removes what it has not served, since the start. -/
theorem runtime_datasets_take_part [ToLowercase] {env : Environment}
    {settings : SavedQueriesSettings} {datasets : List DatasetConfig} {published : List String}
    {operations : List Operation} {s : Runtime}
    (accepted : validateDatasets env datasets = .ok ())
    (run : Run (Runtime.step env settings) Anything (.serve datasets published) operations s) :
    (∀ before t, before <+: operations →
        Run (Runtime.step env settings) Anything (.serve datasets published) before t →
        t.TakesPart) ↔
      Spelled datasets ∧
        Run (Runtime.step env settings) (Runtime.Keeps env settings) (.serve datasets published)
          operations s := by
  obtain ⟨_, each, _⟩ := Fallible.bind_ok_iff.mp accepted
  rw [run.always_iff (J := fun _ => True) trivial (fun _ _ => trivial) fun _ => Runtime.takesPart_step,
    Runtime.takesPart_serve (checkEach_ok each).1]

section
attribute [local instance] asciiToLowercase

def savedQueries : SavedQueriesSettings := ⟨true, some "datasets.d"⟩

def baseTables : Environment where
  source _ := .ok ()
  tables _ _ := .ok ["base"]
  cycle _ := []

def base : DatasetConfig := { name := "base", kind := .parquet }

def scratch : CreateQueryRequest where
  name := "scratch"
  kind := .temp
  sql := "SELECT * FROM base"
  ttl := some 60

/-- A temporary dataset comes and goes. -/
theorem runtime_datasets_take_part_scratch :
    (∀ before t, before <+: [.createQuery scratch false 0 {}, .expire 60 "scratch" 60] →
        Run (Runtime.step baseTables savedQueries) Anything (.serve [base] ["base"]) before t →
        t.TakesPart) ↔
      Spelled [base] ∧ ∃ s, Run (Runtime.step baseTables savedQueries)
        (Runtime.Keeps baseTables savedQueries) (.serve [base] ["base"])
        [.createQuery scratch false 0 {}, .expire 60 "scratch" 60] s := by
  have run : Run (Runtime.step baseTables savedQueries) Anything (.serve [base] ["base"])
      [.createQuery scratch false 0 {}, .expire 60 "scratch" 60] _ := Machine.run_of_exec rfl
  have accepted : validateDatasets baseTables [base] = .ok () := by rfl
  constructor
  · intro always
    have ⟨spelled, kept⟩ := (runtime_datasets_take_part accepted run).mp always
    exact ⟨spelled, _, kept⟩
  · rintro ⟨spelled, s, kept⟩
    obtain rfl := run.unique (kept.weaken fun _ _ _ => trivial)
    exact (runtime_datasets_take_part accepted run).mpr ⟨spelled, kept⟩

def hourly : CreateQueryRequest where
  name := "hourly"
  kind := .query
  sql := "SELECT * FROM base"
  refresh := some ⟨some 3600, true, 600, true, 5⟩

/-- A saved query that asks for a refresh every hour and after each reload of `base` is registered
and gets neither. -/
theorem saved_query_not_refreshed : ∃ s, validateDatasets baseTables [base] = .ok () ∧
    Run (Runtime.step baseTables savedQueries) Anything (.serve [base] ["base"])
      [.createQuery hourly false 0 {}] s ∧
    "hourly" ∈ s.configs ∧ s.schedules = [] ∧ s.dag = ∅ ∧ ¬ s.TakesPart := by
  have run : Run (Runtime.step baseTables savedQueries) Anything (.serve [base] ["base"])
      [.createQuery hourly false 0 {}] _ := Machine.run_of_exec rfl
  refine ⟨_, by rfl, run, by decide, rfl, rfl, fun holds => ?_⟩
  have missing : ([] : List DatasetSchedule) = [⟨"hourly", 3600, 600, true⟩] :=
    @Runtime.TakesPart.scheduled _ holds "hourly" (hourly.config ["base"]) rfl rfl _ rfl
  cases missing

end
end Datapress.Refresh
