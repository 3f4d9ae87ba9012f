import Datapress.Config.Registrations

/-! Whether the names of the datasets differ by more than their case, so that a table reference
means one dataset. -/
namespace Datapress.Config
open Machine (Run Anything)
open Refresh (SavedQueriesSettings)

namespace Registry
variable {δ : Type} [ToLowercase]

/-- The names are pairwise different ignoring case. -/
def Unique (r : Registry δ) : Prop := (r.configs.keys.map toLowercase).Nodup

/-- The dataset whose column filters are enforced for a lowered table reference: the lookup of
its schema is exact, and a failed lookup is skipped. -/
def enforced (r : Registry δ) (table : String) : Option String :=
  (r.datasets.lookup table).map fun _ => table

/-- Each lowered table reference that the SQL endpoint accepts is the name of one published
dataset ignoring case, the one whose filters are enforced. -/
def Resolves (r : Registry δ) : Prop :=
  ∀ table ∈ r.names.map toLowercase, ∃ name,
    (∀ other ∈ r.names, toLowercase other = table ↔ other = name) ∧ r.enforced table = some name

omit [ToLowercase] in
theorem enforced_eq_some {r : Registry δ} {table name : String} :
    r.enforced table = some name ↔ table ∈ r.names ∧ table = name := by
  rw [enforced, Option.map_eq_some_iff, names, ← AList.mem_keys, ← AList.lookup_isSome,
    Option.isSome_iff_exists, exists_and_right]

/-- A reference finds its filters when the published names are in lower case. -/
theorem resolves_iff {r : Registry δ} :
    r.Resolves ↔ ∀ name ∈ r.names, toLowercase name = name := by
  constructor
  · intro resolves name member
    obtain ⟨found, only, enforced⟩ := resolves _ (List.mem_map_of_mem member)
    obtain ⟨_, rfl⟩ := enforced_eq_some.mp enforced
    exact ((only name member).mp rfl).symm
  · intro lowered table member
    obtain ⟨name, among, rfl⟩ := List.mem_map.mp member
    rw [lowered name among]
    refine ⟨name, fun other inside => ?_, enforced_eq_some.mpr ⟨among, rfl⟩⟩
    rw [lowered other inside]

/-- No registered name but its own is the name ignoring case. -/
def NoVariant (r : Registry δ) (name : String) : Prop :=
  ∀ other ∈ r.configs.keys, toLowercase other = toLowercase name → other = name

theorem unique_put_iff {r : Registry δ} {config : DatasetConfig} {data : δ} (unique : r.Unique) :
    (r.put config data).Unique ↔ r.NoVariant config.name := by
  have others : ((r.configs.keys.erase config.name).map toLowercase).Nodup :=
    unique.sublist (List.erase_sublist.map _)
  rw [Unique, put, AList.keys_insert, List.map_cons, List.nodup_cons, and_iff_left others]
  simp only [NoVariant, List.mem_map, not_exists, not_and]
  constructor
  · intro fresh other member same
    by_contra apart
    exact fresh other ((List.mem_erase_of_ne apart).mpr member) same
  · intro free other member same
    have inside := r.configs.keys_nodup.mem_erase_iff.mp member
    exact inside.1 (free other inside.2 same)

theorem resolves_put_iff {r : Registry δ} {config : DatasetConfig} {data : δ}
    (resolves : r.Resolves) :
    (r.put config data).Resolves ↔ toLowercase config.name = config.name := by
  rw [resolves_iff] at resolves ⊢
  rw [names, put, AList.keys_insert, List.forall_mem_cons]
  refine and_iff_left fun name member => resolves name ?_
  exact List.mem_of_mem_erase member

end Registry

section
variable {δ : Type} [ToLowercase] {around : Surroundings} {parse : Sql.Parser}
  {settings : SavedQueriesSettings} {cfg : AppConfig}

/-- What a step registers has a name in lower case that is no variant of a registered one. -/
def Server.NameFree (parse : Sql.Parser) (settings : SavedQueriesSettings) (s : Server δ)
    (a : Registration δ) : Prop :=
  ∀ config data, s.registered parse settings a = some (config, data) →
    s.registry.NoVariant config.name ∧ toLowercase config.name = config.name

theorem Server.nameFree_iff {s t : Server δ} {a : Registration δ}
    (held : s.registry.Unique ∧ s.registry.Resolves) (stepped : step parse settings a s = some t) :
    (t.registry.Unique ∧ t.registry.Resolves) ↔ s.NameFree parse settings a := by
  obtain ⟨nothing, same⟩ | ⟨config, data, found, put⟩ := step_registry stepped
  · rw [same]
    refine iff_of_true held fun config data found => ?_
    rw [nothing] at found
    cases found
  · rw [put, Registry.unique_put_iff held.1, Registry.resolves_put_iff held.2]
    constructor
    · intro free config' data' found'
      obtain ⟨rfl, rfl⟩ := Prod.mk.inj (Option.some.inj (found.symm.trans found'))
      exact free
    · intro free
      exact free config data found

theorem unique_start {data : AList fun _ : String => δ} {status : String → DatasetStatus}
    (distinct : (cfg.datasets.map (·.name)).Nodup) :
    (Registry.start cfg.datasets data status).Unique ↔
      (cfg.datasets.map fun d => toLowercase d.name).Nodup := by
  rw [Registry.Unique, Registry.keys_start distinct, List.map_map]
  rfl

/-- In every registry that is reached from an accepted configuration the names differ ignoring
case and the references resolve, when no name of the configuration is a variant of another and
every name that is published or registered is in lower case and fresh. -/
theorem names_resolve_iff (accepted : cfg.validate around = .ok ())
    {data : AList fun _ : String => δ} {status : String → DatasetStatus}
    {labels : List (Registration δ)} {t : Server δ}
    (run : Run (Server.step parse settings) Anything
      ⟨Registry.start cfg.datasets data status, []⟩ labels t) :
    (∀ before u, before <+: labels →
      Run (Server.step parse settings) Anything ⟨Registry.start cfg.datasets data status, []⟩
        before u → u.registry.Unique ∧ u.registry.Resolves) ↔
      ((cfg.datasets.map fun d => toLowercase d.name).Nodup ∧
        ∀ name ∈ data.keys, toLowercase name = name) ∧
      Run (Server.step parse settings) (Server.NameFree parse settings)
        ⟨Registry.start cfg.datasets data status, []⟩ labels t := by
  have valid := AppConfig.validate_ok_iff.mp accepted
  rw [run.always_iff (P := fun u : Server δ => u.registry.Unique ∧ u.registry.Resolves)
    (J := fun _ => True) trivial (fun _ _ => trivial)
    (fun _ held stepped => Server.nameFree_iff held stepped)]
  rw [unique_start valid.distinct, Registry.resolves_iff]
  rfl

end

section Runs
attribute [local instance] asciiToLowercase

theorem names_resolve_items : ∃ t, posting (file "items") = some t ∧
    ((∀ before u, before <+: [.register (file "items") (.ok ())] →
      Run (Server.step noFiles.parse noQueries) Anything serving before u →
        u.registry.Unique ∧ u.registry.Resolves) ↔
      ((orders.datasets.map fun d => toLowercase d.name).Nodup ∧
        ∀ name ∈ (AList.singleton "orders" () : AList fun _ : String => Unit).keys,
          toLowercase name = name) ∧
      Run (Server.step noFiles.parse noQueries) (Server.NameFree noFiles.parse noQueries) serving
        [.register (file "items") (.ok ())] t) :=
  have accepted : orders.validate noFiles = .ok () := by rfl
  ⟨_, rfl, names_resolve_iff accepted (posted (file "items") rfl)⟩

/-- The file says `on_start = "lazy"`: no table is called `orders` before the first request. -/
private def untouched : AppConfig := { datasets := [{ file "orders" with onStart := .lazy }] }

private def waiting : Server Unit := ⟨.start untouched.datasets ∅ fun _ => .pending, []⟩

/-- A configuration may have both `ORDERS` and `orders`, and `ORDERS` is registered beside an
`orders` that has not been built yet. -/
theorem names_not_unique :
    (AppConfig.validate noFiles { datasets := [file "ORDERS", file "orders"] } = .ok () ∧
      ¬ (Registry.start [file "ORDERS", file "orders"] ∅ fun _ => .pending :
        Registry Unit).Unique) ∧
    untouched.validate noFiles = .ok () ∧
      ∃ t, Run (Server.step noFiles.parse noQueries) Anything waiting
        [.register (file "ORDERS") (.ok ())] t ∧ ¬ t.registry.Unique := by
  have clash : ¬ (["ORDERS", "orders"].map toLowercase).Nodup := by decide
  refine ⟨⟨by rfl, ?_⟩, by rfl, _, Run.single trivial rfl, ?_⟩
  · intro unique
    exact clash unique
  · intro unique
    exact clash unique

end Runs
end Datapress.Config
