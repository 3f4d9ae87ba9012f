import Mathlib.Data.Multiset.AddSub
import Datapress.Config.Loading

/-! What a restart makes of a dataset that was appended to the configuration file. -/
namespace Datapress.Config
open Toml (Document Table push without)

/-- All fields agree but those that `datasets.toml` has no say in. -/
def DatasetConfig.BehavesAs (d d' : DatasetConfig) : Prop :=
  d = { d' with managed := d.managed, temp := d.temp }

/-- The configuration with one more dataset, which behaves as the given one. -/
structure AppConfig.Gains (cfg : AppConfig) (d : DatasetConfig) (after : AppConfig) : Prop where
  storage : after.storage = cfg.storage
  others : after.others = cfg.others
  datasets : ∃ before later d', cfg.datasets = before ++ later ∧
    after.datasets = before ++ d' :: later ∧ d'.BehavesAs d

/-- The files say the same beside the datasets. -/
def Disk.SameSections (toml : TomlCrate) (disk disk' : Disk) : Prop :=
  ∃ doc doc', toml.parse disk.text = some doc ∧ toml.parse disk'.text = some doc' ∧
    without "dataset" doc' = without "dataset" doc

section
variable [ToLowercase] {toml : TomlCrate} {sections : Document → Option Sections}
  {around : Surroundings} {disk disk' : Disk} {cfg : AppConfig} {d : DatasetConfig}

/-- What `persist_to_source_config` leaves unchecked, and what it does not write. -/
structure DatasetConfig.Persistable (toml : TomlCrate) (around : Surroundings) (disk : Disk)
    (cfg : AppConfig) (d : DatasetConfig) : Prop where
  /-- The datasets of the file are not a value. -/
  extensible : ∀ doc value, toml.parse disk.text = some doc →
    doc.lookup "dataset" ≠ some (.value value)
  eager : d.onStart = .eager
  unscheduled : d.refresh = none
  unmaterialized : d.materialize = none
  fresh : d.name ∉ cfg.datasets.map (·.name)
  fits : d.persisted.Fits around cfg.storage cfg.datasets

omit [ToLowercase] in
theorem readDatasets_push {doc pushed : Document} {table : Table} {main : List DatasetConfig}
    (grown : push "dataset" table doc = some pushed)
    (read : DatasetConfig.deserialize table = some d) (before : readDatasets doc = some main) :
    readDatasets pushed = some (main ++ [d]) := by
  obtain ⟨tables, found, listed⟩ := Toml.lookup_push grown
  have earlier : tables.mapM DatasetConfig.deserialize = some main := by
    obtain old | ⟨absent, rfl⟩ := listed
    · simpa only [readDatasets, old] using before
    · rw [readDatasets, absent] at before
      exact before
  simp only [readDatasets, found, List.mapM_append, earlier, List.mapM_cons, List.mapM_nil, read]
  rfl

omit [ToLowercase] in
/-- The dataset that was added is the one between the others. -/
theorem eq_of_inserted {α : Type} {before later main managed : List α} {x y : α}
    (same : before ++ later = main ++ managed)
    (inserted : before ++ x :: later = main ++ y :: managed) : x = y := by
  have counted := congrArg (fun items : List α => (items : Multiset α)) inserted
  have rest : ((before ++ later : List α) : Multiset α) = (main ++ managed : List α) := by rw [same]
  simp only [← Multiset.coe_add, ← Multiset.cons_coe, Multiset.add_cons] at counted rest
  rw [rest] at counted
  exact (Multiset.cons_inj_left _).mp counted

omit [ToLowercase] in
theorem persisted_behaves_iff : d.persisted.BehavesAs d ↔
    d.onStart = .eager ∧ d.refresh = none ∧ d.materialize = none := by
  constructor
  · intro same
    have eager := congrArg (·.onStart) same
    have unscheduled := congrArg (·.refresh) same
    have unmaterialized := congrArg (·.materialize) same
    exact ⟨eager.symm, unscheduled.symm, unmaterialized.symm⟩
  · rintro ⟨eager, unscheduled, unmaterialized⟩
    rw [DatasetConfig.BehavesAs, DatasetConfig.persisted, eager, unscheduled, unmaterialized]

/-- What a restart finds when the file has one more table. -/
theorem Loaded.push {own : Sections} {main managed : List DatasetConfig} {doc doc' : Document}
    {table : Table} {text : String} (path : String)
    (before : Loaded toml sections around disk own main managed)
    (parsed : toml.parse disk.text = some doc) (grown : push "dataset" table doc = some doc')
    (read : DatasetConfig.deserialize table = some d) (parsed' : toml.parse text = some doc') :
    readAppConfig toml sections ⟨path, text, disk.managed⟩ = .ok (own, main ++ [d]) := by
  obtain ⟨doc₀, same, found, listed⟩ := readAppConfig_ok_iff.mp before.file
  obtain rfl := Option.some.inj (parsed.symm.trans same)
  apply readAppConfig_ok_iff.mpr
  refine ⟨doc', parsed', ?_, readDatasets_push grown read listed⟩
  rw [Toml.without_push grown]
  exact found

/-- A dataset that `register` accepts survives a restart as it was, with everything else in the
file, just when `persist_to_source_config` leaves nothing out that matters to it. -/
theorem persisted_survives_iff {δ : Type} {data : δ} {r : Registry δ} {built : Except AppError δ}
    {outcome : AppendOutcome} {path : String}
    (appends : toml.Appends disk.text) (loaded : load toml sections around disk = .ok cfg)
    (accepted : r.mayRegister d built = .ok data)
    (written : d.persistToSourceConfig toml outcome (some disk) = (.ok path, some disk')) :
    (disk.SameSections toml disk' ∧
      ∃ after, load toml sections around disk' = .ok after ∧ cfg.Gains d after) ↔
      d.Persistable toml around disk cfg := by
  obtain ⟨own, main, managed, before, rfl⟩ := load_ok_iff.mp loaded
  obtain ⟨doc, parsed, found, listed⟩ := readAppConfig_ok_iff.mp before.file
  obtain ⟨checked, _⟩ := Fallible.check_bind_ok_iff.mp accepted
  obtain ⟨_, _, block, rendered, appended⟩ := DatasetConfig.persistToSourceConfig_ok_iff.mp written
  obtain rfl := Option.some.inj appended
  have pushes := appends doc d.block block parsed (Fallible.mapError_ok_iff.mp rendered)
  have passed : d.persisted.validateForRegister = .ok () := checked
  have fits (fresh : d.name ∉ (main ++ managed).map (·.name)) :
      (own.config (d.persisted :: (main ++ managed))).Valid around ↔
        d.persisted.Fits around own.storage (main ++ managed) := by
    refine @AppConfig.Valid.cons_iff _ _ (own.config (main ++ managed)) _ _ _ before.valid
      (List.Subset.refl _) (List.subset_cons_self _ _) ?_ passed
    exact List.nodup_cons.mpr ⟨fresh, before.valid.distinct⟩
  have moved : (main ++ [d.persisted] ++ managed).Perm (d.persisted :: (main ++ managed)) := by
    rw [List.append_assoc, List.singleton_append]
    exact List.perm_middle
  constructor
  · rintro ⟨⟨doc₁, doc', same, parsed', _⟩, after, again, gains⟩
    obtain rfl := Option.some.inj (parsed.symm.trans same)
    rw [parsed'] at pushes
    obtain ⟨own', main', managed', now, rfl⟩ := load_ok_iff.mp again
    have file := before.push disk.path parsed pushes.symm d.deserialize_block parsed'
    obtain ⟨rfl, rfl⟩ := Prod.mk.inj (Except.ok.inj (file.symm.trans now.file))
    obtain rfl := Except.ok.inj (before.directory.symm.trans now.directory)
    obtain ⟨first, later, d', whole, inserted, behaves⟩ := gains.datasets
    rw [show (own.config (main ++ [d.persisted] ++ managed)).datasets =
      main ++ d.persisted :: managed from List.append_assoc ..] at inserted
    obtain rfl := eq_of_inserted whole.symm inserted.symm
    obtain ⟨eager, unscheduled, unmaterialized⟩ := persisted_behaves_iff.mp behaves
    have valid := @AppConfig.Valid.perm _ _ (own.config []) _ _ now.valid moved
    have fresh := (List.nodup_cons.mp valid.distinct).1
    refine ⟨?_, eager, unscheduled, unmaterialized, fresh, (fits fresh).mp valid⟩
    intro doc₁ value same isValue
    obtain rfl := Option.some.inj (parsed.symm.trans same)
    rw [Toml.push_eq_none_iff.mpr ⟨value, isValue⟩] at pushes
    cases pushes
  · rintro ⟨extensible, eager, unscheduled, unmaterialized, fresh, fit⟩
    cases grown : push "dataset" d.block doc with
    | none =>
        obtain ⟨value, isValue⟩ := Toml.push_eq_none_iff.mp grown
        exact absurd isValue (extensible doc value parsed)
    | some doc' =>
        rw [grown] at pushes
        have file := before.push disk.path parsed grown d.deserialize_block pushes
        have valid := @AppConfig.Valid.perm _ _ (own.config []) _ _ ((fits fresh).mpr fit) moved.symm
        refine ⟨⟨doc, doc', parsed, pushes, Toml.without_push grown⟩,
          own.config (main ++ [d.persisted] ++ managed), ?_, rfl, rfl, main, managed, d.persisted,
          rfl, List.append_assoc .., persisted_behaves_iff.mpr ⟨eager, unscheduled, unmaterialized⟩⟩
        exact load_ok_iff.mpr ⟨own, _, managed, ⟨file, before.directory, valid⟩, rfl⟩

end

section Runs
attribute [local instance] asciiToLowercase

def ordersText : String :=
  "[[dataset]]\nname = \"orders\"\nsource = \x7b kind = \"parquet\", location = \"data.parquet\" \x7d\n"

def ordersTable : Table := [("name", .string "orders"),
  ("source", .table [("kind", .string "parquet"), ("location", .string "data.parquet")])]

def copiesText : String :=
  "[[dataset]]\nname = \"copies\"\ndict_encode = true\nlazy = false\n\n[dataset.source]\n" ++
    "kind = \"parquet\"\nlocation = \"data.parquet\"\ndepends_on = []\n"

/-- The crate as far as it reads the file of `orders` and writes `copies`. -/
def tomlOrders : TomlCrate where
  parse text :=
    if text = ordersText then some [("dataset", .tables [ordersTable])]
    else if text = ordersText ++ "\n" ++ copiesText then
      some [("dataset", .tables [ordersTable, (file "copies").block])]
    else none
  complaint _ := "expected newline"
  render doc :=
    match doc with
    | [("dataset", .tables [[("name", .string "copies"), ("dict_encode", .boolean true),
        ("lazy", .boolean false), ("source", .table [("kind", .string "parquet"),
          ("location", .string "data.parquet"), ("depends_on", .array [])])]])] => .ok copiesText
    | _ => .error "unsupported value"

def ordersDisk : Disk where
  path := "datasets.toml"
  text := ordersText
  managed _ := ⟨"datasets.d", []⟩

/-- The disk with `copies` appended. -/
def copiesDisk : Disk := { ordersDisk with text := ordersText ++ "\n" ++ copiesText }

def noSections (_ : Document) : Option Sections := some {}

theorem tomlOrders_appended : tomlOrders.parse (ordersText ++ "\n" ++ copiesText) =
    some [("dataset", .tables [ordersTable, (file "copies").block])] := by
  have apart : ordersText ++ "\n" ++ copiesText ≠ ordersText := by decide
  simp only [tomlOrders, if_neg apart, if_true]

theorem tomlOrders_appends : tomlOrders.Appends ordersText := by
  intro doc table block parsed rendered
  simp only [tomlOrders, if_true] at parsed
  cases parsed
  simp only [tomlOrders] at rendered
  split at rendered
  case h_1 same =>
    cases rendered
    cases same
    exact tomlOrders_appended
  case h_2 => cases rendered

theorem loadManagedDir_nil (toml : TomlCrate) (path : String) :
    loadManagedDir toml ⟨path, []⟩ = .ok [] := by
  rw [loadManagedDir, List.filter_nil, List.mergeSort_nil]
  rfl

theorem ordersDisk_loads : load tomlOrders noSections noFiles ordersDisk = .ok orders :=
  have accepted : orders.validate noFiles = .ok () := by rfl
  load_ok_iff.mpr ⟨{}, [file "orders"], [], ⟨rfl, loadManagedDir_nil _ _,
    AppConfig.validate_ok_iff.mp accepted⟩, rfl⟩

/-- The registry of a server that has nothing yet. -/
def vacant : Registry Unit := .start [] ∅ fun _ => .published

theorem persisted_survives_copies : ∃ disk',
    (file "copies").persistToSourceConfig tomlOrders .done (some ordersDisk) =
      (.ok "datasets.toml", some disk') ∧
    ((ordersDisk.SameSections tomlOrders disk' ∧
      ∃ after, load tomlOrders noSections noFiles disk' = .ok after ∧
        orders.Gains (file "copies") after) ↔
      (file "copies").Persistable tomlOrders noFiles ordersDisk orders) :=
  have accepted : vacant.mayRegister (file "copies") (.ok ()) = .ok () := by rfl
  have written : (file "copies").persistToSourceConfig tomlOrders .done (some ordersDisk) =
      (.ok "datasets.toml", some copiesDisk) := by rfl
  ⟨_, written, persisted_survives_iff tomlOrders_appends ordersDisk_loads accepted written⟩

/-- The dataset is built only on request. -/
private def skipped : DatasetConfig := { file "copies" with onStart := .skip }

/-- A dataset that is to be skipped at the start comes back eager. -/
theorem persisted_not_survives : ∃ disk', vacant.mayRegister skipped (.ok ()) = .ok () ∧
    skipped.persistToSourceConfig tomlOrders .done (some ordersDisk) =
      (.ok "datasets.toml", some disk') ∧
    load tomlOrders noSections noFiles ordersDisk = .ok orders ∧
    ¬ ∃ after, load tomlOrders noSections noFiles disk' = .ok after ∧ orders.Gains skipped after := by
  have accepted : vacant.mayRegister skipped (.ok ()) = .ok () := by rfl
  refine ⟨copiesDisk, accepted, rfl, ordersDisk_loads, ?_⟩
  rintro ⟨after, loaded, gains⟩
  obtain ⟨own, main, managed, now, rfl⟩ := load_ok_iff.mp loaded
  have read : readAppConfig tomlOrders noSections copiesDisk =
      .ok ({}, [file "orders", file "copies"]) :=
    readAppConfig_ok_iff.mpr ⟨_, tomlOrders_appended, rfl, rfl⟩
  obtain ⟨rfl, rfl⟩ := Prod.mk.inj (Except.ok.inj (read.symm.trans now.file))
  obtain rfl := Except.ok.inj ((loadManagedDir_nil tomlOrders _).symm.trans now.directory)
  obtain ⟨before, later, d', _, inserted, behaves⟩ := gains.datasets
  have member : d' ∈ [file "orders", file "copies"] := by
    have inside : d' ∈ before ++ d' :: later := List.mem_append_right _ List.mem_cons_self
    rwa [← inserted] at inside
  have eager : d'.onStart = .eager := by
    obtain rfl | rfl := by simpa using member
    · rfl
    · rfl
  have skip : d'.onStart = .skip := congrArg (·.onStart) behaves
  exact nomatch eager.symm.trans skip

end Runs
end Datapress.Config
