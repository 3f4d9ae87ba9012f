import Datapress.Config.Persistence
import Datapress.Config.Validity

/-! The configuration as it is read from the disk, and the datasets that are appended to its
file. -/
namespace Datapress.Config
open Toml (Document Table push without)

/-- The `toml` crate. -/
structure TomlCrate where
  parse : String → Option Document
  /-- What it says of a text that does not have the expected form. -/
  complaint : String → String
  render : Document → Except String String

/-- The text of a document with a further `[[dataset]]` at its end is read as the document with
that table, unless the datasets are a value, which no header extends. -/
def TomlCrate.Appends (toml : TomlCrate) (text : String) : Prop :=
  ∀ doc table block, toml.parse text = some doc →
    toml.render [("dataset", .tables [table])] = .ok block →
    toml.parse (text ++ "\n" ++ block) = push "dataset" table doc

/-- What a file says beside the datasets. -/
structure Sections where
  storage : Option StorageConfig := none
  savedQueriesDir : Option String := none
  others : Except AppError Unit := .ok ()

def Sections.config (own : Sections) (datasets : List DatasetConfig) : AppConfig where
  storage := own.storage
  datasets := datasets
  others := own.others

/-- The entries of a directory with their texts. -/
structure ManagedDir where
  path : String
  files : List (String × String)

/-- The configuration file, and the managed directory that its setting names. -/
structure Disk where
  path : String
  text : String
  managed : Option String → ManagedDir

/-! ### Writing -/

/-- How appending to a file ends. A write that fails may have left a beginning of its text. -/
inductive AppendOutcome where
  | done
  | unopened (reason : String)
  | unwritten (left : Nat) (reason : String)

namespace DatasetConfig

def toTomlBlock (toml : TomlCrate) (d : DatasetConfig) : Except AppError String :=
  (toml.render [("dataset", .tables [d.block])]).mapError fun e =>
    .internal s!"failed to render dataset TOML: {e}"

def toManagedToml (toml : TomlCrate) (d : DatasetConfig) : Except AppError String :=
  (toml.render [("dataset", .tables [d.managedBlock])]).mapError fun e =>
    .internal s!"failed to render managed dataset TOML: {e}"

/-- The path that is answered, and the disk after it. `source` is the file the process was loaded
from, if any. -/
def persistToSourceConfig (toml : TomlCrate) (outcome : AppendOutcome) (source : Option Disk)
    (d : DatasetConfig) : Except AppError String × Option Disk :=
  match source with
  | none => (.error (.invalidValue "server has no on-disk config file to append to"), none)
  | some disk =>
    match d.toTomlBlock toml with
    | .error e => (.error e, some disk)
    | .ok block =>
      match outcome with
      | .unopened reason =>
        (.error (.internal s!"failed to open config {disk.path}: {reason}"), some disk)
      | .unwritten left reason =>
        (.error (.internal s!"failed to write config {disk.path}: {reason}"),
          some { disk with text := disk.text ++ (("\n" ++ block).take left).toString })
      | .done => (.ok disk.path, some { disk with text := disk.text ++ "\n" ++ block })

/-- A dataset that is written stands at the end of the file. -/
theorem persistToSourceConfig_ok_iff {toml : TomlCrate} {outcome : AppendOutcome} {disk : Disk}
    {d : DatasetConfig} {path : String} {after : Option Disk} :
    d.persistToSourceConfig toml outcome (some disk) = (.ok path, after) ↔
      outcome = .done ∧ path = disk.path ∧ ∃ block, d.toTomlBlock toml = .ok block ∧
        after = some { disk with text := disk.text ++ "\n" ++ block } := by
  unfold persistToSourceConfig
  cases d.toTomlBlock toml with
  | error e => simp
  | ok block =>
      cases outcome with
      | done =>
          simp only [Prod.mk.injEq, Except.ok.injEq, true_and, exists_eq_left']
          exact and_congr eq_comm eq_comm
      | unopened reason => simp
      | unwritten left reason => simp

/-- Of the failures only that of the write itself leaves something behind. -/
theorem persistToSourceConfig_error {toml : TomlCrate} {outcome : AppendOutcome} {disk : Disk}
    {d : DatasetConfig} {e : AppError} {after : Option Disk}
    (begun : ∀ left reason, outcome ≠ .unwritten left reason)
    (failed : d.persistToSourceConfig toml outcome (some disk) = (.error e, after)) :
    after = some disk := by
  unfold persistToSourceConfig at failed
  cases rendered : d.toTomlBlock toml with
  | error e =>
      rw [rendered] at failed
      exact (Prod.mk.inj failed).2.symm
  | ok block =>
      rw [rendered] at failed
      cases outcome with
      | done => cases (Prod.mk.inj failed).1
      | unopened reason => exact (Prod.mk.inj failed).2.symm
      | unwritten left reason => exact absurd rfl (begun left reason)

end DatasetConfig

/-! ### Reading -/

def readDatasets (doc : Document) : Option (List DatasetConfig) :=
  match doc.lookup "dataset" with
  | none => some []
  | some (.tables tables) => tables.mapM DatasetConfig.deserialize
  | some (.value value) => Toml.readArray (Toml.readTable DatasetConfig.deserialize) value

/-- `toml::from_str` of the configuration file. -/
def readAppConfig (toml : TomlCrate) (sections : Document → Option Sections) (disk : Disk) :
    Except AppError (Sections × List DatasetConfig) :=
  let parsed := do
    let doc ← toml.parse disk.text
    let own ← sections (without "dataset" doc)
    let datasets ← readDatasets doc
    return (own, datasets)
  match parsed with
  | some read => .ok read
  | none =>
    let reason := toml.complaint disk.text
    .error (.internal s!"invalid {disk.path}: {reason}")

/-- A file of which the name is all extension has none. -/
def hasTomlExtension (file : String) : Bool :=
  ".toml".toList.isSuffixOf file.toList && file ≠ ".toml"

/-- A file of the managed directory. The datasets in it are managed, whatever it says. -/
def loadManagedFile (toml : TomlCrate) (path : String) (file : String × String) :
    Except AppError DatasetConfig :=
  match (toml.parse file.2).bind readDatasets with
  | none =>
    let reason := toml.complaint file.2
    .error (.internal s!"invalid {path}/{file.1}: {reason}")
  | some [d] => .ok { d with managed := true }
  | some datasets =>
    let count := datasets.length
    .error (.internal s!"{path}/{file.1}: expected exactly one [[dataset]] entry, got {count}")

def loadManagedDir (toml : TomlCrate) (dir : ManagedDir) : Except AppError (List DatasetConfig) :=
  ((dir.files.filter fun file => hasTomlExtension file.1).mergeSort fun a b => a.1 ≤ b.1).mapM
    (loadManagedFile toml dir.path)

variable [ToLowercase]

/-- `AppConfig::load` -/
def load (toml : TomlCrate) (sections : Document → Option Sections) (around : Surroundings)
    (disk : Disk) : Except AppError AppConfig := do
  let (own, datasets) ← readAppConfig toml sections disk
  let managed ← loadManagedDir toml (disk.managed own.savedQueriesDir)
  match managed.find? fun md => (datasets.map (·.name)).contains md.name with
  | some md => .error (.internal
      s!"name collision between datasets.toml and datasets.d/: '{md.name}'")
  | none =>
    let cfg := own.config (datasets ++ managed)
    cfg.validate around
    .ok cfg

variable {toml : TomlCrate} {sections : Document → Option Sections} {around : Surroundings}
  {disk : Disk} {cfg : AppConfig} {own : Sections} {main managed : List DatasetConfig}

omit [ToLowercase] in
theorem readAppConfig_ok_iff : readAppConfig toml sections disk = .ok (own, main) ↔
    ∃ doc, toml.parse disk.text = some doc ∧ sections (without "dataset" doc) = some own ∧
      readDatasets doc = some main := by
  rw [readAppConfig]
  constructor
  · intro read
    split at read
    case h_1 result parsed =>
      cases read
      obtain ⟨doc, text, rest⟩ := Option.bind_eq_some_iff.mp parsed
      obtain ⟨own', found, rest⟩ := Option.bind_eq_some_iff.mp rest
      obtain ⟨datasets, listed, same⟩ := Option.bind_eq_some_iff.mp rest
      cases same
      exact ⟨doc, text, found, listed⟩
    case h_2 => cases read
  · rintro ⟨doc, text, found, listed⟩
    simp only [text, found, listed, Option.bind_eq_bind, Option.bind_some, Option.pure_def]

/-- What a load has found on the disk. -/
structure Loaded (toml : TomlCrate) (sections : Document → Option Sections)
    (around : Surroundings) (disk : Disk) (own : Sections) (main managed : List DatasetConfig) :
    Prop where
  file : readAppConfig toml sections disk = .ok (own, main)
  directory : loadManagedDir toml (disk.managed own.savedQueriesDir) = .ok managed
  valid : (own.config (main ++ managed)).Valid around

theorem load_ok_iff : load toml sections around disk = .ok cfg ↔
    ∃ own main managed, Loaded toml sections around disk own main managed ∧
      cfg = own.config (main ++ managed) := by
  rw [load]
  constructor
  · intro loaded
    obtain ⟨⟨own, main⟩, file, rest⟩ := Fallible.bind_ok_iff.mp loaded
    obtain ⟨managed, directory, rest⟩ := Fallible.bind_ok_iff.mp rest
    split at rest
    case h_1 => cases rest
    case h_2 =>
      obtain ⟨accepted, rest⟩ := Fallible.check_bind_ok_iff.mp rest
      cases rest
      exact ⟨own, main, managed, ⟨file, directory, AppConfig.validate_ok_iff.mp accepted⟩, rfl⟩
  · rintro ⟨own, main, managed, ⟨file, directory, valid⟩, rfl⟩
    have apart : managed.find? (fun md => (main.map (·.name)).contains md.name) = none := by
      have distinct : ((main ++ managed).map (·.name)).Nodup := valid.distinct
      rw [List.map_append, List.nodup_append] at distinct
      rw [List.find?_eq_none]
      intro md member again
      have named : md.name ∈ main.map (·.name) := by simpa using again
      exact distinct.2.2 _ named _ (List.mem_map_of_mem member) rfl
    have accepted := AppConfig.validate_ok_iff.mpr valid
    simp only [file, directory, Fallible.ok_bind, apart, accepted]

end Datapress.Config
