import Datapress.Config.Persisted
import Datapress.Separators

/-! The datasets that the explorer registers from its form and appends to the configuration file,
and what a restart makes of the file. -/
namespace Datapress.Config
open Machine (Run)
open Toml (Document push)

/-! ### The form -/

/-- A box that is not ticked is not sent. -/
structure RegisterForm where
  name : String := ""
  kind : String := ""
  location : String := ""
  columns : String := ""
  dictEncode : Option String := none
  lazy : Option String := none
  indexMode : String := ""
  indexColumns : String := ""
  indexMaxCardinality : String := ""
  s3Enabled : Option String := none
  s3Region : String := ""
  s3Endpoint : String := ""
  s3Addressing : String := ""
  s3AllowHttp : Option String := none
  s3AccessKeyId : String := ""
  s3SecretAccessKey : String := ""
  s3SessionToken : String := ""
  s3Partitioning : String := ""

def splitCsv (s : String) : List String := ((split ',' s).map trim).filter (!·.isEmpty)

def nonEmpty (s : String) : Option String :=
  let t := trim s
  if t.isEmpty then none else some t

/-- A choice of the form. An empty one is the default. -/
def choice {α : Type} (what : String) (asStr : α → String) (variants : List α) (default : α)
    (text : String) : Except AppError α :=
  let text := trim text
  if text.isEmpty then .ok default
  else
    ((variants.find? fun v => asStr v = text).map .ok).getD
      (.error (.invalidValue s!"unknown {what} '{text}'"))

namespace RegisterForm

def maxCardinality (f : RegisterForm) : Except AppError Nat :=
  ((nonEmpty f.indexMaxCardinality).map fun mc => ((parseU64 mc).map .ok).getD
    (.error (.invalidValue "index max_cardinality must be a whole number"))).getD (.ok 100000)

def s3 (f : RegisterForm) : Except AppError (Option S3Config) :=
  if f.s3Enabled.isSome then do
    let addressingStyle ←
      choice "S3 addressing style" AddressingStyle.asStr [.path, .virtual] .virtual f.s3Addressing
    let partitioning ←
      choice "S3 partitioning" Partitioning.asStr [.hive, .none, .auto] .auto f.s3Partitioning
    return some {
      region := nonEmpty f.s3Region
      endpoint := nonEmpty f.s3Endpoint
      addressingStyle
      allowHttp := f.s3AllowHttp.isSome
      accessKeyId := nonEmpty f.s3AccessKeyId
      secretAccessKey := nonEmpty f.s3SecretAccessKey
      sessionToken := nonEmpty f.s3SessionToken
      partitioning }
  else .ok none

/-- `build_register_config`. A query is not among the kinds of the form. -/
def buildRegisterConfig (f : RegisterForm) : Except AppError DatasetConfig := do
  let kind ← choice "source kind" SourceKind.asStr [.delta, .parquet] .parquet f.kind
  let location := trim f.location
  if location.isEmpty then .error (.invalidValue "source location must not be empty")
  else do
    let mode ← choice "index mode" IndexMode.asStr [.none, .list, .auto] .auto f.indexMode
    let maxCardinality ← f.maxCardinality
    let s3 ← f.s3
    return {
      name := trim f.name
      source := { kind, location }
      s3
      index := { mode, columns := splitCsv f.indexColumns, maxCardinality }
      columns := splitCsv f.columns
      dictEncode := f.dictEncode.isSome
      lazy := f.lazy.isSome }

end RegisterForm

theorem choice_mem {α : Type} {what text : String} {asStr : α → String} {variants : List α}
    {default v : α} (chosen : choice what asStr variants default text = .ok v)
    (member : default ∈ variants) : v ∈ variants := by
  rw [choice] at chosen
  split at chosen
  · cases chosen
    exact member
  · cases found : variants.find? fun v => asStr v = trim text with
    | none => rw [found] at chosen; cases chosen
    | some w =>
        rw [found] at chosen
        cases chosen
        exact List.mem_of_find?_eq_some found

/-- What the form can say of a dataset is all written to the file. -/
theorem buildRegisterConfig_ok {f : RegisterForm} {d : DatasetConfig}
    (built : f.buildRegisterConfig = .ok d) : d.source.kind ≠ .query ∧ d.persisted = d := by
  obtain ⟨kind, chosen, rest⟩ := Fallible.bind_ok_iff.mp built
  have listed := choice_mem chosen (by decide)
  obtain ⟨_, rest⟩ := Fallible.refuse_ok_iff.mp rest
  obtain ⟨mode, _, rest⟩ := Fallible.bind_ok_iff.mp rest
  obtain ⟨maxCardinality, _, rest⟩ := Fallible.bind_ok_iff.mp rest
  obtain ⟨s3, _, rest⟩ := Fallible.bind_ok_iff.mp rest
  cases rest
  refine ⟨fun isQuery => ?_, rfl⟩
  have named : kind = .query := isQuery
  rw [named] at listed
  exact absurd listed (by decide)

/-! ### The requests -/

/-- The datasets the explorer knows and the file the server was loaded from, if any. -/
structure ExplorerState where
  datasets : List DatasetConfig
  source : Option Disk
  /-- The datasets that were appended to the file, in this order. The server keeps no such list. -/
  appended : List DatasetConfig := []

namespace ExplorerState
variable {δ : Type}

/-- `backend` is what the call finds: the API registers datasets too. -/
def registerDataset (authorized : Except AppError Unit) (form : RegisterForm)
    (backend : Registry δ) (built : Except AppError δ) (s : ExplorerState) :
    Except String ExplorerState := do
  authorized.mapError fun e =>
    let reason := e.display
    s!"Not authorized to register datasets: {reason}. Provide the admin token " ++
      "(or sign in with the required reload scope)."
  let cfg ← form.buildRegisterConfig.mapError AppError.display
  let _ ← (backend.register cfg built).mapError AppError.display
  return { s with datasets := s.datasets ++ [cfg] }

/-- The dataset that a persist request may write. -/
def persistable (authorized : Except AppError Unit) (name : String) (s : ExplorerState) :
    Except String DatasetConfig := do
  authorized.mapError fun e =>
    let reason := e.display
    s!"Not authorized to persist datasets: {reason}."
  if s.source.isNone then .error "This server has no on-disk config file to append to."
  else
    ((s.datasets.find? (·.name = name)).map .ok).getD
      (.error "Unknown or not-yet-registered dataset.")

/-- The answer, and what the request leaves. -/
def persistDataset (toml : TomlCrate) (authorized : Except AppError Unit) (name : String)
    (outcome : AppendOutcome) (s : ExplorerState) : Except String String × ExplorerState :=
  match s.persistable authorized name with
  | .error message => (.error message, s)
  | .ok cfg =>
    match cfg.persistToSourceConfig toml outcome s.source with
    | (.error e, source) =>
      let reason := e.display
      (.error s!"Failed to write config: {reason}", { s with source })
    | (.ok path, source) => (.ok path, { s with source, appended := s.appended ++ [cfg] })

end ExplorerState

inductive ExplorerRequest (δ : Type) where
  | registerDataset (authorized : Except AppError Unit) (form : RegisterForm)
      (backend : Registry δ) (built : Except AppError δ)
  | persistDataset (authorized : Except AppError Unit) (name : String) (outcome : AppendOutcome)

namespace ExplorerState
variable {δ : Type}

/-- A registration that fails changes nothing. -/
def step (toml : TomlCrate) : ExplorerRequest δ → ExplorerState → Option ExplorerState
  | .registerDataset authorized form backend built, s =>
    some ((s.registerDataset authorized form backend built).toOption.getD s)
  | .persistDataset authorized name outcome, s =>
    some (s.persistDataset toml authorized name outcome).2

end ExplorerState

/-! ### The datasets of the form -/

/-- What the explorer adds: the form describes it and `register` has accepted it. -/
structure DatasetConfig.Formed (d : DatasetConfig) : Prop where
  kind : d.source.kind ≠ .query
  written : d.persisted = d
  checked : d.validateForRegister = .ok ()

section
variable {δ : Type} {toml : TomlCrate} {s t : ExplorerState} {request : ExplorerRequest δ}

/-- The request is no write that fails half way. -/
def ExplorerRequest.Whole (request : ExplorerRequest δ) : Prop :=
  ∀ authorized name left reason, request ≠ .persistDataset authorized name (.unwritten left reason)

/-- A dataset that is persisted is one that the explorer knows. -/
theorem ExplorerState.persistable_ok {authorized : Except AppError Unit} {name : String}
    {d : DatasetConfig} (chosen : s.persistable authorized name = .ok d) :
    d ∈ s.datasets ∧ ∃ disk, s.source = some disk := by
  obtain ⟨_, rest⟩ := Fallible.check_bind_ok_iff.mp chosen
  obtain ⟨sourced, known⟩ := Fallible.refuse_ok_iff.mp rest
  refine ⟨?_, Option.ne_none_iff_exists'.mp (mt Option.isNone_iff_eq_none.mpr sourced)⟩
  cases found : s.datasets.find? (·.name = name) with
  | none => rw [found] at known; cases known
  | some other =>
      rw [found] at known
      cases known
      exact List.mem_of_find?_eq_some found

/-- What a request changes. -/
theorem ExplorerState.step_cases (whole : request.Whole) (stepped : step toml request s = some t) :
    t = s ∨ (∃ d : DatasetConfig, d.Formed ∧ t = { s with datasets := s.datasets ++ [d] }) ∨
      ∃ d disk disk' outcome path, d ∈ s.datasets ∧ s.source = some disk ∧
        d.persistToSourceConfig toml outcome (some disk) = (.ok path, some disk') ∧
        t = { s with source := some disk', appended := s.appended ++ [d] } := by
  cases request with
  | registerDataset authorized form backend built =>
      obtain rfl := Option.some.inj stepped
      cases answered : s.registerDataset authorized form backend built with
      | error e => exact .inl rfl
      | ok u =>
          obtain ⟨_, rest⟩ := Fallible.check_bind_ok_iff.mp answered
          obtain ⟨d, made, rest⟩ := Fallible.bind_ok_iff.mp rest
          obtain ⟨registry, registered, rest⟩ := Fallible.bind_ok_iff.mp rest
          cases rest
          obtain ⟨kind, written⟩ := buildRegisterConfig_ok (Fallible.mapError_ok_iff.mp made)
          obtain ⟨_, accepted, _⟩ :=
            Fallible.map_ok_iff.mp (Fallible.mapError_ok_iff.mp registered)
          have checked := (Fallible.check_bind_ok_iff.mp accepted).1
          exact .inr (.inl ⟨d, ⟨kind, written, checked⟩, rfl⟩)
  | persistDataset authorized name outcome =>
      obtain rfl := Option.some.inj stepped
      rw [persistDataset]
      cases chosen : s.persistable authorized name with
      | error message => exact .inl rfl
      | ok d =>
          obtain ⟨listed, disk, source⟩ := persistable_ok chosen
          have begun (left reason) : outcome ≠ .unwritten left reason := by
            rintro rfl
            exact whole authorized name left reason rfl
          dsimp only
          generalize written : d.persistToSourceConfig toml outcome s.source = result
          obtain ⟨answer, after⟩ := result
          cases answer with
          | error e =>
              have same : after = s.source := by
                rw [source] at written ⊢
                exact DatasetConfig.persistToSourceConfig_error begun written
              subst same
              exact .inl rfl
          | ok path =>
              rw [source] at written
              obtain ⟨_, _, block, _, rfl⟩ :=
                DatasetConfig.persistToSourceConfig_ok_iff.mp written
              exact .inr (.inr ⟨d, disk, _, outcome, path, listed, source, written, rfl⟩)

end

section
variable [ToLowercase] {around : Surroundings} {cfg : AppConfig} {all : List DatasetConfig}

/-- Nothing of the form refers to another dataset: what is left to check is the location. -/
theorem DatasetConfig.Formed.fits {d : DatasetConfig} (formed : d.Formed)
    {storage : Option StorageConfig} (located : d.checkLocation around = .ok ())
    (fresh : d.name ∉ all.map (·.name)) : d.Fits around storage all where
  location := located
  refresh := by
    have unscheduled : d.refresh = none := (congrArg (·.refresh) formed.written).symm
    simp only [DatasetConfig.refreshView, Refresh.DatasetConfig.checkRefresh, unscheduled]
  materialize := by
    have unmaterialized : d.materialize = none := (congrArg (·.materialize) formed.written).symm
    simp only [DatasetConfig.checkMaterialize, unmaterialized]
  query isQuery := absurd isQuery formed.kind
  acyclic cycle := by
    obtain ⟨u, _, config, member, named, listed, _⟩ := Relation.TransGen.tail'_iff.mp cycle
    obtain rfl | other := List.mem_cons.mp member
    · have independent : config.node.2 = [] := if_neg formed.kind
      rw [independent] at listed
      cases listed
    · exact fresh (named ▸ List.mem_map_of_mem other)

/-- Datasets of the form keep a configuration valid when their names are new and their files
are there. -/
theorem AppConfig.Valid.formed_iff (valid : (cfg.withDatasets all).Valid around)
    {added : List DatasetConfig} (formed : ∀ d ∈ added, d.Formed) :
    (cfg.withDatasets (added ++ all)).Valid around ↔
      ((added ++ all).map (·.name)).Nodup ∧ ∀ d ∈ added, d.checkLocation around = .ok () := by
  constructor
  · intro after
    exact ⟨after.distinct, fun d member => (after.each d (List.mem_append_left _ member)).location⟩
  · rintro ⟨distinct, located⟩
    induction added with
    | nil => exact valid
    | cons d rest ih =>
      have apart := List.nodup_cons.mp distinct
      obtain ⟨first, others⟩ := List.forall_mem_cons.mp formed
      obtain ⟨here, elsewhere⟩ := List.forall_mem_cons.mp located
      have before := ih others apart.2 elsewhere
      refine (before.cons_iff (List.Subset.refl _) (List.subset_cons_self _ _) distinct
        first.checked).mpr ?_
      exact first.fits here apart.1

end

/-! ### The file -/

/-- The datasets of the file are not a value. -/
def Disk.Extensible (toml : TomlCrate) (disk : Disk) : Prop :=
  ∀ doc value, toml.parse disk.text = some doc → doc.lookup "dataset" ≠ some (.value value)

section
variable {toml : TomlCrate} {sections : Document → Option Sections} {disk disk' : Disk}
  {own : Sections} {main : List DatasetConfig} {d : DatasetConfig} {outcome : AppendOutcome}
  {path : String}

/-- An appended dataset is read after the others. -/
theorem persistToSourceConfig_reads (appends : toml.Appends disk.text)
    (extensible : disk.Extensible toml) (file : readAppConfig toml sections disk = .ok (own, main))
    (written : d.persistToSourceConfig toml outcome (some disk) = (.ok path, some disk')) :
    disk'.managed = disk.managed ∧ disk'.Extensible toml ∧
      readAppConfig toml sections disk' = .ok (own, main ++ [d.persisted]) := by
  obtain ⟨doc, parsed, found, listed⟩ := readAppConfig_ok_iff.mp file
  obtain ⟨_, _, block, rendered, grown⟩ := DatasetConfig.persistToSourceConfig_ok_iff.mp written
  obtain rfl := Option.some.inj grown
  have pushes := appends doc d.block block parsed (Fallible.mapError_ok_iff.mp rendered)
  cases grown : push "dataset" d.block doc with
  | none =>
    obtain ⟨value, isValue⟩ := Toml.push_eq_none_iff.mp grown
    exact absurd isValue (extensible doc value parsed)
  | some doc' =>
    rw [grown] at pushes
    obtain ⟨tables, now, _⟩ := Toml.lookup_push grown
    refine ⟨rfl, fun doc₁ value again isValue => ?_, readAppConfig_ok_iff.mpr ⟨doc', pushes, ?_,
      readDatasets_push grown d.deserialize_block listed⟩⟩
    · obtain rfl := Option.some.inj (pushes.symm.trans again)
      cases now.symm.trans isValue
    · rw [Toml.without_push grown]
      exact found

/-- A file and its managed directory load when all their datasets are valid together. -/
theorem load_read_iff [ToLowercase] {around : Surroundings} {managed : List DatasetConfig}
    {after : AppConfig} (file : readAppConfig toml sections disk = .ok (own, main))
    (directory : loadManagedDir toml (disk.managed own.savedQueriesDir) = .ok managed) :
    load toml sections around disk = .ok after ↔
      (own.config (main ++ managed)).Valid around ∧ after = own.config (main ++ managed) := by
  rw [load_ok_iff]
  constructor
  · rintro ⟨own', main', managed', loaded, rfl⟩
    obtain ⟨rfl, rfl⟩ := Prod.mk.inj (Except.ok.inj (file.symm.trans loaded.file))
    obtain rfl := Except.ok.inj (directory.symm.trans loaded.directory)
    exact ⟨loaded.valid, rfl⟩
  · rintro ⟨valid, rfl⟩
    exact ⟨own, main, managed, ⟨file, directory, valid⟩, rfl⟩

end

/-! ### Along a run -/

namespace ExplorerState
variable {toml : TomlCrate} {sections : Document → Option Sections} {own : Sections}
  {main : List DatasetConfig} {disk : Disk} {cfg : AppConfig} {s t : ExplorerState} {δ : Type}

/-- The explorer of a server that was loaded from the file. -/
def start (cfg : AppConfig) (disk : Disk) : ExplorerState where
  datasets := cfg.datasets
  source := some disk

/-- The file takes a further table at its end, and no write of one fails half way. -/
structure Appendable (toml : TomlCrate) (s : ExplorerState) (request : ExplorerRequest δ) :
    Prop where
  appends : ∀ disk, s.source = some disk → toml.Appends disk.text
  whole : request.Whole

/-- What the file has gained, and where it comes from. -/
structure Kept (toml : TomlCrate) (sections : Document → Option Sections) (own : Sections)
    (main : List DatasetConfig) (disk : Disk) (cfg : AppConfig) (s : ExplorerState) : Prop where
  known : ∀ d ∈ s.datasets, d ∈ cfg.datasets ∨ d.Formed
  appended : ∀ d ∈ s.appended, d ∈ s.datasets
  file : ∃ disk', s.source = some disk' ∧ disk'.managed = disk.managed ∧ disk'.Extensible toml ∧
    readAppConfig toml sections disk' = .ok (own, main ++ s.appended.map (·.persisted))

theorem Kept.step {request : ExplorerRequest δ} (kept : s.Kept toml sections own main disk cfg)
    (appendable : s.Appendable toml request) (stepped : step toml request s = some t) :
    t.Kept toml sections own main disk cfg := by
  obtain ⟨known, appended, before, source, managed, extensible, file⟩ := kept
  obtain rfl | ⟨d, formed, rfl⟩ | ⟨d, now, after, _, _, listed, found, written, rfl⟩ :=
    step_cases appendable.whole stepped
  · exact ⟨known, appended, before, source, managed, extensible, file⟩
  · have inside (other : DatasetConfig) (member : other ∈ s.appended) :=
      List.mem_append_left [d] (appended other member)
    refine ⟨?_, inside, before, source, managed, extensible, file⟩
    exact List.forall_mem_append.mpr ⟨known, List.forall_mem_singleton.mpr (.inr formed)⟩
  · obtain rfl := Option.some.inj (source.symm.trans found)
    obtain ⟨same, extensible', read⟩ :=
      persistToSourceConfig_reads (appendable.appends before source) extensible file written
    refine ⟨known, ?_, after, rfl, same.trans managed, extensible', ?_⟩
    · exact List.forall_mem_append.mpr ⟨appended, List.forall_mem_singleton.mpr listed⟩
    · rw [List.map_append, ← List.append_assoc]
      exact read

/-- A dataset that the file did not have is one of the form. -/
theorem Kept.formed (kept : s.Kept toml sections own main disk cfg)
    (distinct : ((cfg.datasets ++ s.appended).map (·.name)).Nodup) : ∀ d ∈ s.appended, d.Formed := by
  intro d member
  obtain old | formed := kept.known d (kept.appended d member)
  · rw [List.map_append] at distinct
    have apart := List.disjoint_of_nodup_append distinct
    exact absurd (List.mem_map_of_mem member) (apart (List.mem_map_of_mem old))
  · exact formed

/-- Nothing of such datasets is lost in the file. -/
theorem Kept.written (kept : s.Kept toml sections own main disk cfg)
    (distinct : ((cfg.datasets ++ s.appended).map (·.name)).Nodup) :
    s.appended.map (·.persisted) = s.appended :=
  (List.map_congr_left fun d member => (kept.formed distinct d member).written).trans (List.map_id _)

/-- The file that the explorer leaves behind loads just when no name stands in it twice and the
files of the appended datasets are there. It then holds the datasets it held, and those. -/
theorem restarts_iff [ToLowercase] {around : Surroundings} {requests : List (ExplorerRequest δ)}
    (loaded : load toml sections around disk = .ok cfg) (extensible : disk.Extensible toml)
    (run : Run (ExplorerState.step toml) (Appendable toml) (start cfg disk) requests s) :
    ∃ disk', s.source = some disk' ∧
      ((∃ after, load toml sections around disk' = .ok after) ↔
        ((cfg.datasets ++ s.appended).map (·.name)).Nodup ∧
          ∀ d ∈ s.appended, d.checkLocation around = .ok ()) ∧
      ∀ after, load toml sections around disk' = .ok after → ∃ before later,
        cfg.datasets = before ++ later ∧
          after = cfg.withDatasets (before ++ s.appended ++ later) := by
  obtain ⟨own, main, managed, ⟨file, directory, valid⟩, rfl⟩ := load_ok_iff.mp loaded
  have begun : (start (own.config (main ++ managed)) disk).Kept toml sections own main disk
      (own.config (main ++ managed)) :=
    ⟨fun _ => .inl, List.nil_subset _, disk, rfl, rfl, extensible, by
      simpa only [start, List.map_nil, List.append_nil] using file⟩
  have kept := run.keeps begun fun kept appendable stepped => kept.step appendable stepped
  obtain ⟨disk', source, same, _, read⟩ := kept.file
  rw [← same] at directory
  have loads {after : AppConfig} : load toml sections around disk' = .ok after ↔
      (own.config (main ++ s.appended.map (·.persisted) ++ managed)).Valid around ∧
        after = own.config (main ++ s.appended.map (·.persisted) ++ managed) :=
    load_read_iff read directory
  have moved {added : List DatasetConfig} : (main ++ added ++ managed).Perm
      (added ++ (main ++ managed)) := by
    rw [← List.append_assoc]
    exact List.perm_append_comm.append_right _
  have named : ((s.appended.map (·.persisted) ++ (main ++ managed)).map (·.name)).Perm
      ((main ++ managed ++ s.appended).map (·.name)) := by
    have same : (s.appended.map (·.persisted)).map (·.name) = s.appended.map (·.name) := List.map_map
    rw [List.map_append, same, ← List.map_append]
    exact List.perm_append_comm.map _
  have distinct (valid : (own.config (main ++ s.appended.map (·.persisted) ++ managed)).Valid around) :
      ((main ++ managed ++ s.appended).map (·.name)).Nodup :=
    named.nodup_iff.mp (@AppConfig.Valid.perm _ _ (own.config []) _ _ valid moved).distinct
  refine ⟨disk', source, ⟨?_, ?_⟩, ?_⟩
  · rintro ⟨after, again⟩
    obtain ⟨now, _⟩ := loads.mp again
    have apart := distinct now
    rw [kept.written apart] at now
    refine ⟨apart, fun d member => (now.each d ?_).location⟩
    exact List.mem_append_left _ (List.mem_append_right _ member)
  · rintro ⟨apart, located⟩
    refine ⟨_, loads.mpr ⟨?_, rfl⟩⟩
    have every : (own.config (s.appended ++ (main ++ managed))).Valid around := by
      refine (@AppConfig.Valid.formed_iff _ _ (own.config []) _ valid _ (kept.formed apart)).mpr
        ⟨?_, located⟩
      rw [← kept.written apart]
      exact named.nodup_iff.mpr apart
    rw [kept.written apart]
    exact @AppConfig.Valid.perm _ _ (own.config []) _ _ every moved.symm
  · intro after again
    obtain ⟨now, rfl⟩ := loads.mp again
    refine ⟨main, managed, rfl, ?_⟩
    rw [kept.written (distinct now)]
    rfl

end ExplorerState

section Runs
attribute [local instance] asciiToLowercase

/-- `copies` as it is typed into the form. -/
def copiesForm : RegisterForm where
  name := " copies"
  location := "data.parquet"
  dictEncode := some "on"

/-- `copies` is registered and then persisted. -/
def copying : List (ExplorerRequest Unit) :=
  [.registerDataset (.ok ()) copiesForm vacant (.ok ()),
    .persistDataset (.ok ()) "copies" (.unopened "Permission denied (os error 13)"),
    .persistDataset (.ok ()) "copies" .done]

theorem ExplorerState.restarts_copies : ∃ s,
    Run (ExplorerState.step tomlOrders) (Appendable tomlOrders) (start orders ordersDisk) copying s ∧
    s.appended = [file "copies"] ∧ ∃ disk', s.source = some disk' ∧
      ((∃ after, load tomlOrders noSections noFiles disk' = .ok after) ↔
        ((orders.datasets ++ s.appended).map (·.name)).Nodup ∧
          ∀ d ∈ s.appended, d.checkLocation noFiles = .ok ()) ∧
      ∀ after, load tomlOrders noSections noFiles disk' = .ok after → ∃ before later,
        orders.datasets = before ++ later ∧
          after = orders.withDatasets (before ++ s.appended ++ later) := by
  have appends {s : ExplorerState} {request : ExplorerRequest Unit}
      (source : s.source = some ordersDisk) (whole : request.Whole) :
      s.Appendable tomlOrders request := by
    refine ⟨fun disk found => ?_, whole⟩
    obtain rfl := Option.some.inj (source.symm.trans found)
    exact tomlOrders_appends
  have registered : ExplorerState.step tomlOrders
      (.registerDataset (.ok ()) copiesForm vacant (.ok ()) : ExplorerRequest Unit)
      (start orders ordersDisk) =
      some ⟨[file "orders", file "copies"], some ordersDisk, []⟩ := by rfl
  have refused : ExplorerState.step tomlOrders
      (.persistDataset (.ok ()) "copies" (.unopened "Permission denied (os error 13)") :
        ExplorerRequest Unit)
      ⟨[file "orders", file "copies"], some ordersDisk, []⟩ =
      some ⟨[file "orders", file "copies"], some ordersDisk, []⟩ := by rfl
  have persisted : ExplorerState.step tomlOrders
      (.persistDataset (.ok ()) "copies" .done : ExplorerRequest Unit)
      ⟨[file "orders", file "copies"], some ordersDisk, []⟩ =
      some ⟨[file "orders", file "copies"], some copiesDisk, [file "copies"]⟩ := by rfl
  have run : Run (ExplorerState.step tomlOrders) (Appendable tomlOrders) (start orders ordersDisk)
      copying ⟨[file "orders", file "copies"], some copiesDisk, [file "copies"]⟩ :=
    .snoc (.snoc (.snoc (.nil _) (appends rfl (by rintro _ _ _ _ ⟨⟩)) registered)
      (appends rfl (by rintro _ _ _ _ ⟨⟩)) refused) (appends rfl (by rintro _ _ _ _ ⟨⟩)) persisted
  refine ⟨_, run, rfl, restarts_iff ordersDisk_loads ?_ run⟩
  intro doc value parsed
  simp only [tomlOrders, ordersDisk, if_true, Option.some.injEq] at parsed
  subst parsed
  rintro ⟨⟩

end Runs
end Datapress.Config
