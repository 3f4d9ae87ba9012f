import Datapress.Config.SavedQueriesSteps

/-! One request of `create_query` from its start to its answer, and what an error leaves behind. -/
namespace Datapress.Config
open Refresh (Refusal SavedQueriesSettings)

/-- The registry, and the files of the managed directory. No file says that a dataset is
temporary. -/
structure Site (δ : Type) where
  registry : Registry δ
  files : AList fun _ : String => ManagedFile
  kept : ∀ name config, files.lookup name = some (.describes config) → config.temp = false

/-- The two kinds of success. -/
inductive Created where
  /-- 200: the dataset is registered. -/
  | registered (config : DatasetConfig)
  /-- 202: the registration runs in the background. -/
  | accepted (config : DatasetConfig)

/-- What a write leaves in the file. -/
def WriteOutcome.leaves (config : DatasetConfig) : WriteOutcome → Option ManagedFile
  | .done => some (.describes config)
  | .refused => none
  | .torn => some .torn

namespace Site
variable {δ : Type}

/-- The files after `persist_to_managed_dir`. -/
def write (config : DatasetConfig) (kept : config.temp = false) (outcome : WriteOutcome)
    (site : Site δ) : Site δ where
  registry := site.registry
  files := match outcome.leaves config with
    | some file => site.files.insert config.name file
    | none => site.files
  kept name other found := by
    cases outcome with
    | refused => exact site.kept name other found
    | done =>
        by_cases same : name = config.name
        · subst same
          cases (AList.lookup_insert _).symm.trans found
          exact kept
        · exact site.kept name other ((AList.lookup_insert_ne same).symm.trans found)
    | torn =>
        by_cases same : name = config.name
        · subst same
          cases (AList.lookup_insert _).symm.trans found
        · exact site.kept name other ((AList.lookup_insert_ne same).symm.trans found)

/-- `failure` is what the file system or the TOML writer says. -/
def persistToManagedDir (config : DatasetConfig) (kept : config.temp = false)
    (outcome : WriteOutcome) (failure : String) (site : Site δ) : Except AppError Unit × Site δ :=
  (if outcome = .done then .ok () else .error (.internal failure), site.write config kept outcome)

/-- `register`. It does not touch the files. -/
def register (config : DatasetConfig) (built : Except AppError δ) (site : Site δ) :
    Except AppError Unit × Site δ :=
  match site.registry.register config built with
  | .ok registry => (.ok (), { site with registry })
  | .error e => (.error e, site)

/-- What comes after the file. -/
def finish (config : DatasetConfig) (asyncMode : Bool) (built : Except AppError δ)
    (site : Site δ) : Except Refusal Created × Site δ :=
  if asyncMode then (.ok (.accepted config), site)
  else
    match site.register config built with
    | (.ok (), site) => (.ok (.registered config), site)
    | (.error e, site) => (.error (.error e), site)

/-- The same registry, and the same files with the same content. -/
def Same (site other : Site δ) : Prop :=
  site.registry = other.registry ∧ ∀ name, site.files.lookup name = other.files.lookup name

variable [ToLowercase]

def createQuery (parse : Sql.Parser) (settings : SavedQueriesSettings)
    (authorized : Except AppError Unit) (request : CreateQueryRequest) (asyncMode : Bool)
    (outcome : WriteOutcome) (failure : String) (built : Except AppError δ) (site : Site δ) :
    Except Refusal Created × Site δ :=
  match site.registry.prepareQuery parse settings authorized request with
  | .error e => (.error e, site)
  | .ok config =>
    if temp : config.temp = false then
      match site.persistToManagedDir config temp outcome failure with
      | (.error e, site) => (.error (.error e), site)
      | (.ok (), site) => site.finish config asyncMode built
    else site.finish config asyncMode built

/-- An error leaves everything as it was, and when the registration in the background fails, on
what the registry is by `later`, no file is left that describes the dataset. -/
def Atomic (site : Site δ) (later : Registry δ) (built : Except AppError δ)
    (outcome : Except Refusal Created × Site δ) : Prop :=
  (∀ e, outcome.1 = .error e → outcome.2.Same site) ∧
    ∀ config e, outcome.1 = .ok (.accepted config) → later.register config built = .error e →
      outcome.2.files.lookup config.name ≠ some (.describes config)

/-- What is written stays right: the registration that follows succeeds, or the file held just
that before. -/
def Covered (site : Site δ) (later : Registry δ) (config : DatasetConfig) (asyncMode : Bool)
    (outcome : WriteOutcome) (built : Except AppError δ) : Prop :=
  match outcome with
  | .refused => True
  | .torn => site.files.lookup config.name = some .torn
  | .done =>
    if asyncMode then (later.register config built).isOk = true
    else built.isOk = true ∨ site.files.lookup config.name = some (.describes config)

omit [ToLowercase] in
theorem Same.refl (site : Site δ) : site.Same site := ⟨rfl, fun _ => rfl⟩

section
variable {site : Site δ} {config : DatasetConfig} {outcome : WriteOutcome} {file : ManagedFile}

omit [ToLowercase] in
theorem lookup_write (kept : config.temp = false) (leaves : outcome.leaves config = some file) :
    (site.write config kept outcome).files.lookup config.name = some file := by
  simp only [write, leaves]
  exact AList.lookup_insert _

omit [ToLowercase] in
theorem write_same_iff (kept : config.temp = false) (leaves : outcome.leaves config = some file) :
    (site.write config kept outcome).Same site ↔ site.files.lookup config.name = some file := by
  constructor
  · rintro ⟨_, same⟩
    rw [← same, lookup_write kept leaves]
  · intro before
    refine ⟨rfl, fun name => ?_⟩
    by_cases same : name = config.name
    · rw [same, lookup_write kept leaves, before]
    · simp only [write, leaves]
      exact AList.lookup_insert_ne same

omit [ToLowercase] in
/-- A registration that has passed the checks before ends as its build does. -/
theorem finish_waits {built : Except AppError δ} (checked : config.validateForRegister = .ok ())
    (fresh : config.name ∉ site.registry.datasets) :
    site.finish config false built = match built with
      | .ok data => (.ok (.registered config),
          { site with registry := site.registry.put config data })
      | .error e => (.error (.error e), site) := by
  have ends : site.registry.register config built = site.registry.put config <$> built := by
    rw [Registry.register, Registry.mayRegister_of_fresh checked fresh]
  simp only [finish, register, ends]
  cases built <;> rfl

variable {later : Registry δ} {built : Except AppError δ}

omit [ToLowercase] in
theorem atomic_error_iff {e : Refusal} {after : Site δ} :
    site.Atomic later built (.error e, after) ↔ after.Same site := by
  constructor
  · intro atomic
    exact atomic.1 e rfl
  · intro same
    exact ⟨fun _ _ => same, fun _ _ is => (nomatch is)⟩

omit [ToLowercase] in
theorem atomic_registered {after : Site δ} :
    site.Atomic later built (.ok (.registered config), after) :=
  ⟨fun _ is => (nomatch is), fun _ _ is => (nomatch is)⟩

omit [ToLowercase] in
theorem atomic_accepted_iff {after : Site δ} :
    site.Atomic later built (.ok (.accepted config), after) ↔
      (∀ e, later.register config built = .error e →
        after.files.lookup config.name ≠ some (.describes config)) := by
  constructor
  · intro atomic e fails
    exact atomic.2 config e rfl fails
  · intro clean
    refine ⟨fun _ is => (nomatch is), fun other e is fails => ?_⟩
    cases is
    exact clean e fails

end

/-- An error of `create_query` undoes everything just when the request is for a temporary dataset,
fails before it writes, or writes what stays right. -/
theorem createQuery_atomic_iff {parse : Sql.Parser} {settings : SavedQueriesSettings}
    {authorized : Except AppError Unit} {request : CreateQueryRequest} {asyncMode : Bool}
    {outcome : WriteOutcome} {failure : String} {built : Except AppError δ} {site : Site δ}
    {later : Registry δ} :
    site.Atomic later built
        (site.createQuery parse settings authorized request asyncMode outcome failure built) ↔
      ∀ config, site.registry.prepareQuery parse settings authorized request = .ok config →
        config.temp = false → site.Covered later config asyncMode outcome built := by
  unfold createQuery
  cases prepared : site.registry.prepareQuery parse settings authorized request with
  | error e => exact iff_of_true (atomic_error_iff.mpr (.refl site)) fun _ is => nomatch is
  | ok config =>
      obtain ⟨_, checked, fresh⟩ := Registry.prepareQuery_accepted prepared
      have only : (∀ other, Except.ok (ε := Refusal) config = .ok other → other.temp = false →
          site.Covered later other asyncMode outcome built) ↔
          (config.temp = false → site.Covered later config asyncMode outcome built) :=
        ⟨fun all => all config rfl, fun one other same => by cases same; exact one⟩
      rw [only]
      dsimp only
      split
      case isTrue kept =>
        rw [forall_prop_of_true kept]
        cases outcome with
        | refused => exact iff_of_true (atomic_error_iff.mpr (.refl site)) True.intro
        | torn => exact atomic_error_iff.trans (write_same_iff kept rfl)
        | done =>
            cases asyncMode with
            | true =>
                refine atomic_accepted_iff.trans ?_
                rw [lookup_write kept rfl]
                simp only [Covered, if_true, ne_eq, not_true_eq_false, imp_false]
                cases later.register config built with
                | ok registry => exact iff_of_true (fun _ is => nomatch is) rfl
                | error e => exact iff_of_false (fun none => none e rfl) (fun is => nomatch is)
            | false =>
                have still : config.name ∉ (site.write config kept .done).registry.datasets := fresh
                simp only [persistToManagedDir, if_true]
                rw [finish_waits checked still]
                cases built with
                | ok data => exact iff_of_true atomic_registered (.inl rfl)
                | error e =>
                    refine (atomic_error_iff.trans (write_same_iff kept rfl)).trans ?_
                    simp [Covered, Except.isOk, Except.toBool]
      case isFalse temp =>
        refine iff_of_true ?_ fun kept => absurd kept temp
        cases asyncMode with
        | true =>
            refine atomic_accepted_iff.mpr fun e _ found => ?_
            exact temp (site.kept _ _ found)
        | false =>
            rw [finish_waits checked fresh]
            cases built with
            | ok data => exact atomic_registered
            | error e => exact atomic_error_iff.mpr (.refl site)

end Site

section Runs
attribute [local instance] asciiToLowercase

private def unwritten : Site Nat :=
  ⟨booted.registry, ∅, fun name _ found => nomatch (AList.lookup_empty name).symm.trans found⟩

private def noSpace : Except AppError Nat := .error (.internal "no space")

private def creating (asyncMode : Bool) : Except Refusal Created × Site Nat :=
  unwritten.createQuery twoTables.parse persisting (.ok ()) keeping asyncMode .done "" noSpace

/-- The build fails after the file has been written, whether the request waits for it or not. -/
theorem createQuery_not_atomic : ¬ unwritten.Atomic booted.registry noSpace (creating false) ∧
    ¬ unwritten.Atomic booted.registry noSpace (creating true) := by
  constructor
  · intro atomic
    have same := (atomic.1 _ rfl).2 "big"
    cases same
  · intro atomic
    exact atomic.2 _ _ rfl rfl rfl

end Runs
end Datapress.Config
