import Mathlib.Data.Fintype.Basic
import Datapress.DataFusion.StoreInvariants

/-! What a published status promises. Builds publish a status after the generation it stands for,
and only a removal takes a generation away: a request that `ensure_ready` lets through finds its
dataset, however its acts and those of other operations interleave. -/
namespace Datapress.DataFusion.Store
open Interleaving Machine

variable {Gen ι : Type}

/-- The mark `Published` on its own. The server asks `set_status` for other marks only. -/
def Op.announces : Op Gen → Bool
  | .setStatus _ .published => true
  | _ => false

def Op.removes : Op Gen → Bool
  | .unregister _ => true
  | _ => false

/-- The swap that takes a dataset out of the state map. -/
def Act.removes : Act Gen → Bool
  | .storeDatasets (.remove _) => true
  | _ => false

/-- A dataset with the status `Published` has a generation. -/
def Entry.Available (e : Entry Gen) : Prop :=
  ∀ onStart, e.status = some (.published, onStart) → e.dataset.isSome

/-- The discipline behind the status. A removal takes the generation first, its status later. -/
def readiness : Discipline Gen where
  rest := Entry.Available
  enters op _ := op.announces = false
  may op a e := op.removes ∨ e.Available ∧ a.removes = false

instance (op : Op Gen) (e : Entry Gen) : Decidable (readiness.enters op e) :=
  inferInstanceAs (Decidable (op.announces = false))

/-! ### The operations follow the discipline -/

section
variable {op : Op Gen} {e : Entry Gen} {name : String} {gen : Gen} {status : DatasetStatus}

namespace Entry.Available

theorem may (available : e.Available) {a : Act Gen} (keeps : a.removes = false) :
    readiness.may op a e := .inr ⟨available, keeps⟩

theorem of_dataset (present : e.dataset.isSome) : e.Available := fun _ _ => present

/-- A mark is a promise where it says `Published`. -/
theorem mark (promise : status = .published → e.dataset.isSome) : (e.mark status).Available := by
  intro onStart marked
  obtain ⟨old, -, same⟩ := Option.map_eq_some_iff.mp marked
  exact promise (congrArg Prod.fst same)

end Entry.Available

theorem setStatus_readies {post : Unit → Stage Gen → Prop} (available : e.Available)
    (ends : post () (.inside (e.mark status))) :
    (setStatus name status).Meets (readiness.rule op) (.inside e) post :=
  setStatus_meets.mpr ⟨available.may rfl, available.may rfl, ends⟩

/-- The last acts of a successful build. -/
theorem publish_readies {post : Except AppError Unit → Stage Gen → Prop} (available : e.Available)
    (ends : ∀ e : Entry Gen, e.Available → post (.ok ()) (.inside e)) :
    Prog.Meets (readiness.rule op) (do
      insertDataset name gen
      setStatus name .published
      call (.recordPublish name gen)
      return .ok () : Task Gen (Except AppError Unit)) (.inside e) post := by
  have present : Entry.Available { e with dataset := some gen } := .of_dataset rfl
  have marked : Entry.Available (Entry.mark { e with dataset := some gen } .published) :=
    .of_dataset rfl
  refine Prog.meets_bind.mpr (insertDataset_meets.mpr ⟨available.may rfl, available.may rfl, ?_⟩)
  refine Prog.meets_bind.mpr (setStatus_readies present ⟨marked.may rfl, fun _ _ => ?_⟩)
  exact ends _ (.of_dataset rfl)

theorem buildDataset_readies {outcome : Except AppError Gen}
    {post : Except AppError Gen → Stage Gen → Prop} (available : e.Available)
    (ends : post outcome (.inside e)) :
    (buildDataset name outcome).Meets (readiness.rule op) (.inside e) post :=
  ⟨e, rfl, available.may rfl, available, ends⟩

/-- A build that ends with a mark other than `Published`. -/
theorem marked_readies {post : Except AppError Unit → Stage Gen → Prop} (available : e.Available)
    {x : AppError} (other : status = .published → e.dataset.isSome)
    (ends : ∀ e : Entry Gen, e.Available → post (.error x) (.inside e)) :
    Prog.Meets (readiness.rule op)
      (do setStatus name status; return .error x : Task Gen (Except AppError Unit)) (.inside e)
      post :=
  Prog.meets_bind.mpr (setStatus_readies available (ends _ (.mark other)))

variable {outcome : Except AppError Gen} {post : Except AppError Unit → Stage Gen → Prop}

theorem buildOneStartup_readies {settings : Settings} (available : e.Available)
    (ends : ∀ result (e : Entry Gen), e.Available → post result (.inside e)) :
    (buildOneStartup name settings (buildDataset name outcome)).Meets (readiness.rule op)
      (.inside e) post := by
  have building : (e.mark .building).Available := .mark fun same => by cases same
  refine Prog.meets_bind.mpr (setStatus_readies available ?_)
  refine Prog.meets_bind.mpr (buildDataset_readies building ?_)
  cases outcome with
  | error x => exact marked_readies building (fun same => by cases same) (ends _)
  | ok gen =>
      refine ⟨building.may rfl, fun registered _ => ?_⟩
      cases registered with
      | error x => exact marked_readies building (fun same => by cases same) (ends _)
      | ok _ => exact ⟨building.may rfl, fun _ _ => publish_readies building (ends _)⟩

theorem reloadInner_readies (available : e.Available)
    (ends : ∀ result (e : Entry Gen), e.Available → post result (.inside e)) :
    (reloadInner name (buildDataset name outcome)).Meets (readiness.rule op) (.inside e) post := by
  have building : (e.mark .building).Available := .mark fun same => by cases same
  refine Prog.meets_bind.mpr (setStatus_readies available ?_)
  refine Prog.meets_bind.mpr (buildDataset_readies building ?_)
  cases outcome with
  | error x =>
      refine ⟨building.may rfl, fun found same => ?_⟩
      cases found with
      | none => exact marked_readies building (fun same => by cases same) (ends _)
      | some gen =>
          -- the last good generation is published again
          have present : (e.mark .building).dataset.isSome :=
            Option.isSome_iff_exists.mpr ⟨gen, same.symm⟩
          exact marked_readies building (fun _ => present) (ends _)
  | ok gen =>
      refine ⟨building.may rfl, fun deregistered _ => ?_⟩
      cases deregistered with
      | error x => exact ends _ _ building
      | ok _ =>
          refine ⟨building.may rfl, fun registered _ => ?_⟩
          cases registered with
          | error x => exact ends _ _ building
          | ok _ => exact publish_readies building (ends _)

/-- What the body of a guard leaves behind. -/
theorem leaves (result : Except AppError Unit) (locked : op.locked = true)
    (ends : ∀ result, post result .left) (available : e.Available) :
    readiness.rule op .unlock (.inside e) fun _ stage => post result stage :=
  ⟨locked, available.may rfl, available, ends _⟩

theorem firstTouch_readies (locked : op.locked = true) (ends : ∀ result, post result .left) :
    (firstTouchBuild name (buildDataset name outcome)).Meets (readiness.rule op) .out post := by
  refine ⟨rfl, guarded_meets.mpr fun e available _ => ⟨available.may rfl, fun status _ => ?_⟩⟩
  have built : (untouchedBuild name (buildDataset name outcome)).Meets (readiness.rule op)
      (.inside e) fun result stage =>
        readiness.rule op .unlock stage fun _ stage => post result stage := by
    refine ⟨available.may rfl, fun config _ => ?_⟩
    cases config with
    | none => exact leaves _ locked ends available
    | some settings =>
        have building : (e.mark .building).Available := .mark fun same => by cases same
        refine Prog.meets_bind.mpr (setStatus_readies available ?_)
        refine Prog.meets_bind.mpr (buildDataset_readies building ?_)
        cases outcome with
        | error x =>
            exact marked_readies building (fun same => by cases same) fun _ => leaves _ locked ends
        | ok gen =>
            refine ⟨building.may rfl, fun _ _ => ⟨building.may rfl, fun registered _ => ?_⟩⟩
            cases registered with
            | error x => exact leaves _ locked ends building
            | ok _ => exact publish_readies building fun _ => leaves _ locked ends
  rcases status with _ | ⟨_ | _ | _ | _, _⟩
  case some.published => exact leaves _ locked ends available
  all_goals exact built

theorem register_readies {settings : Settings} (locked : op.locked = true) (available : e.Available)
    (ends : ∀ result, post result .left) :
    Prog.Meets (readiness.rule op) (do
      if (← call (.dataset name)).isSome then return .error (alreadyExists name)
      match ← buildDataset name outcome with
      | .error e => return .error e
      | .ok gen =>
        match ← call (.registerTable name gen) with
        | .error e => return .error e
        | .ok () =>
          insertDataset name gen
          call (.insertConfig name settings)
          call .loadStatuses
          call (.storeStatuses (.insert name (.published, .eager)))
          call (.recordPublish name gen)
          return .ok () : Task Gen (Except AppError Unit)) (.inside e) fun result stage =>
            readiness.rule op .unlock stage fun _ stage => post result stage := by
  refine ⟨available.may rfl, fun found _ => ?_⟩
  cases found with
  | some _ => exact leaves _ locked ends available
  | none =>
      refine (Prog.meets_bind (p := buildDataset name outcome)).mpr
        (buildDataset_readies available ?_)
      cases outcome with
      | error x => exact leaves _ locked ends available
      | ok gen =>
          refine ⟨available.may rfl, fun registered _ => ?_⟩
          cases registered with
          | error x => exact leaves _ locked ends available
          | ok _ =>
              have may : ∀ {config status lastGood} {a : Act Gen}, a.removes = false →
                  readiness.may op a { config, dataset := some gen, status, lastGood } :=
                fun keeps => Entry.Available.may (.of_dataset rfl) keeps
              refine Prog.meets_bind.mpr
                (insertDataset_meets.mpr ⟨available.may rfl, available.may rfl, ?_⟩)
              refine ⟨may rfl, fun _ _ => ⟨may rfl, fun _ _ => ⟨may rfl, fun _ _ => ?_⟩⟩⟩
              exact ⟨may rfl, fun _ _ => leaves _ locked ends (.of_dataset rfl)⟩

/-- The generation goes before the status, and both are gone when the mutex is dropped. -/
theorem unregister_readies (locked : op.locked = true) (removes : op.removes = true)
    (ends : ∀ result, post result .left) :
    Prog.Meets (readiness.rule op) (do
      let _ ← call (.deregisterTable name)
      call .loadDatasets
      call (.storeDatasets (.remove name))
      call (.removeConfig name)
      call .loadStatuses
      call (.storeStatuses (.remove name))
      call (.removeLockEntry name)
      return .ok () : Task Gen (Except AppError Unit)) (.inside e) fun result stage =>
        readiness.rule op .unlock stage fun _ stage => post result stage := by
  have may : ∀ {a : Act Gen} {e}, readiness.may op a e := .inl removes
  refine ⟨may, fun _ _ => ⟨may, fun _ _ => ⟨may, fun _ _ => ⟨may, fun _ _ => ?_⟩⟩⟩⟩
  refine ⟨may, fun _ _ => ⟨may, fun _ _ => ⟨_, rfl, locked, may, ?_, rfl, ends _⟩⟩⟩
  exact fun _ status => by cases status

end

/-- Every operation follows the discipline. -/
theorem readiness_governs (op : Op Gen) : readiness.Governs op := by
  have ends : ∀ (op : Op Gen), op.locked = true → readiness.Ends op .left := by
    intro op locked
    simp [Discipline.Ends, locked]
  have stays : ∀ (op : Op Gen), op.locked = true → readiness.Ends op .out := by
    intro op locked
    simp [Discipline.Ends, locked]
  cases op with
  | setStatus name status =>
      intro e available enters
      have marked : (e.mark status).Available := .mark fun same => by
        subst same
        cases enters
      exact Prog.meets_bind.mpr (setStatus_readies available ⟨_, rfl, marked⟩)
  | startup name settings outcome =>
      intro e available enters
      exact buildOneStartup_readies available fun _ e available => ⟨e, rfl, available⟩
  | ensureReady name outcome =>
      refine ⟨fun _ => rfl, fun status => ?_⟩
      rcases status with _ | ⟨_ | _ | _ | _, _ | _ | _⟩
      case some.pending.lazy => exact firstTouch_readies rfl fun _ => ends _ rfl
      all_goals exact stays _ rfl
  | reload name outcome =>
      refine ⟨fun _ => rfl, fun config => ?_⟩
      cases config with
      | none => exact stays _ rfl
      | some _ =>
          refine ⟨rfl, guarded_meets.mpr fun e available _ => reloadInner_readies available ?_⟩
          exact fun result _ => leaves result rfl fun _ => ends _ rfl
  | tryReload name outcome =>
      refine ⟨fun _ => rfl, fun config => ?_⟩
      cases config with
      | none => exact stays _ rfl
      | some _ =>
          refine ⟨rfl, rfl, stays _ rfl, fun e available _ => ?_⟩
          refine (Prog.meets_bind (p := reloadInner name (buildDataset name outcome))).mpr
            (reloadInner_readies available fun result _ => leaves result rfl fun _ => ends _ rfl)
  | register name settings validated outcome =>
      cases validated with
      | error x => exact stays (.register name settings (.error x) outcome) rfl
      | ok _ =>
          refine ⟨fun _ => rfl, fun found => ?_⟩
          cases found with
          | some _ => exact stays _ rfl
          | none => exact ⟨rfl, guarded_meets.mpr fun e available _ =>
              register_readies rfl available fun _ => ends _ rfl⟩
  | unregister name =>
      refine ⟨fun _ => rfl, fun config => ?_⟩
      rcases config with _ | ⟨_ | _⟩
      case some.true =>
        exact ⟨rfl, guarded_meets.mpr fun e _ _ => unregister_readies rfl rfl fun _ => ends _ rfl⟩
      all_goals exact stays _ rfl

/-! ### Runs -/

theorem available_of_opened {tableRef : String → Option String} {w : World Gen ι}
    (opened : Opened tableRef w) (name : String) : (w.entry name).Available := by
  intro onStart published
  cases opened with
  | newNonblocking datasets =>
      simp only [World.entry, newNonblocking, Lists.lookup_map_toAList, Option.map_eq_some_iff]
        at published
      obtain ⟨_, _, status⟩ := published
      cases status
  | load built =>
      simp only [World.entry, load, Lists.lookup_map_toAList, Option.map_eq_some_iff] at published ⊢
      obtain ⟨x, found, -⟩ := published
      simp [found]

section
variable [DecidableEq ι] {tableRef : String → Option String} {ops : ι → Op Gen} {w : World Gen ι}
  {s t : System Gen ι} {events : List (Event ι)} {name : String}

theorem readied_of_opened (opened : Opened tableRef w)
    (run : Run (System.step tableRef ops) (Orderly readiness.enters ops) (Pool.initial w) events
      s) : Owned readiness ops s := by
  have unlocked : ∀ lock, w.owner lock = none := by cases opened <;> exact fun _ => rfl
  have bounded : w.Bounded := by
    cases opened <;> exact ⟨fun _ _ => rfl, fun _ _ none => by cases none⟩
  exact owned_run readiness_governs (available_of_opened opened) bounded unlocked run

/-- An unregister of the dataset holds its mutex. -/
def Removing (ops : ι → Op Gen) (s : System Gen ι) (name : String) : Prop :=
  ∃ i, (ops i).removes = true ∧ (ops i).name = name ∧ Inside ops s i

instance [Fintype ι] (ops : ι → Op Gen) (s : System Gen ι) (name : String) :
    Decidable (Removing ops s name) :=
  inferInstanceAs (Decidable (∃ i, _ ∧ _ ∧ Inside ops s i))

omit [DecidableEq ι] in
/-- Outside a removal the status keeps its promise. -/
theorem Owned.available (owned : Owned readiness ops s) (calm : ¬ Removing ops s name) :
    (s.shared.entry name).Available := by
  by_cases empty : ∀ i, (ops i).name = name → ¬ Inside ops s i
  · exact owned.rests name empty
  · simp only [not_forall, not_not, exists_prop] at empty
    obtain ⟨i, rfl, inside⟩ := empty
    rcases owned.inside_now inside with rest | ⟨_, _, _, _, removes | ⟨available, _⟩⟩
    · exact rest
    · exact absurd ⟨i, removes, rfl, inside⟩ calm
    · exact available

/-- Outside a removal no act takes the generation of a dataset away. -/
theorem Owned.keeps_dataset (owned : Owned readiness ops s) (calm : ¬ Removing ops s name)
    {e : Event ι} (orderly : Orderly readiness.enters ops s e)
    (stepped : System.step tableRef ops e s = some t)
    (present : (s.shared.entry name).dataset.isSome) : (t.shared.entry name).dataset.isSome := by
  cases Pool.moves_of_step stepped with
  | start idle => exact present
  | ret ready => exact present
  | drop ready awaits => exact present
  | @act i a next own answer changed later ready performed =>
      obtain ⟨uses, stage, stands, meets⟩ := owned.obeys i _ _ ready
      obtain ⟨clean, _⟩ : a.Clean s.shared own ∧ _ := by simpa only [Orderly, ready] using orderly
      have entry := Act.entry_perform uses.1 clean performed name
      simp only [Pool.set_shared, entry]
      by_cases own_name : name = (ops i).name
      · rw [if_pos own_name]
        subst own_name
        cases stage with
        | out =>
            rw [Discipline.effect_outside (fun _ same => by cases same) meets]
            exact present
        | left =>
            rw [Discipline.effect_outside (fun _ same => by cases same) meets]
            exact present
        | inside before =>
            obtain ⟨inside, rfl⟩ := stands
            rcases Discipline.rule_may meets with removes | ⟨_, keeps⟩
            · exact absurd ⟨i, removes, rfl, inside⟩ calm
            · cases a with
              | storeDatasets edit =>
                  cases edit with
                  | insert n gen => rfl
                  | remove n => cases keeps
              | _ => exact present
      · rw [if_neg own_name]
        exact present

/-! ### Requests -/

/-- The act finds the dataset published, or publishes it. -/
def Act.finds (name : String) : (a : Act Gen) → Ans a → Prop
  | .status n, answer => n = name ∧ ∃ onStart, answer = some (.published, onStart)
  | .storeDatasets (.insert n _), _ => n = name
  | _, _ => False

/-- The rule that notes whether an act has found the dataset. -/
def finding (name : String) (a : Act Gen) (found : Prop) (post : Ans a → Prop → Prop) : Prop :=
  ∀ answer, post answer (found ∨ a.finds name answer)

/-- Whether a request has been let through, and has found the dataset. -/
def LetThrough (result : Except AppError Unit) (found : Prop) : Prop := result = .ok () → found

omit [DecidableEq ι] in
/-- A mutex does not help to find the dataset. -/
theorem guarded_finds {body : Task Gen (Except AppError Unit)} {found : Prop}
    (finds : ∀ found, body.Meets (finding name) found LetThrough) :
    (guarded body).Meets (finding name) found LetThrough := by
  refine fun _ => (Prog.meets_bind (p := body)).mpr ((finds _).mono ?_ ?_)
  · exact fun a context P Q implies held answer => implies _ _ (held answer)
  · exact fun result found passes _ passed => .inl (passes passed)

omit [DecidableEq ι] in
/-- `ensure_ready` lets no request through before it has found the dataset. -/
theorem ensureReady_finds (name : String) (outcome : Except AppError Gen) :
    (ensureReady name (buildDataset name outcome)).Meets (finding name) False LetThrough := by
  have built : ∀ found, (untouchedBuild name (buildDataset name outcome)).Meets (finding name) found
      LetThrough := by
    intro found config
    cases config with
    | none => exact fun passed => by cases passed
    | some _ =>
        refine fun _ _ _ => ?_
        cases outcome with
        | error x => exact fun _ _ passed => by cases passed
        | ok gen =>
            refine fun _ registered => ?_
            cases registered with
            | error x => exact fun passed => by cases passed
            | ok _ => exact fun _ _ _ _ _ _ => by simp [Act.finds]
  intro status
  rcases status with _ | ⟨_ | _ | _ | _, onStart⟩
  case some.published => exact fun _ => .inr ⟨rfl, onStart, rfl⟩
  case some.pending =>
    cases onStart with
    | lazy =>
        -- the status is read again under the mutex
        refine fun _ => guarded_finds fun found status => ?_
        rcases status with _ | ⟨_ | _ | _ | _, onStart⟩
        case some.published => exact fun _ => .inr ⟨rfl, onStart, rfl⟩
        all_goals exact built _
    | _ => exact fun passed => by cases passed
  all_goals exact fun passed => by cases passed

/-- What a request that goes through `ensure_ready` has found so far. -/
def Finds (name : String) (s : System Gen ι) : Thread (@Ans Gen) (Except AppError Unit)
    (Locals Gen) → Prop
  | .running rest _ => ∃ found : Prop, (found → (s.shared.entry name).dataset.isSome) ∧
    rest.Meets (finding name) found LetThrough
  | .returned result => LetThrough result (s.shared.entry name).dataset.isSome
  | .idle | .dropped => True

/-- What an act finds is there after it. -/
theorem Owned.present_of_finds (owned : Owned readiness ops s) (calm : ¬ Removing ops s name)
    {i : ι} {a : Act Gen} {own later : Locals Gen} {answer : Ans a} {changed : World Gen ι}
    (on : a.On true (ops i).name) (clean : a.Clean s.shared own)
    (performed : perform tableRef i a s.shared own = some (answer, changed, later))
    (finds : a.finds name answer) : (changed.entry name).dataset.isSome := by
  cases a with
  | status n =>
      obtain ⟨rfl, onStart, published⟩ := finds
      cases performed
      exact owned.available calm onStart published
  | storeDatasets edit =>
      cases edit with
      | insert n gen =>
          obtain rfl : n = name := finds
          have own_name : n = (ops i).name := on
          rw [Act.entry_perform on clean performed n, if_pos own_name]
          rfl
      | remove n => exact finds.elim
  | _ => exact finds.elim

theorem Owned.finds_step (owned : Owned readiness ops s) (calm : ¬ Removing ops s name)
    {e : Event ι} (orderly : Orderly readiness.enters ops s e)
    (stepped : System.step tableRef ops e s = some t) {i : ι} {outcome : Except AppError Gen}
    (asks : ops i = .ensureReady name outcome) (finds : Finds name s (s.threads i)) :
    Finds name t (t.threads i) := by
  have keeps := owned.keeps_dataset calm orderly stepped
  have kept : ∀ {thread}, Finds name s thread → Finds name t thread := by
    intro thread found
    cases thread with
    | running rest own =>
        obtain ⟨found, present, meets⟩ := found
        exact ⟨found, fun held => keeps (present held), meets⟩
    | returned result => exact fun passed => keeps (found passed)
    | idle | dropped => trivial
  cases Pool.moves_of_step stepped with
  | @start j idle =>
      by_cases same : j = i
      · subst same
        rw [Pool.set_threads_same, asks]
        exact ⟨False, False.elim, ensureReady_finds name outcome⟩
      · rw [Pool.set_threads_of_ne (Ne.symm same)]
        exact kept finds
  | @ret j result own ready =>
      by_cases same : j = i
      · subst same
        rw [ready] at finds
        obtain ⟨found, present, meets⟩ := finds
        rw [Pool.set_threads_same]
        exact fun passed => present (meets passed)
      · rw [Pool.set_threads_of_ne (Ne.symm same)]
        exact kept finds
  | @act j a next own answer changed later ready performed =>
      by_cases same : j = i
      · subst same
        rw [ready] at finds
        obtain ⟨found, present, meets⟩ := finds
        obtain ⟨uses, _⟩ := owned.obeys j _ _ ready
        obtain ⟨clean, _⟩ : a.Clean s.shared own ∧ _ := by simpa only [Orderly, ready] using orderly
        rw [Pool.set_threads_same]
        refine ⟨found ∨ a.finds name answer, fun held => ?_, meets answer⟩
        rcases held with held | shown
        · exact keeps (present held)
        · exact owned.present_of_finds calm uses.1 clean performed shown
      · rw [Pool.set_threads_of_ne (Ne.symm same)]
        exact kept finds
  | @drop j a next own ready awaits =>
      by_cases same : j = i
      · subst same
        rw [Pool.set_threads_same]
        trivial
      · rw [Pool.set_threads_of_ne (Ne.symm same)]
        exact kept finds

/-- At every moment, a dataset whose status is published has a generation, or an unregister of it
holds its mutex. -/
theorem published_has_generation (tableRef : String → Option String) (ops : ι → Op Gen)
    (opened : Opened tableRef w)
    (run : Run (System.step tableRef ops) (Orderly readiness.enters ops) (Pool.initial w) events s)
    {onStart : OnStart} (published : s.shared.statuses.lookup name = some (.published, onStart)) :
    name ∈ s.shared.datasets ∨ Removing ops s name := by
  by_cases calm : Removing ops s name
  · exact .inr calm
  · have owned := readied_of_opened opened run
    exact .inl (AList.lookup_isSome.mp (owned.available calm onStart published))

/-- Between the swaps of a removal, only the mutex tells that the dataset is going. -/
theorem published_has_generation_removing : ∃ s : System Nat Unit,
    Run (System.step some fun _ => .unregister "a")
      (Orderly readiness.enters fun _ => .unregister "a")
      (Pool.initial (load some [(⟨"a", ⟨true⟩, .eager⟩, 1)]))
      (.start () :: List.replicate 6 (.step ())) s ∧
    "a" ∉ s.shared.datasets ∧
    ("a" ∈ s.shared.datasets ∨ Removing (fun _ => .unregister "a") s "a") := by
  have run : Run (System.step some fun _ => .unregister "a")
      (Orderly readiness.enters fun _ => .unregister "a")
      (Pool.initial (load some [(⟨"a", ⟨true⟩, .eager⟩, 1)]) : System Nat Unit)
      (.start () :: List.replicate 6 (.step ())) _ := run_of_exec rfl
  refine ⟨_, run, fun present => ?_,
    published_has_generation some (fun _ => .unregister "a") (.load _) run rfl⟩
  cases AList.lookup_isSome.mpr present

/-- A request that is let through finds its dataset, then and later, as long as no unregister of
it has taken its mutex since the request came in. -/
theorem let_through_finds (tableRef : String → Option String) (ops : ι → Op Gen)
    (opened : Opened tableRef w)
    (past : Run (System.step tableRef ops) (Orderly readiness.enters ops) (Pool.initial w) events s)
    {i : ι} {outcome : Except AppError Gen} (asks : ops i = .ensureReady name outcome)
    (idle : s.threads i = .idle) {since : List (Event ι)}
    (run : Run (System.step tableRef ops)
      (fun s e => Orderly readiness.enters ops s e ∧ ¬ Removing ops s name) s since t)
    (passed : t.threads i = .returned (.ok ())) : name ∈ t.shared.datasets := by
  have begun : Finds name s (s.threads i) := by rw [idle]; trivial
  have reached := run.keeps (P := fun s => Owned readiness ops s ∧ Finds name s (s.threads i))
    ⟨readied_of_opened opened past, begun⟩ fun ⟨owned, finds⟩ ⟨orderly, calm⟩ stepped =>
      ⟨owned_step readiness_governs owned orderly stepped,
        owned.finds_step calm orderly stepped asks finds⟩
  have finds := reached.2
  rw [passed] at finds
  exact AList.lookup_isSome.mp (finds rfl)

end

/-- A query of a published dataset, and a reload of it. -/
def queryAndReload : Bool → Op Nat
  | false => .reload "a" (.ok 2)
  | true => .ensureReady "a" (.ok 3)

/-- The reload has marked the dataset as building before the query returns. -/
theorem let_through_finds_reloading : ∃ s t : System Nat Bool,
    Run (System.step some queryAndReload) (Orderly readiness.enters queryAndReload)
      (Pool.initial (load some [(⟨"a", ⟨true⟩, .eager⟩, 1)])) [.start false, .step false] s ∧
    Run (System.step some queryAndReload)
      (fun s e => Orderly readiness.enters queryAndReload s e ∧ ¬ Removing queryAndReload s "a") s
      (.start true :: .step true :: List.replicate 6 (.step false) ++ [.step true]) t ∧
    "a" ∈ t.shared.datasets := by
  have found : ∀ {s t : System Nat Bool},
      Run (System.step some queryAndReload) (Orderly readiness.enters queryAndReload)
        (Pool.initial (load some [(⟨"a", ⟨true⟩, .eager⟩, 1)])) [.start false, .step false] s →
      Run (System.step some queryAndReload)
        (fun s e => Orderly readiness.enters queryAndReload s e ∧ ¬ Removing queryAndReload s "a") s
        (.start true :: .step true :: List.replicate 6 (.step false) ++ [.step true]) t →
      s.threads true = .idle → t.threads true = .returned (.ok ()) → "a" ∈ t.shared.datasets :=
    fun past run idle passed =>
      let_through_finds some queryAndReload (.load _) past (i := true) rfl idle run passed
  exact ⟨_, _, run_of_exec rfl, run_of_exec rfl, found (run_of_exec rfl) (run_of_exec rfl) rfl rfl⟩

end Datapress.DataFusion.Store
