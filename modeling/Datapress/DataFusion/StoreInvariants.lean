import Datapress.Library.Lists
import Datapress.DataFusion.StoreProofs

/-! The promises of the operations: the maps have the same datasets, and, in the strict
form, a dataset that has been published stays ready with its last generation. -/
namespace Datapress.DataFusion.Store
open Interleaving

variable {Gen ι : Type}

/-- The operations that publish a dataset that is configured. -/
def Op.rebuilds : Op Gen → Bool
  | .startup _ _ _ | .reload _ _ | .tryReload _ _ => true
  | _ => false

/-- The operations that mark the dataset as not published without looking. -/
def Op.marks : Op Gen → Bool
  | .setStatus _ _ | .startup _ _ _ | .reload _ _ | .tryReload _ _ => true
  | _ => false

/-- The swap of the state map. -/
def Act.swaps : Act Gen → Bool
  | .storeDatasets (.insert _ _) => true
  | _ => false

namespace Entry

/-- The dataset is configured if it has a status or a generation. -/
def Keyed (e : Entry Gen) : Prop :=
  e.config.isSome = e.status.isSome ∧ (e.dataset.isSome → e.config.isSome)

/-- The last good generation is there, and the dataset is ready. -/
def Served (e : Entry Gen) : Prop :=
  ∀ gen, e.lastGood = some gen →
    e.dataset = some gen ∧ ∃ onStart, e.status = some (.published, onStart)

/-- What `set_status` does. -/
def mark (e : Entry Gen) (status : DatasetStatus) : Entry Gen :=
  { e with status := e.status.map fun old => (status, old.2) }

end Entry

/-- The discipline of the registry. -/
def registry (strict : Bool) : Discipline Gen where
  rest e := e.Keyed ∧ (strict → e.Served ∧ e.dataset = e.lastGood)
  enters op e := (op.rebuilds → e.config.isSome) ∧ (strict → op.marks → e.dataset = none)
  may op a e := (op.rebuilds → a.swaps → e.config.isSome) ∧ (strict → e.Served)

instance (strict : Bool) (op : Op Gen) (e : Entry Gen) : Decidable ((registry strict).enters op e) :=
  inferInstanceAs (Decidable (_ ∧ (_ → _ → e.dataset = none)))

section
variable {d : Discipline Gen} {op : Op Gen} {e : Entry Gen} {name : String}

theorem setStatus_meets {status : DatasetStatus} {post : Unit → Stage Gen → Prop} :
    (setStatus name status).Meets (d.rule op) (.inside e) post ↔
      d.may op .loadStatuses e ∧ d.may op (.storeStatuses (.set name status)) e ∧
        post () (.inside (e.mark status)) := by
  constructor
  · intro meets
    obtain ⟨loads, others⟩ := meets
    obtain ⟨stores, done⟩ := others () trivial
    exact ⟨loads, stores, done () trivial⟩
  · intro meets
    obtain ⟨loads, stores, done⟩ := meets
    exact ⟨loads, fun _ _ => ⟨stores, fun _ _ => done⟩⟩

theorem insertDataset_meets {gen : Gen} {post : Unit → Stage Gen → Prop} :
    (insertDataset name gen).Meets (d.rule op) (.inside e) post ↔
      d.may op .loadDatasets e ∧ d.may op (.storeDatasets (.insert name gen)) e ∧
        post () (.inside { e with dataset := some gen }) := by
  constructor
  · intro meets
    obtain ⟨loads, others⟩ := meets
    obtain ⟨stores, done⟩ := others () trivial
    exact ⟨loads, stores, done () trivial⟩
  · intro meets
    obtain ⟨loads, stores, done⟩ := meets
    exact ⟨loads, fun _ _ => ⟨stores, fun _ _ => done⟩⟩

/-- The body runs inside, and leaves the dataset at rest. -/
theorem guarded_meets {α : Type} {body : Task Gen α} {post : α → Stage Gen → Prop} :
    (guarded body).Meets (d.rule op) .out post ↔ ∀ e, d.rest e → d.enters op e →
      body.Meets (d.rule op) (.inside e) fun result stage =>
        d.rule op .unlock stage fun _ stage => post result stage := by
  simp only [guarded, Prog.meets_bind]
  exact ⟨fun meets e rest enters => meets.2 e rest enters, fun meets => ⟨rfl, meets⟩⟩

end

/-! ### The operations follow the discipline -/

section
variable {strict : Bool} {op : Op Gen} {e : Entry Gen} {name : String} {gen : Gen}

/-- A dataset that is neither published nor was, in the strict form. -/
def Entry.Blank (strict : Bool) (e : Entry Gen) : Prop :=
  strict → e.dataset = none ∧ e.lastGood = none

theorem Entry.Blank.served (blank : e.Blank strict) (on : strict = true) : e.Served := by
  intro gen good
  rw [(blank on).2] at good
  cases good

theorem Entry.Blank.may (blank : e.Blank strict) {a : Act Gen} (plain : a.swaps = false) :
    (registry strict).may op a e :=
  ⟨fun _ swaps => absurd (plain.symm.trans swaps) Bool.false_ne_true, blank.served⟩

theorem Entry.Blank.rest (blank : e.Blank strict) (keyed : e.Keyed) : (registry strict).rest e :=
  ⟨keyed, fun on => ⟨blank.served on, (blank on).1.trans (blank on).2.symm⟩⟩

theorem blank_of_enters (rest : (registry strict).rest e) (enters : (registry strict).enters op e)
    (marks : op.marks = true) : e.Blank strict := by
  intro on
  have none := enters.2 on marks
  exact ⟨none, (rest.2 on).2 ▸ none⟩

theorem setStatus_blank {status : DatasetStatus} {post : Unit → Stage Gen → Prop}
    (blank : e.Blank strict) (ends : post () (.inside (e.mark status))) :
    (setStatus name status).Meets ((registry strict).rule op) (.inside e) post :=
  setStatus_meets.mpr ⟨blank.may rfl, blank.may rfl, ends⟩

/-- The swap, the status and the record of a publish. -/
theorem publish_meets {post : Except AppError Unit → Stage Gen → Prop} (blank : e.Blank strict)
    (keyed : e.Keyed) (configured : e.config.isSome)
    (ends : ∀ e, (registry strict).rest e → (registry strict).may op .unlock e →
      post (.ok ()) (.inside e)) :
    Prog.Meets ((registry strict).rule op) (do
      insertDataset name gen
      setStatus name .published
      call (.recordPublish name gen)
      return .ok () : Task Gen (Except AppError Unit)) (.inside e) post := by
  have served : ∀ {status} {a : Act Gen}, (registry strict).may op a
      { e with dataset := some gen, status } := by
    refine fun {status a} => ⟨fun _ _ => configured, fun on good found => ?_⟩
    rw [(blank on).2] at found
    cases found
  refine Prog.meets_bind.mpr (insertDataset_meets.mpr ⟨blank.may rfl, ?_, ?_⟩)
  · exact ⟨fun _ _ => configured, blank.served⟩
  refine Prog.meets_bind.mpr (setStatus_meets.mpr ⟨served, served, served, fun _ _ => ?_⟩)
  obtain ⟨entry, present⟩ := Option.isSome_iff_exists.mp (keyed.1 ▸ configured)
  have good : Entry.Served { e with
      dataset := some gen
      status := e.status.map fun old => (.published, old.2)
      lastGood := some gen } := by
    intro found same
    cases same
    exact ⟨rfl, entry.2, by simp [present]⟩
  refine ends _ ⟨⟨?_, fun _ => configured⟩, fun _ => ⟨good, rfl⟩⟩ ⟨fun _ _ => configured, fun _ => good⟩
  simpa [Act.effect, Entry.mark] using keyed.1

theorem Entry.Keyed.mark (keyed : e.Keyed) (status : DatasetStatus) : (e.mark status).Keyed :=
  ⟨by simpa [Entry.mark] using keyed.1, keyed.2⟩

theorem Entry.Blank.mark (blank : e.Blank strict) (status : DatasetStatus) :
    (e.mark status).Blank strict := blank

theorem buildDataset_meets {outcome : Except AppError Gen}
    {post : Except AppError Gen → Stage Gen → Prop} (blank : e.Blank strict) (keyed : e.Keyed)
    (ends : post outcome (.inside e)) :
    (buildDataset name outcome).Meets ((registry strict).rule op) (.inside e) post :=
  ⟨e, rfl, blank.may rfl, blank.rest keyed, ends⟩

section
variable {outcome : Except AppError Gen} {post : Except AppError Unit → Stage Gen → Prop}

theorem buildOneStartup_meets {settings : Settings} (blank : e.Blank strict) (keyed : e.Keyed)
    (configured : e.config.isSome)
    (ends : ∀ result e, (registry strict).rest e → (registry strict).may op .unlock e →
      post result (.inside e)) :
    (buildOneStartup name settings (buildDataset name outcome)).Meets ((registry strict).rule op)
      (.inside e) post := by
  have failed : ∀ {e : Entry Gen} (x : AppError), e.Blank strict → e.Keyed →
      Prog.Meets ((registry strict).rule op)
        (do setStatus name .failed; return .error x) (.inside e) post := by
    intro e x blank keyed
    refine Prog.meets_bind.mpr (setStatus_blank blank ?_)
    exact ends _ _ ((blank.mark _).rest (keyed.mark _)) ((blank.mark _).may rfl)
  refine Prog.meets_bind.mpr (setStatus_blank blank ?_)
  have blank := blank.mark .building
  have keyed := keyed.mark .building
  refine Prog.meets_bind.mpr (buildDataset_meets blank keyed ?_)
  cases outcome with
  | error x => exact failed x blank keyed
  | ok gen =>
      refine ⟨blank.may rfl, fun registered _ => ?_⟩
      cases registered with
      | error x => exact failed x blank keyed
      | ok _ =>
          refine ⟨blank.may rfl, fun _ _ => publish_meets blank ?_ rfl (ends _)⟩
          refine ⟨?_, fun _ => rfl⟩
          simpa [Act.effect] using keyed.1 ▸ configured

theorem reloadInner_meets (blank : e.Blank strict) (keyed : e.Keyed) (configured : e.config.isSome)
    (ends : ∀ result e, (registry strict).rest e → (registry strict).may op .unlock e →
      post result (.inside e)) :
    (reloadInner name (buildDataset name outcome)).Meets ((registry strict).rule op)
      (.inside e) post := by
  refine Prog.meets_bind.mpr (setStatus_blank blank ?_)
  have blank := blank.mark .building
  have keyed := keyed.mark .building
  refine Prog.meets_bind.mpr (buildDataset_meets blank keyed ?_)
  cases outcome with
  | error x =>
      refine ⟨blank.may rfl, fun found _ => ?_⟩
      cases found with
      | none =>
          refine Prog.meets_bind.mpr (setStatus_blank blank ?_)
          exact ends _ _ ((blank.mark _).rest (keyed.mark _)) ((blank.mark _).may rfl)
      | some _ =>
          refine Prog.meets_bind.mpr (setStatus_blank blank ?_)
          exact ends _ _ ((blank.mark _).rest (keyed.mark _)) ((blank.mark _).may rfl)
  | ok gen =>
      have failed : ∀ x, post (.error x) (.inside (e.mark .building)) :=
        fun x => ends _ _ (blank.rest keyed) (blank.may rfl)
      refine ⟨blank.may rfl, fun deregistered _ => ?_⟩
      cases deregistered with
      | error x => exact failed x
      | ok _ =>
          refine ⟨blank.may rfl, fun registered _ => ?_⟩
          cases registered with
          | error x => exact failed x
          | ok _ => exact publish_meets blank keyed configured (ends _)

/-- What the body of a guard establishes. -/
theorem unlocks (locked : op.locked = true) (rest : (registry strict).rest e)
    (may : (registry strict).may op .unlock e) {post : Stage Gen → Prop} (ends : post .left) :
    (registry strict).rule op .unlock (.inside e) fun _ stage => post stage :=
  ⟨locked, may, rest, ends⟩

/-- At rest, every act but a swap is allowed. -/
theorem may_of_rest (rest : (registry strict).rest e) {a : Act Gen} (plain : a.swaps = false) :
    (registry strict).may op a e :=
  ⟨fun _ swaps => absurd (plain.symm.trans swaps) Bool.false_ne_true, fun on => (rest.2 on).1⟩

/-- At rest, a dataset that is not published is blank. -/
theorem blank_of_rest (rest : (registry strict).rest e)
    (unpublished : ∀ onStart, e.status ≠ some (.published, onStart)) : e.Blank strict := by
  intro on
  obtain ⟨served, same⟩ := rest.2 on
  cases good : e.lastGood with
  | none => exact ⟨same.trans good, rfl⟩
  | some gen =>
      obtain ⟨_, onStart, status⟩ := served gen good
      exact absurd status (unpublished onStart)

theorem firstTouch_meets (locked : op.locked = true)
    (ends : ∀ result, post result .left) :
    (firstTouchBuild name (buildDataset name outcome)).Meets ((registry strict).rule op) .out post := by
  refine ⟨rfl, guarded_meets.mpr fun e rest _ => ⟨may_of_rest rest rfl, fun status found => ?_⟩⟩
  have done : ∀ {e : Entry Gen} (result : Except AppError Unit), (registry strict).rest e →
      (registry strict).may op .unlock e → (registry strict).rule op .unlock (.inside e)
        fun _ stage => post result stage :=
    fun result rest may => unlocks locked rest may (ends result)
  have built : (∀ onStart, e.status ≠ some (.published, onStart)) →
      (untouchedBuild name (buildDataset name outcome)).Meets ((registry strict).rule op)
        (.inside e) fun result stage =>
          (registry strict).rule op .unlock stage fun _ stage => post result stage := by
    intro unpublished
    have blank := blank_of_rest rest unpublished
    refine ⟨may_of_rest rest rfl, fun config present => ?_⟩
    cases config with
    | none => exact done _ rest (may_of_rest rest rfl)
    | some settings =>
        have configured : e.config.isSome := Option.isSome_iff_exists.mpr ⟨settings, present.symm⟩
        refine Prog.meets_bind.mpr (setStatus_blank blank ?_)
        have blank := blank.mark .building
        have keyed := rest.1.mark .building
        refine Prog.meets_bind.mpr (buildDataset_meets blank keyed ?_)
        cases outcome with
        | error x =>
            refine Prog.meets_bind.mpr (setStatus_blank blank ?_)
            exact done _ ((blank.mark _).rest (keyed.mark _)) ((blank.mark _).may rfl)
        | ok gen =>
            refine ⟨blank.may rfl, fun _ _ => ⟨blank.may rfl, fun registered _ => ?_⟩⟩
            cases registered with
            | error x => exact done _ (blank.rest keyed) (blank.may rfl)
            | ok _ => exact publish_meets blank keyed configured fun e => done _
  rcases status with _ | ⟨_ | _ | _ | _, _⟩
  case some.published => exact done _ rest (may_of_rest rest rfl)
  all_goals
    refine built fun onStart status => ?_
    rw [← found] at status
    cases status

/-- A dataset that is registered was not there before, and is there in every map after. -/
theorem register_meets {settings : Settings} (locked : op.locked = true)
    (fresh : op.rebuilds = false) (rest : (registry strict).rest e) (ends : ∀ result, post result .left) :
    Prog.Meets ((registry strict).rule op) (do
      if (← call (.dataset name)).isSome then return .error (alreadyExists name)
      match ← buildDataset name outcome with
      | .error e => return .error e
      | .ok gen =>
        match ← call (.registerTable name gen) with
        | .error e => return .error e
        | .ok () =>
          insertDataset name gen
          call (.insertConfig name settings)
          call .loadStatuses
          call (.storeStatuses (.insert name (.published, .eager)))
          call (.recordPublish name gen)
          return .ok () : Task Gen (Except AppError Unit)) (.inside e) fun result stage =>
            (registry strict).rule op .unlock stage fun _ stage => post result stage := by
  refine ⟨may_of_rest rest rfl, fun found absent => ?_⟩
  cases found with
  | some _ => exact unlocks locked rest (may_of_rest rest rfl) (ends _)
  | none =>
      have blank : e.Blank strict := fun on => ⟨absent.symm, (rest.2 on).2 ▸ absent.symm⟩
      refine (Prog.meets_bind (p := buildDataset name outcome)).mpr
        (buildDataset_meets blank rest.1 ?_)
      cases outcome with
      | error x => exact unlocks locked rest (may_of_rest rest rfl) (ends _)
      | ok gen =>
          refine ⟨blank.may rfl, fun registered _ => ?_⟩
          cases registered with
          | error x => exact unlocks locked rest (may_of_rest rest rfl) (ends _)
          | ok _ =>
              have may : ∀ {config dataset status} {a : Act Gen}, (registry strict).may op a
                  { e with config, dataset, status } := by
                refine fun {config dataset status a} => ⟨fun rebuilds => ?_, fun on good found => ?_⟩
                · exact absurd (fresh.symm.trans rebuilds) Bool.false_ne_true
                · rw [(blank on).2] at found
                  cases found
              refine Prog.meets_bind.mpr (insertDataset_meets.mpr ⟨may, may, may, fun _ _ => ?_⟩)
              refine ⟨may, fun _ _ => ⟨may, fun _ _ => ⟨may, fun _ _ => ?_⟩⟩⟩
              have good : Entry.Served { e with
                  config := some settings
                  dataset := some gen
                  status := some (.published, .eager)
                  lastGood := some gen } := by
                intro found same
                cases same
                exact ⟨rfl, .eager, rfl⟩
              refine unlocks locked ⟨⟨rfl, fun _ => rfl⟩, fun _ => ⟨good, rfl⟩⟩ ⟨fun _ _ => rfl, ?_⟩ (ends _)
              exact fun _ => good

/-- A dataset that is unregistered is gone from every map. -/
theorem unregister_meets (locked : op.locked = true) (rest : (registry strict).rest e)
    (ends : ∀ result, post result .left) :
    Prog.Meets ((registry strict).rule op) (do
      let _ ← call (.deregisterTable name)
      call .loadDatasets
      call (.storeDatasets (.remove name))
      call (.removeConfig name)
      call .loadStatuses
      call (.storeStatuses (.remove name))
      call (.removeLockEntry name)
      return .ok () : Task Gen (Except AppError Unit)) (.inside e) fun result stage =>
        (registry strict).rule op .unlock stage fun _ stage => post result stage := by
  have gone : ∀ {config : Option Settings} {status} {a : Act Gen}, a.swaps = false →
      (registry strict).may op a { config, dataset := none, status, lastGood := none } :=
    fun plain => Entry.Blank.may (fun _ => ⟨rfl, rfl⟩) plain
  refine ⟨may_of_rest rest rfl, fun _ _ => ⟨may_of_rest rest rfl, fun _ _ => ?_⟩⟩
  refine ⟨may_of_rest rest rfl, fun _ _ => ⟨gone rfl, fun _ _ => ⟨gone rfl, fun _ _ => ?_⟩⟩⟩
  refine ⟨gone rfl, fun _ _ => ⟨_, rfl, locked, gone rfl, ?_, rfl, ends _⟩⟩
  exact Entry.Blank.rest (fun _ => ⟨rfl, rfl⟩) ⟨rfl, fun present => by cases present⟩

end

/-- Every operation follows the discipline of the registry. -/
theorem registry_governs (strict : Bool) (op : Op Gen) : (registry strict).Governs op := by
  have ends : ∀ (op : Op Gen), op.locked = true → (registry strict).Ends op .left := by
    intro op locked
    simp [Discipline.Ends, locked]
  have stays : ∀ (op : Op Gen), op.locked = true → (registry strict).Ends op .out := by
    intro op locked
    simp [Discipline.Ends, locked]
  cases op with
  | setStatus name status =>
      intro e rest enters
      have blank := blank_of_enters rest enters rfl
      refine Prog.meets_bind.mpr (setStatus_blank blank ?_)
      exact ⟨_, rfl, (blank.mark _).rest (rest.1.mark _)⟩
  | startup name settings outcome =>
      intro e rest enters
      exact buildOneStartup_meets (blank_of_enters rest enters rfl) rest.1 (enters.1 rfl)
        fun _ e rest _ => ⟨e, rfl, rest⟩
  | ensureReady name outcome =>
      refine ⟨fun _ => rfl, fun status => ?_⟩
      rcases status with _ | ⟨_ | _ | _ | _, _ | _ | _⟩
      case some.pending.lazy => exact firstTouch_meets rfl fun _ => ends _ rfl
      all_goals exact stays _ rfl
  | reload name outcome =>
      refine ⟨fun _ => rfl, fun config => ?_⟩
      cases config with
      | none => exact stays _ rfl
      | some _ =>
          refine ⟨rfl, guarded_meets.mpr fun e rest enters => ?_⟩
          exact reloadInner_meets (blank_of_enters rest enters rfl) rest.1 (enters.1 rfl)
            fun _ e rest may => unlocks rfl rest may (ends _ rfl)
  | tryReload name outcome =>
      refine ⟨fun _ => rfl, fun config => ?_⟩
      cases config with
      | none => exact stays _ rfl
      | some _ =>
          refine ⟨rfl, rfl, stays _ rfl, fun e rest enters => ?_⟩
          refine (Prog.meets_bind (p := reloadInner name (buildDataset name outcome))).mpr
            (reloadInner_meets (blank_of_enters rest enters rfl) rest.1 (enters.1 rfl) ?_)
          exact fun _ e rest may => unlocks rfl rest may (ends _ rfl)
  | register name settings validated outcome =>
      cases validated with
      | error x => exact stays (.register name settings (.error x) outcome) rfl
      | ok _ =>
          refine ⟨fun _ => rfl, fun found => ?_⟩
          cases found with
          | some _ => exact stays _ rfl
          | none => exact ⟨rfl, guarded_meets.mpr fun e rest _ => register_meets rfl rfl rest
              fun _ => ends _ rfl⟩
  | unregister name =>
      refine ⟨fun _ => rfl, fun config => ?_⟩
      rcases config with _ | ⟨_ | _⟩
      case some.true =>
        exact ⟨rfl, guarded_meets.mpr fun e rest _ => unregister_meets rfl rest fun _ => ends _ rfl⟩
      all_goals exact stays _ rfl

end

/-! ### The starts of the store -/

/-- The store as the server opens it. -/
inductive Opened (tableRef : String → Option String) : World Gen ι → Prop where
  | newNonblocking (datasets : List Declared) : Opened tableRef (newNonblocking datasets)
  | load (built : List (Declared × Gen)) : Opened tableRef (load tableRef built)

theorem rest_of_opened {tableRef : String → Option String} {w : World Gen ι}
    (opened : Opened tableRef w) (strict : Bool) (name : String) :
    (registry strict).rest (w.entry name) := by
  cases opened with
  | newNonblocking datasets =>
      refine Entry.Blank.rest (fun _ => ⟨rfl, rfl⟩) ⟨?_, fun present => by cases present⟩
      simp only [World.entry, newNonblocking, Lists.lookup_map_toAList, Option.isSome_map]
  | load built =>
      simp only [World.entry, load, Lists.lookup_map_toAList]
      cases found : built.find? fun x => x.1.name = name with
      | none => exact Entry.Blank.rest (fun _ => ⟨rfl, rfl⟩) ⟨rfl, fun present => by cases present⟩
      | some x =>
          refine ⟨⟨rfl, fun _ => rfl⟩, fun _ => ⟨fun gen same => ⟨same, x.1.onStart, rfl⟩, rfl⟩⟩

section
variable [DecidableEq ι] {tableRef : String → Option String} {ops : ι → Op Gen} {w : World Gen ι}
  {s : System Gen ι} {events : List (Event ι)} {strict : Bool}

theorem owned_of_opened (opened : Opened tableRef w)
    (run : Machine.Run (System.step tableRef ops) (Orderly (registry strict).enters ops)
      (Pool.initial w) events s) : Owned (registry strict) ops s := by
  have unlocked : ∀ lock, w.owner lock = none := by cases opened <;> exact fun _ => rfl
  have bounded : w.Bounded := by cases opened <;> exact ⟨fun _ _ => rfl, fun _ _ none => by cases none⟩
  exact owned_run (registry_governs strict) (rest_of_opened opened strict) bounded unlocked run

end

/-- The dataset of an operation inside it is at rest, or the operation is at an act it may take. -/
theorem Owned.inside_now {d : Discipline Gen} {ops : ι → Op Gen} {s : System Gen ι}
    (owned : Owned d ops s) {i : ι} (inside : Inside ops s i) :
    d.rest (s.shared.entry (ops i).name) ∨ ∃ a next own,
      s.threads i = .running (.act a next) own ∧ d.may (ops i) a (s.shared.entry (ops i).name) := by
  have running := inside
  simp only [Inside] at running
  split at running
  case h_2 => exact running.elim
  case h_1 rest own ready =>
    obtain ⟨_, stage, stands, meets⟩ := owned.obeys i rest own ready
    cases stage with
    | out => exact absurd inside stands.1
    | left => exact absurd inside stands
    | inside entry =>
        obtain ⟨_, rfl⟩ := stands
        cases rest with
        | done result =>
            simp only [Prog.meets_done, Discipline.Ends] at meets
            split at meets
            · exact absurd rfl (meets _)
            · obtain ⟨entry, same, rest⟩ := meets
              cases same
              exact .inl rest
        | act a next => exact .inr ⟨a, next, own, ready, Discipline.rule_may meets⟩

/-- A dataset is at rest, or an operation is inside it at an act it may take. -/
theorem Owned.now {d : Discipline Gen} {ops : ι → Op Gen} {s : System Gen ι} (owned : Owned d ops s)
    (name : String) : d.rest (s.shared.entry name) ∨ ∃ i a next own,
      s.threads i = .running (.act a next) own ∧ d.may (ops i) a (s.shared.entry name) := by
  by_cases empty : ∀ i, (ops i).name = name → ¬ Inside ops s i
  · exact .inl (owned.rests name empty)
  · simp only [not_forall, not_not, exists_prop] at empty
    obtain ⟨i, rfl, inside⟩ := empty
    exact (owned.inside_now inside).imp_right fun found => ⟨i, found⟩

end Datapress.DataFusion.Store
