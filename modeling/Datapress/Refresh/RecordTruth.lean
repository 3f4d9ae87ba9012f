import Datapress.Library.Lists
import Datapress.Refresh.RecordAccess

/-! The records of the datasets once nothing is in flight: the two duties that a removal and a
publish leave to their operations, and the accesses that keep the records true. -/
namespace Datapress.Refresh.Records
open Interleaving Machine

variable {ι : Type}

/-- The dataset has a time of a refresh. -/
def Refreshed (records : RefreshRecords) (name : String) : Prop :=
  ((records.lookup name).bind (·.lastRefreshAt)).isSome

/-- What an operation has to do: remove the record of the dataset it removes, and record the
publish of the one it registers or publishes. -/
inductive Duty where
  | remove (name : String)
  | record (name : String)

def Duty.binds : Duty → Act → Prop
  | .remove name, .removeConfig other => other = name
  | .record name, .insertConfig other _ => other = name
  | .record name, .storeDatasets (.insert other) => other = name
  | .record name, .editDatasets (.insert other) => other = name
  | _, _ => False

def Duty.pays : Duty → Act → Prop
  | .remove name, .removeRecord other => other = name
  | .record name, .recordPublish other _ _ _ => other = name
  | _, _ => False

def duties : Duties Act Duty where
  awaits := Act.awaits
  binds := Duty.binds
  pays := Duty.pays

/-- What is not true of the records. -/
def Amiss : Duty → World ι → Prop
  | .remove name, w => (name ∈ w.records ∧ name ∉ w.configs) ∨
      (Refreshed w.records name ∧ name ∉ w.published)
  | .record name, w => name ∈ w.configs ∧ name ∈ w.published ∧ ¬ Refreshed w.records name

theorem truthful_of_settled {w : World ι} (settled : ∀ d, ¬ Amiss d w) : w.Truthful where
  configured name member := by
    by_contra absent
    exact settled (.remove name) (.inl ⟨member, absent⟩)
  refreshed name configured := by
    constructor
    · intro refreshed
      by_contra unpublished
      exact settled (.remove name) (.inr ⟨refreshed, unpublished⟩)
    · intro published
      by_contra fresh
      exact settled (.record name) ⟨configured, published, fresh⟩

/-! ### The accesses -/

/-- A record is written for a configured dataset, with a time of a refresh for a published one
only, and it is removed when the dataset is not configured. -/
def Act.Orderly (w : World ι) : Act → Prop
  | .recordPublish name _ _ _ => name ∈ w.configs ∧ name ∈ w.published
  | .recordRefresh name record =>
    name ∈ w.configs ∧ (record.lastRefreshAt.isSome → name ∈ w.published)
  | .removeRecord name => name ∉ w.configs
  | _ => True

instance (w : World ι) (a : Act) : Decidable (a.Orderly w) := by
  cases a with
  | recordPublish name _ _ _ => exact inferInstanceAs (Decidable (_ ∧ _))
  | recordRefresh name record => exact inferInstanceAs (Decidable (_ ∧ (_ → _)))
  | removeRecord name => exact inferInstanceAs (Decidable (¬ _))
  | _ => exact isTrue trivial

section Records
variable {records : RefreshRecords} {name other : String}

theorem mem_recordPublish {now : String} {elapsedMs : Nat} {source : RefreshSource}
    {generationId : Option String} :
    other ∈ records.recordPublish name now elapsedMs source generationId ↔
      other = name ∨ other ∈ records := by
  rw [RefreshRecords.recordPublish, AList.mem_insert]

theorem mem_recordRefresh {record : RefreshRecord} :
    other ∈ records.recordRefresh name record ↔ other = name ∨ other ∈ records := by
  rw [RefreshRecords.recordRefresh, AList.mem_insert]

theorem refreshed_recordPublish {now : String} {elapsedMs : Nat} {source : RefreshSource}
    {generationId : Option String} :
    Refreshed (records.recordPublish name now elapsedMs source generationId) other ↔
      other = name ∨ Refreshed records other := by
  rw [Refreshed, RefreshRecords.recordPublish]
  by_cases same : other = name
  · rw [same, AList.lookup_insert]
    exact iff_of_true rfl (.inl rfl)
  · rw [AList.lookup_insert_ne same]
    exact (or_iff_right same).symm

theorem refreshed_recordRefresh {record : RefreshRecord} :
    Refreshed (records.recordRefresh name record) other ↔
      (other = name ∧ record.lastRefreshAt.isSome) ∨ Refreshed records other := by
  rw [Refreshed, RefreshRecords.recordRefresh]
  by_cases same : other = name
  · subst same
    rw [AList.lookup_insert, Refreshed]
    cases record.lastRefreshAt with
    | some time => simp
    | none => cases records.lookup other <;> simp
  · rw [AList.lookup_insert_ne same]
    simp only [same, false_and, false_or, Refreshed]

theorem refreshed_erase :
    Refreshed (records.erase name) other ↔ other ≠ name ∧ Refreshed records other := by
  rw [Refreshed]
  by_cases same : other = name
  · subst same
    rw [AList.lookup_erase]
    simp
  · rw [AList.lookup_erase_ne same]
    simp only [ne_eq, same, not_false_eq_true, true_and, Refreshed]

end Records

section Accesses
variable {w after : World ι} {name : String} {d : Duty}

/-- Other parts of the registry do not matter. -/
theorem amiss_congr (wrong : Amiss d after) (configs : after.configs = w.configs)
    (records : after.records = w.records) (published : after.published = w.published) :
    Amiss d w := by
  cases d <;> simpa only [Amiss, configs, records, published] using wrong

/-- A publish puts its operation under the duty to record it. -/
theorem amiss_publish {edit : Edit}
    (wrong : Amiss d { w with published := edit.publish w.published }) :
    (∃ name, edit = .insert name ∧ d = .record name) ∨ Amiss d w := by
  cases edit with
  | remove name => exact .inr wrong
  | insert name =>
      cases d with
      | remove other =>
          simp only [Amiss, Edit.publish, Finset.mem_insert] at wrong ⊢
          tauto
      | record other =>
          by_cases same : name = other
          · exact .inl ⟨other, by rw [same], rfl⟩
          · simp only [Amiss, Edit.publish, Finset.mem_insert] at wrong ⊢
            tauto

theorem amiss_insertConfig {managed : Bool}
    (wrong : Amiss d { w with configs := w.configs.insert name managed }) :
    d = .record name ∨ Amiss d w := by
  cases d with
  | remove other =>
      simp only [Amiss, AList.mem_insert] at wrong ⊢
      tauto
  | record other =>
      by_cases same : other = name
      · exact .inl (by rw [same])
      · simp only [Amiss, AList.mem_insert] at wrong ⊢
        tauto

theorem amiss_removeConfig (wrong : Amiss d
      { w with configs := w.configs.erase name, published := w.published.erase name }) :
    d = .remove name ∨ Amiss d w := by
  cases d with
  | remove other =>
      by_cases same : other = name
      · exact .inl (by rw [same])
      · simp only [Amiss, AList.mem_erase, Finset.mem_erase] at wrong ⊢
        tauto
  | record other =>
      simp only [Amiss, AList.mem_erase, Finset.mem_erase] at wrong ⊢
      tauto

theorem amiss_recordPublish {now : String} {elapsedMs : Nat} {source : RefreshSource}
    (configured : name ∈ w.configs) (published : name ∈ w.published)
    (wrong : Amiss d { w with records := w.records.recordPublish name now elapsedMs source none }) :
    Amiss d w ∧ d ≠ .record name := by
  cases d with
  | remove other =>
      simp only [Amiss, mem_recordPublish, refreshed_recordPublish] at wrong ⊢
      refine ⟨?_, nofun⟩
      by_cases same : other = name
      · subst same
        tauto
      · tauto
  | record other =>
      simp only [Amiss, refreshed_recordPublish] at wrong ⊢
      refine ⟨by tauto, ?_⟩
      rintro ⟨⟩
      exact wrong.2.2 (.inl rfl)

theorem amiss_recordRefresh {record : RefreshRecord} (configured : name ∈ w.configs)
    (timed : record.lastRefreshAt.isSome → name ∈ w.published)
    (wrong : Amiss d { w with records := w.records.recordRefresh name record }) : Amiss d w := by
  cases d with
  | remove other =>
      simp only [Amiss, mem_recordRefresh, refreshed_recordRefresh] at wrong ⊢
      by_cases same : other = name
      · subst same
        tauto
      · tauto
  | record other =>
      simp only [Amiss, refreshed_recordRefresh] at wrong ⊢
      tauto

theorem amiss_removeRecord (absent : name ∉ w.configs)
    (wrong : Amiss d { w with records := w.records.erase name }) :
    Amiss d w ∧ d ≠ .remove name := by
  cases d with
  | remove other =>
      simp only [Amiss, AList.mem_erase, refreshed_erase] at wrong ⊢
      refine ⟨by tauto, ?_⟩
      rintro ⟨⟩
      tauto
  | record other =>
      have apart : other ≠ name := by
        rintro rfl
        exact absent wrong.1
      simp only [Amiss, refreshed_erase] at wrong ⊢
      exact ⟨by tauto, nofun⟩

end Accesses

/-- What an orderly access leaves amiss was so before, or is left to its operation. -/
theorem amiss_perform [DecidableEq ι] {i : ι} {a : Act} {w after : World ι} {own later : Locals}
    {answer : Ans a} (orderly : a.Orderly w)
    (performed : perform i a w own = some (answer, after, later)) (d : Duty)
    (wrong : Amiss d after) : d.binds a ∨ Amiss d w ∧ ¬ d.pays a := by
  have unpaid (plain : ∀ d : Duty, ¬ d.pays a) (same : d.binds a ∨ Amiss d w) :
      d.binds a ∨ Amiss d w ∧ ¬ d.pays a := same.imp_right fun before => ⟨before, plain d⟩
  cases a with
  | recordPublish name now elapsedMs source =>
      cases performed
      obtain ⟨before, other⟩ := amiss_recordPublish orderly.1 orderly.2 wrong
      refine .inr ⟨before, fun pays => ?_⟩
      cases d with
      | remove _ => exact pays
      | record n => exact other (congrArg Duty.record pays.symm)
  | removeRecord name =>
      cases performed
      obtain ⟨before, other⟩ := amiss_removeRecord orderly wrong
      refine .inr ⟨before, fun pays => ?_⟩
      cases d with
      | remove n => exact other (congrArg Duty.remove pays.symm)
      | record _ => exact pays
  | recordRefresh name record =>
      cases performed
      apply unpaid (by rintro (_ | _) ⟨⟩)
      exact .inr (amiss_recordRefresh orderly.1 orderly.2 wrong)
  | insertConfig name managed =>
      cases performed
      apply unpaid (by rintro (_ | _) ⟨⟩)
      apply (amiss_insertConfig wrong).imp_left
      rintro rfl
      rfl
  | removeConfig name =>
      cases performed
      apply unpaid (by rintro (_ | _) ⟨⟩)
      apply (amiss_removeConfig wrong).imp_left
      rintro rfl
      rfl
  | storeDatasets edit =>
      cases performed
      apply unpaid (by rintro (_ | _) ⟨⟩)
      apply (amiss_publish (amiss_congr wrong rfl rfl rfl)).imp_left
      rintro ⟨name, rfl, rfl⟩
      rfl
  | editDatasets edit =>
      cases performed
      apply unpaid (by rintro (_ | _) ⟨⟩)
      apply (amiss_publish (amiss_congr wrong rfl rfl rfl)).imp_left
      rintro ⟨name, rfl, rfl⟩
      rfl
  | _ =>
      -- the other accesses leave the configurations, the records and the generations alone
      apply unpaid (by rintro (_ | _) ⟨⟩)
      simp only [perform] at performed
      repeat' split at performed
      all_goals cases performed
      all_goals exact .inr (amiss_congr wrong rfl rfl rfl)

/-! ### The operations -/

section Operations
variable {backend : Backend} {name : String} {build : Build}

/-- The accesses that put their operation under no duty. -/
def Act.free : Act → Bool
  | .insertConfig _ _ | .removeConfig _ => false
  | .storeDatasets (.insert _) | .editDatasets (.insert _) => false
  | _ => true

theorem not_binds_of_free {a : Act} (free : a.free = true) (d : Duty) : ¬ d.binds a := by
  cases a with
  | insertConfig _ _ | removeConfig _ => cases free
  | storeDatasets edit | editDatasets edit =>
      cases edit with
      | insert _ => cases free
      | remove _ => cases d <;> exact id
  | _ => cases d <;> exact id

theorem honors_call {α : Type} {a : Act} {next : Ans a → Task α} (free : a.free = true)
    (honors : ∀ answer, (next answer).Honors duties) : (call a >>= next).Honors duties :=
  Prog.honors_act (not_binds_of_free free) honors

theorem owes_call {α : Type} {a : Act} {next : Ans a → Task α} {d : Duty}
    (prompt : a.awaits = false) (owes : ∀ answer, (next answer).Owes duties d) :
    (call a >>= next).Owes duties d :=
  ⟨prompt, .inr owes⟩

/-- The record of a publish comes after it. -/
theorem owes_publish {α : Type} {now : String} {elapsedMs : Nat} {source : RefreshSource}
    {next : Unit → Task α} :
    (call (.recordPublish name now elapsedMs source) >>= next).Owes duties (.record name) :=
  ⟨rfl, .inl rfl⟩

theorem owes_edit {α : Type} {change : Edit} {next : Unit → Task α} {d : Duty}
    (owes : (next ()).Owes duties d) : (edit backend change >>= next).Owes duties d := by
  cases backend with
  | dataFusion => exact owes_call rfl fun _ => owes_call rfl fun _ => owes
  | duckdb => exact owes_call rfl fun _ => owes

theorem honors_publish {α : Type} {next : Unit → Task α}
    (owes : (next ()).Owes duties (.record name)) (honors : (next ()).Honors duties) :
    (edit backend (.insert name) >>= next).Honors duties := by
  have bound (a : Act) (only : ∀ d : Duty, d.binds a → d = .record name) (answer : Unit) :
      (∀ d : Duty, d.binds a → (next answer).Owes duties d) ∧ (next answer).Honors duties := by
    refine ⟨fun d binds => ?_, honors⟩
    rw [only d binds]
    exact owes
  cases backend with
  | dataFusion =>
      refine honors_call rfl fun _ => bound (.storeDatasets (.insert name)) ?_
      rintro (_ | _) ⟨⟩
      rfl
  | duckdb =>
      refine bound (.editDatasets (.insert name)) ?_
      rintro (_ | _) ⟨⟩
      rfl

theorem honors_insertConfig {α : Type} {managed : Bool} {next : Unit → Task α}
    (owes : (next ()).Owes duties (.record name)) (honors : (next ()).Honors duties) :
    (call (.insertConfig name managed) >>= next).Honors duties := by
  refine fun _ => ⟨?_, honors⟩
  rintro (_ | _) ⟨⟩
  exact owes

theorem reloadInner_honors : (reloadInner backend name build).Honors duties := by
  apply honors_call rfl
  intro _
  cases build with
  | timeout => trivial
  | failed error => exact honors_call rfl fun _ => trivial
  | built stats now =>
      apply honors_publish owes_publish
      exact honors_call rfl fun _ => trivial

theorem reload_honors : (reload backend name build).Honors duties := by
  apply honors_call rfl
  rintro (_ | _)
  · trivial
  · refine honors_call rfl fun _ => honors_call rfl fun _ => reloadInner_honors.bind fun _ => ?_
    exact honors_call rfl fun _ => trivial

theorem tryReload_honors : (tryReload backend name build).Honors duties := by
  apply honors_call rfl
  rintro (_ | _)
  · trivial
  · refine honors_call rfl fun _ => honors_call rfl fun free => ?_
    cases free with
    | false => trivial
    | true =>
        refine reloadInner_honors.bind fun _ => ?_
        exact honors_call rfl fun _ => trivial

theorem buildOneStartup_honors {managed : Bool} :
    (buildOneStartup name managed build).Honors duties := by
  apply honors_call rfl
  intro _
  cases build with
  | built stats now =>
      apply honors_insertConfig (owes_edit owes_publish)
      apply honors_publish owes_publish
      exact honors_call rfl fun _ => trivial
  | _ => trivial

theorem unlock_honors : (call .unlock).Honors duties := honors_call rfl fun _ => trivial

theorem firstTouchBuild_honors {ready : Bool} :
    (firstTouchBuild name ready build).Honors duties := by
  refine honors_call rfl fun _ => honors_call rfl fun _ => ?_
  cases ready with
  | true => exact unlock_honors
  | false =>
      apply honors_call rfl
      rintro (_ | _)
      · exact unlock_honors
      · apply honors_call rfl
        intro _
        cases build with
        | built stats now =>
            apply honors_publish owes_publish
            exact honors_call rfl fun _ => unlock_honors
        | _ => exact unlock_honors

theorem register_honors {managed : Bool} :
    (register backend name managed build).Honors duties := by
  apply honors_call rfl
  rintro (_ | _)
  · refine honors_call rfl fun _ => honors_call rfl fun _ => honors_call rfl ?_
    rintro (_ | _)
    · apply honors_call rfl
      intro _
      cases build with
      | built stats now =>
          apply honors_publish (owes_call rfl fun _ => owes_publish)
          apply honors_insertConfig owes_publish
          exact honors_call rfl fun _ => unlock_honors
      | _ => exact unlock_honors
    · exact unlock_honors
  · trivial

theorem unregister_honors : (unregister backend name).Honors duties := by
  have removal : (call (.removeConfig name) >>= fun _ => call (.removeRecord name) >>= fun _ =>
      call (.removeLockEntry name) >>= fun _ => call .unlock).Honors duties := by
    refine fun _ => ⟨?_, honors_call rfl fun _ => honors_call rfl fun _ => unlock_honors⟩
    rintro (_ | _) ⟨⟩
    exact ⟨rfl, .inl rfl⟩
  apply honors_call rfl
  rintro (_ | managed)
  · trivial
  · cases managed with
    | false => trivial
    | true =>
        refine honors_call rfl fun _ => honors_call rfl fun _ => ?_
        cases backend with
        | dataFusion => exact honors_call rfl fun _ => honors_call rfl fun _ => removal
        | duckdb => exact honors_call rfl fun _ => honors_call rfl fun _ => removal

theorem tick_honors {failures : UInt32} {timeout : Nat} {now next : String} :
    (tick backend name failures timeout now next build).Honors duties := by
  refine tryReload_honors.bind fun outcome => ?_
  cases tickRecord failures timeout now .schedule outcome with
  | none => trivial
  | some record => exact honors_call rfl fun _ => honors_call rfl fun _ => trivial

theorem cascade_honors {now : String} : (cascade backend name now build).Honors duties := by
  refine tryReload_honors.bind fun outcome => ?_
  cases outcome with
  | published stats => exact honors_call rfl fun _ => trivial
  | _ => trivial

theorem waveReload_honors : (waveReload backend name build).Honors duties := by
  refine tryReload_honors.bind fun outcome => ?_
  cases outcome with
  | failed error => exact honors_call rfl fun _ => honors_call rfl fun _ => trivial
  | _ => trivial

theorem program_honors (backend : Backend) (op : Op) : (op.program backend).Honors duties := by
  cases op with
  | startup name managed build =>
      rw [Op.program]
      split
      · exact buildOneStartup_honors
      · trivial
  | firstTouch name ready build =>
      rw [Op.program]
      split
      · exact firstTouchBuild_honors
      · trivial
  | reload name build => exact reload_honors.bind fun _ => trivial
  | register name managed build => exact register_honors
  | unregister name => exact unregister_honors
  | tick name failures timeout now next build => exact tick_honors
  | cascade name now build => exact cascade_honors
  | waveReload name build => exact waveReload_honors

end Operations

/-! ### Runs -/

/-- The next access of an operation in flight. -/
def access : Thread Ans Unit Locals → Option Act
  | .running (.act a _) _ => some a
  | _ => none

/-- The access that the step takes is orderly. -/
def Orderly (s : System ι) : Event ι → Prop
  | .step i => ∀ a ∈ access (s.threads i), a.Orderly s.shared
  | _ => True

instance (s : System ι) (e : Event ι) : Decidable (Orderly s e) := by
  cases e with
  | step i => exact inferInstanceAs (Decidable (∀ a ∈ access (s.threads i), a.Orderly s.shared))
  | _ => exact isTrue trivial

/-- Every dataset of the configuration was built at the startup of DuckDB. -/
def Opens (backend : Backend) (declared : List Declared) : Prop :=
  backend = .duckdb → ∀ d ∈ declared, ∃ b ∈ declared, b.built = true ∧ b.name = d.name

section Opened
variable {declared : List Declared} {name : String}

theorem mem_declared {α : Type} (value : Declared → α) :
    name ∈ (declared.map fun d => (⟨d.name, value d⟩ : Sigma fun _ : String => α)).toAList ↔
      ∃ d ∈ declared, d.name = name := by
  rw [← AList.lookup_isSome, Lists.lookup_map_toAList]
  simp

theorem refreshed_loadRegistry {now : String} :
    Refreshed (loadRegistry declared now : World ι).records name ↔
      ∃ d ∈ declared, d.name = name := by
  have every : Refreshed (loadRegistry declared now : World ι).records name ↔
      (declared.find? fun d => d.name = name).isSome := by
    rw [Refreshed, loadRegistry, Lists.lookup_map_toAList]
    cases declared.find? fun d => d.name = name <;> rfl
  rw [every]
  simp

theorem mem_built {now : String} : name ∈ (loadRegistry declared now : World ι).published ↔
    ∃ b ∈ declared, b.built = true ∧ b.name = name := by
  simp [loadRegistry, and_assoc]

end Opened

theorem settled_opened {backend : Backend} {declared : List Declared} (now : String)
    (opens : Opens backend declared) (d : Duty) :
    ¬ Amiss d (opened backend declared now : World ι) := by
  cases backend with
  | dataFusion =>
      cases d with
      | remove name =>
          rintro (⟨member, -⟩ | ⟨refreshed, -⟩)
          · cases member
          · cases refreshed
      | record name =>
          rintro ⟨-, published, -⟩
          cases published
  | duckdb =>
      cases d with
      | remove name =>
          rintro (⟨member, absent⟩ | ⟨refreshed, unpublished⟩)
          · exact absent ((mem_declared _).mpr ((mem_declared _).mp member))
          · obtain ⟨d, listed, rfl⟩ := refreshed_loadRegistry.mp refreshed
            exact unpublished (mem_built.mpr (opens rfl d listed))
      | record name =>
          rintro ⟨configured, -, fresh⟩
          exact fresh (refreshed_loadRegistry.mpr ((mem_declared _).mp configured))

/-- What a start says of the datasets that it has not built. -/
theorem opened_truthful_iff {backend : Backend} {declared : List Declared} (now : String) :
    (opened backend declared now : World ι).Truthful ↔ Opens backend declared := by
  constructor
  · rintro truthful rfl d listed
    have configured := (mem_declared Declared.managed).mpr ⟨d, listed, rfl⟩
    have refreshed : Refreshed (loadRegistry declared now : World ι).records d.name :=
      refreshed_loadRegistry.mpr ⟨d, listed, rfl⟩
    exact mem_built.mp ((truthful.refreshed d.name configured).mp refreshed)
  · intro opens
    exact truthful_of_settled (settled_opened now opens)

/-- The records are true whenever nothing is in flight, along every run whose accesses are
orderly. -/
theorem truthful_of_run [DecidableEq ι] {backend : Backend} {declared : List Declared}
    {now : String} {ops : ι → Op} (opens : Opens backend declared) {events : List (Event ι)}
    {s : System ι}
    (run : Run (System.step backend ops) Orderly (Pool.initial (opened backend declared now))
      events s)
    (rest : ∀ i, (s.threads i).inFlight = false) : s.shared.Truthful := by
  apply truthful_of_settled
  apply Pool.settled_of_run duties run (fun i => program_honors backend (ops i))
    (settled_opened now opens) (fun _ awaits => awaits) ?_ ?_ rest
  · intro s i a next own answer changed after allowed ready performed d wrong
    have orderly : a.Orderly s.shared := allowed a (by rw [ready]; rfl)
    exact amiss_perform orderly performed d wrong
  · intro i d before wrong
    exact amiss_congr wrong rfl rfl rfl

/-- A start is true exactly when it has built every dataset that it has a record of, and from
there on every run keeps the records true whose accesses are orderly. -/
theorem records_truthful_while [DecidableEq ι] (backend : Backend) (declared : List Declared)
    (now : String) (ops : ι → Op) :
    ((opened backend declared now : World ι).Truthful ↔ Opens backend declared) ∧
    (Opens backend declared → ∀ (events : List (Event ι)) (s : System ι),
      Run (System.step backend ops) Orderly (Pool.initial (opened backend declared now)) events s →
      (∀ i, (s.threads i).inFlight = false) → s.shared.Truthful) :=
  ⟨opened_truthful_iff now, fun opens _ _ run rest => truthful_of_run opens run rest⟩

/-- A startup build, a tick and a removal of one dataset. -/
def lifeOfSales : Fin 3 → Op
  | 0 => .startup "sales" true (.built { rows := 2, elapsedMs := 5 } "2026-01-01T00:00:00Z")
  | 1 => .tick "sales" 0 1000 "2026-01-01T01:00:00Z" "2026-01-01T02:00:00Z"
      (.built { rows := 3, elapsedMs := 7 } "2026-01-01T01:00:00Z")
  | 2 => .unregister "sales"

def sales : System (Fin 3) := Pool.initial (opened .dataFusion [⟨"sales", true, true⟩] "")

/-- The operations one after the other. -/
def inOrder : List (Event (Fin 3)) :=
  .start 0 :: List.replicate 6 (.step 0) ++ .start 1 :: List.replicate 11 (.step 1) ++
    .start 2 :: List.replicate 10 (.step 2)

/-- The removal after the build of the tick has released its lock. -/
def removedEarly : List (Event (Fin 3)) :=
  .start 0 :: List.replicate 6 (.step 0) ++ .start 1 :: List.replicate 8 (.step 1) ++
    .start 2 :: List.replicate 10 (.step 2) ++ List.replicate 3 (.step 1)

theorem inOrder_runs :
    (exec (System.step .dataFusion lifeOfSales) Orderly inOrder sales).isSome := by
  decide +kernel

theorem removedEarly_runs :
    (exec (System.step .dataFusion lifeOfSales) Anything removedEarly sales).isSome := by
  decide +kernel

theorem sales_truthful : ∃ s,
    Run (System.step .dataFusion lifeOfSales) Orderly sales inOrder s ∧ s.shared.Truthful :=
  ⟨_, run_of_isSome inOrder_runs, (records_truthful_while .dataFusion _ "" lifeOfSales).2 nofun _ _
    (run_of_isSome inOrder_runs) (by decide +kernel)⟩

/-- The tick writes the record of a dataset that is not configured any more. DuckDB starts with
the time of a refresh for a dataset whose build failed. -/
theorem removed_dataset_recorded :
    (¬ ∀ (declared : List Declared) (now : String) (ops : Fin 3 → Op)
        (events : List (Event (Fin 3))) (s : System (Fin 3)),
        Run (System.step .dataFusion ops) Anything
          (Pool.initial (opened .dataFusion declared now)) events s →
        (∀ i, (s.threads i).inFlight = false) → s.shared.Truthful) ∧
      ¬ ∀ (declared : List Declared) (now : String),
        (opened .duckdb declared now : World (Fin 3)).Truthful := by
  constructor
  · intro truthful
    have kept := truthful _ _ _ _ _ (run_of_isSome removedEarly_runs) (by decide +kernel)
    have recorded :
        "sales" ∈ ((exec _ Anything removedEarly sales).get removedEarly_runs).shared.records := by
      decide +kernel
    have gone :
        "sales" ∉ ((exec _ Anything removedEarly sales).get removedEarly_runs).shared.configs := by
      decide +kernel
    exact gone (kept.configured "sales" recorded)
  · intro truthful
    have configured := (mem_declared Declared.managed).mpr
      ⟨⟨"sales", false, false⟩, List.mem_singleton_self _, rfl⟩
    have refreshed := ((truthful [⟨"sales", false, false⟩] "").refreshed "sales" configured).mp
      (by decide +kernel)
    revert refreshed
    decide +kernel

end Datapress.Refresh.Records
