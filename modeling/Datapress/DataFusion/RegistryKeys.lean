import Mathlib.Data.Fintype.Basic
import Datapress.DataFusion.StoreInvariants

/-! The names of the maps of the registry. -/
namespace Datapress.DataFusion.Store
open Interleaving Machine

variable {Gen ι : Type}

/-- Published datasets are configured, and just the configured ones have a status. -/
def World.KeysAgree (w : World Gen ι) : Prop :=
  ∀ name, (name ∈ w.datasets → name ∈ w.configs) ∧ (name ∈ w.statuses ↔ name ∈ w.configs)

/-- Operation `i` runs a build of the dataset. -/
def Builds (s : System Gen ι) (name : String) (i : ι) : Prop :=
  ∃ next own, s.threads i = .running (.act (.build name) next) own

/-- Operation `i` is about to put a generation of the dataset into the state map. -/
def Publishes (s : System Gen ι) (name : String) (i : ι) : Prop :=
  ∃ gen next own, s.threads i = .running (.act (.storeDatasets (.insert name gen)) next) own

/-- The keys agree between operations, a rebuild publishes configured datasets only, and
one build of a dataset runs at a time. -/
structure RegistryConsistent (ops : ι → Op Gen) (s : System Gen ι) : Prop where
  keys : (∀ i, (s.threads i).inFlight = false) → s.shared.KeysAgree
  configured : ∀ name i, (ops i).rebuilds → Publishes s name i → name ∈ s.shared.configs
  single : ∀ name i j, Builds s name i → Builds s name j → i = j

theorem keysAgree_iff {w : World Gen ι} : w.KeysAgree ↔ ∀ name, (w.entry name).Keyed := by
  refine forall_congr' fun name => ?_
  simp only [← AList.lookup_isSome]
  exact ⟨fun ⟨published, status⟩ => ⟨Bool.eq_iff_iff.mpr status.symm, published⟩,
    fun ⟨status, published⟩ => ⟨published, Bool.eq_iff_iff.mp status.symm⟩⟩

/-- An operation whose next act is allowed inside only is inside its dataset. -/
theorem Owned.acting {d : Discipline Gen} {ops : ι → Op Gen} {s : System Gen ι} {i : ι}
    {a : Act Gen} {next : Ans a → Task Gen (Except AppError Unit)} {own : Locals Gen}
    (owned : Owned d ops s) (ready : s.threads i = .running (.act a next) own)
    (inner : ∀ stage post, d.rule (ops i) a stage post → ∃ entry, stage = .inside entry) :
    Inside ops s i ∧ a.On true (ops i).name ∧ d.may (ops i) a (s.shared.entry (ops i).name) := by
  obtain ⟨uses, stage, stands, meets⟩ := owned.obeys i _ own ready
  obtain ⟨entry, rfl⟩ := inner stage _ meets
  obtain ⟨inside, rfl⟩ := stands
  exact ⟨inside, uses.1, Discipline.rule_may meets⟩

variable [DecidableEq ι]

/-- Reloads find their dataset still configured when they take its mutex. -/
theorem registry_consistent (tableRef : String → Option String) (ops : ι → Op Gen)
    {w : World Gen ι} (opened : Opened tableRef w) {events : List (Event ι)} {s : System Gen ι}
    (run : Run (System.step tableRef ops) (Orderly (registry false).enters ops) (Pool.initial w)
      events s) : RegistryConsistent ops s := by
  have owned := owned_of_opened opened run
  constructor
  · intro quiet
    refine keysAgree_iff.mpr fun name => (owned.rests name fun i _ inside => ?_).1
    simp only [Inside] at inside
    split at inside
    case h_1 running =>
      have flying := quiet i
      simp [running, Thread.inFlight] at flying
    case h_2 => exact inside
  · rintro name i rebuilds ⟨gen, next, own, ready⟩
    obtain ⟨_, on, may⟩ := owned.acting ready fun stage post rule => by
      cases stage with
      | inside entry => exact ⟨entry, rfl⟩
      | out | left =>
          have unchanged := congrArg Entry.dataset (rule.1 ⟨none, none, none, none⟩)
          cases unchanged
    have same : name = (ops i).name := on
    exact AList.lookup_isSome.mp (same ▸ may.1 rebuilds rfl)
  · rintro name i j ⟨_, _, first⟩ ⟨_, _, second⟩
    obtain ⟨here, on, _⟩ := owned.acting first fun _ _ ⟨entry, inside, _⟩ => ⟨entry, inside⟩
    obtain ⟨there, on', _⟩ := owned.acting second fun _ _ ⟨entry, inside, _⟩ => ⟨entry, inside⟩
    have same : name = (ops i).name := on
    have same' : name = (ops j).name := on'
    exact owned.alone i j here there (same.symm.trans same')

/-- A reload and a removal of one dataset. -/
def reloadAndRemove : Bool → Op Nat
  | false => .reload "a" (.ok 2)
  | true => .unregister "a"

/-- The removal waits for the mutex that the reload holds. -/
theorem registry_consistent_removal_waits : ∃ s : System Nat Bool,
    Run (System.step some reloadAndRemove) (Orderly (registry false).enters reloadAndRemove)
      (Pool.initial (load some [(⟨"a", ⟨true⟩, .eager⟩, 1)]))
      (.start false :: List.replicate 3 (.step false) ++ .start true :: List.replicate 2 (.step true) ++
        List.replicate 12 (.step false) ++ List.replicate 10 (.step true)) s ∧
    (∀ i, (s.threads i).inFlight = false) ∧ RegistryConsistent reloadAndRemove s := by
  have run : Run (System.step some reloadAndRemove)
      (Orderly (registry false).enters reloadAndRemove)
      (Pool.initial (load some [(⟨"a", ⟨true⟩, .eager⟩, 1)]))
      (.start false :: List.replicate 3 (.step false) ++ .start true :: List.replicate 2 (.step true) ++
        List.replicate 12 (.step false) ++ List.replicate 10 (.step true)) _ := run_of_exec rfl
  refine ⟨_, run, fun i => ?_, registry_consistent some reloadAndRemove (.load _) run⟩
  cases i <;> rfl

/-- The reload looks its configuration up, the removal runs, and the reload then makes the
mutex anew and publishes a dataset that is not configured. -/
theorem removed_dataset_published : ¬ ∀ (ops : Bool → Op Nat) (w : World Nat Bool), Opened some w →
    ∀ events s, Run (System.step some ops) Anything (Pool.initial w) events s →
      RegistryConsistent ops s := by
  intro consistent
  have run : Run (System.step some reloadAndRemove) Anything
      (Pool.initial (load some [(⟨"a", ⟨true⟩, .eager⟩, 1)]))
      (.start false :: .step false :: .start true :: List.replicate 12 (.step true) ++
        List.replicate 14 (.step false)) _ := run_of_exec rfl
  have agree := (consistent _ _ (.load _) _ _ run).keys fun i => by cases i <;> rfl
  have configured := (agree "a").1 (AList.lookup_isSome.mp rfl)
  exact absurd (AList.lookup_isSome.mpr configured) (by decide)

end Datapress.DataFusion.Store
