import Mathlib.Data.Fintype.Basic
import Datapress.DataFusion.StoreInvariants

/-! Serving the last good generation. -/
namespace Datapress.DataFusion.Store
open Interleaving Machine

variable {Gen ι : Type} [DecidableEq ι]

/-- A dataset that has been published and not been removed since is ready at once, and its
entry is its last good generation. -/
def ServesLastGood (tableRef : String → Option String) (s : System Gen ι) : Prop :=
  ∀ name gen, s.shared.lastGood.lookup name = some gen →
    s.shared.datasets.lookup name = some gen ∧ ∀ i build own,
      (ensureReady name build).exec (semantics tableRef) i s.shared own =
        some (.ok (), s.shared, own)

/-- Operations that mark a dataset as not published do so before its first publish only,
and find it configured and empty. -/
theorem serves_last_good (tableRef : String → Option String) (ops : ι → Op Gen)
    {w : World Gen ι} (opened : Opened tableRef w) {events : List (Event ι)} {s : System Gen ι}
    (run : Run (System.step tableRef ops) (Orderly (registry true).enters ops) (Pool.initial w)
      events s) : ServesLastGood tableRef s := by
  intro name gen good
  have served : (s.shared.entry name).Served := by
    rcases (owned_of_opened opened run).now name with rest | ⟨_, _, _, _, _, may⟩
    · exact (rest.2 rfl).1
    · exact may.2 rfl
  obtain ⟨dataset, onStart, status⟩ := served gen good
  refine ⟨dataset, fun i build own => ?_⟩
  have answer : s.shared.statuses.lookup name = some (.published, onStart) := status
  simp [ensureReady, Prog.exec, semantics, perform, answer]

/-- A startup build, and the first query of a lazy dataset, in turns. -/
def firstBuilds : Bool → Op Nat
  | false => .startup "a" ⟨false⟩ (.ok 1)
  | true => .ensureReady "b" (.ok 2)

theorem serves_last_good_first_builds : ∃ s : System Nat Bool,
    Run (System.step some firstBuilds) (Orderly (registry true).enters firstBuilds)
      (Pool.initial (newNonblocking [⟨"a", ⟨false⟩, .eager⟩, ⟨"b", ⟨false⟩, .lazy⟩]))
      (.start false :: .start true :: List.replicate 11 (.step false) ++
        List.replicate 17 (.step true)) s ∧
    s.shared.lastGood.lookup "b" = some 2 ∧ ServesLastGood some s := by
  have run : Run (System.step some firstBuilds) (Orderly (registry true).enters firstBuilds)
      (Pool.initial (newNonblocking [⟨"a", ⟨false⟩, .eager⟩, ⟨"b", ⟨false⟩, .lazy⟩]))
      (.start false :: .start true :: List.replicate 11 (.step false) ++
        List.replicate 17 (.step true)) _ := run_of_exec rfl
  exact ⟨_, run, rfl, serves_last_good some firstBuilds (.newNonblocking _) run⟩

/-- A reload marks the dataset it rebuilds as building, so `ensure_ready` refuses it. -/
theorem reload_refuses : ¬ ∀ (ops : Unit → Op Nat) (w : World Nat Unit), Opened some w →
    ∀ events s, Run (System.step some ops) Anything (Pool.initial w) events s →
      ServesLastGood some s := by
  intro serves
  have run : Run (System.step some fun _ => .reload "a" (.ok 2)) Anything
      (Pool.initial (load some [(⟨"a", ⟨false⟩, .eager⟩, 1)]) : System Nat Unit)
      (.start () :: List.replicate 5 (.step ())) _ := run_of_exec rfl
  obtain ⟨_, ready⟩ := serves _ _ (.load [(⟨"a", ⟨false⟩, .eager⟩, 1)]) _ _ run "a" 1 rfl
  have refused := ready () (buildDataset "a" (.ok 2)) default
  cases refused

end Datapress.DataFusion.Store
