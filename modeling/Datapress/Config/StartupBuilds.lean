import Datapress.Config.Validity
import Datapress.Library.Machine
import Datapress.Refresh.TopologicalOrder

/-! The builds at startup, level by level, and what a failure does to the levels above it. -/
namespace Datapress.Config
open Machine
open Relation (ReflTransGen TransGen)

abbrev Statuses := AList fun _ : String => DatasetStatus × OnStart

def Statuses.mark (seen : Statuses) (name : String) (status : DatasetStatus) : Statuses :=
  match seen.lookup name with
  | some (_, onStart) => seen.insert name (status, onStart)
  | none => seen

/-- How the task of a build comes to its end; `none` when it panics. -/
abbrev Outcome := Option (Except AppError Unit)

/-- The builds of a level take turns: each says that it has begun, and how it has ended. -/
inductive BuildAct where
  | begin (d : DatasetConfig)
  | finish (d : DatasetConfig)

def BuildAct.name : BuildAct → String
  | .begin d | .finish d => d.name

/-- An act with the statuses that its `set_status` has loaded, and stores again with a mark. -/
structure BuildStep where
  act : BuildAct
  seen : Statuses

/-- The statuses and `globally_failed`. `attempted` has the names whose build has begun. -/
structure Startup where
  statuses : Statuses
  globallyFailed : List String := []
  attempted : List String := []

namespace Startup

def setStatus (s : Startup) (name : String) (status : DatasetStatus) : Startup :=
  { s with statuses := s.statuses.mark name status }

def skip (s : Startup) (name : String) : Startup :=
  { s.setStatus name .failed with globallyFailed := name :: s.globallyFailed }

/-- The datasets of a level without those that a failure is upstream of. -/
def premark : List DatasetConfig → Startup → Startup × List DatasetConfig
  | [], s => (s, [])
  | d :: rest, s =>
    match d.failedDep s.globallyFailed with
    | some _ => premark rest (s.skip d.name)
    | none =>
      let (s, toBuild) := premark rest s
      (s, d :: toBuild)

/-- `build_one_startup`, from the status at its begin to the one at its end. A task that panics
leaves the status as it is, and the error of its handle is dropped. -/
def act (builds : DatasetConfig → Outcome) (seen : Statuses) (s : Startup) : BuildAct → Startup
  | .begin d =>
    { s with statuses := seen.mark d.name .building, attempted := d.name :: s.attempted }
  | .finish d =>
    match builds d with
    | some (.ok _) => { s with statuses := seen.mark d.name .published }
    | some (.error _) => { s with statuses := seen.mark d.name .failed }
    | none => s

def step (builds : DatasetConfig → Outcome) (x : BuildStep) (s : Startup) : Option Startup :=
  some (s.act builds x.seen x.act)

/-- The store overwrites no other: the statuses are still those that were loaded. -/
def Clean (s : Startup) (x : BuildStep) : Prop := x.seen = s.statuses

/-- The failures of a level are collected when all its builds are over. -/
def collect (toBuild : List DatasetConfig) (s : Startup) : Startup :=
  let failed := (toBuild.map (·.name)).filter fun name =>
    (s.statuses.lookup name).any fun entry => entry.1 == .failed
  { s with globallyFailed := failed ++ s.globallyFailed }

end Startup

/-- The acts of the builds in any order that has each build begin before it ends. -/
def Interleaves (toBuild : List DatasetConfig) (acts : List BuildAct) : Prop :=
  ∀ name, acts.filter (fun a => a.name = name) =
    (toBuild.filter fun d => d.name = name).flatMap fun d => [.begin d, .finish d]

/-- `spawn_startup_builds` over the levels. -/
inductive StartupRun (builds : DatasetConfig → Outcome) (ok : Startup → BuildStep → Prop) :
    List (List DatasetConfig) → Startup → Startup → Prop where
  | finished (s) : StartupRun builds ok [] s s
  | level {level rest s u t steps}
      (interleaved : Interleaves (s.premark level).2 (steps.map BuildStep.act))
      (ran : Run (Startup.step builds) ok (s.premark level).1 steps u)
      (later : StartupRun builds ok rest (u.collect (s.premark level).2) t) :
      StartupRun builds ok (level :: rest) s t

section
variable {entries : List DatasetConfig} {builds : DatasetConfig → Outcome}

/-- An eager dataset depends on another one. -/
def Needs (entries : List DatasetConfig) (d u : DatasetConfig) : Prop :=
  (d ∈ entries ∧ d.onStart = .eager) ∧ (u ∈ entries ∧ u.onStart = .eager) ∧
    u.name ∈ d.source.dependsOn

def BuildFails (builds : DatasetConfig → Outcome) (d : DatasetConfig) : Prop :=
  ∃ e, builds d = some (.error e)

/-- The build does not come to a good end: it fails or its task panics. -/
def Breaks (builds : DatasetConfig → Outcome) (d : DatasetConfig) : Prop :=
  BuildFails builds d ∨ builds d = none

/-- A build fails among the datasets that the dataset needs, directly or through others. -/
def Doomed (entries : List DatasetConfig) (builds : DatasetConfig → Outcome)
    (d : DatasetConfig) : Prop := ∃ u, TransGen (Needs entries) d u ∧ BuildFails builds u

def Fails (entries : List DatasetConfig) (builds : DatasetConfig → Outcome)
    (d : DatasetConfig) : Prop := Doomed entries builds d ∨ BuildFails builds d

theorem doomed_iff {d : DatasetConfig} :
    Doomed entries builds d ↔ ∃ u, Needs entries d u ∧ Fails entries builds u := by
  constructor
  · rintro ⟨u, path, fails⟩
    obtain ⟨v, needs, rest⟩ := TransGen.head'_iff.mp path
    obtain rfl | further := Relation.reflTransGen_iff_eq_or_transGen.mp rest
    · exact ⟨u, needs, .inr fails⟩
    · exact ⟨v, needs, .inl ⟨u, further, fails⟩⟩
  · rintro ⟨v, needs, ⟨u, path, fails⟩ | fails⟩
    · exact ⟨u, .head needs path, fails⟩
    · exact ⟨v, .single needs, fails⟩

end

/-! ### The statuses -/

namespace Startup
variable {s : Startup} {builds : DatasetConfig → Outcome} {name : String}

def status (s : Startup) (name : String) : Option DatasetStatus :=
  (s.statuses.lookup name).map (·.1)

theorem status_eq_failed :
    ((s.statuses.lookup name).any fun entry => entry.1 == .failed) ↔ s.status name = some .failed := by
  rw [status]
  cases s.statuses.lookup name with
  | none => simp
  | some entry => simp

theorem status_setStatus {other : String} {status : DatasetStatus} :
    (s.setStatus other status).status name =
      (s.status name).map fun old => if name = other then status else old := by
  simp only [Startup.status, setStatus, Statuses.mark]
  by_cases same : name = other
  · subst same
    cases found : s.statuses.lookup name with
    | none => simp [found]
    | some entry => simp
  · simp only [if_neg same]
    rw [Option.map_id']
    cases s.statuses.lookup other with
    | none => rfl
    | some entry => simp only [AList.lookup_insert_ne same]

theorem status_skip {other : String} : (s.skip other).status name =
    (s.status name).map fun old => if name = other then .failed else old := status_setStatus

/-- An act whose store overwrites no other. -/
def acted (builds : DatasetConfig → Outcome) (s : Startup) (a : BuildAct) : Startup :=
  s.act builds s.statuses a

/-- Where no store overwrites another, the acts follow one another. -/
theorem acts_of_clean {steps : List BuildStep} {t : Startup}
    (run : Run (step builds) Clean s steps t) :
    t = (steps.map BuildStep.act).foldl (acted builds) s := by
  induction run with
  | nil => rfl
  | @snoc steps u x v _ clean stepped ih =>
      rw [List.map_append, List.foldl_append, ← ih]
      obtain rfl := Option.some.inj stepped
      exact congrArg (fun seen => u.act builds seen x.act) clean

/-- The status that an act sets. -/
def statusOf (builds : DatasetConfig → Outcome) : BuildAct → Option DatasetStatus
  | .begin _ => some .building
  | .finish d =>
    match builds d with
    | some (.ok _) => some .published
    | some (.error _) => some .failed
    | none => none

/-- A task that panics leaves the status of its begin. -/
theorem statuses_of_turn (d : DatasetConfig) :
    ([.begin d, .finish d].filterMap (statusOf builds)).getLast? =
      some ((statusOf builds (.finish d)).getD .building) := by
  have begun : statusOf builds (.begin d) = some .building := rfl
  rw [List.filterMap_cons_some begun]
  cases ends : statusOf builds (.finish d) with
  | none =>
      rw [List.filterMap_cons_none ends]
      rfl
  | some status =>
      rw [List.filterMap_cons_some ends]
      rfl

theorem status_acted {a : BuildAct} : (s.acted builds a).status name =
    (s.status name).map fun old =>
      if name = a.name then (statusOf builds a).getD old else old := by
  cases a with
  | begin d => exact status_setStatus
  | finish d =>
      rw [acted, act, statusOf]
      cases builds d with
      | none =>
          simp only [Option.getD_none, ite_self]
          exact Option.map_id'.symm
      | some result =>
          cases result with
          | ok => exact status_setStatus
          | error e => exact status_setStatus

/-- The last act on a name that sets a status has set it. -/
theorem status_acts (acts : List BuildAct) :
    (acts.foldl (acted builds) s).status name = (s.status name).map fun old =>
      (((acts.filter fun a => a.name = name).filterMap (statusOf builds)).getLast?).getD old := by
  induction acts using List.reverseRecOn with
  | nil => simp
  | append_singleton acts a ih =>
      rw [List.foldl_append, List.foldl_cons, List.foldl_nil, status_acted, ih, List.filter_append,
        List.filterMap_append, Option.map_map]
      apply congrArg (fun f => Option.map f (s.status name))
      funext old
      by_cases same : name = a.name
      · cases sets : statusOf builds a <;> simp [same, sets]
      · simp [same, Ne.symm same]

@[simp] theorem setStatus_attempted {status : DatasetStatus} :
    (s.setStatus name status).attempted = s.attempted := rfl

theorem globallyFailed_acts (acts : List BuildAct) :
    (acts.foldl (acted builds) s).globallyFailed = s.globallyFailed := by
  induction acts generalizing s with
  | nil => rfl
  | cons a rest ih =>
      rw [List.foldl_cons, ih]
      cases a with
      | begin d => rfl
      | finish d =>
          rw [acted, act]
          split <;> rfl

theorem mem_attempted_acts (acts : List BuildAct) :
    name ∈ (acts.foldl (acted builds) s).attempted ↔
      name ∈ s.attempted ∨ ∃ d, .begin d ∈ acts ∧ d.name = name := by
  induction acts generalizing s with
  | nil => simp
  | cons a rest ih =>
      rw [List.foldl_cons, ih]
      cases a with
      | begin d =>
          simp only [acted, act, List.mem_cons, BuildAct.begin.injEq]
          constructor
          · rintro ((rfl | before) | ⟨u, member, named⟩)
            · exact .inr ⟨d, .inl rfl, rfl⟩
            · exact .inl before
            · exact .inr ⟨u, .inr member, named⟩
          · rintro (before | ⟨u, rfl | member, rfl⟩)
            · exact .inl (.inr before)
            · exact .inl (.inl rfl)
            · exact .inr ⟨u, member, rfl⟩
      | finish d =>
          have same : (s.acted builds (.finish d)).attempted = s.attempted := by
            rw [acted, act]
            split <;> rfl
          simp only [same, List.mem_cons, reduceCtorEq, false_or]

end Startup

theorem Interleaves.begin_mem {toBuild : List DatasetConfig} {acts : List BuildAct}
    (interleaved : Interleaves toBuild acts) {d : DatasetConfig} :
    .begin d ∈ acts ↔ d ∈ toBuild := by
  have same := interleaved d.name
  have here : .begin d ∈ acts ↔ .begin d ∈ acts.filter fun a => a.name = d.name := by
    simp [BuildAct.name]
  rw [here, same]
  simp

theorem Interleaves.filter_eq {toBuild : List DatasetConfig} {acts : List BuildAct}
    (interleaved : Interleaves toBuild acts) (distinct : (toBuild.map (·.name)).Nodup)
    {d : DatasetConfig} (member : d ∈ toBuild) :
    acts.filter (fun a => a.name = d.name) = [.begin d, .finish d] := by
  have single : toBuild.filter (fun u => u.name = d.name) = [d] := by
    clear interleaved
    induction toBuild with
    | nil => cases member
    | cons u rest ih =>
        rw [List.map_cons, List.nodup_cons] at distinct
        obtain rfl | later := List.mem_cons.mp member
        · rw [List.filter_cons_of_pos (by simp), List.filter_eq_nil_iff.mpr]
          intro other among
          rw [decide_eq_true_eq]
          intro same
          exact distinct.1 (same ▸ List.mem_map_of_mem among)
        · rw [List.filter_cons_of_neg, ih distinct.2 later]
          rw [decide_eq_true_eq]
          intro same
          exact distinct.1 (same ▸ List.mem_map_of_mem later)
  rw [interleaved, single]
  rfl

theorem Interleaves.filter_eq_nil {toBuild : List DatasetConfig} {acts : List BuildAct}
    (interleaved : Interleaves toBuild acts) {name : String}
    (absent : name ∉ toBuild.map (·.name)) : acts.filter (fun a => a.name = name) = [] := by
  rw [interleaved, List.filter_eq_nil_iff.mpr, List.flatMap_nil]
  intro d member
  rw [decide_eq_true_eq]
  rintro rfl
  exact absent (List.mem_map_of_mem member)

/-! ### The levels -/

section
variable {entries : List DatasetConfig} {builds : DatasetConfig → Outcome}
  {past : DatasetConfig → Prop} {s : Startup}

/-- What the run has said of the datasets whose turn is past. -/
structure Marks (entries : List DatasetConfig) (builds : DatasetConfig → Outcome)
    (past : DatasetConfig → Prop) (s : Startup) : Prop where
  known : ∀ d ∈ entries, (s.status d.name).isSome
  inside : ∀ d, past d → d ∈ entries ∧ d.onStart = .eager
  sound : ∀ name ∈ s.globallyFailed, ∃ u ∈ entries, u.onStart = .eager ∧ u.name = name ∧
    Fails entries builds u
  complete : ∀ d, past d → Fails entries builds d → d.name ∈ s.globallyFailed
  attempted : ∀ d ∈ entries, d.name ∈ s.attempted ↔ past d ∧ ¬ Doomed entries builds d
  failed : ∀ d, past d → (s.status d.name = some .failed ↔ Fails entries builds d)

/-- A dataset in turn: those it needs have had theirs. -/
def InTurn (entries : List DatasetConfig) (past : DatasetConfig → Prop) (d : DatasetConfig) : Prop :=
  (d ∈ entries ∧ d.onStart = .eager) ∧ ∀ u, Needs entries d u → past u

theorem Marks.failedDep_isSome (marks : Marks entries builds past s) {d : DatasetConfig}
    (turn : InTurn entries past d) :
    (d.failedDep s.globallyFailed).isSome ↔ Doomed entries builds d := by
  rw [Config.failedDep_isSome, doomed_iff]
  constructor
  · rintro ⟨name, failed, listed⟩
    obtain ⟨u, member, eager, rfl, fails⟩ := marks.sound name failed
    exact ⟨u, ⟨turn.1, ⟨member, eager⟩, listed⟩, fails⟩
  · rintro ⟨u, needs, fails⟩
    exact ⟨u.name, marks.complete u (turn.2 u needs) fails, needs.2.2⟩

/-- A dataset that is doomed is marked. -/
theorem Marks.mark (distinct : (entries.map (·.name)).Nodup) (marks : Marks entries builds past s)
    {d : DatasetConfig} (member : d ∈ entries) (eager : d.onStart = .eager)
    (doomed : Doomed entries builds d) :
    Marks entries builds (fun u => past u ∨ u = d) (s.skip d.name) where
  known u other := by
    rw [Startup.status_skip, Option.isSome_map]
    exact marks.known u other
  inside u := by
    rintro (before | rfl)
    · exact marks.inside u before
    · exact ⟨member, eager⟩
  sound := by
    intro name failed
    obtain rfl | before := List.mem_cons.mp failed
    · exact ⟨d, member, eager, rfl, .inl doomed⟩
    · exact marks.sound name before
  complete u := by
    rintro (before | rfl) fails
    · exact List.mem_cons_of_mem _ (marks.complete u before fails)
    · exact List.mem_cons_self
  attempted u other := by
    rw [Startup.skip, Startup.setStatus_attempted, marks.attempted u other]
    constructor
    · rintro ⟨before, safe⟩
      exact ⟨.inl before, safe⟩
    · rintro ⟨before | rfl, safe⟩
      · exact ⟨before, safe⟩
      · exact absurd doomed safe
  failed u turn := by
    rw [Startup.status_skip]
    by_cases same : u = d
    · subst same
      obtain ⟨old, found⟩ := Option.isSome_iff_exists.mp (marks.known u member)
      simp only [found, Option.map_some, if_true, true_iff]
      exact .inl doomed
    · have before : past u := turn.resolve_right same
      have apart : u.name ≠ d.name := fun equal =>
        same (List.inj_on_of_nodup_map distinct (marks.inside u before).1 member equal)
      simp only [if_neg apart, Option.map_id']
      exact marks.failed u before

theorem Marks.congr {other : DatasetConfig → Prop} (marks : Marks entries builds past s)
    (same : ∀ d, past d ↔ other d) : Marks entries builds other s := by
  obtain rfl : past = other := funext fun d => propext (same d)
  exact marks

open Classical in
/-- The datasets that are left to build are those that no failure is upstream of. -/
theorem Marks.premark (distinct : (entries.map (·.name)).Nodup) (level : List DatasetConfig)
    (marks : Marks entries builds past s) (turns : ∀ d ∈ level, InTurn entries past d) :
    (s.premark level).2 = level.filter (fun d => ¬ Doomed entries builds d) ∧
      Marks entries builds (fun u => past u ∨ u ∈ level ∧ Doomed entries builds u)
        (s.premark level).1 := by
  induction level generalizing s past with
  | nil => exact ⟨rfl, marks.congr fun d => by simp⟩
  | cons d rest ih =>
      have turn := turns d List.mem_cons_self
      have doom := marks.failedDep_isSome turn
      rw [Startup.premark]
      cases found : d.failedDep s.globallyFailed with
      | some upstream =>
          dsimp only
          have doomed : Doomed entries builds d := doom.mp (by rw [found]; rfl)
          obtain ⟨left, after⟩ := ih (marks.mark distinct turn.1.1 turn.1.2 doomed)
            fun u among => ⟨(turns u (List.mem_cons_of_mem _ among)).1, fun v needs =>
              .inl ((turns u (List.mem_cons_of_mem _ among)).2 v needs)⟩
          constructor
          · rw [List.filter_cons_of_neg (by simpa using doomed)]
            exact left
          · apply after.congr
            intro u
            rw [List.mem_cons]
            constructor
            · rintro ((before | rfl) | ⟨among, fails⟩)
              · exact .inl before
              · exact .inr ⟨.inl rfl, doomed⟩
              · exact .inr ⟨.inr among, fails⟩
            · rintro (before | ⟨rfl | among, fails⟩)
              · exact .inl (.inl before)
              · exact .inl (.inr rfl)
              · exact .inr ⟨among, fails⟩
      | none =>
          dsimp only
          have safe : ¬ Doomed entries builds d := by
            intro doomed
            have some := doom.mpr doomed
            rw [found] at some
            cases some
          obtain ⟨left, after⟩ := ih marks fun u among => turns u (List.mem_cons_of_mem _ among)
          constructor
          · rw [List.filter_cons_of_pos (by simpa using safe)]
            exact congrArg _ left
          · apply after.congr
            intro u
            rw [List.mem_cons]
            constructor
            · rintro (before | ⟨among, fails⟩)
              · exact .inl before
              · exact .inr ⟨.inr among, fails⟩
            · rintro (before | ⟨rfl | among, fails⟩)
              · exact .inl before
              · exact absurd fails safe
              · exact .inr ⟨among, fails⟩

theorem Marks.build (distinct : (entries.map (·.name)).Nodup) (marks : Marks entries builds past s)
    {toBuild : List DatasetConfig} {acts : List BuildAct} (interleaved : Interleaves toBuild acts)
    (once : (toBuild.map (·.name)).Nodup) (turns : ∀ d ∈ toBuild, InTurn entries past d)
    (safe : ∀ d ∈ toBuild, ¬ Doomed entries builds d) :
    Marks entries builds (fun u => past u ∨ u ∈ toBuild)
      ((acts.foldl (Startup.acted builds) s).collect toBuild) := by
  have status (name : String) : ((acts.foldl (Startup.acted builds) s).collect toBuild).status name =
      (acts.foldl (Startup.acted builds) s).status name := rfl
  have outcome {d : DatasetConfig} (member : d ∈ toBuild) :
      (acts.foldl (Startup.acted builds) s).status d.name =
        some ((Startup.statusOf builds (.finish d)).getD .building) := by
    obtain ⟨old, found⟩ := Option.isSome_iff_exists.mp (marks.known d (turns d member).1.1)
    rw [Startup.status_acts, interleaved.filter_eq once member, found, Startup.statuses_of_turn]
    rfl
  have failed {d : DatasetConfig} (member : d ∈ toBuild) :
      (acts.foldl (Startup.acted builds) s).status d.name = some .failed ↔
        Fails entries builds d := by
    rw [outcome member, Startup.statusOf, Fails, or_iff_right (safe d member), BuildFails]
    cases builds d with
    | none => simp
    | some result => cases result <;> simp
  have other {name : String} (absent : name ∉ toBuild.map (·.name)) :
      (acts.foldl (Startup.acted builds) s).status name = s.status name := by
    rw [Startup.status_acts, interleaved.filter_eq_nil absent]
    cases s.status name <;> rfl
  have collected (name : String) :
      name ∈ ((acts.foldl (Startup.acted builds) s).collect toBuild).globallyFailed ↔
        (∃ d ∈ toBuild, d.name = name ∧ Fails entries builds d) ∨ name ∈ s.globallyFailed := by
    rw [Startup.collect, List.mem_append, Startup.globallyFailed_acts, List.mem_filter,
      List.mem_map]
    apply or_congr_left
    constructor
    · rintro ⟨⟨d, member, rfl⟩, marked⟩
      exact ⟨d, member, rfl, (failed member).mp (Startup.status_eq_failed.mp marked)⟩
    · rintro ⟨d, member, rfl, fails⟩
      exact ⟨⟨d, member, rfl⟩, Startup.status_eq_failed.mpr ((failed member).mpr fails)⟩
  have own {d : DatasetConfig} (inside : d ∈ entries) (named : d.name ∈ toBuild.map (·.name)) :
      d ∈ toBuild := by
    obtain ⟨u, member, same⟩ := List.mem_map.mp named
    obtain rfl := List.inj_on_of_nodup_map distinct (turns u member).1.1 inside same
    exact member
  refine ⟨fun d inside => ?_, ?_, fun name => ?_, ?_, fun d inside => ?_, ?_⟩
  · by_cases named : d.name ∈ toBuild.map (·.name)
    · rw [status, outcome (own inside named)]
      rfl
    · rw [status, other named]
      exact marks.known d inside
  · rintro d (before | member)
    · exact marks.inside d before
    · exact (turns d member).1
  · rw [collected]
    rintro (⟨d, member, rfl, fails⟩ | before)
    · exact ⟨d, (turns d member).1.1, (turns d member).1.2, rfl, fails⟩
    · exact marks.sound name before
  · rintro d turn fails
    rw [collected]
    obtain before | member := turn
    · exact .inr (marks.complete d before fails)
    · exact .inl ⟨d, member, rfl, fails⟩
  · rw [Startup.collect, Startup.mem_attempted_acts, marks.attempted d inside]
    constructor
    · rintro (⟨before, spared⟩ | ⟨u, begun, same⟩)
      · exact ⟨.inl before, spared⟩
      · have member := interleaved.begin_mem.mp begun
        obtain rfl := List.inj_on_of_nodup_map distinct (turns u member).1.1 inside same
        exact ⟨.inr member, safe u member⟩
    · rintro ⟨before | member, spared⟩
      · exact .inl ⟨before, spared⟩
      · exact .inr ⟨d, interleaved.begin_mem.mpr member, rfl⟩
  · intro d turn
    rw [status]
    by_cases member : d ∈ toBuild
    · exact failed member
    · have before := turn.resolve_right member
      rw [other fun named => member (own (marks.inside d before).1 named)]
      exact marks.failed d before

/-- A run over levels that each come after what they need. -/
theorem StartupRun.marks (distinct : (entries.map (·.name)).Nodup)
    {levels : List (List DatasetConfig)} {t : Startup}
    (run : StartupRun builds Startup.Clean levels s t) (marks : Marks entries builds past s) (once : ∀ level ∈ levels, level.Nodup)
    (turns : ∀ first level rest, levels = first ++ level :: rest → ∀ d ∈ level,
      InTurn entries (fun u => past u ∨ u ∈ first.flatten) d) :
    Marks entries builds (fun u => past u ∨ u ∈ levels.flatten) t := by
  classical
  induction run generalizing past with
  | finished s => exact marks.congr fun d => by simp
  | @level level rest s u t steps interleaved ran later ih =>
      have now : ∀ d ∈ level, InTurn entries past d := by
        intro d member
        have turn := turns [] level rest rfl d member
        exact ⟨turn.1, fun u needs => (turn.2 u needs).resolve_right List.not_mem_nil⟩
      obtain ⟨left, marked⟩ := marks.premark distinct level now
      have names : ((s.premark level).2.map (·.name)).Nodup := by
        rw [left]
        apply List.Nodup.map_on
        · intro d first u second same
          apply List.inj_on_of_nodup_map distinct _ _ same
          · exact (now d (List.mem_of_mem_filter first)).1.1
          · exact (now u (List.mem_of_mem_filter second)).1.1
        · exact (once level List.mem_cons_self).filter _
      obtain rfl := Startup.acts_of_clean ran
      have built := marked.build distinct interleaved names
        (fun d member => by
          rw [left] at member
          have turn := now d (List.mem_of_mem_filter member)
          exact ⟨turn.1, fun u needs => .inl (turn.2 u needs)⟩)
        (fun d member => by
          rw [left] at member
          simpa using (List.mem_filter.mp member).2)
      have whole : ∀ d, ((past d ∨ d ∈ level ∧ Doomed entries builds d) ∨ d ∈ (s.premark level).2) ↔
          past d ∨ d ∈ level := by
        intro d
        rw [left, List.mem_filter, decide_eq_true_eq]
        tauto
      have after := ih (built.congr whole) (fun next member =>
        once next (List.mem_cons_of_mem _ member)) fun first next others split d member => by
          have turn := turns (level :: first) next others (congrArg _ split) d member
          refine ⟨turn.1, fun u needs => ?_⟩
          have before := turn.2 u needs
          rwa [List.flatten_cons, List.mem_append, ← or_assoc] at before
      apply after.congr
      intro d
      rw [List.flatten_cons, List.mem_append, or_assoc]

end

/-! ### The start of the server -/

/-- Nothing is built yet. -/
def Startup.start (datasets : List DatasetConfig) : Startup where
  statuses := (datasets.map fun d =>
    (⟨d.name, .pending, d.onStart⟩ : Sigma fun _ : String => DatasetStatus × OnStart)).toAList

def InLevel (levels : List (List DatasetConfig)) (i : Nat) (d : DatasetConfig) : Prop :=
  ∃ level, levels[i]? = some level ∧ d ∈ level

section
variable {datasets entries : List DatasetConfig} {builds : DatasetConfig → Outcome}

/-- The eager datasets that are marked failed without a build are those above a build that has not
come to a good end. -/
def Startup.Propagates (datasets : List DatasetConfig) (builds : DatasetConfig → Outcome)
    (t : Startup) : Prop :=
  ∀ d ∈ datasets, d.onStart = .eager →
    (t.status d.name = some .failed ∧ d.name ∉ t.attempted ↔
      ∃ u, TransGen (Needs datasets) d u ∧ u.name ∈ t.attempted ∧ Breaks builds u)

theorem Startup.status_start {d : DatasetConfig} (member : d ∈ datasets) :
    ((Startup.start datasets).status d.name).isSome := by
  rw [Startup.status, Option.isSome_map, Startup.start, AList.lookup_to_alist,
    List.dlookup_isSome, List.keys, List.map_map]
  exact List.mem_map_of_mem member

theorem marks_start (datasets : List DatasetConfig) (builds : DatasetConfig → Outcome) :
    Marks datasets builds (fun _ => False) (Startup.start datasets) where
  known d member := Startup.status_start member
  inside d impossible := impossible.elim
  sound name impossible := by cases impossible
  complete d impossible := impossible.elim
  attempted d member := by simp [Startup.start]
  failed d impossible := impossible.elim

/-- The datasets that a dataset needs have a lower rank. -/
theorem exists_rank (distinct : (datasets.map (·.name)).Nodup)
    (acyclic : Refresh.Acyclic (datasets.map (·.refreshView))) :
    ∃ rank, Refresh.Ranked rank (datasets.map DatasetConfig.node) := by
  have views : (datasets.map (·.refreshView)).map Refresh.DatasetConfig.node =
      datasets.map DatasetConfig.node := List.map_map
  have names : ((datasets.map (·.refreshView)).map (·.name)).Nodup := by
    rw [List.map_map]
    exact distinct
  rw [← views]
  apply Refresh.exists_ranked (Refresh.names_node ▸ names)
  rw [(Refresh.complete_iff_acyclic names).mpr acyclic, List.length_map, List.length_map,
    List.length_map]

theorem Needs.mem_node (others : ∀ d ∈ datasets, d.source.kind ≠ .query → d.source.dependsOn = [])
    {d u : DatasetConfig} (needs : Needs datasets d u) : u.node.1 ∈ d.node.2 := by
  apply Config.mem_node.mpr
  refine ⟨by_contra fun other => ?_, needs.2.2⟩
  have listed := needs.2.2
  rw [others d needs.1.1 other] at listed
  cases listed

/-- A dataset is doomed by one that is built. -/
theorem Doomed.exists_built {rank : String → Nat} (others : ∀ d ∈ datasets,
      d.source.kind ≠ .query → d.source.dependsOn = [])
    (ranked : Refresh.Ranked rank (datasets.map DatasetConfig.node)) {d : DatasetConfig}
    (doomed : Doomed datasets builds d) :
    ∃ u, TransGen (Needs datasets) d u ∧ ¬ Doomed datasets builds u ∧ BuildFails builds u := by
  have lower {d u : DatasetConfig} (path : TransGen (Needs datasets) d u) :
      rank u.name < rank d.name := by
    have grows : Rank.Grows (fun u d => Needs datasets d u) fun d => rank d.name := by
      intro u d needs
      exact ranked d.node (List.mem_map_of_mem needs.1.1) u.name (needs.mem_node others)
        (List.mem_map_of_mem (List.mem_map_of_mem needs.2.1.1))
    exact grows.lt (Relation.transGen_swap.mp path)
  induction height : rank d.name using Nat.strongRecOn generalizing d with
  | ind bound ih =>
      obtain ⟨u, path, fails⟩ := doomed
      by_cases further : Doomed datasets builds u
      · obtain ⟨v, rest, safe, failed⟩ := ih (rank u.name) (height ▸ lower path) further rfl
        exact ⟨v, path.trans rest, safe, failed⟩
      · exact ⟨u, path, further, fails⟩

theorem nodup_startupLevels (distinct : (datasets.map (·.name)).Nodup)
    (same : entries.Perm datasets) : (startupLevels entries).flatten.Nodup := by
  have eager := List.Nodup.of_map _ (distinct_eager same distinct)
  rw [startupLevels, ← List.filterMap_flatten]
  apply List.Nodup.filterMap
  · intro i j d here there
    exact (List.getElem?_inj (List.getElem?_eq_some_iff.mp here).1 eager).mp (here.trans there.symm)
  · exact Kahn.nodup_levels List.nodup_range Refresh.dependencyEdges_inside

theorem inTurn_startupLevels (distinct : (datasets.map (·.name)).Nodup)
    (same : entries.Perm datasets)
    (others : ∀ d ∈ datasets, d.source.kind ≠ .query → d.source.dependsOn = [])
    {first rest : List (List DatasetConfig)} {level : List DatasetConfig}
    (split : startupLevels entries = first ++ level :: rest) {d : DatasetConfig}
    (member : d ∈ level) : InTurn datasets (· ∈ first.flatten) d := by
  constructor
  · have among : level ∈ startupLevels entries := split ▸ List.mem_append_right _ List.mem_cons_self
    obtain ⟨places, _, rfl⟩ := List.mem_map.mp among
    obtain ⟨i, _, here⟩ := List.mem_filterMap.mp member
    obtain ⟨inside, eager⟩ := List.mem_filter.mp (List.mem_of_getElem? here)
    exact ⟨same.subset inside, beq_iff_eq.mp eager⟩
  · intro u needs
    apply Refresh.before_in_levels (distinct_nodes _ (distinct_eager same distinct) fun _ => rfl)
      split member
    · exact List.mem_filter.mpr ⟨same.symm.subset needs.2.1.1, beq_iff_eq.mpr needs.2.1.2⟩
    · exact needs.mem_node others

theorem mem_startupLevels (distinct : (datasets.map (·.name)).Nodup)
    (same : entries.Perm datasets) {rank : String → Nat}
    (ranked : Refresh.Ranked rank (datasets.map DatasetConfig.node)) {d : DatasetConfig}
    (member : d ∈ datasets) (eager : d.onStart = .eager) :
    d ∈ (startupLevels entries).flatten := by
  have subset : (entries.filter fun d => d.onStart == .eager) ⊆ datasets :=
    fun _ found => same.subset (List.mem_of_mem_filter found)
  obtain ⟨level, among, found⟩ := Refresh.mem_levels (ranked.subset (List.map_subset _ subset))
    (distinct_nodes _ (distinct_eager same distinct) fun _ => rfl)
    (List.mem_filter.mpr ⟨same.symm.subset member, beq_iff_eq.mpr eager⟩)
  exact List.mem_flatten.mpr ⟨_, List.mem_map_of_mem among, found⟩

/-- Without repetitions, no two levels have a dataset. -/
theorem InLevel.unique {levels : List (List DatasetConfig)} (once : levels.flatten.Nodup)
    {i j : Nat} {d : DatasetConfig} (here : InLevel levels i d) (there : InLevel levels j d) :
    i = j := by
  obtain ⟨first, found, member⟩ := here
  obtain ⟨second, found', member'⟩ := there
  have apart := List.pairwise_iff_getElem.mp (List.nodup_flatten.mp once).2
  obtain ⟨inside, rfl⟩ := List.getElem?_eq_some_iff.mp found
  obtain ⟨inside', rfl⟩ := List.getElem?_eq_some_iff.mp found'
  obtain less | equal | more := Nat.lt_trichotomy i j
  · exact absurd member' (apart i j inside inside' less member)
  · exact equal
  · exact absurd member (apart j i inside' inside more member')

/-- Every eager dataset has its level, after those of the datasets it needs. It is skipped when a
build upstream of it does not come to a good end, unless only panics are upstream of it. -/
theorem startup_builds_iff (distinct : (datasets.map (·.name)).Nodup)
    (others : ∀ d ∈ datasets, d.source.kind ≠ .query → d.source.dependsOn = [])
    (acyclic : Refresh.Acyclic (datasets.map (·.refreshView))) (same : entries.Perm datasets) :
    (∀ d ∈ datasets, d.onStart = .eager →
      (∃! i, InLevel (startupLevels entries) i d) ∧
      ∀ i, InLevel (startupLevels entries) i d → ∀ u, Needs datasets d u →
        ∃ j < i, InLevel (startupLevels entries) j u) ∧
    ∀ t, StartupRun builds Startup.Clean (startupLevels entries) (Startup.start datasets) t →
      (t.Propagates datasets builds ↔
      ∀ d u, TransGen (Needs datasets) d u → builds u = none → ¬ Doomed datasets builds u →
        Doomed datasets builds d) := by
  obtain ⟨rank, ranked⟩ := exists_rank distinct acyclic
  have once := nodup_startupLevels distinct same
  have all {d : DatasetConfig} := @mem_startupLevels datasets entries distinct same rank ranked d
  constructor
  · intro d member eager
    constructor
    · obtain ⟨level, among, inside⟩ := List.mem_flatten.mp (all member eager)
      obtain ⟨i, found⟩ := List.mem_iff_getElem?.mp among
      have here : InLevel (startupLevels entries) i d := ⟨level, found, inside⟩
      exact ⟨i, here, fun j there => there.unique once here⟩
    · rintro i ⟨level, here, inside⟩ u needs
      obtain ⟨bound, rfl⟩ := List.getElem?_eq_some_iff.mp here
      have split : startupLevels entries = (startupLevels entries).take i ++
          (startupLevels entries)[i] :: (startupLevels entries).drop (i + 1) := by
        rw [List.getElem_cons_drop, List.take_append_drop]
      have before := (inTurn_startupLevels distinct same others split inside).2 u needs
      obtain ⟨earlier, among, found⟩ := List.mem_flatten.mp before
      obtain ⟨j, less, there⟩ := List.mem_take_iff_getElem.mp among
      exact ⟨j, by omega, earlier, List.getElem?_eq_some_iff.mpr ⟨by omega, there⟩, found⟩
  · intro t run
    have marks := run.marks distinct (marks_start datasets builds) (List.nodup_flatten.mp once).1
      fun first level rest split d inside => by
        simpa only [false_or] using inTurn_startupLevels distinct same others split inside
    have begun {u : DatasetConfig} (member : u ∈ datasets) (eager : u.onStart = .eager) :
        u.name ∈ t.attempted ↔ ¬ Doomed datasets builds u := by
      rw [marks.attempted u member]
      exact and_iff_right (.inr (all member eager))
    have skipped {d : DatasetConfig} (member : d ∈ datasets) (eager : d.onStart = .eager) :
        t.status d.name = some .failed ∧ d.name ∉ t.attempted ↔ Doomed datasets builds d := by
      rw [marks.failed d (.inr (all member eager)), begun member eager, not_not]
      exact and_iff_right_of_imp .inl
    have broken {d : DatasetConfig} :
        (∃ u, TransGen (Needs datasets) d u ∧ u.name ∈ t.attempted ∧ Breaks builds u) ↔
          Doomed datasets builds d ∨
            ∃ u, TransGen (Needs datasets) d u ∧ builds u = none ∧ ¬ Doomed datasets builds u := by
      constructor
      · rintro ⟨u, path, tried, fails | panics⟩
        · exact .inl ⟨u, path, fails⟩
        · obtain ⟨v, _, needs⟩ := TransGen.tail'_iff.mp path
          exact .inr ⟨u, path, panics, (begun needs.2.1.1 needs.2.1.2).mp tried⟩
      · rintro (doomed | ⟨u, path, panics, safe⟩)
        · obtain ⟨u, path, safe, fails⟩ := doomed.exists_built others ranked
          obtain ⟨v, _, needs⟩ := TransGen.tail'_iff.mp path
          exact ⟨u, path, (begun needs.2.1.1 needs.2.1.2).mpr safe, .inl fails⟩
        · obtain ⟨v, _, needs⟩ := TransGen.tail'_iff.mp path
          exact ⟨u, path, (begun needs.2.1.1 needs.2.1.2).mpr safe, .inr panics⟩
    constructor
    · intro marked d u path panics safe
      obtain ⟨v, needs, _⟩ := TransGen.head'_iff.mp path
      have agree := marked d needs.1.1 needs.1.2
      rw [skipped needs.1.1 needs.1.2, broken] at agree
      exact agree.mpr (.inr ⟨u, path, panics, safe⟩)
    · intro excused d member eager
      rw [skipped member eager, broken]
      constructor
      · exact .inl
      · rintro (doomed | ⟨u, path, panics, safe⟩)
        · exact doomed
        · exact excused d u path panics safe

end

/-- The builds of a level may follow one another. -/
theorem interleaves_flatMap (toBuild : List DatasetConfig) :
    Interleaves toBuild (toBuild.flatMap fun d => [.begin d, .finish d]) := by
  intro name
  induction toBuild with
  | nil => rfl
  | cons d rest ih =>
      rw [List.flatMap_cons, List.filter_append, ih]
      by_cases same : d.name = name
      · simp [BuildAct.name, same]
      · simp [BuildAct.name, same]

/-- Builds that follow one another, each act with the statuses it finds. -/
theorem clean_run (builds : DatasetConfig → Outcome) (acts : List BuildAct) (s : Startup) :
    ∃ steps, steps.map BuildStep.act = acts ∧
      Run (Startup.step builds) Startup.Clean s steps (acts.foldl (Startup.acted builds) s) := by
  induction acts generalizing s with
  | nil => exact ⟨[], rfl, .nil s⟩
  | cons a rest ih =>
      obtain ⟨steps, same, run⟩ := ih (s.acted builds a)
      have first : Run (Startup.step builds) Startup.Clean s [⟨a, s.statuses⟩] (s.acted builds a) :=
        Run.single rfl rfl
      exact ⟨⟨a, s.statuses⟩ :: steps, congrArg _ same, first.append run⟩

/-- The start in which no two builds overlap. -/
def Startup.inTurn (builds : DatasetConfig → Outcome) :
    List (List DatasetConfig) → Startup → Startup
  | [], s => s
  | level :: rest, s =>
    let (marked, toBuild) := s.premark level
    let acts := toBuild.flatMap fun d => [.begin d, .finish d]
    Startup.inTurn builds rest ((acts.foldl (acted builds) marked).collect toBuild)

/-- Every start of the server can come to its end. -/
theorem startupRun_inTurn (builds : DatasetConfig → Outcome) (levels : List (List DatasetConfig))
    (s : Startup) : StartupRun builds Startup.Clean levels s (s.inTurn builds levels) := by
  induction levels generalizing s with
  | nil => exact .finished s
  | cons level rest ih =>
      obtain ⟨steps, same, run⟩ := clean_run builds
        ((s.premark level).2.flatMap fun d => [.begin d, .finish d]) (s.premark level).1
      exact .level (same.symm ▸ interleaves_flatMap _) run (ih _)

section Runs

private def eager (name : String) : DatasetConfig :=
  { name, source := { kind := .parquet, location := "data/" ++ name } }

private def eagerDaily : DatasetConfig :=
  { name := "daily"
    source := { kind := .query, sql := some "SELECT id FROM orders", dependsOn := ["orders"] } }

private def three : List DatasetConfig := [eager "orders", eager "items", eagerDaily]

/-- The build of `orders` ends like this, the others are good. -/
private def ordersEnds (outcome : Outcome) (d : DatasetConfig) : Outcome :=
  if d.name = "orders" then outcome else some (.ok ())

private def noRows : Outcome := some (.error (.emptyDataset "no files"))

private theorem daily_needs : TransGen (Needs three) eagerDaily (eager "orders") :=
  .single ⟨⟨by simp [three], rfl⟩, ⟨by simp [three], rfl⟩, by decide⟩

private theorem not_propagated {builds : DatasetConfig → Outcome} {t : Startup}
    (built : "daily" ∈ t.attempted) (tried : "orders" ∈ t.attempted)
    (breaks : Breaks builds (eager "orders")) : ¬ t.Propagates three builds := by
  intro propagates
  have marked := (propagates eagerDaily (by simp [three]) rfl).mpr
    ⟨eager "orders", daily_needs, tried, breaks⟩
  exact marked.2 built

/-- The build of `orders` fails, and `daily` is not built. -/
theorem startup_builds_skips : ∃ t,
    StartupRun (ordersEnds noRows) Startup.Clean (startupLevels three) (Startup.start three) t ∧
    t.status "daily" = some .failed ∧ t.Propagates three (ordersEnds noRows) := by
  have acyclic : Refresh.Acyclic (three.map (·.refreshView)) :=
    (Refresh.complete_iff_acyclic (by decide)).mp (by decide)
  have others : ∀ d ∈ three, d.source.kind ≠ .query → d.source.dependsOn = [] := by decide
  have run := startupRun_inTurn (ordersEnds noRows) (startupLevels three) (Startup.start three)
  refine ⟨_, run, rfl, ?_⟩
  refine ((startup_builds_iff (by decide) others acyclic (.refl _)).2 _ run).mpr ?_
  intro d u _ panics
  rw [ordersEnds] at panics
  split at panics <;> cases panics

private def pending : Statuses := (Startup.start three).statuses

private def bothBegun : Statuses := (pending.mark "orders" .building).mark "items" .building

private def itemsDone : Statuses := bothBegun.mark "items" .published

/-- `orders` and `items` are built at the same time, and the mark of `items` is stored over that of
`orders`. -/
private def crossing : List BuildStep :=
  [⟨.begin (eager "orders"), pending⟩, ⟨.begin (eager "items"), pending.mark "orders" .building⟩,
    ⟨.finish (eager "orders"), bothBegun⟩, ⟨.finish (eager "items"), bothBegun⟩]

private def dailyTurn : List BuildStep :=
  [⟨.begin eagerDaily, itemsDone⟩, ⟨.finish eagerDaily, itemsDone.mark "daily" .building⟩]

/-- The build of `orders` panics, and `daily` is built on nothing; the same happens when the mark of
a build that fails is overwritten. -/
theorem startup_builds_panics :
    (∃ t, StartupRun (ordersEnds none) Startup.Clean (startupLevels three) (Startup.start three) t ∧
      t.status "orders" = some .building ∧ t.status "daily" = some .published ∧
      ¬ t.Propagates three (ordersEnds none)) ∧
    ∃ t, StartupRun (ordersEnds noRows) Anything (startupLevels three) (Startup.start three) t ∧
      t.status "daily" = some .published ∧ ¬ t.Propagates three (ordersEnds noRows) := by
  constructor
  · refine ⟨_, startupRun_inTurn (ordersEnds none) (startupLevels three) (Startup.start three), rfl,
      rfl, ?_⟩
    exact not_propagated (by decide) (by decide) (.inr rfl)
  · have interleaved : Interleaves [eager "orders", eager "items"] (crossing.map BuildStep.act) := by
      intro name
      by_cases orders : "orders" = name
      · subst orders; rfl
      · by_cases items : "items" = name
        · subst items; rfl
        · simp [crossing, BuildAct.name, eager, orders, items]
    have ran : Run (Startup.step (ordersEnds noRows)) Anything (Startup.start three) crossing _ :=
      .snoc (.snoc (.snoc (.single trivial rfl) trivial rfl) trivial rfl) trivial rfl
    have last : Interleaves [eagerDaily] (dailyTurn.map BuildStep.act) :=
      interleaves_flatMap [eagerDaily]
    have run : StartupRun (ordersEnds noRows) Anything
        [[eager "orders", eager "items"], [eagerDaily]] (Startup.start three) _ :=
      .level interleaved ran
        (.level last (.snoc (.single trivial rfl) trivial rfl) (.finished _))
    exact ⟨_, run, rfl, not_propagated (by decide) (by decide) (.inl ⟨_, rfl⟩)⟩

end Runs
end Datapress.Config
