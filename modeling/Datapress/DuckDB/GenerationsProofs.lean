import Mathlib.Data.List.Dedup
import Datapress.DuckDB.Course
import Datapress.DuckDB.Generations

/-! What guarded builds and collectors keep of the generations. -/
namespace Datapress.DuckDB.Generations
open Datapress.Storage
open Machine (Run)

variable {backend : StorageBackendKind} {s t : Generations}

/-- What a build has written is there, the view is that of the build that has just made it,
and no collector goes on to delete what is live or is still to be written. -/
structure Sound (backend : StorageBackendKind) (s : Generations) : Prop where
  view : s.ViewExists
  written : ∀ id stage, s.builds.lookup id = some stage → stage.writes → id ∈ s.data
  viewed : ∀ id, s.builds.lookup id = some .viewed → s.view = some id
  unlisted : ∀ id, s.builds.lookup id = some .started →
    id ∉ s.data ∧ id ∉ s.manifests ∧ ∀ collector ∈ s.collectors, id ∉ collector.names
  keeping : ∀ id keepIds, s.builds.lookup id = some (.collecting keepIds) →
    backend = .local ∧ ∀ other, s.Live other → other ∈ s.manifests ∧ other ∈ keepIds
  deleting : ∀ pending, .deleting pending ∈ s.collectors → ∀ id ∈ pending, ¬ s.Live id

theorem AtRest.sound (rest : s.AtRest) : s.Sound backend := by
  have none (id : String) (stage : Stage) : s.builds.lookup id ≠ some stage := by
    rw [rest.builds]
    exact nofun
  refine ⟨rest.view, fun id stage running => absurd running (none id stage),
    fun id running => absurd running (none id _), fun id running => absurd running (none id _),
    fun id _ running => absurd running (none id _), fun _ member => ?_⟩
  rw [rest.collectors] at member
  cases member

/-! ### Lookups -/

@[simp] theorem lookup_atStage {id : String} {stage : Stage} :
    (s.atStage id stage).builds.lookup id = some stage := AList.lookup_insert _

theorem lookup_atStage_ne {id other : String} {stage : Stage} (apart : other ≠ id) :
    (s.atStage id stage).builds.lookup other = s.builds.lookup other := AList.lookup_insert_ne apart

theorem lookup_ended {id other : String} {stage : Stage}
    (running : (s.ended id).builds.lookup other = some stage) :
    s.builds.lookup other = some stage := by
  by_cases same : other = id
  · rw [same, show (s.ended id).builds.lookup id = none from AList.lookup_erase _ _] at running
    cases running
  · rwa [show (s.ended id).builds.lookup other = s.builds.lookup other from
      AList.lookup_erase_ne same] at running

/-- A build that comes to a stage leaves the builds at other stages as they are. -/
theorem lookup_of_atStage {id other : String} {next stage : Stage} (apart : next ≠ stage)
    (running : (s.atStage id next).builds.lookup other = some stage) :
    s.builds.lookup other = some stage := by
  by_cases same : other = id
  · rw [same, lookup_atStage] at running
    exact absurd (Option.some.inj running) apart
  · rwa [lookup_atStage_ne same] at running

theorem live_of_atStage {id other : String} {next : Stage} (idle : next.writes = false)
    (live : (s.atStage id next).Live other) : s.Live other := by
  obtain serves | ⟨stage, running, writes⟩ := live
  · exact .inl serves
  · refine .inr ⟨stage, lookup_of_atStage ?_ running, writes⟩
    rintro rfl
    exact absurd writes (by simp [idle])

theorem mem_without {ids : List String} {id other : String} {gone : Bool} :
    other ∈ (if gone then without ids id else ids) ↔ other ∈ ids ∧ (gone → other ≠ id) := by
  cases gone with
  | true => simp [without]
  | false => simp

theorem mem_manifests_of_newestTwo {id : String} (newest : id ∈ newestTwo s.manifests) :
    id ∈ s.manifests := Newest.newest_subset newest

theorem not_mentions {id : String} (fresh : ¬ s.mentions id) :
    id ∉ s.data ∧ id ∉ s.manifests ∧ s.view ≠ some id ∧ s.builds.lookup id = none ∧
      ∀ collector ∈ s.collectors, id ∉ collector.names := by
  simpa [mentions, and_assoc] using fresh

/-! ### A build that runs alone -/

/-- The build of this id has come to the stage and no other build runs. -/
structure Alone (s : Generations) (id : String) (stage : Stage) : Prop where
  running : s.builds.lookup id = some stage
  others : ∀ other, other ≠ id → s.builds.lookup other = none

theorem Alone.only {id other : String} {stage found : Stage} (alone : s.Alone id stage)
    (running : s.builds.lookup other = some found) : other = id ∧ found = stage := by
  by_cases same : other = id
  · exact ⟨same, Option.some.inj (running.symm.trans (same ▸ alone.running))⟩
  · rw [alone.others other same] at running
    cases running

theorem Alone.live {id other : String} {stage : Stage} (alone : s.Alone id stage)
    (live : s.Live other) : s.view = some other ∨ other = id ∧ stage.writes := by
  obtain serves | ⟨found, running, writes⟩ := live
  · exact .inl serves
  · obtain ⟨same, rfl⟩ := alone.only running
    exact .inr ⟨same, writes⟩

theorem AtRest.alone {id : String} (rest : s.AtRest) :
    (s.atStage id .started).Alone id .started := by
  refine ⟨lookup_atStage, fun other apart => ?_⟩
  rw [lookup_atStage_ne apart, rest.builds]
  rfl

theorem Alone.next {id : String} {stage next : Stage} (alone : s.Alone id stage)
    (builds : t.builds = s.builds.insert id next) : t.Alone id next := by
  refine ⟨?_, fun other apart => ?_⟩
  · rw [builds, AList.lookup_insert]
  · rw [builds, AList.lookup_insert_ne apart]
    exact alone.others other apart

/-! ### One move -/

/-- A new build is neither live nor listed. -/
theorem Sound.start {id : String} (sound : s.Sound backend) (fresh : ¬ s.mentions id) :
    (s.atStage id .started).Sound backend := by
  obtain ⟨unwritten, unsealed, _, _, unlisted⟩ := not_mentions fresh
  refine ⟨sound.view, fun other stage running writes => ?_, fun other running => ?_,
    fun other running => ?_, fun other keepIds running => ?_, fun pending member other inside live => ?_⟩
  · refine sound.written other stage (lookup_of_atStage ?_ running) writes
    rintro rfl
    cases writes
  · exact sound.viewed other (lookup_of_atStage (by decide) running)
  · by_cases same : other = id
    · rw [same]
      exact ⟨unwritten, unsealed, unlisted⟩
    · rw [lookup_atStage_ne same] at running
      exact sound.unlisted other running
  · obtain ⟨isLocal, kept⟩ := sound.keeping other keepIds (lookup_of_atStage (by simp) running)
    exact ⟨isLocal, fun another live => kept another (live_of_atStage rfl live)⟩
  · exact sound.deleting pending member other inside (live_of_atStage rfl live)

/-- A build that comes to its next stage writes nothing but its own generation. -/
theorem Sound.advance {id : String} {stage next : Stage} (sound : s.Sound backend)
    (running : s.builds.lookup id = some stage) (builds : t.builds = s.builds.insert id next)
    (ahead : next ≠ .started ∧ ∀ keepIds, next ≠ .collecting keepIds)
    (early : stage.writes ∨ stage = .started ∧
      ∀ other keepIds, s.builds.lookup other ≠ some (.collecting keepIds))
    (collectors : t.collectors = s.collectors)
    (data : t.data = id :: s.data ∨ id ∈ s.data ∧ t.data = s.data)
    (manifests : t.manifests = s.manifests ∨ t.manifests = id :: s.manifests)
    (view : t.view = s.view ∨ t.view = some id)
    (viewed : ∀ other, t.builds.lookup other = some .viewed → t.view = some other) :
    t.Sound backend := by
  have written : id ∈ t.data ∧ (∀ other ∈ s.data, other ∈ t.data) ∧
      ∀ other ∈ t.data, other = id ∨ other ∈ s.data := by
    obtain data | ⟨there, data⟩ := data
    · rw [data]
      exact ⟨List.mem_cons_self, fun _ => List.mem_cons_of_mem _, fun _ => List.mem_cons.mp⟩
    · rw [data]
      exact ⟨there, fun _ inside => inside, fun _ => .inr⟩
  have isSealed : (∀ other ∈ s.manifests, other ∈ t.manifests) ∧
      ∀ other ∈ t.manifests, other = id ∨ other ∈ s.manifests := by
    obtain manifests | manifests := manifests
    · rw [manifests]
      exact ⟨fun _ inside => inside, fun _ => .inr⟩
    · rw [manifests]
      exact ⟨fun _ => List.mem_cons_of_mem _, fun _ => List.mem_cons.mp⟩
  obtain ⟨own, older, new⟩ := written
  have others {other : String} (apart : other ≠ id) :
      t.builds.lookup other = s.builds.lookup other := by
    rw [builds, AList.lookup_insert_ne apart]
  have live {other : String} (live : t.Live other) : other = id ∨ s.Live other := by
    by_cases same : other = id
    · exact .inl same
    · obtain serves | ⟨stage, running, writes⟩ := live
      · obtain unmoved | moved := view
        · exact .inr (.inl (unmoved ▸ serves))
        · exact absurd (Option.some.inj (serves.symm.trans moved)) same
      · rw [others same] at running
        exact .inr (.inr ⟨stage, running, writes⟩)
  refine ⟨fun other serves => ?_, fun other stage running writes => ?_, viewed,
    fun other running => ?_, fun other keepIds running => ?_, fun pending member other inside alive => ?_⟩
  · obtain same | same := view
    · exact older other (sound.view other (same ▸ serves))
    · obtain rfl := Option.some.inj (same.symm.trans serves)
      exact own
  · by_cases same : other = id
    · rw [same]
      exact own
    · rw [others same] at running
      exact older other (sound.written other stage running writes)
  · by_cases same : other = id
    · rw [same, builds, AList.lookup_insert] at running
      exact absurd (Option.some.inj running) ahead.1
    · rw [others same] at running
      obtain ⟨unwritten, unsealed, unlisted⟩ := sound.unlisted other running
      refine ⟨fun there => ?_, fun there => ?_, by rw [collectors]; exact unlisted⟩
      · exact unwritten ((new other there).resolve_left same)
      · exact unsealed ((isSealed.2 other there).resolve_left same)
  · by_cases same : other = id
    · rw [same, builds, AList.lookup_insert] at running
      exact absurd (Option.some.inj running) (ahead.2 keepIds)
    · rw [others same] at running
      obtain ⟨isLocal, kept⟩ := sound.keeping other keepIds running
      refine ⟨isLocal, fun another alive => ?_⟩
      -- The generation of this build was live before, or no other build collects.
      have before : s.Live another := by
        obtain rfl | before := live alive
        · obtain writes | ⟨_, none⟩ := early
          · exact .inr ⟨stage, ‹_›, writes⟩
          · exact absurd ‹s.builds.lookup other = _› (none other keepIds)
        · exact before
      obtain ⟨isComplete, inside⟩ := kept another before
      exact ⟨isSealed.1 another isComplete, inside⟩
  · rw [collectors] at member
    obtain rfl | before := live alive
    · -- The generation of this build was live before, or no collector had it listed.
      obtain writes | ⟨rfl, _⟩ := early
      · exact sound.deleting pending member other inside (.inr ⟨stage, running, writes⟩)
      · exact (sound.unlisted other running).2.2 _ member inside
    · exact sound.deleting pending member other inside before

/-- Builds may end or begin to collect and files go, except those of the live generations. -/
theorem Sound.of_fewer (sound : s.Sound backend)
    (view : t.view = s.view ∨ t.view = none ∧ ∀ id, s.builds.lookup id ≠ some .viewed)
    (builds : ∀ id stage, t.builds.lookup id = some stage → s.builds.lookup id = some stage ∨
      backend = .local ∧ ∃ keepIds, stage = .collecting keepIds ∧
        ∀ other, s.Live other → other ∈ s.manifests ∧ other ∈ keepIds)
    (fewer : (∀ id ∈ t.data, id ∈ s.data) ∧ ∀ id ∈ t.manifests, id ∈ s.manifests)
    (kept : ∀ id, s.Live id → (id ∈ s.data → id ∈ t.data) ∧ (id ∈ s.manifests → id ∈ t.manifests))
    (collectors : ∀ collector ∈ t.collectors, collector ∈ s.collectors ∨
      (∀ id ∈ collector.names, s.builds.lookup id ≠ some .started) ∧
        ∀ pending, collector = .deleting pending → ∀ id ∈ pending, ¬ s.Live id) :
    t.Sound backend := by
  have served {id : String} (serves : t.view = some id) : s.view = some id := by
    obtain same | ⟨gone, _⟩ := view
    · exact same ▸ serves
    · cases gone.symm.trans serves
  have older {id : String} {stage : Stage} (apart : ∀ keepIds, stage ≠ .collecting keepIds)
      (running : t.builds.lookup id = some stage) : s.builds.lookup id = some stage := by
    obtain before | ⟨_, keepIds, same, _⟩ := builds id stage running
    · exact before
    · exact absurd same (apart keepIds)
  have writing {id : String} {stage : Stage} (running : t.builds.lookup id = some stage)
      (writes : stage.writes) : s.builds.lookup id = some stage := by
    refine older ?_ running
    rintro keepIds rfl
    cases writes
  have live {id : String} (live : t.Live id) : s.Live id := by
    obtain serves | ⟨stage, running, writes⟩ := live
    · exact .inl (served serves)
    · exact .inr ⟨stage, writing running writes, writes⟩
  refine ⟨fun id serves => ?_, fun id stage running writes => ?_, fun id running => ?_,
    fun id running => ?_, fun id keepIds running => ?_, fun pending member id inside alive => ?_⟩
  · have before := served serves
    exact (kept id (.inl before)).1 (sound.view id before)
  · have before := writing running writes
    exact (kept id (.inr ⟨stage, before, writes⟩)).1 (sound.written id stage before writes)
  · have before := older (by simp) running
    obtain same | ⟨_, none⟩ := view
    · rw [same]
      exact sound.viewed id before
    · exact absurd before (none id)
  · have before := older (by simp) running
    obtain ⟨unwritten, unsealed, unlisted⟩ := sound.unlisted id before
    refine ⟨fun there => unwritten (fewer.1 id there), fun there => unsealed (fewer.2 id there),
      fun collector member inside => ?_⟩
    obtain older | ⟨names, _⟩ := collectors collector member
    · exact unlisted collector older inside
    · exact names id inside before
  · have keeps : backend = .local ∧
        ∀ other, s.Live other → other ∈ s.manifests ∧ other ∈ keepIds := by
      obtain before | ⟨isLocal, same, ⟨⟩, keeps⟩ := builds id _ running
      · exact sound.keeping id keepIds before
      · exact ⟨isLocal, keeps⟩
    refine ⟨keeps.1, fun other alive => ?_⟩
    obtain ⟨isComplete, inside⟩ := keeps.2 other (live alive)
    exact ⟨(kept other (live alive)).2 isComplete, inside⟩
  · obtain older | ⟨_, dead⟩ := collectors _ member
    · exact sound.deleting pending older id inside (live alive)
    · exact dead pending rfl id inside (live alive)

theorem Sound.of_same_files (sound : s.Sound backend)
    (files : t.data = s.data ∧ t.manifests = s.manifests)
    (view : t.view = s.view ∨ t.view = none ∧ ∀ id, s.builds.lookup id ≠ some .viewed)
    (builds : ∀ id stage, t.builds.lookup id = some stage → s.builds.lookup id = some stage ∨
      backend = .local ∧ ∃ keepIds, stage = .collecting keepIds ∧
        ∀ other, s.Live other → other ∈ s.manifests ∧ other ∈ keepIds)
    (collectors : ∀ collector ∈ t.collectors, collector ∈ s.collectors ∨
      (∀ id ∈ collector.names, s.builds.lookup id ≠ some .started) ∧
        ∀ pending, collector = .deleting pending → ∀ id ∈ pending, ¬ s.Live id) :
    t.Sound backend := by
  obtain ⟨data, manifests⟩ := files
  refine sound.of_fewer view builds ?_ ?_ collectors
  · rw [data, manifests]
    exact ⟨fun _ there => there, fun _ there => there⟩
  · rw [data, manifests]
    exact fun _ _ => ⟨fun there => there, fun there => there⟩

/-- A collector that goes on names nothing new, and what it is to delete is not live. -/
theorem Sound.atPhase {j : Nat} {collector next : Collector} (sound : s.Sound backend)
    (here : s.collectors[j]? = some collector)
    (names : ∀ id ∈ next.names, id ∈ collector.names ∨ id ∈ s.data ∨ id ∈ s.manifests)
    (dead : ∀ pending, next = .deleting pending → ∀ id ∈ pending, ¬ s.Live id) :
    (s.atPhase j next).Sound backend := by
  refine sound.of_same_files ⟨rfl, rfl⟩ (.inl rfl) (fun _ _ => .inl) fun other member => ?_
  obtain older | rfl := List.mem_or_eq_of_mem_set member
  · exact .inl older
  · refine .inr ⟨fun id inside running => ?_, dead⟩
    obtain ⟨unwritten, unsealed, unlisted⟩ := sound.unlisted id running
    obtain listed | written | isSealed := names id inside
    · exact unlisted collector (List.mem_of_getElem? here) listed
    · exact unwritten written
    · exact unsealed isSealed

theorem Sound.removed {id : String} {data manifest : Bool} (sound : s.Sound backend)
    (dead : ¬ s.Live id) : (s.removed id data manifest).Sound backend := by
  refine sound.of_fewer (.inl rfl) (fun _ _ => .inl)
    ⟨fun _ left => (mem_without.mp left).1, fun _ left => (mem_without.mp left).1⟩
    (fun other live => ?_) fun _ => .inl
  have apart : other ≠ id := fun same => dead (same ▸ live)
  exact ⟨fun there => mem_without.mpr ⟨there, fun _ => apart⟩,
    fun there => mem_without.mpr ⟨there, fun _ => apart⟩⟩

theorem Sound.ended {id : String} (sound : s.Sound backend) : (s.ended id).Sound backend :=
  sound.of_same_files ⟨rfl, rfl⟩ (.inl rfl) (fun _ _ running => .inl (lookup_ended running))
    fun _ => .inl

/-- What is removed in a build was not kept. -/
theorem Sound.dead {id generation : String} {keepIds : List String} (sound : s.Sound backend)
    (running : s.builds.lookup id = some (.collecting keepIds))
    (dropped : ¬ (generation ∈ s.manifests ∧ generation ∈ keepIds)) : ¬ s.Live generation :=
  fun live => dropped ((sound.keeping id keepIds running).2 generation live)

theorem sound_step {move : Move} (sound : s.Sound backend) (guarded : s.Guarded backend move)
    (stepped : step backend move s = some t) : t.Sound backend := by
  cases move with
  | start id =>
      obtain ⟨fresh, same⟩ := Option.ite_none_left_eq_some.mp stepped
      cases same
      exact sound.start fresh
  | keepInMemory id =>
      simp only [step] at stepped
      split at stepped
      case h_2 => cases stepped
      case h_1 running =>
        cases stepped
        exact sound.of_same_files ⟨rfl, rfl⟩ (.inr ⟨rfl, guarded⟩)
          (fun _ _ running => .inl (lookup_ended running)) fun _ => .inl
  | createDir id =>
      simp only [step] at stepped
      split at stepped
      case h_2 => cases stepped
      case h_1 running =>
        cases stepped
        exact sound.advance running rfl ⟨nofun, nofun⟩ (.inr ⟨rfl, guarded⟩) rfl (.inl rfl) (.inl rfl)
          (.inl rfl) fun other viewed => sound.viewed other (lookup_of_atStage (by decide) viewed)
  | copy id =>
      simp only [step] at stepped
      split at stepped
      case h_3 => cases stepped
      case h_1 running =>
        obtain ⟨there, same⟩ := Option.ite_none_right_eq_some.mp stepped
        cases same
        exact sound.advance running rfl ⟨nofun, nofun⟩ (.inl rfl) rfl (.inr ⟨there, rfl⟩) (.inl rfl)
          (.inl rfl) fun other viewed => sound.viewed other (lookup_of_atStage (by decide) viewed)
      case h_2 running =>
        cases stepped
        -- On S3 no build collects.
        have none (other : String) (keepIds : List String) :
            s.builds.lookup other ≠ some (.collecting keepIds) := fun collects =>
          nomatch (sound.keeping other keepIds collects).1
        exact sound.advance running rfl ⟨nofun, nofun⟩ (.inr ⟨rfl, none⟩) rfl (.inl rfl) (.inl rfl)
          (.inl rfl) fun other viewed => sound.viewed other (lookup_of_atStage (by decide) viewed)
  | createView id =>
      simp only [step] at stepped
      split at stepped
      case h_2 => cases stepped
      case h_1 running =>
        obtain ⟨there, same⟩ := Option.ite_none_right_eq_some.mp stepped
        cases same
        refine sound.advance running rfl ⟨nofun, nofun⟩ (.inl rfl) rfl (.inr ⟨there, rfl⟩) (.inl rfl)
          (.inr rfl) fun other viewed => ?_
        -- No other build waits for its manifest.
        by_cases same : other = id
        · rw [same]
        · rw [lookup_atStage_ne same] at viewed
          exact absurd viewed (guarded other)
  | writeManifest id =>
      simp only [step] at stepped
      split at stepped
      case h_2 => cases stepped
      case h_1 running =>
        cases stepped
        have there := sound.written id _ running rfl
        exact sound.advance running rfl ⟨nofun, nofun⟩ (.inl rfl) rfl (.inr ⟨there, rfl⟩) (.inr rfl)
          (.inl rfl) fun other viewed => sound.viewed other (lookup_of_atStage (by decide) viewed)
  | collect id =>
      simp only [step] at stepped
      split at stepped
      case h_3 => cases stepped
      case h_1 running =>
        cases stepped
        refine sound.of_same_files ⟨rfl, rfl⟩ (.inl rfl) (fun other stage running => ?_) fun _ => .inl
        by_cases same : stage = .collecting (newestTwo s.manifests)
        · refine .inr ⟨rfl, _, same, fun another live => ?_⟩
          have newest := guarded rfl another live
          exact ⟨mem_manifests_of_newestTwo newest, newest⟩
        · exact .inl (lookup_of_atStage (Ne.symm same) running)
      case h_2 running =>
        cases stepped
        refine sound.of_same_files ⟨rfl, rfl⟩ (.inl rfl)
          (fun _ _ running => .inl (lookup_ended running)) fun collector member => ?_
        obtain older | new := List.mem_append.mp member
        · exact .inl older
        · obtain rfl := List.mem_singleton.mp new
          exact .inr ⟨nofun, nofun⟩
  | remove id generation data manifest =>
      simp only [step] at stepped
      split at stepped
      case h_2 => cases stepped
      case h_1 running =>
        obtain ⟨dropped, same⟩ := Option.ite_none_left_eq_some.mp stepped
        cases same
        exact sound.removed (sound.dead running dropped)
  | finish id =>
      obtain ⟨_, same⟩ := Option.ite_none_right_eq_some.mp stepped
      cases same
      exact sound.ended
  | list j =>
      simp only [step] at stepped
      split at stepped
      case h_2 => cases stepped
      case h_1 here =>
        cases stepped
        refine sound.atPhase here (fun id inside => .inr ?_) nofun
        exact List.mem_append.mp (List.mem_dedup.mp inside)
  | head j found =>
      simp only [step] at stepped
      split at stepped
      case h_2 => cases stepped
      case h_1 here =>
        split at stepped
        case isFalse =>
          cases stepped
          exact sound.atPhase here (fun _ => .inl) nofun
        case isTrue =>
          obtain ⟨_, same⟩ := Option.ite_none_right_eq_some.mp stepped
          cases same
          exact sound.atPhase here (fun _ => .inl) nofun
  | decide j =>
      simp only [step] at stepped
      split at stepped
      case h_2 => cases stepped
      case h_1 listed complete here =>
        cases stepped
        refine sound.atPhase here (fun id inside => .inl (List.mem_filter.mp inside).1) ?_
        rintro _ ⟨⟩ id inside live
        obtain ⟨known, dropped⟩ := List.mem_filter.mp inside
        have kept := guarded listed complete here id known live
        simp [kept] at dropped
  | delete j data manifest =>
      simp only [step] at stepped
      split at stepped
      case h_2 => cases stepped
      case h_1 id rest here =>
        cases stepped
        have dead := sound.deleting _ (List.mem_of_getElem? here)
        have further : (s.atPhase j (.deleting rest)).Sound backend := by
          refine sound.atPhase here (fun _ inside => .inl (List.mem_cons_of_mem _ inside)) ?_
          rintro _ ⟨⟩ other inside
          exact dead other (List.mem_cons_of_mem _ inside)
        exact further.removed (dead id List.mem_cons_self)
  | stop j =>
      obtain ⟨_, same⟩ := Option.ite_none_right_eq_some.mp stepped
      cases same
      exact sound.of_same_files ⟨rfl, rfl⟩ (.inl rfl) (fun _ _ => .inl)
        fun _ member => .inl (List.mem_of_mem_eraseIdx member)

theorem careful_of_sound {move : Move} (sound : s.Sound backend)
    (stepped : step backend move s = some t) : s.Careful move := by
  cases move with
  | writeManifest id =>
      simp only [step] at stepped
      split at stepped
      case h_2 => cases stepped
      case h_1 running => exact sound.viewed id running
  | remove id generation data manifest =>
      simp only [step] at stepped
      split at stepped
      case h_2 => cases stepped
      case h_1 running => exact sound.dead running (Option.ite_none_left_eq_some.mp stepped).1
  | delete j data manifest =>
      intro id rest here
      exact sound.deleting _ (List.mem_of_getElem? here) id List.mem_cons_self
  | start id => trivial
  | keepInMemory id => trivial
  | createDir id => trivial
  | copy id => trivial
  | createView id => trivial
  | collect id => trivial
  | finish id => trivial
  | list j => trivial
  | head j found => trivial
  | decide j => trivial
  | stop j => trivial

/-- Guarded builds and collectors leave the served data alone, and write a manifest only for
what is served. -/
theorem generations_safe {moves : List Move} (rest : s.AtRest)
    (run : Run (step backend) (Guarded backend) s moves t) :
    Run (step backend) Careful s moves t ∧ t.ViewExists := by
  have start : s.Sound backend := rest.sound
  obtain ⟨careful, sound⟩ := run.strengthen start
    (fun sound guarded stepped => sound_step sound guarded stepped)
    fun sound _ stepped => careful_of_sound sound stepped
  exact ⟨careful, sound.view⟩

/-- A build on local storage that removes the oldest of three generations. -/
theorem generations_safe_oldest_removed : ∃ t,
    Run (step .local) Careful { data := ["2", "1"], manifests := ["2", "1"], view := some "2" }
      [.start "3", .createDir "3", .copy "3", .createView "3", .writeManifest "3", .collect "3",
        .remove "3" "1" true true] t ∧ t.ViewExists ∧ t.data = ["3", "2"] := by
  have rest : AtRest { data := ["2", "1"], manifests := ["2", "1"], view := some "2" } :=
    ⟨rfl, rfl, by rintro id ⟨⟩; decide⟩
  refine ⟨_, and_assoc.mp ⟨generations_safe rest (.snoc (.snoc (.snoc (.snoc (.snoc (.snoc (.snoc
    (.nil _) trivial rfl) ?_ rfl) trivial rfl) ?_ rfl) trivial rfl) ?_ rfl) trivial rfl), rfl⟩⟩
  · intro id keepIds running
    cases (rest.alone.only running).2
  · intro id running
    cases ((rest.alone.next rfl |>.next rfl).only running).2
  · intro _ id live
    obtain ⟨⟨⟩⟩ | ⟨_, ⟨⟩⟩ := Alone.live (rest.alone.next rfl |>.next rfl |>.next rfl |>.next rfl) live
    decide

/-- The second build writes its manifest after a collector has looked for it. -/
def overtaken : List Move :=
  [.start "1", .copy "1", .createView "1", .writeManifest "1", .collect "1", .start "2", .copy "2",
    .list 0, .head 0 false, .head 0 true, .decide 0, .createView "2", .writeManifest "2"]

/-- The generation that the view serves is deleted. -/
theorem overtaken_generation_deleted : AtRest {} ∧ ∃ t,
    Run (step .s3) Machine.Anything {} (overtaken ++ [.delete 0 true true]) t ∧ ¬ t.ViewExists ∧
      ¬ Run (step .s3) Careful {} (overtaken ++ [.delete 0 true true]) t := by
  have before : Run (step .s3) Machine.Anything {} overtaken _ := Machine.run_of_exec rfl
  refine ⟨⟨rfl, rfl, nofun⟩, _, .snoc before trivial rfl, fun there => ?_, fun run => ?_⟩
  · exact absurd (there "2" rfl) (by decide)
  · obtain ⟨t, careful, allowed, _⟩ := run.last
    obtain rfl := before.unique (careful.weaken fun _ _ _ => trivial)
    exact allowed "2" [] rfl (.inl rfl)

/-! ### The build of the code -/

/-- The files and the view of a state without a running build. -/
structure Shows (s : Generations) (data manifests : List String) (view : Option String) : Prop where
  data : s.data = data
  manifests : s.manifests = manifests
  view : s.view = view
  idle : ∀ id, s.builds.lookup id = none

theorem Alone.ended {id : String} {stage : Stage} (alone : s.Alone id stage) (other : String) :
    (s.ended id).builds.lookup other = none := by
  by_cases same : other = id
  · rw [same]
    exact AList.lookup_erase _ _
  · exact (AList.lookup_erase_ne same).trans (alone.others other same)

theorem Alone.finish {id : String} {stage : Stage} (alone : s.Alone id stage) :
    step backend (.finish id) s = some (s.ended id) := by
  simp only [step, alone.running]
  rfl

theorem Alone.copies {id : String} (backend : StorageBackendKind) (alone : s.Alone id .started) :
    ∃ moves t, Run (step backend) Machine.Anything s moves t ∧ t.Alone id .copied ∧
      t.data = id :: s.data ∧ t.manifests = s.manifests ∧ t.view = s.view := by
  cases backend with
  | s3 =>
      have stepped : step .s3 (.copy id) s = some { s.atStage id .copied with data := id :: s.data } := by
        simp only [step, alone.running]
      exact ⟨_, _, .single trivial stepped, alone.next rfl, rfl, rfl, rfl⟩
  | «local» =>
      let made := { s.atStage id .writing with data := id :: s.data }
      have writing : made.Alone id .writing := alone.next rfl
      have first : step .local (.createDir id) s = some made := by
        simp only [step, alone.running]
        rfl
      have second : step .local (.copy id) made = some (made.atStage id .copied) := by
        simp only [step, writing.running]
        exact if_pos List.mem_cons_self
      exact ⟨_, _, .snoc (.single trivial first) trivial second, writing.next rfl, rfl, rfl, rfl⟩

theorem filter_without {ids removed : List String} {id : String} :
    (without ids id).filter (fun other => !removed.contains other) =
      ids.filter fun other => !(id :: removed).contains other := by
  rw [without, List.filter_filter]
  refine List.filter_congr fun other _ => ?_
  simp only [List.contains_cons, Bool.not_or, Bool.and_comm, bne]

/-- One directory after the other is removed. -/
theorem Alone.removes {id : String} {keepIds : List String} (alone : s.Alone id (.collecting keepIds))
    (backend : StorageBackendKind) (removed : List String)
    (dropped : ∀ other ∈ removed, ¬ (other ∈ s.manifests ∧ other ∈ keepIds)) :
    ∃ moves t, Run (step backend) Machine.Anything s moves t ∧ t.Alone id (.collecting keepIds) ∧
      t.data = s.data.filter (fun other => !removed.contains other) ∧
      t.manifests = s.manifests.filter (fun other => !removed.contains other) ∧ t.view = s.view := by
  induction removed generalizing s with
  | nil => exact ⟨[], s, .nil s, alone, by simp, by simp, rfl⟩
  | cons other rest ih =>
      have stepped : step backend (.remove id other true true) s =
          some (s.removed other true true) := by
        simp only [step, alone.running]
        exact if_neg (dropped other List.mem_cons_self)
      obtain ⟨moves, t, run, still, data, manifests, view⟩ :=
        ih (s := s.removed other true true) ⟨alone.running, alone.others⟩ fun another inside kept =>
          dropped another (List.mem_cons_of_mem _ inside) ⟨(List.mem_filter.mp kept.1).1, kept.2⟩
      exact ⟨_, t, (Run.single trivial stepped).append run, still, data.trans filter_without,
        manifests.trans filter_without, view⟩

section
variable {Rows : Type}

def served (name : String) (db : Db Rows) : Option String :=
  match db.relations.lookup name with
  | some (.view (.generation id)) => some id
  | _ => none

/-- The generations as the engine and the directory of the dataset show them. -/
def ofDb (name : String) (db : Db Rows) : Generations where
  data := db.dir.keys
  manifests := db.dir.complete
  view := served name db

theorem served_gcStorage {name : String} {storage : MaterializationStorage} {stuck : List String}
    {db : Db Rows} : served name (gcStorage storage stuck db) = served name db := by
  rw [gcStorage]
  cases storage.backend with
  | s3 => rfl
  | «local» => rfl

/-- `gc_storage` ends as its moves do. -/
theorem Alone.collects {id : String} {storage : MaterializationStorage} {stuck : List String}
    {db : Db Rows} (alone : s.Alone id .sealed) (data : s.data = db.dir.keys)
    (manifests : s.manifests = db.dir.complete) : ∃ moves t,
      Run (step storage.backend) Machine.Anything s moves t ∧
        t.Shows (gcStorage storage stuck db).dir.keys (gcStorage storage stuck db).dir.complete
          s.view := by
  rw [gcStorage]
  cases backend : storage.backend with
  | s3 =>
      have stepped : step .s3 (.collect id) s =
          some { s.ended id with collectors := s.collectors ++ [.started] } := by
        simp only [step, alone.running]
      exact ⟨_, _, .single trivial stepped, data, manifests, rfl, alone.ended⟩
  | «local» =>
      have stepped : step .local (.collect id) s =
          some (s.atStage id (.collecting (newestTwo s.manifests))) := by
        simp only [step, alone.running]
      let left := db.dir.left db.dir.newestTwo stuck
      have dropped : ∀ other ∈ db.dir.keys.filter (!left ·),
          ¬ (other ∈ s.manifests ∧ other ∈ newestTwo s.manifests) := by
        rintro other inside ⟨isComplete, newest⟩
        rw [manifests] at isComplete newest
        rw [newestTwo, ← DatasetDir.newestTwo_eq] at newest
        have gone := (List.mem_filter.mp inside).2
        simp [left, DatasetDir.left, isComplete, newest] at gone
      have listed : (s.atStage id (.collecting (newestTwo s.manifests))).Alone id
          (.collecting (newestTwo s.manifests)) := alone.next rfl
      obtain ⟨moves, t, run, still, data', manifests', view⟩ := listed.removes .local _ dropped
      have rest (ids : List String) (known : ids ⊆ db.dir.keys) :
          ids.filter (fun other => !(db.dir.keys.filter (!left ·)).contains other) =
            ids.filter left := by
        refine List.filter_congr fun other inside => ?_
        simp [known inside]
      have unread : db.dir.complete ⊆ db.dir.keys := DatasetDir.complete_subset
      refine ⟨_, _, .snoc ((Run.single trivial stepped).append run) trivial still.finish, ?_, ?_, view,
        still.ended⟩
      · rw [DatasetDir.keys_gcGenerations, ← rest _ (List.Subset.refl _)]
        exact data'.trans (congrArg _ data)
      · rw [DatasetDir.complete_gcGenerations, ← rest _ unread]
        exact manifests'.trans (congrArg _ manifests)

variable [ToLowercase] {engine : Engine Rows} {outside : Outside} {d : BuildConfig} {db : Db Rows}
  {rows : Rows}

/-- The moves of a build that runs alone. -/
theorem spillToStorage_moves (storage : MaterializationStorage) (sql : String) {temp : String}
    (apart : temp ≠ d.name) (found : db.relations.lookup temp = some (.table rows))
    (fresh : ¬ (ofDb d.name db).mentions outside.genId) : ∃ moves s,
    Run (step storage.backend) Machine.Anything (ofDb d.name db) moves s ∧
      let after := (spillToStorage engine outside d storage sql temp db).2
      s.Shows after.dir.keys after.dir.complete (served d.name after) := by
  obtain ⟨t, manifest, dir, others, _, runs⟩ := spillToStorage_wp engine outside storage sql apart found
  obtain ⟨unwritten, _, _, _, _⟩ := not_mentions fresh
  let id := outside.genId
  let before := ofDb d.name db
  let reached (u : Db Rows) : Prop := ∃ moves s, Run (step storage.backend) Machine.Anything before
    moves s ∧ s.Shows u.dir.keys u.dir.complete (served d.name u)
  have new : id ∉ db.dir := unwritten
  have unmoved : served d.name t = before.view := by
    simp only [served, others d.name apart.symm]
    rfl
  have moved {u : Db Rows} : served d.name (u.put d.name (.view (.generation id))) = some id := by
    simp only [served, Db.lookup_put]
  have keys (generation : Generation Rows) :
      (db.dir.insert id generation).keys = id :: before.data := DatasetDir.keys_insert_of_notMem new
  have incomplete : DatasetDir.complete (db.dir.insert id { rows }) = before.manifests := by
    rw [DatasetDir.complete_insert_of_notMem new]
    rfl
  have started : Run (step storage.backend) Machine.Anything before [.start id]
      (before.atStage id .started) := .single trivial (if_neg fresh)
  have alone : (before.atStage id .started).Alone id .started :=
    ⟨lookup_atStage, fun other apart => lookup_atStage_ne apart⟩
  obtain ⟨moves, c, copies, copied, data, manifests, view⟩ := alone.copies storage.backend
  have reachesCopied := started.append copies
  let v := { c.atStage id .viewed with view := some id }
  have viewed : v.Alone id .viewed := copied.next rfl
  have reachesViewed : Run (step storage.backend) Machine.Anything before _ v :=
    .snoc (a := .createView id) reachesCopied trivial (by
      simp only [step, copied.running]
      exact if_pos (data ▸ List.mem_cons_self))
  let w := { v.atStage id .sealed with manifests := id :: v.manifests }
  have isSealed : w.Alone id .sealed := viewed.next rfl
  have reachesSealed : Run (step storage.backend) Machine.Anything before _ w :=
    .snoc (a := .writeManifest id) reachesViewed trivial (by
      simp only [step, viewed.running]
      rfl)
  have all : (spillToStorage engine outside d storage sql temp).wp (fun _ => reached)
      (fun _ => reached) db := by
    refine runs.mpr ?_
    split
    · split
      · split
        · let published : Db Rows :=
            { relations := (t.put d.name (.view (.generation id))).relations
              dir := db.dir.insert id { rows, manifest := some manifest } }
          have files : w.data = published.dir.keys := data.trans (keys _).symm
          have both : w.manifests = published.dir.complete := by
            rw [DatasetDir.complete_insert_of_notMem new]
            exact congrArg _ manifests
          obtain ⟨_, u, collects, left, complete, serves, idle⟩ := isSealed.collects files both
          refine ⟨_, u, reachesSealed.append collects, left, complete, ?_, idle⟩
          rw [serves, served_gcStorage]
          exact moved.symm
        · refine ⟨_, _, .snoc reachesViewed trivial viewed.finish, ?_, ?_, moved.symm, viewed.ended⟩
          · show c.data = t.dir.keys
            rw [data, dir, keys]
            rfl
          · show c.manifests = t.dir.complete
            rw [manifests, dir, incomplete]
            rfl
      · refine ⟨_, _, .snoc reachesCopied trivial copied.finish, ?_, ?_, ?_, copied.ended⟩
        · show c.data = t.dir.keys
          rw [data, dir, keys]
          rfl
        · show c.manifests = t.dir.complete
          rw [manifests, dir, incomplete]
          rfl
        · exact view.trans unmoved.symm
    · exact ⟨_, _, .snoc started trivial alone.finish, rfl, rfl, rfl, alone.ended⟩
  exact Attempt.wp_snd.mp all

end
end Datapress.DuckDB.Generations
