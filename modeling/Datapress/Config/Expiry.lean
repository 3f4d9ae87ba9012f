import Datapress.Config.SavedQueriesSteps

/-! Whether an expiry removes the dataset that it was scheduled for and no other, and whether
every accepted lifetime reaches the scheduler. -/
namespace Datapress.Config
open Machine (Run Anything)
open Refresh (SavedQueriesSettings)

/-- The incarnation has the name to itself: another dataset is not registered under it. -/
def Registry.Bears (r : Registry Nat) (name : String) (incarnation : Nat) : Prop :=
  (name ∉ r.configs ∧ name ∉ r.datasets) ∨ r.datasets.lookup name = some incarnation

/-- The dataset is one that `unregister` refuses. -/
def Registry.Unmanaged (r : Registry Nat) (name : String) : Prop :=
  ∃ config, r.configs.lookup name = some config ∧ config.managed = false

namespace Registry
variable {r : Registry Nat} {name other : String} {k n : Nat} {config : DatasetConfig}

theorem not_unmanaged (checks : r.mayUnregister name = .ok ()) : ¬ r.Unmanaged name := by
  rintro ⟨config, found, managed⟩
  simp [mayUnregister, found, managed] at checks

theorem Bears.put (bears : r.Bears name k) (other : config.name ≠ name) :
    (r.put config n).Bears name k := by
  obtain ⟨unknown, absent⟩ | found := bears
  · left
    constructor
    · exact fun inside => ((AList.mem_insert _).mp inside).elim (other ·.symm) unknown
    · exact fun inside => ((AList.mem_insert _).mp inside).elim (other ·.symm) absent
  · right
    exact (AList.lookup_insert_ne other.symm).trans found

theorem bears_put : (r.put config n).Bears config.name n :=
  .inr (AList.lookup_insert _)

theorem Bears.drop (bears : r.Bears name k) : (r.drop other).Bears name k := by
  obtain ⟨unknown, absent⟩ | found := bears
  · left
    exact ⟨fun inside => unknown ((AList.mem_erase.mp inside).2),
      fun inside => absent ((AList.mem_erase.mp inside).2)⟩
  · by_cases same : name = other
    · subst same
      left
      exact ⟨fun inside => (AList.mem_erase.mp inside).1 rfl,
        fun inside => (AList.mem_erase.mp inside).1 rfl⟩
    · right
      exact (AList.lookup_erase_ne same).trans found

theorem Unmanaged.put (unmanaged : r.Unmanaged name) (other : config.name ≠ name) :
    (r.put config n).Unmanaged name := by
  obtain ⟨old, found, managed⟩ := unmanaged
  exact ⟨old, (AList.lookup_insert_ne other.symm).trans found, managed⟩

theorem Unmanaged.drop (unmanaged : r.Unmanaged name) :
    (r.drop other).Bears name k ∨ (r.drop other).Unmanaged name := by
  by_cases same : name = other
  · subst same
    exact .inl (.inl ⟨fun inside => (AList.mem_erase.mp inside).1 rfl,
      fun inside => (AList.mem_erase.mp inside).1 rfl⟩)
  · obtain ⟨old, found, managed⟩ := unmanaged
    exact .inr ⟨old, (AList.lookup_erase_ne same).trans found, managed⟩

/-- What is published was neither absent nor built before. -/
theorem Bears.publish (configured : other ∈ r.configs) (fresh : other ∉ r.datasets)
    (bears : r.Bears name k) :
    ({ r with datasets := r.datasets.insert other n } : Registry Nat).Bears name k := by
  have apart : name ≠ other := by
    rintro rfl
    obtain ⟨unknown, _⟩ | found := bears
    · exact unknown configured
    · exact fresh (AList.lookup_isSome.mp (by rw [found]; rfl))
  obtain ⟨unknown, absent⟩ | found := bears
  · exact .inl ⟨unknown, fun inside => ((AList.mem_insert _).mp inside).elim apart absent⟩
  · exact .inr ((AList.lookup_insert_ne apart).trans found)

end Registry

/-- The name and the incarnation that an expiry is for. -/
def Expiry.subject (request : Expiry) : String × Nat := (request.name, request.incarnation)

/-- The expiry that a task is going to ask `unregister` for. -/
def Task.awaits : Task → Option (String × Nat)
  | .created name _ incarnation | .expiring name incarnation => some (name, incarnation)
  | _ => none

/-- The expiry for which a task has found a managed dataset. It removes what has the name by the
time it holds the lock. -/
def Task.fires : Task → Option (String × Nat)
  | .removing name (some incarnation) _ => some (name, incarnation)
  | _ => none

namespace System

/-- The expiries that are outstanding and have not yet been to `unregister`. -/
def awaited (s : System) : List (String × Nat) :=
  s.tasks.filterMap Task.awaits ++ (s.channel ++ s.pending).map Expiry.subject

def firing (s : System) : List (String × Nat) := s.tasks.filterMap Task.fires

/-- An expiry removes nothing but what it was scheduled for. -/
def ExpiresOwn (s : System) (a : Action) : Prop :=
  ∀ i name incarnation lock, a = .remove i →
    s.tasks[i]? = some (.removing name (some incarnation) lock) →
    s.registry.Bears name incarnation

/-- Every dataset that was accepted with a lifetime has been handed to the scheduler, or its
request is just about to. -/
def Handed (s : System) : Prop :=
  ∀ k ∈ s.promised, k ∈ s.handed ∨ ∃ name ttl, .created name ttl k ∈ s.tasks

/-- A dataset is registered only under a name that no expiry is still to remove. -/
def Apart (s : System) (a : Action) : Prop :=
  ∀ config ∈ s.puts a, (∀ expiry ∈ s.firing, expiry.1 ≠ config.name) ∧
    (config.managed = true → ∀ expiry ∈ s.awaited, expiry.1 ≠ config.name)

instance (s : System) (a : Action) : Decidable (s.Apart a) :=
  inferInstanceAs (Decidable (∀ config ∈ s.puts a, (∀ expiry ∈ s.firing, expiry.1 ≠ config.name) ∧
    (config.managed = true → ∀ expiry ∈ s.awaited, expiry.1 ≠ config.name)))

/-- A step registers a temporary dataset in the background without a look at its lifetime. -/
def ignoresTtl (s : System) : Action → Bool
  | .finish i (.ok _) =>
    match s.tasks[i]? with
    | some (.building config (.spawned (some _)) _) => config.temp
    | _ => false
  | _ => false

def Waits (s : System) (a : Action) : Prop := s.ignoresTtl a = false

instance (s : System) (a : Action) : Decidable (s.Waits a) :=
  inferInstanceAs (Decidable (s.ignoresTtl a = false))

/-- What holds of every outstanding expiry. -/
structure Owned (s : System) : Prop where
  awaited : ∀ name k, (name, k) ∈ s.awaited →
    s.registry.Bears name k ∨ s.registry.Unmanaged name
  firing : ∀ name k, (name, k) ∈ s.firing → s.registry.Bears name k

theorem mem_others_of_ne {s : System} {i : Nat} {next : Option Task} {task : Task}
    (member : task ∈ s.tasks) (other : s.tasks[i]? ≠ some task) : task ∈ s.others i next := by
  apply List.mem_append_right
  obtain ⟨j, found⟩ := List.mem_iff_getElem?.mp member
  have apart : j ≠ i := by
    rintro rfl
    exact other found
  exact List.mem_eraseIdx_iff_getElem?.mpr ⟨j, apart, found⟩

theorem awaited_of_queue {s : System} {request : Expiry}
    (member : request ∈ s.channel ++ s.pending) : request.subject ∈ s.awaited :=
  List.mem_append_right _ (List.mem_map_of_mem member)

theorem awaited_of_task {s : System} {task : Task} {x : String × Nat} (member : task ∈ s.tasks)
    (is : task.awaits = some x) : x ∈ s.awaited :=
  List.mem_append_left _ (List.mem_filterMap.mpr ⟨task, member, is⟩)

theorem puts_finish {s : System} {i : Nat} {config : DatasetConfig} {origin : Origin} {lock : Nat}
    (here : s.tasks[i]? = some (.building config origin lock)) :
    s.puts (.finish i (.ok ())) = some config := by
  simp only [puts, here]

section
variable [ToLowercase] {parse : Sql.Parser} {settings : SavedQueriesSettings} {s t : System}
  {a : Action} {x : String × Nat}

/-- Where an outstanding expiry comes from. -/
theorem awaited_step (stepped : System.step parse settings a s = some t) (member : x ∈ t.awaited) :
    x ∈ s.awaited ∨ ∃ config, s.puts a = some config ∧ x = (config.name, s.incarnations) := by
  have queues : ∀ {tasks : List Task}, (x ∈ tasks.filterMap Task.awaits → x ∈ s.awaited) →
      x ∈ tasks.filterMap Task.awaits ++ (s.channel ++ s.pending).map Expiry.subject →
      x ∈ s.awaited := by
    intro tasks old member
    obtain running | queued := List.mem_append.mp member
    · exact old running
    · exact List.mem_append_right _ queued
  have quiet : ∀ {i : Nat} {next : Option Task}, next.bind Task.awaits = none →
      x ∈ (s.others i next).filterMap Task.awaits → x ∈ s.awaited := by
    intro i next silent member
    obtain new | old := mem_filterMap_others member
    · cases silent.symm.trans new
    · exact List.mem_append_left _ old
  cases step_moves stepped with
  | refused | advance | publish | check | wait | accept | guard | post => exact .inl member
  | writeFails | tear | precheckFails | recheckFails | buildFails | lookUpFails | removeExpired
  | keepFile | removeFile | writeWait | writeAccept | queue | build | lookUp | removeDeleted =>
      exact .inl (queues (quiet rfl) member)
  | put here settles =>
      obtain running | queued := List.mem_append.mp member
      · obtain new | old := mem_filterMap_others running
        · obtain ⟨_, ⟨rfl, _⟩ | ⟨ttl, rfl, _⟩⟩ | ⟨_, _, rfl, _⟩ := settle_cases settles
          · cases new
          · exact .inr ⟨_, puts_finish here, (Option.some.inj new).symm⟩
          · cases new
        · exact .inl (List.mem_append_left _ old)
      · exact .inl (List.mem_append_right _ queued)
  | schedule here =>
      obtain running | queued := List.mem_append.mp member
      · exact .inl (quiet rfl running)
      · obtain ⟨request, inside, rfl⟩ := List.mem_map.mp queued
        obtain sent | received := List.mem_append.mp inside
        · obtain old | new := List.mem_append.mp sent
          · exact .inl (awaited_of_queue (List.mem_append_left _ old))
          · obtain rfl := List.mem_singleton.mp new
            exact .inl (awaited_of_task (List.mem_of_getElem? here) rfl)
        · exact .inl (awaited_of_queue (List.mem_append_right _ received))
  | receive sent =>
      refine .inl (queues (List.mem_append_left _) ?_)
      obtain running | queued := List.mem_append.mp member
      · exact List.mem_append_left _ running
      · apply List.mem_append_right
        obtain ⟨request, inside, rfl⟩ := List.mem_map.mp queued
        apply List.mem_map_of_mem
        rw [sent]
        simp only [List.mem_append, List.mem_cons, List.not_mem_nil, or_false] at inside ⊢
        tauto
  | expire here due =>
      obtain running | queued := List.mem_append.mp member
      · obtain new | old := List.mem_cons.mp (by simpa [Task.awaits] using running :
          x ∈ (_, _) :: s.tasks.filterMap Task.awaits)
        · subst new
          exact .inl (awaited_of_queue (List.mem_append_right _ (List.mem_of_getElem? here)))
        · exact .inl (List.mem_append_left _ old)
      · obtain ⟨request, inside, rfl⟩ := List.mem_map.mp queued
        obtain sent | received := List.mem_append.mp inside
        · exact .inl (awaited_of_queue (List.mem_append_left _ sent))
        · exact .inl (awaited_of_queue
            (List.mem_append_right _ (List.mem_of_mem_eraseIdx received)))

/-- An expiry that is about to fire has found a managed dataset. -/
theorem firing_step (stepped : System.step parse settings a s = some t) {name : String} {k : Nat}
    (member : (name, k) ∈ t.firing) : (name, k) ∈ s.firing ∨
      (name, k) ∈ s.awaited ∧ s.registry.mayUnregister name = .ok () ∧
        t.registry = s.registry := by
  have quiet : ∀ {i : Nat} {next : Option Task}, next.bind Task.fires = none →
      (name, k) ∈ (s.others i next).filterMap Task.fires → (name, k) ∈ s.firing := by
    intro i next silent member
    obtain new | old := mem_filterMap_others member
    · cases silent.symm.trans new
    · exact old
  cases step_moves stepped with
  | refused | advance | publish | check | wait | accept | guard | post | receive | expire =>
      exact .inl member
  | writeFails | tear | precheckFails | recheckFails | buildFails | lookUpFails | removeExpired
  | keepFile | removeFile | writeWait | writeAccept | queue | build | removeDeleted | schedule =>
      exact .inl (quiet rfl member)
  | put here settles =>
      obtain ⟨_, ⟨rfl, _⟩ | ⟨ttl, rfl, _⟩⟩ | ⟨_, _, rfl, _⟩ := settle_cases settles
      · exact .inl (quiet rfl member)
      · exact .inl (quiet rfl member)
      · exact .inl (quiet rfl member)
  | @lookUp i task other expiry lock locks nextLock here asks checks =>
      obtain new | old := mem_filterMap_others member
      · cases expiry with
        | none => cases new
        | some incarnation =>
            cases new
            cases task with
            | expiring =>
                cases asks
                exact .inr ⟨awaited_of_task (List.mem_of_getElem? here) rfl, checks, rfl⟩
            | guarded => cases asks
            | _ => cases asks
      · exact .inl old

theorem Owned.step (owned : s.Owned) (apart : s.Apart a)
    (stepped : System.step parse settings a s = some t) : t.Owned := by
  have found : ∀ {name k}, (name, k) ∈ s.awaited → s.registry.mayUnregister name = .ok () →
      t.registry = s.registry → t.registry.Bears name k := by
    intro name k waits checks same
    rw [same]
    exact (owned.awaited name k waits).resolve_right (Registry.not_unmanaged checks)
  cases step_changes stepped with
  | keep puts removes same =>
      constructor
      · intro name k member
        rw [same]
        obtain old | ⟨config, puts', _⟩ := awaited_step stepped member
        · exact owned.awaited name k old
        · cases puts.symm.trans puts'
      · intro name k member
        obtain old | ⟨waits, checks, same⟩ := firing_step stepped member
        · rw [same]
          exact owned.firing name k old
        · exact found waits checks same
  | put config puts removes put =>
      constructor
      · intro name k member
        rw [put]
        obtain old | ⟨new, puts', made⟩ := awaited_step stepped member
        · by_cases same : config.name = name
          · subst same
            have unmanaged : config.managed = false := by
              by_contra managed
              exact (apart config puts).2 (by simpa using managed) _ old rfl
            exact .inr ⟨config, AList.lookup_insert _, unmanaged⟩
          · obtain bears | unmanaged := owned.awaited name k old
            · exact .inl (bears.put same)
            · exact .inr (unmanaged.put same)
        · obtain rfl := Option.some.inj (puts.symm.trans puts')
          cases made
          exact .inl Registry.bears_put
      · intro name k member
        obtain old | ⟨waits, checks, same⟩ := firing_step stepped member
        · rw [put]
          apply (owned.firing name k old).put
          intro same
          exact (apart config puts).1 _ old same.symm
        · exact found waits checks same
  | drop other puts removes drop =>
      constructor
      · intro name k member
        rw [drop]
        obtain old | ⟨config, puts', _⟩ := awaited_step stepped member
        · obtain bears | unmanaged := owned.awaited name k old
          · exact .inl bears.drop
          · exact unmanaged.drop
        · cases puts.symm.trans puts'
      · intro name k member
        obtain old | ⟨waits, checks, same⟩ := firing_step stepped member
        · rw [drop]
          exact (owned.firing name k old).drop
        · exact found waits checks same
  | publish other puts removes configured fresh published =>
      constructor
      · intro name k member
        rw [published]
        obtain old | ⟨config, puts', _⟩ := awaited_step stepped member
        · exact (owned.awaited name k old).imp_left (Registry.Bears.publish configured fresh)
        · cases puts.symm.trans puts'
      · intro name k member
        obtain old | ⟨waits, checks, same⟩ := firing_step stepped member
        · rw [published]
          exact (owned.firing name k old).publish configured fresh
        · exact found waits checks same

omit [ToLowercase] in
theorem Owned.expiresOwn (owned : s.Owned) : s.ExpiresOwn a := by
  rintro i name k lock rfl here
  apply owned.firing
  exact List.mem_filterMap.mpr ⟨_, List.mem_of_getElem? here, rfl⟩

/-- Nothing is handed over before it is registered. -/
def Counted (s : System) : Prop :=
  (∀ k ∈ s.handed, k < s.incarnations) ∧
    ∀ name ttl k, .created name ttl k ∈ s.tasks → k < s.incarnations

omit [ToLowercase] in
theorem Handed.mono (handed : s.Handed) (promised : t.promised = s.promised)
    (more : s.handed ⊆ t.handed)
    (keeps : ∀ name ttl k, .created name ttl k ∈ s.tasks →
      .created name ttl k ∈ t.tasks ∨ k ∈ t.handed) : t.Handed := by
  intro k member
  rw [promised] at member
  obtain done | ⟨name, ttl, created⟩ := handed k member
  · exact .inl (more done)
  · obtain stays | done := keeps name ttl k created
    · exact .inr ⟨name, ttl, stays⟩
    · exact .inl done

theorem handed_step (handed : s.Handed) (counted : s.Counted)
    (stepped : System.step parse settings a s = some t) : t.Handed ↔ s.Waits a := by
  have stays : ∀ {i : Nat} {task : Task} {next : Option Task}, s.tasks[i]? = some task →
      (∀ name ttl k, task ≠ .created name ttl k) → ∀ name ttl k, .created name ttl k ∈ s.tasks →
      .created name ttl k ∈ s.others i next := by
    intro i task next here other name ttl k member
    apply mem_others_of_ne member
    intro same
    exact other name ttl k (Option.some.inj (here.symm.trans same))
  have quiet (promised : t.promised = s.promised) (more : t.handed = s.handed)
      (keeps : ∀ name ttl k, .created name ttl k ∈ s.tasks → .created name ttl k ∈ t.tasks)
      (waits : s.Waits a) : t.Handed ↔ s.Waits a := by
    apply iff_of_true _ waits
    apply handed.mono promised (by rw [more]; exact List.Subset.refl _)
    intro name ttl k member
    exact .inl (keeps name ttl k member)
  cases step_moves stepped with
  | refused arrives =>
      apply quiet rfl rfl fun _ _ _ member => member
      cases a with
      | create | delete | post => rfl
      | _ => cases arrives
  | advance | publish | receive =>
      exact quiet rfl rfl (fun _ _ _ member => member) rfl
  | check | wait | accept | guard | post | expire =>
      exact quiet rfl rfl (fun _ _ _ => List.mem_cons_of_mem _) rfl
  | writeFails here | tear here | writeWait here | writeAccept here | precheckFails here
  | queue here | recheckFails here | build here | buildFails here | removeExpired here
  | removeDeleted here | keepFile here | removeFile here =>
      exact quiet rfl rfl (stays here fun _ _ _ is => nomatch is) rfl
  | @lookUpFails i task _ _ _ here asks | @lookUp i task _ _ _ _ _ here asks =>
      apply quiet rfl rfl (stays here _) rfl
      rintro _ _ _ rfl
      cases asks
  | @schedule i _ _ _ here =>
      apply iff_of_true _ rfl
      refine handed.mono rfl (List.subset_cons_self _ _) fun name ttl k member => ?_
      by_cases same : s.tasks[i]? = some (.created name ttl k)
      · cases here.symm.trans same
        exact .inr List.mem_cons_self
      · exact .inl (mem_others_of_ne member same)
  | @put i _ _ _ next _ _ here settles =>
      have others : ∀ name ttl k, .created name ttl k ∈ s.tasks →
          .created name ttl k ∈ s.others i next := stays here fun _ _ _ is => nomatch is
      obtain ⟨waits, rest⟩ | ⟨temp, ⟨ttl, rfl⟩, rfl, promised⟩ := settle_cases settles
      · have met : s.Waits (.finish i (.ok ())) := by
          rw [Waits, ignoresTtl, here]
          split
          · next same => cases same; exact waits _ rfl
          · rfl
        apply iff_of_true _ met
        obtain ⟨rfl, promised⟩ | ⟨ttl, rfl, promised⟩ := rest
        · refine handed.mono promised (List.Subset.refl _) fun name ttl k member => ?_
          exact .inl (others name ttl k member)
        · intro k member
          rw [promised] at member
          obtain rfl | old := List.mem_cons.mp member
          · exact .inr ⟨_, ttl, List.mem_append_left _ (List.mem_singleton_self _)⟩
          · obtain done | ⟨name, ttl, created⟩ := handed k old
            · exact .inl done
            · exact .inr ⟨name, ttl, others name ttl k created⟩
      · apply iff_of_false
        · intro handed
          obtain done | ⟨name, ttl, created⟩ := handed s.incarnations
            (promised ▸ List.mem_cons_self)
          · exact absurd (counted.1 _ done) (Nat.lt_irrefl _)
          · have early := counted.2 name ttl _ (List.mem_of_mem_eraseIdx created)
            exact absurd early (Nat.lt_irrefl _)
        · simp [Waits, ignoresTtl, here, temp]

theorem Counted.step (counted : s.Counted) (stepped : System.step parse settings a s = some t) :
    t.Counted := by
  obtain ⟨handed, created⟩ := counted
  have quiet : ∀ {i : Nat} {next : Option Task},
      (∀ name ttl k, next = some (.created name ttl k) → k < t.incarnations) →
      s.incarnations ≤ t.incarnations →
      ∀ name ttl k, .created name ttl k ∈ s.others i next → k < t.incarnations := by
    intro i next fresh grown name ttl k member
    obtain new | old := List.mem_append.mp member
    · exact fresh name ttl k (Option.mem_toList.mp new)
    · exact (created name ttl k (List.mem_of_mem_eraseIdx old)).trans_le grown
  have cons : ∀ {task : Task}, (∀ name ttl k, task ≠ .created name ttl k) →
      ∀ name ttl k, .created name ttl k ∈ task :: s.tasks → k < s.incarnations := by
    intro task other name ttl k member
    obtain new | old := List.mem_cons.mp member
    · exact absurd new.symm (other name ttl k)
    · exact created name ttl k old
  cases step_moves stepped with
  | refused | advance | receive => exact ⟨handed, created⟩
  | check | wait | accept | guard | post | expire =>
      exact ⟨handed, cons fun _ _ _ is => nomatch is⟩
  | writeFails | tear | writeWait | writeAccept | precheckFails | queue | recheckFails | build
  | buildFails | removeExpired | removeDeleted | keepFile | removeFile | lookUpFails | lookUp =>
      exact ⟨handed, quiet (fun _ _ _ is => nomatch is) (Nat.le_refl _)⟩
  | schedule here =>
      refine ⟨fun k member => ?_, quiet (fun _ _ _ is => nomatch is) (Nat.le_refl _)⟩
      obtain rfl | old := List.mem_cons.mp member
      · exact created _ _ _ (List.mem_of_getElem? here)
      · exact handed k old
  | put here settles =>
      refine ⟨fun k member => (handed k member).trans (Nat.lt_succ_self _),
        quiet ?_ (Nat.le_succ _)⟩
      rintro name ttl k rfl
      obtain ⟨_, ⟨is, _⟩ | ⟨_, is, _⟩⟩ | ⟨_, _, is, _⟩ := settle_cases settles
      · cases is
      · cases is
        exact Nat.lt_succ_self _
      · cases is
  | publish =>
      exact ⟨fun k member => (handed k member).trans (Nat.lt_succ_self _),
        fun name ttl k member => (created name ttl k member).trans (Nat.lt_succ_self _)⟩

section
variable {registry : Registry Nat} {incarnations : Nat}
  {files : AList fun _ : String => ManagedFile} {labels : List Action}

omit [ToLowercase] in
theorem owned_boot : (boot registry incarnations files).Owned :=
  ⟨fun _ _ member => (nomatch member), fun _ _ member => (nomatch member)⟩

/-- In every run of the server the expiries remove nothing but what they were scheduled for when
every dataset is registered apart from them, and the lifetimes are handed to the scheduler just
when none is given to a dataset that is registered in the background. -/
theorem expiries_safe (ran : Run (System.step parse settings) Anything
      (boot registry incarnations files) labels t) :
    (Run (System.step parse settings) Apart (boot registry incarnations files) labels t →
      Run (System.step parse settings) ExpiresOwn (boot registry incarnations files) labels t) ∧
    ((∀ before u, before <+: labels → Run (System.step parse settings) Anything
        (boot registry incarnations files) before u → u.Handed) ↔
      Run (System.step parse settings) Waits (boot registry incarnations files) labels t) := by
  constructor
  · intro apart
    exact (apart.strengthen owned_boot (fun owned apart stepped => owned.step apart stepped)
      fun owned _ _ => owned.expiresOwn).1
  · rw [ran.always_iff (P := Handed) (J := Counted)
      ⟨fun _ member => (nomatch member), fun _ _ _ member => (nomatch member)⟩
      (fun counted stepped => counted.step stepped)
      (fun counted handed stepped => handed_step handed counted stepped)]
    exact and_iff_right fun _ member => nomatch member

end
end
end System

section Runs
attribute [local instance] asciiToLowercase

/-- The expiry that has come first goes all its way. -/
private def fires : List Action :=
  [.schedule 0, .receive, .expire 0, .unregister 0, .remove 0]

private def bigExpires : List Action := creates "big" "orders" (some 0) ++ fires

theorem expiries_safe_big : ∃ t,
    Run (System.step twoTables.parse allowed) System.ExpiresOwn booted bigExpires t ∧
    ∀ before u, before <+: bigExpires →
      Run (System.step twoTables.parse allowed) Anything booted before u → u.Handed := by
  obtain ⟨own, handed⟩ := System.expiries_safe (Machine.run_of_exec rfl :
    Run (System.step twoTables.parse allowed) Anything booted bigExpires _)
  exact ⟨_, own (Machine.run_of_exec rfl), handed.mpr (Machine.run_of_exec rfl)⟩

private def lasting : List Action := creates "big" "orders" (some 0) ++ [.schedule 0, .receive]

private def lasted : System :=
  (Machine.exec (System.step twoTables.parse allowed) Anything lasting booted).getD booted

private theorem lasted_deleted : System.step twoTables.parse allowed (.delete "big" (.ok ())) lasted =
    some { lasted with tasks := .guarded "big" :: lasted.tasks } := by
  have alone : lasted.registry.dependents "big" = [] := List.mergeSort_nil
  exact System.step_delete rfl rfl alone

/-- `big` goes and is created again before it expires. -/
private def again : List Action :=
  [.unregister 0, .remove 0, .removeFile 0 true] ++ creates "big" "orders" none ++
    [.expire 0, .unregister 0]

private def bigAgain : List Action := lasting ++ [.delete "big" (.ok ())] ++ again ++ [.remove 0]

private def behind : List Action :=
  .create { name := "big", sql := "SELECT id FROM orders", ttl := some 0 } true (.ok ()) ::
    (creates "big" "orders" none).tail

/-- The expiry of the first `big` removes the second, and nobody hands over what is created in the
background. -/
theorem expiries_not_safe :
    (∃ t, Run (System.step twoTables.parse allowed) Anything booted bigAgain t ∧
      ¬ Run (System.step twoTables.parse allowed) System.ExpiresOwn booted bigAgain t) ∧
    ∃ t, Run (System.step twoTables.parse allowed) Anything booted behind t ∧ ¬ t.Handed := by
  constructor
  · have first : Run (System.step twoTables.parse allowed) Anything booted lasting lasted :=
      Machine.run_of_exec rfl
    have second : Run (System.step twoTables.parse allowed) Anything
        { lasted with tasks := .guarded "big" :: lasted.tasks } again _ := Machine.run_of_exec rfl
    have run := (first.append (Run.single trivial lasted_deleted)).append second
    refine ⟨_, run.append (Run.single trivial rfl), fun own => ?_⟩
    obtain ⟨s, before, allowed, _⟩ := own.last
    obtain rfl := (before.weaken fun _ _ _ => trivial : Run _ Anything _ _ _).unique run
    obtain ⟨unknown, _⟩ | found := allowed 0 "big" 1 _ rfl rfl
    · exact unknown (by decide)
    · cases found
  · refine ⟨_, Machine.run_of_exec rfl, fun handed => ?_⟩
    obtain done | ⟨name, ttl, created⟩ := handed 1 List.mem_cons_self
    · cases done
    · cases created

end Runs
end Datapress.Config
