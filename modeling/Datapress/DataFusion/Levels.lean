import Datapress.DataFusion.Discovery

/-!
The shape of a dataset in levels: where its files are, what its location says of the levels, and
what listing its directories finds.
-/
namespace Datapress.DataFusion.Discovery

/-! ### The location -/

theorem partition_joined {key value : String} (plain : '=' ∉ key.toList) (named : key ≠ "")
    (filled : value ≠ "") : partition (key ++ "=" ++ value) = some (key, value) := by
  rw [partition, splitOnce_joined '=' "=" rfl plain]
  simp [named, filled]

theorem hivePair_joined {key value : String} (plain : '=' ∉ key.toList) (named : key ≠ "")
    (filled : value ≠ "") (single : '=' ∉ value.toList) :
    hivePair (key ++ "=" ++ value) = some (key, value) := by
  rw [hivePair, partition_joined plain named filled]
  simp [single]

/-- A path has the pairs of its pieces: the components that it leaves out have none. -/
theorem hivePairs_intercalate {parts : List String} (plain : ∀ part ∈ parts, '/' ∉ part.toList)
    (some : parts ≠ []) : hivePairs ("/".intercalate parts) = parts.filterMap hivePair := by
  cases parts with
  | nil => exact absurd rfl some
  | cons first rest =>
      have pieces := split_intercalate '/' "/" rfl plain some
      have begins : (if first = "" then (if rest = [] then [] else ["/"]) else [first]).filterMap
          hivePair = [first].filterMap hivePair := by
        by_cases empty : first = ""
        · subst empty
          cases rest <;> rfl
        · rw [if_neg empty]
      have others : (rest.filter fun c => c ≠ "" ∧ c ≠ ".").filterMap hivePair =
          rest.filterMap hivePair := by
        rw [List.filterMap_filter]
        refine List.filterMap_congr fun c _ => ?_
        by_cases here : c = "" ∨ c = "."
        · rcases here with rfl | rfl <;> rfl
        · rw [not_or] at here
          simp [here]
      simp only [hivePairs, components, pieces, List.filterMap_append, begins, others]
      rw [← List.filterMap_append, List.singleton_append]

/-- Files below directories named `key=value`, and the pattern of a location that selects them: its
first wildcard stands behind the base. -/
structure Layout where
  base : List String
  /-- The keys, with the patterns of their values. -/
  levels : List (String × String)
  /-- The pattern of the files' names. -/
  files : String
  base_plain : ∀ c ∈ base, '/' ∉ c.toList ∧ hasGlob c = false
  keys_plain : ∀ level ∈ levels, level.1 ≠ "" ∧ '=' ∉ level.1.toList ∧ '/' ∉ level.1.toList
  patterns_plain : (∀ level ∈ levels, '/' ∉ level.2.toList) ∧ '/' ∉ files.toList
  wild : ∀ c ∈ (levels.map (fun level => level.1 ++ "=" ++ level.2) ++ [files]).head?,
    hasGlob c = true

namespace Layout
variable (layout : Layout)

def keys : List String := layout.levels.map Prod.fst

/-- The pieces of the location. -/
def parts : List String :=
  layout.base ++ (layout.levels.map (fun level => level.1 ++ "=" ++ level.2) ++ [layout.files])

def location : String := "/".intercalate layout.parts

/-- The directory that the location begins with. -/
def root : String :=
  if layout.base = [] ∨ layout.base = [""] then "/" else "/".intercalate layout.base

/-- A file of the dataset, in the directories of its values. -/
structure Holds (path : String) (values : List String) : Prop where
  count : values.length = layout.levels.length
  plain : ∀ value ∈ values, value ≠ "" ∧ '=' ∉ value.toList ∧ '/' ∉ value.toList
  shape : ∃ name, '/' ∉ name.toList ∧ hivePair name = none ∧
    path = "/".intercalate (layout.base ++
      (List.zipWith (fun key value => key ++ "=" ++ value) layout.keys values ++ [name]))

/-- The pairs of the directories above the dataset. -/
def above : List (String × String) := layout.base.filterMap hivePair

variable {layout}

theorem filterMap_zipWith {keys values : List String}
    (named : ∀ key ∈ keys, key ≠ "" ∧ '=' ∉ key.toList)
    (plain : ∀ value ∈ values, value ≠ "" ∧ '=' ∉ value.toList) :
    (List.zipWith (fun key value => key ++ "=" ++ value) keys values).filterMap hivePair =
      keys.zip values := by
  induction keys generalizing values with
  | nil => rfl
  | cons key rest ih =>
      cases values with
      | nil => rfl
      | cons value others =>
          obtain ⟨keyNamed, keyPlain⟩ := named key List.mem_cons_self
          obtain ⟨filled, single⟩ := plain value List.mem_cons_self
          rw [List.zipWith_cons_cons, List.zip_cons_cons,
            List.filterMap_cons_some (hivePair_joined keyPlain keyNamed filled single),
            ih (fun k member => named k (List.mem_cons_of_mem _ member))
              fun v member => plain v (List.mem_cons_of_mem _ member)]

theorem Holds.hivePairs {path : String} {values : List String} (holds : layout.Holds path values) :
    hivePairs path = layout.above ++ layout.keys.zip values := by
  obtain ⟨name, nameFlat, noPair, rfl⟩ := holds.shape
  have keyFacts : ∀ key ∈ layout.keys, key ≠ "" ∧ '=' ∉ key.toList ∧ '/' ∉ key.toList := by
    intro key member
    obtain ⟨level, among, rfl⟩ := List.mem_map.mp member
    exact layout.keys_plain level among
  rw [hivePairs_intercalate]
  · rw [List.filterMap_append, List.filterMap_append,
      filterMap_zipWith (fun key member => ⟨(keyFacts key member).1, (keyFacts key member).2.1⟩)
        fun value member => ⟨(holds.plain value member).1, (holds.plain value member).2.1⟩]
    simp [noPair, above]
  · intro part member
    rcases List.mem_append.mp member with inBase | member
    · exact (layout.base_plain part inBase).1
    · rcases List.mem_append.mp member with level | last
      · obtain ⟨i, bound, rfl⟩ := List.mem_iff_getElem.mp level
        rw [List.getElem_zipWith]
        rw [List.length_zipWith] at bound
        have keyFlat := (keyFacts _ (List.getElem_mem (by omega : i < layout.keys.length))).2.2
        have valueFlat := (holds.plain _ (List.getElem_mem (by omega : i < values.length))).2.2
        simp [keyFlat, valueFlat]
      · obtain rfl := List.mem_singleton.mp last
        exact nameFlat
  · simp

theorem split_location : split '/' layout.location = layout.parts := by
  refine split_intercalate '/' "/" rfl (fun part member => ?_) (by simp [parts])
  rcases List.mem_append.mp member with inBase | member
  · exact (layout.base_plain part inBase).1
  · rcases List.mem_append.mp member with inLevels | last
    · obtain ⟨level, among, rfl⟩ := List.mem_map.mp inLevels
      have key := (layout.keys_plain level among).2.2
      have pattern := layout.patterns_plain.1 level among
      simp [key, pattern]
    · obtain rfl := List.mem_singleton.mp last
      exact layout.patterns_plain.2

theorem findIdx_parts : layout.parts.findIdx hasGlob = layout.base.length := by
  have none : ∀ c ∈ layout.base, hasGlob c = false := fun c member => (layout.base_plain c member).2
  rw [parts, List.findIdx_append, if_neg (by simpa using none)]
  cases behind : layout.levels.map (fun level => level.1 ++ "=" ++ level.2) ++ [layout.files] with
  | nil => simp at behind
  | cons first rest =>
      have first : hasGlob first = true := layout.wild first (by rw [behind]; rfl)
      rw [List.findIdx_cons, first, cond_true, Nat.zero_add]

theorem intercalate_base : (if ("/".intercalate layout.base).isEmpty then "/"
    else "/".intercalate layout.base) = layout.root := by
  unfold root
  cases layout.base with
  | nil => rfl
  | cons first rest =>
      cases rest with
      | nil =>
          by_cases empty : first = ""
          · subst empty; rfl
          · simp [empty]
      | cons second rest => simp [String.intercalate_cons_cons]

/-- The location tells the directory that it begins with and the keys of the levels. -/
theorem splitGlobBaseKeys_location :
    splitGlobBaseKeys layout.location = (layout.root, layout.keys) := by
  have upper : layout.parts.length - 1 = layout.base.length + layout.levels.length := by
    simp only [parts, List.length_append, List.length_map, List.length_singleton]
    omega
  have dirs : ((layout.parts.take (layout.base.length + layout.levels.length)).drop
      layout.base.length) = layout.levels.map fun level => level.1 ++ "=" ++ level.2 := by
    rw [parts, List.take_length_add_append, List.drop_left' rfl, List.take_left' (by simp)]
  have named : (layout.levels.map fun level => level.1 ++ "=" ++ level.2).filterMap
      (fun c => (splitOnce '=' c).map (·.1)) = layout.keys := by
    rw [List.filterMap_map, keys, ← List.filterMap_eq_map]
    refine List.filterMap_congr fun level member => ?_
    simp only [Function.comp_apply,
      splitOnce_joined '=' "=" rfl (layout.keys_plain level member).2.1, Option.map_some]
  have kept : layout.keys.filter (fun key => key ≠ "") = layout.keys :=
    List.filter_eq_self.mpr fun key member => by
      obtain ⟨level, among, rfl⟩ := List.mem_map.mp member
      simpa using (layout.keys_plain level among).1
  have base : layout.parts.take layout.base.length = layout.base := List.take_left' rfl
  simp only [splitGlobBaseKeys, split_location, findIdx_parts, upper, base, intercalate_base,
    Nat.min_eq_left (Nat.le_add_right ..), dirs, named, kept]

theorem hasGlob_append (left right : String) :
    hasGlob (left ++ right) = (hasGlob left || hasGlob right) := by
  simp [hasGlob]

theorem hasGlob_intercalate {parts : List String} (none : ∀ c ∈ parts, hasGlob c = false) :
    hasGlob ("/".intercalate parts) = false := by
  induction parts with
  | nil => rfl
  | cons first rest ih =>
      have here := none first List.mem_cons_self
      cases rest with
      | nil => simpa using here
      | cons second rest =>
          rw [String.intercalate_cons_cons, hasGlob_append, hasGlob_append, here,
            ih fun c member => none c (List.mem_cons_of_mem _ member)]
          rfl

theorem hasGlob_of_mem {parts : List String} {c : String} (member : c ∈ parts)
    (wild : hasGlob c = true) : hasGlob ("/".intercalate parts) = true := by
  induction parts with
  | nil => cases member
  | cons first rest ih =>
      cases rest with
      | nil =>
          obtain rfl := List.mem_singleton.mp member
          simpa using wild
      | cons second rest =>
          rw [String.intercalate_cons_cons, hasGlob_append, hasGlob_append]
          rcases List.mem_cons.mp member with rfl | later
          · rw [wild, Bool.true_or, Bool.true_or]
          · rw [ih later, Bool.or_true]

theorem hasGlob_root : hasGlob layout.root = false := by
  unfold root
  split
  · rfl
  · exact hasGlob_intercalate fun c member => (layout.base_plain c member).2

theorem hasGlob_location : hasGlob layout.location = true := by
  have some : ∃ c ∈ layout.parts, hasGlob c = true := by
    by_contra nothing
    push Not at nothing
    have all : layout.parts.findIdx hasGlob = layout.parts.length :=
      List.findIdx_eq_length.mpr fun c member => by simpa using nothing c member
    rw [findIdx_parts, parts] at all
    simp at all
  obtain ⟨c, member, wild⟩ := some
  exact hasGlob_of_mem member wild

end Layout

/-! ### Levels found by listing -/

/-- The directories of a file are levels of the keys. -/
def Follows (keys file : List String) : Prop :=
  ∃ dirs name, file = dirs ++ [name] ∧
    List.Forall₂ (fun key dir => ∃ value, partition dir = some (key, value)) keys dirs

/-- Listings show the directories that lead to the files, and beside them none that looks like a
level. -/
structure Mirrors (list : List String → Option (List (List String))) (base : List String)
    (files : List (List String)) : Prop where
  readable : ∀ dirs name rest, dirs ++ name :: rest ∈ files → list (base ++ dirs) ≠ none
  shows : ∀ dirs name next rest subs, dirs ++ name :: next :: rest ∈ files →
    list (base ++ dirs) = some subs → base ++ dirs ++ [name] ∈ subs
  leads : ∀ dirs subs sub, list (base ++ dirs) = some subs → sub ∈ subs →
    ∃ name, sub = base ++ dirs ++ [name] ∧
      (partition name ≠ none → ∃ next rest, dirs ++ name :: next :: rest ∈ files)

theorem level_of_follows {done rest dirs more : List String} {key name next : String}
    (follows : Follows (done ++ key :: rest) (dirs ++ name :: next :: more))
    (deep : done.length = dirs.length) : ∃ value, partition name = some (key, value) := by
  obtain ⟨all, last, whole, levels⟩ := follows
  have same : all = dirs ++ name :: (next :: more).dropLast := by
    have cut := congrArg List.dropLast whole
    rw [List.dropLast_concat] at cut
    rw [← cut, List.dropLast_append_cons, List.dropLast_cons_of_ne_nil (List.cons_ne_nil _ _)]
  have below := List.forall₂_drop dirs.length levels
  rw [same, List.drop_left' rfl, List.drop_left' deep] at below
  exact (List.forall₂_cons.mp below).1

theorem length_of_follows {keys file : List String} (follows : Follows keys file) :
    file.length = keys.length + 1 := by
  obtain ⟨dirs, name, rfl, levels⟩ := follows
  simp [levels.length_eq]

section
variable {list : List String → Option (List (List String))} {base keys : List String}
  {files : List (List String)}

/-- The walk goes from level to level, whichever directory of one is listed first. -/
theorem followKeys_from (mirrors : Mirrors list base files)
    (each : ∀ file ∈ files, Follows keys file) {done todo dirs : List String}
    (split : keys = done ++ todo) (deep : done.length = dirs.length)
    (under : ∃ rest, dirs ++ rest ∈ files) {fuel : Nat} (enough : todo.length < fuel) :
    followKeys list fuel (base ++ dirs) = todo := by
  induction todo generalizing done dirs fuel with
  | nil =>
      obtain ⟨fuel, rfl⟩ : ∃ more, fuel = more + 1 := ⟨fuel - 1, by simp at enough; omega⟩
      have nothing : ((list (base ++ dirs)).getD []).findSome? levelKey = none := by
        rw [List.findSome?_eq_none_iff]
        intro sub member
        cases listed : list (base ++ dirs) with
        | none => simp [listed] at member
        | some subs =>
            rw [listed, Option.getD_some] at member
            obtain ⟨name, rfl, leads⟩ := mirrors.leads dirs subs sub listed member
            have flat : partition name = none := by
              by_contra level
              obtain ⟨next, rest, file⟩ := leads level
              have long := length_of_follows (each _ file)
              simp [split, deep] at long
            simp [levelKey, flat]
      simp only [followKeys, nothing]
  | cons key rest ih =>
      obtain ⟨fuel, rfl⟩ : ∃ more, fuel = more + 1 := ⟨fuel - 1, by simp at enough; omega⟩
      obtain ⟨tail, file⟩ := under
      have long := length_of_follows (each _ file)
      simp only [split, List.length_append, List.length_cons, deep] at long
      obtain ⟨name, next, more, rfl⟩ : ∃ name next more, tail = name :: next :: more := by
        rcases tail with _ | ⟨name, _ | ⟨next, more⟩⟩
        · simp at long
          omega
        · simp at long
        · exact ⟨name, next, more, rfl⟩
      obtain ⟨subs, listed⟩ := Option.ne_none_iff_exists'.mp (mirrors.readable _ _ _ file)
      have shown := mirrors.shows _ _ _ _ _ file listed
      obtain ⟨value, level⟩ := level_of_follows (split ▸ each _ file) deep
      cases found : subs.findSome? levelKey with
      | none =>
          have missed := List.findSome?_eq_none_iff.mp found _ shown
          simp [levelKey, level] at missed
      | some step =>
          obtain ⟨sub, member, taken⟩ := List.exists_of_findSome?_eq_some found
          obtain ⟨other, rfl, leads⟩ := mirrors.leads dirs subs sub listed member
          cases other's : partition other with
          | none => simp [levelKey, other's] at taken
          | some pair =>
              obtain ⟨next', rest', file'⟩ := leads (by simp [other's])
              obtain ⟨value', same⟩ := level_of_follows (split ▸ each _ file') deep
              rw [other's, Option.some.injEq] at same
              subst same
              have here : step = (key, base ++ dirs ++ [other]) := by
                simpa [levelKey, other's] using taken.symm
              subst here
              have deeper : keys = (done ++ [key]) ++ rest := by simpa using split
              have below : followKeys list fuel (base ++ (dirs ++ [other])) = rest :=
                ih deeper (by simp [deep]) ⟨next' :: rest', by simpa using file'⟩
                  (by simpa using enough)
              simp only [followKeys, listed, Option.getD_some, found]
              rw [List.append_assoc, below]

theorem followKeys_eq (mirrors : Mirrors list base files) (some : files ≠ [])
    (each : ∀ file ∈ files, Follows keys file) {fuel : Nat} (enough : keys.length < fuel) :
    followKeys list fuel base = keys := by
  obtain ⟨file, rest, rfl⟩ := List.exists_cons_of_ne_nil some
  have under : ∃ tail, [] ++ tail ∈ file :: rest := ⟨file, List.mem_cons_self⟩
  simpa using followKeys_from mirrors each (List.nil_append keys).symm rfl under enough

end

theorem withSlash_root {layout : Layout} (solid : layout.root.toList.getLast? ≠ some '/') :
    trimEndMatches (· == '/') layout.root ++ "/" = withSlash layout.root := by
  have kept : trimEndMatches (· == '/') layout.root = layout.root := by
    rw [trimEndMatches]
    have last : layout.root.toList.reverse.head? ≠ some '/' := by rwa [List.head?_reverse]
    cases turned : layout.root.toList.reverse with
    | nil =>
        have empty : layout.root.toList = [] := by simpa using turned
        rw [← String.toList_inj, empty]
        rfl
    | cons c before =>
        rw [turned, List.head?_cons] at last
        have other : (c == '/') = false := by simpa using fun same => last (congrArg some same)
        rw [List.dropWhile_cons, other, if_neg Bool.false_ne_true, ← turned, List.reverse_reverse,
          String.ofList_toList]
  rw [kept, withSlash, if_neg solid]

end Datapress.DataFusion.Discovery
