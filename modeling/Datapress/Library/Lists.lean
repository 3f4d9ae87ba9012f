import Mathlib.Data.List.AList
import Mathlib.Data.List.Forall2

/-! Searches in two lists that are related item by item, and maps that see the index. -/
namespace Lists

variable {α β γ : Type}

/-- A search over related lists stops at related items. -/
theorem find?_rel {R : α → β → Prop} {p : α → Bool} {q : β → Bool} {xs : List α} {ys : List β}
    (related : List.Forall₂ R xs ys) (same : ∀ a b, R a b → p a = q b) :
    Option.Rel R (xs.find? p) (ys.find? q) := by
  induction related with
  | nil => exact .none
  | @cons a b xs ys head tail ih =>
    rw [List.find?_cons, List.find?_cons, same a b head]
    cases q b with
    | true => exact .some head
    | false => exact ih

/-- Related lists have related members. -/
theorem exists_of_mem_right {R : α → β → Prop} {xs : List α} {ys : List β} {b : β}
    (related : List.Forall₂ R xs ys) (member : b ∈ ys) : ∃ a ∈ xs, R a b := by
  induction related with
  | nil => cases member
  | cons head tail ih =>
    rcases List.mem_cons.mp member with rfl | later
    · exact ⟨_, List.mem_cons_self, head⟩
    · obtain ⟨a, inTail, same⟩ := ih later
      exact ⟨a, List.mem_cons_of_mem _ inTail, same⟩

theorem exists_of_mem_left {R : α → β → Prop} {xs : List α} {ys : List β} {a : α}
    (related : List.Forall₂ R xs ys) (member : a ∈ xs) : ∃ b ∈ ys, R a b := by
  induction related with
  | nil => cases member
  | cons head tail ih =>
    rcases List.mem_cons.mp member with rfl | later
    · exact ⟨_, List.mem_cons_self, head⟩
    · obtain ⟨b, inTail, same⟩ := ih later
      exact ⟨b, List.mem_cons_of_mem _ inTail, same⟩

theorem forall₂_comp {R : α → β → Prop} {S : β → γ → Prop} {xs : List α} {ys : List β}
    {zs : List γ} (first : List.Forall₂ R xs ys) (second : List.Forall₂ S ys zs) :
    List.Forall₂ (fun a c => ∃ b, R a b ∧ S b c) xs zs := by
  induction first generalizing zs with
  | nil => cases second; exact .nil
  | cons head tail ih =>
    cases second with
    | cons next others => exact .cons ⟨_, head, next⟩ (ih others)

theorem exists_forall₂ {R : α → β → Prop} {xs : List α} (each : ∀ a ∈ xs, ∃ b, R a b) :
    ∃ ys, List.Forall₂ R xs ys := by
  induction xs with
  | nil => exact ⟨[], .nil⟩
  | cons a xs ih =>
    obtain ⟨b, head⟩ := each a List.mem_cons_self
    obtain ⟨ys, tail⟩ := ih fun a member => each a (List.mem_cons_of_mem _ member)
    exact ⟨b :: ys, .cons head tail⟩

theorem any_eq_of_forall₂ {R : α → β → Prop} {p : α → Bool} {q : β → Bool} {xs : List α}
    {ys : List β} (related : List.Forall₂ R xs ys) (same : ∀ a b, R a b → p a = q b) :
    xs.any p = ys.any q := by
  induction related with
  | nil => rfl
  | cons head _ ih => rw [List.any_cons, List.any_cons, same _ _ head, ih]

theorem map_eq_of_forall₂ {R : α → β → Prop} {f : α → γ} {g : β → γ} {xs : List α} {ys : List β}
    (related : List.Forall₂ R xs ys) (same : ∀ a b, R a b → f a = g b) : xs.map f = ys.map g := by
  induction related with
  | nil => rfl
  | cons head tail ih => rw [List.map_cons, List.map_cons, same _ _ head, ih]

/-! ### Maps with an index -/

theorem map_mapIdx (f : Nat → α → β) (g : β → γ) (items : List α) :
    (items.mapIdx f).map g = items.mapIdx fun index a => g (f index a) := by
  apply List.ext_getElem?
  intro index
  simp [Function.comp_def]

theorem mapIdx_map (f : α → β) (g : Nat → β → γ) (items : List α) :
    (items.map f).mapIdx g = items.mapIdx fun index a => g index (f a) := by
  apply List.ext_getElem?
  intro index
  simp [Function.comp_def]

/-- The items at all places are the items. -/
theorem filterMap_getElem?_range (items : List α) :
    (List.range items.length).filterMap (items[·]?) = items := by
  induction items with
  | nil => rfl
  | cons item rest ih =>
      rw [List.length_cons, List.range_succ_eq_map, List.filterMap_cons, List.filterMap_map]
      exact congrArg (item :: ·) ih

/-! ### Maps that may fail -/

theorem mapM_eq_some_iff {f : α → Option β} {xs : List α} {ys : List β} :
    xs.mapM f = some ys ↔ List.Forall₂ (fun a b => f a = some b) xs ys := by
  induction xs generalizing ys with
  | nil => rw [List.mapM_nil, List.forall₂_nil_left_iff, Option.pure_def, Option.some_inj, eq_comm]
  | cons a xs ih =>
    rw [List.mapM_cons, List.forall₂_cons_left_iff]
    simp only [Option.bind_eq_bind, Option.bind_eq_some_iff, Option.pure_def, Option.some_inj, ih]
    constructor
    · rintro ⟨b, head, bs, tail, rfl⟩
      exact ⟨b, bs, head, tail, rfl⟩
    · rintro ⟨b, bs, head, tail, rfl⟩
      exact ⟨b, head, bs, tail, rfl⟩

theorem mapM_eq_none_iff {f : α → Option β} {xs : List α} :
    xs.mapM f = none ↔ ∃ a ∈ xs, f a = none := by
  induction xs with
  | nil => simp
  | cons a xs ih =>
    rw [List.mapM_cons, List.exists_mem_cons_iff, ← ih]
    cases f a with
    | none => simp
    | some b => cases xs.mapM f <;> simp

theorem mapM_eq_map_iff {f : α → Option γ} {g : α → Option β} {h : β → γ} {xs : List α}
    (found : ∀ a ∈ xs, (f a).isSome) :
    xs.mapM f = (xs.mapM g).map (List.map h) ↔ ∀ a ∈ xs, f a = (g a).map h := by
  induction xs with
  | nil => simp
  | cons a xs ih =>
    obtain ⟨head, tail⟩ := List.forall_mem_cons.mp found
    obtain ⟨c, first⟩ := Option.isSome_iff_exists.mp head
    rw [List.forall_mem_cons, ← ih tail, List.mapM_cons, List.mapM_cons, first]
    cases others : xs.mapM f with
    | none =>
      obtain ⟨b, member, missing⟩ := mapM_eq_none_iff.mp others
      have present := tail b member
      rw [missing] at present
      cases present
    | some cs => cases g a <;> cases xs.mapM g <;> simp

theorem map_mapM (f : α → Option β) (g : β → γ) (xs : List α) :
    (xs.mapM f).map (List.map g) = xs.mapM fun a => (f a).map g := by
  induction xs with
  | nil => rfl
  | cons a xs ih =>
    rw [List.mapM_cons, List.mapM_cons, ← ih]
    cases f a with
    | none => rfl
    | some b => cases xs.mapM f <;> rfl

theorem mapM_bind_mapM (f : α → Option β) (g : β → Option γ) (xs : List α) :
    (xs.mapM f).bind (List.mapM g) = xs.mapM fun a => (f a).bind g := by
  induction xs with
  | nil => rfl
  | cons a xs ih =>
    rw [List.mapM_cons, List.mapM_cons, ← ih]
    cases f a with
    | none => rfl
    | some b => cases xs.mapM f <;> simp

theorem mapM_congr {f : α → Option γ} {g : β → Option γ} {xs : List α} {ys : List β}
    (same : List.Forall₂ (fun a b => f a = g b) xs ys) : xs.mapM f = ys.mapM g := by
  induction same with
  | nil => rfl
  | cons head _ ih => rw [List.mapM_cons, List.mapM_cons, head, ih]

/-! ### Lists that commute -/

/-- Two lists commute when both repeat one list, and only then. -/
theorem append_comm_iff {xs ys : List α} : xs ++ ys = ys ++ xs ↔
    ∃ word m n, xs = (List.replicate m word).flatten ∧ ys = (List.replicate n word).flatten := by
  have joins (word : List α) (m n : Nat) : (List.replicate (m + n) word).flatten =
      (List.replicate m word).flatten ++ (List.replicate n word).flatten := by
    rw [← List.flatten_append, List.replicate_append_replicate]
  constructor
  · intro same
    induction bound : xs.length + ys.length using Nat.strongRecOn generalizing xs ys with
    | ind total ih =>
        by_cases first : xs = []
        · exact ⟨ys, 0, 1, first, by simp⟩
        by_cases second : ys = []
        · exact ⟨xs, 1, 0, by simp, second⟩
        have long := List.length_pos_iff.mpr first
        have long' := List.length_pos_iff.mpr second
        -- the shorter list starts the longer one, and commutes with what is left of it
        obtain ⟨rest, starts, ends⟩ | ⟨rest, starts, ends⟩ := List.append_eq_append_iff.mp same
        · have length := congrArg List.length starts
          rw [List.length_append] at length
          obtain ⟨word, m, n, rfl, rfl⟩ := ih _ (by omega) (starts.symm.trans ends) rfl
          exact ⟨word, m, m + n, rfl, starts.trans (joins word m n).symm⟩
        · have length := congrArg List.length starts
          rw [List.length_append] at length
          obtain ⟨word, m, n, rfl, rfl⟩ := ih _ (by omega) (starts.symm.trans ends) rfl
          exact ⟨word, m + n, m, starts.trans (joins word m n).symm, rfl⟩
  · rintro ⟨word, m, n, rfl, rfl⟩
    rw [← joins, ← joins, Nat.add_comm]

/-- An item is the only one of its key when the keys are distinct. -/
theorem only_of_distinct {α β : Type} {items : List α} {key : α → β} {item : α}
    (distinct : (items.map key).Nodup) (member : item ∈ items) :
    ∃ i : Nat, items[i]? = some item ∧
      ∀ (j : Nat) other, items[j]? = some other → key other = key item → j = i := by
  obtain ⟨i, here⟩ := List.getElem?_of_mem member
  refine ⟨i, here, ?_⟩
  intro j other there same
  have inside := (List.getElem?_eq_some_iff.mp there).1
  apply (List.getElem?_inj (by rwa [List.length_map]) distinct).mp
  rw [List.getElem?_map, List.getElem?_map, here, there, Option.map_some, Option.map_some, same]

/-- A list falls apart in one way into items of a kind and what does not begin with one. -/
theorem append_unique {p : α → Bool} {l l' r r' : List α} (kind : ∀ a ∈ l, p a)
    (kind' : ∀ a ∈ l', p a) (stops : ∀ a ∈ r.head?, p a = false)
    (stops' : ∀ a ∈ r'.head?, p a = false) (same : l ++ r = l' ++ r') : l = l' ∧ r = r' := by
  induction l generalizing l' with
  | nil =>
      cases l' with
      | nil => exact ⟨rfl, same⟩
      | cons a rest =>
          rw [List.nil_append, List.cons_append] at same
          rw [same] at stops
          have stop := stops a rfl
          rw [kind' a List.mem_cons_self] at stop
          cases stop
  | cons a rest ih =>
      cases l' with
      | nil =>
          rw [List.nil_append, List.cons_append] at same
          rw [← same] at stops'
          have stop := stops' a rfl
          rw [kind a List.mem_cons_self] at stop
          cases stop
      | cons a' rest' =>
          obtain ⟨rfl, others⟩ := List.cons.inj same
          obtain ⟨rfl, rfl⟩ := ih (fun b member => kind b (List.mem_cons_of_mem _ member))
            (fun b member => kind' b (List.mem_cons_of_mem _ member)) others
          exact ⟨rfl, rfl⟩

/-- An association list from items finds the first item of a key. -/
theorem lookup_map_toAList {κ : Type} [DecidableEq κ] (list : List α) (key : α → κ) (value : α → β)
    (k : κ) : (list.map fun a => (⟨key a, value a⟩ : Sigma fun _ : κ => β)).toAList.lookup k =
      (list.find? fun a => key a = k).map value := by
  rw [AList.lookup_to_alist]
  induction list with
  | nil => rfl
  | cons a rest ih =>
      by_cases same : key a = k
      · subst same
        simp
      · rw [List.map_cons, List.dlookup_cons_ne _ _ (Ne.symm same), ih]
        simp [same]

section FirstFound
variable {f : α → Option β} {xs ys : List α}

/-- What is found first in some order. -/
theorem exists_findSome?_eq {x : α} {b : β} (member : x ∈ xs) (found : f x = some b) :
    ∃ ys : List α, ys.Perm xs ∧ ys.findSome? f = some b := by
  obtain ⟨before, after, rfl⟩ := List.append_of_mem member
  exact ⟨x :: (before ++ after), List.perm_middle.symm, by rw [List.findSome?_cons, found]⟩

theorem findSome?_isSome_of_perm (perm : ys.Perm xs) :
    (ys.findSome? f).isSome = (xs.findSome? f).isSome := by
  rw [Bool.eq_iff_iff, List.findSome?_isSome_iff, List.findSome?_isSome_iff]
  simp only [perm.mem_iff]

/-- The order does not matter just when all items that give something give the same. -/
theorem findSome?_perm_iff : (∀ ys : List α, ys.Perm xs → ys.findSome? f = xs.findSome? f) ↔
    ∀ x ∈ xs, ∀ y ∈ xs, ∀ b ∈ f x, ∀ c ∈ f y, b = c := by
  constructor
  · intro same x memberX y memberY b foundX c foundY
    obtain ⟨first, permX, firstX⟩ := exists_findSome?_eq memberX foundX
    obtain ⟨second, permY, firstY⟩ := exists_findSome?_eq memberY foundY
    rw [same first permX] at firstX
    rw [same second permY, firstX] at firstY
    exact Option.some.inj firstY
  · intro agree ys perm
    have both := findSome?_isSome_of_perm (f := f) perm
    cases found : xs.findSome? f with
    | none =>
        rw [found] at both
        exact Option.not_isSome_iff_eq_none.mp (Bool.eq_false_iff.mp both)
    | some b =>
        rw [found] at both
        obtain ⟨c, found'⟩ := Option.isSome_iff_exists.mp both
        obtain ⟨x, memberX, atX⟩ := List.exists_of_findSome?_eq_some found
        obtain ⟨y, memberY, atY⟩ := List.exists_of_findSome?_eq_some found'
        rw [found']
        exact congrArg some (agree y (perm.subset memberY) x memberX c atY b atX)

end FirstFound

end Lists
