import Mathlib.Data.List.Dedup

/-! The items of a list whose name is new: no item before them has it, nor any of the names that
were taken when the list began. -/
namespace Fresh

variable {α β κ : Type} [DecidableEq κ] {name : α → κ} {taken more : List κ} {xs ys : List α}

def fresh (name : α → κ) : List κ → List α → List α
  | _, [] => []
  | taken, a :: rest =>
    if name a ∈ taken then fresh name taken rest else a :: fresh name (taken ++ [name a]) rest

/-- Only which names are taken counts. -/
theorem fresh_congr (same : ∀ k, k ∈ taken ↔ k ∈ more) :
    fresh name taken xs = fresh name more xs := by
  induction xs generalizing taken more with
  | nil => rfl
  | cons a rest ih =>
      simp only [fresh, same]
      split
      · exact ih same
      · have more : ∀ k, k ∈ taken ++ [name a] ↔ k ∈ more ++ [name a] := fun k => by
          simp only [List.mem_append, same]
        rw [ih more]

theorem fresh_append : fresh name taken (xs ++ ys) =
    fresh name taken xs ++ fresh name (taken ++ (fresh name taken xs).map name) ys := by
  induction xs generalizing taken with
  | nil => simp [fresh]
  | cons a rest ih =>
      simp only [List.cons_append, fresh]
      split
      · exact ih
      · rw [ih, List.cons_append, List.map_cons, ← List.append_cons]

theorem fresh_map {f : α → β} {other : β → κ} (same : ∀ a, other (f a) = name a) :
    fresh other taken (xs.map f) = (fresh name taken xs).map f := by
  induction xs generalizing taken with
  | nil => rfl
  | cons a rest ih =>
      simp only [List.map_cons, fresh, same]
      split
      · exact ih
      · rw [ih, List.map_cons]

/-- With more names taken, items of these names go. -/
theorem fresh_taken_append : fresh name (taken ++ more) xs =
    (fresh name taken xs).filter fun a => name a ∉ more := by
  induction xs generalizing taken with
  | nil => rfl
  | cons a rest ih =>
      have order : fresh name (taken ++ more ++ [name a]) rest =
          fresh name (taken ++ [name a] ++ more) rest :=
        fresh_congr fun k => by simp only [List.mem_append]; tauto
      by_cases before : name a ∈ taken
      · simp only [fresh, List.mem_append, before, true_or, if_true]
        exact ih
      · by_cases among : name a ∈ more
        · have gone : fresh name (taken ++ more) rest =
              fresh name (taken ++ [name a] ++ more) rest := by
            refine fresh_congr fun k => ?_
            simp only [List.mem_append, List.mem_singleton]
            constructor
            · tauto
            · rintro ((here | rfl) | there)
              · exact .inl here
              · exact .inr among
              · exact .inr there
          simp only [fresh, List.mem_append, before, among, false_or, if_true, if_false,
            List.filter_cons, not_true_eq_false, decide_false, Bool.false_eq_true]
          rw [gone, ih]
        · simp only [fresh, List.mem_append, before, among, or_self, if_false, List.filter_cons,
            not_false_eq_true, decide_true, if_true]
          rw [order, ih]

theorem nodup_fresh (unique : taken.Nodup) : (taken ++ (fresh name taken xs).map name).Nodup := by
  induction xs generalizing taken with
  | nil => simpa [fresh] using unique
  | cons a rest ih =>
      simp only [fresh]
      split
      · exact ih unique
      case isFalse new =>
        have next : (taken ++ [name a]).Nodup := by
          rw [List.nodup_append]
          refine ⟨unique, List.nodup_singleton _, ?_⟩
          rintro k here _ (_ | ⟨_, ⟨⟩⟩) rfl
          exact new here
        rw [List.map_cons, List.append_cons]
        exact ih next

theorem nodup_names : ((fresh name taken xs).map name).Nodup := by
  have same : fresh name taken xs = fresh name taken.dedup xs :=
    fresh_congr fun k => List.mem_dedup.symm
  rw [same]
  exact (List.nodup_append.mp (nodup_fresh (List.nodup_dedup taken))).2.1

/-- Items put in front change nothing just when the new ones among them came first anyway. -/
theorem fresh_append_eq_iff :
    fresh name taken (xs ++ ys) = fresh name taken ys ↔
      fresh name taken xs <+: fresh name taken ys := by
  constructor
  · intro same
    exact ⟨_, fresh_append.symm.trans same⟩
  · rintro ⟨rest, whole⟩
    have unique : ((fresh name taken ys).map name).Nodup := nodup_names
    rw [← whole, List.map_append, List.nodup_append] at unique
    have gone : (fresh name taken xs).filter
        (fun a => name a ∉ (fresh name taken xs).map name) = [] := by
      rw [List.filter_eq_nil_iff]
      exact fun a member => by simpa using ⟨a, member, rfl⟩
    have stay : rest.filter (fun a => name a ∉ (fresh name taken xs).map name) = rest :=
      List.filter_eq_self.mpr fun a member => decide_eq_true fun among =>
        unique.2.2 _ among _ (List.mem_map_of_mem member) rfl
    rw [fresh_append, fresh_taken_append, ← whole, List.filter_append, gone, stay, List.nil_append]

/-- Looked up by a name that nothing took, the new pairs answer like all of them. -/
theorem lookup_fresh {pairs : List (κ × β)} {k : κ} (new : k ∉ taken) :
    (fresh Prod.fst taken pairs).lookup k = pairs.lookup k := by
  induction pairs generalizing taken with
  | nil => rfl
  | cons pair rest ih =>
      obtain ⟨key, value⟩ := pair
      by_cases same : k = key
      · subst same
        rw [fresh, if_neg new, List.lookup_cons_self, List.lookup_cons_self]
      · have other : (k == key) = false := beq_false_of_ne same
        rw [fresh]
        split
        · rw [ih new, List.lookup_cons, other]
        · have still : k ∉ taken ++ [key] := by simpa using ⟨new, same⟩
          rw [List.lookup_cons, other, List.lookup_cons, other]
          exact ih still

end Fresh
