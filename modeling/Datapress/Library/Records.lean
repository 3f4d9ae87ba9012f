import Datapress.Library.Lists

/-!
Records as lists of fields. A record is written without the fields that have nothing to say; it is
read by name, where unknown fields are passed over, a missing one may have a default, and one that
is there twice is refused.
-/
namespace Records

variable {K V α : Type} [DecidableEq K]

/-- The fields that are written. -/
def present (fields : List (K × Option V)) : List (K × V) :=
  fields.filterMap fun field => field.2.map (field.1, ·)

/-- What the record has under a name. -/
def unique (key : K) (fields : List (K × V)) : Option (Option V) :=
  match fields.filter fun field => field.1 = key with
  | [] => some none
  | [field] => some (some field.2)
  | _ :: _ :: _ => none

/-- Reads a field; `missing` is what a record without it stands for, if it may do without. -/
def field (fields : List (K × V)) (key : K) (ofValue : V → Option α) (missing : Option α) :
    Option α :=
  (unique key fields).bind fun found => found.elim missing ofValue

theorem field_of_unique {fields : List (K × V)} {key : K} {value : V}
    (found : unique key fields = some (some value)) (ofValue : V → Option α) (missing : Option α) :
    field fields key ofValue missing = ofValue value := by
  rw [field, found]
  rfl

/-- Of the fields of a name no others are left. -/
theorem filter_present_of_not_mem {key : K} {fields : List (K × Option V)}
    (absent : key ∉ fields.map Prod.fst) :
    ((present fields).filter fun field => field.1 = key) = [] := by
  rw [List.filter_eq_nil_iff]
  intro field member same
  obtain ⟨⟨name, value⟩, among, written⟩ := List.mem_filterMap.mp member
  obtain ⟨_, _, rfl⟩ := Option.map_eq_some_iff.mp written
  exact absent (List.mem_map.mpr ⟨_, among, of_decide_eq_true same⟩)

/-- What is written under names of their own is found under these names. -/
theorem unique_present {key : K} {value : Option V} {fields : List (K × Option V)}
    (distinct : (fields.map Prod.fst).Nodup) (member : (key, value) ∈ fields) :
    unique key (present fields) = some value := by
  suffices only : ((present fields).filter fun field => field.1 = key) =
      (value.map (key, ·)).toList by
    rw [unique, only]
    cases value <;> rfl
  induction fields with
  | nil => cases member
  | cons first others ih =>
      obtain ⟨apart, distinct⟩ := List.nodup_cons.mp distinct
      have split : present (first :: others) = (first.2.map (first.1, ·)).toList ++ present others := by
        simp only [present, List.filterMap_cons]
        cases first.2 <;> rfl
      rw [split, List.filter_append]
      rcases List.mem_cons.mp member with rfl | later
      · rw [filter_present_of_not_mem apart, List.append_nil]
        cases value <;> simp
      · have other : first.1 ≠ key := fun same =>
          apart (same ▸ List.mem_map_of_mem (f := Prod.fst) later)
        rw [ih distinct later]
        cases first.2 <;> simp [other]

/-- What stands under names of their own is found under these names. -/
theorem unique_eq {key : K} {value : V} {fields : List (K × V)}
    (distinct : (fields.map Prod.fst).Nodup) (member : (key, value) ∈ fields) :
    unique key fields = some (some value) := by
  have all : present (fields.map fun field => (field.1, some field.2)) = fields := by
    rw [present, List.filterMap_map]
    exact List.filterMap_some
  have names : ((fields.map fun field => (field.1, some field.2)).map Prod.fst).Nodup := by
    rwa [List.map_map]
  have found := unique_present names (List.mem_map.mpr ⟨_, member, rfl⟩)
  rwa [all] at found

/-- The order of the fields does not matter. -/
theorem unique_perm {key : K} {fields others : List (K × V)} (same : fields.Perm others) :
    unique key fields = unique key others := by
  have filtered := same.filter fun field => decide (field.1 = key)
  unfold unique
  cases found : others.filter fun field => decide (field.1 = key) with
  | nil =>
      rw [found, List.perm_nil] at filtered
      rw [filtered]
  | cons first later =>
      rw [found] at filtered
      cases later with
      | nil => rw [List.perm_singleton.mp filtered]
      | cons second rest =>
          have many := filtered.length_eq
          split
          case h_1 none => rw [none] at many; cases many
          case h_2 one => rw [one] at many; cases many
          case h_3 => rfl

/-- A field is read as it was written, or as its default when it was left out. -/
theorem field_present (fields : List (K × Option V)) (names : List K)
    (named : fields.map Prod.fst = names) (distinct : names.Nodup) :
    ∀ ⦃α : Type⦄ ⦃ofValue : V → Option α⦄ ⦃missing : Option α⦄ ⦃key : K⦄ ⦃value : Option V⦄ (i : Nat),
      fields[i]? = some (key, value) →
        field (present fields) key ofValue missing = value.elim missing ofValue := by
  intro α ofValue missing key value i here
  subst named
  rw [field, unique_present distinct (List.mem_of_getElem? here), Option.bind_some]

end Records
