import Mathlib.Data.List.Basic

/-! TOML documents as far as a program reads and writes records with them: values, the top level
with the style of its entries, and tables that are written and read field by field. -/
namespace Toml

inductive Value where
  | string (text : String)
  | integer (value : Int)
  | boolean (value : Bool)
  | array (items : List Value)
  | table (entries : List (String × Value))

abbrev Table := List (String × Value)

/-- An entry of the top level. -/
inductive Item where
  | value (value : Value)
  /-- The tables under the `[[key]]` headers. -/
  | tables (tables : List Table)

abbrev Document := List (String × Item)

/-! ### Another `[[key]]` at the end of a document -/

/-- A value cannot be extended by a header. -/
def push (key : String) (table : Table) : Document → Option Document
  | [] => some [(key, .tables [table])]
  | (other, item) :: rest =>
    if other = key then
      match item with
      | .tables tables => some ((other, .tables (tables ++ [table])) :: rest)
      | .value _ => none
    else (push key table rest).map ((other, item) :: ·)

/-- The entries beside that of a key. -/
def without (key : String) (doc : Document) : Document := doc.filter (·.1 ≠ key)

section
variable {key : String} {table : Table} {doc pushed : Document}

theorem push_eq_none_iff : push key table doc = none ↔ ∃ value, doc.lookup key = some (.value value) := by
  induction doc with
  | nil => simp [push]
  | cons entry rest ih =>
      obtain ⟨other, item⟩ := entry
      by_cases same : other = key
      · subst same
        cases item <;> simp [push]
      · have apart : (key == other) = false := by simpa using Ne.symm same
        simp only [push, if_neg same, Option.map_eq_none_iff, ih, List.lookup_cons, apart]

theorem lookup_push (grown : push key table doc = some pushed) :
    ∃ tables, pushed.lookup key = some (.tables (tables ++ [table])) ∧
      (doc.lookup key = some (.tables tables) ∨ doc.lookup key = none ∧ tables = []) := by
  induction doc generalizing pushed with
  | nil =>
      cases grown
      exact ⟨[], by simp, .inr ⟨rfl, rfl⟩⟩
  | cons entry rest ih =>
      obtain ⟨other, item⟩ := entry
      by_cases same : other = key
      · subst same
        simp only [push, if_true] at grown
        cases item with
        | value => cases grown
        | tables tables =>
            cases grown
            exact ⟨tables, by simp, .inl (by simp)⟩
      · have apart : (key == other) = false := by simpa using Ne.symm same
        simp only [push, if_neg same] at grown
        obtain ⟨tail, pushes, rfl⟩ := Option.map_eq_some_iff.mp grown
        simp only [List.lookup_cons, apart]
        exact ih pushes

theorem without_push (grown : push key table doc = some pushed) :
    without key pushed = without key doc := by
  induction doc generalizing pushed with
  | nil =>
      cases grown
      simp [without]
  | cons entry rest ih =>
      obtain ⟨other, item⟩ := entry
      by_cases same : other = key
      · subst same
        simp only [push, if_true] at grown
        cases item with
        | value => cases grown
        | tables tables =>
            cases grown
            simp [without]
      · simp only [push, if_neg same] at grown
        obtain ⟨tail, pushes, rfl⟩ := Option.map_eq_some_iff.mp grown
        simp only [without, List.filter_cons]
        rw [← without, ← without, ih pushes]

end

/-! ### Records -/

/-- The fields of a record. One without a value is left out. -/
def entries (fields : List (String × Option Value)) : Table :=
  fields.filterMap fun field => field.2.map (field.1, ·)

theorem lookup_entries {fields : List (String × Option Value)} {key : String}
    (distinct : (fields.map (·.1)).Nodup) :
    (entries fields).lookup key = (fields.lookup key).join := by
  induction fields with
  | nil => rfl
  | cons field rest ih =>
      obtain ⟨name, value⟩ := field
      obtain ⟨fresh, others⟩ := List.nodup_cons.mp distinct
      by_cases same : key = name
      · subst same
        cases value with
        | some value => simp [entries]
        | none =>
            have absent : rest.lookup key = none := by
              rw [List.lookup_eq_none_iff]
              intro entry member
              have apart : key ≠ entry.1 := by
                rintro rfl
                have inside : entry.1 ∈ rest.map (·.1) := List.mem_map_of_mem member
                exact fresh inside
              simpa using apart
            have tail : (entries rest).lookup key = none := by rw [ih others, absent]; rfl
            simpa [entries] using tail
      · have apart : (key == name) = false := by simpa using same
        cases value with
        | some value =>
            simp only [entries, List.filterMap_cons, Option.map_some, List.lookup_cons, apart]
            exact ih others
        | none =>
            simp only [entries, List.filterMap_cons, Option.map_none, List.lookup_cons, apart]
            exact ih others

section
variable {α : Type}

/-- A field that must be there. -/
def field (key : String) (read : Value → Option α) (table : Table) : Option α :=
  (table.lookup key).bind read

/-- A field with a default. -/
def fieldOr (key : String) (read : Value → Option α) (missing : α) (table : Table) : Option α :=
  match table.lookup key with
  | some value => read value
  | none => some missing

/-- A field that may be left out. -/
def fieldOption (key : String) (read : Value → Option α) : Table → Option (Option α) :=
  fieldOr key (fun value => (read value).map some) none

/-- `deny_unknown_fields` -/
def knows (keys : List String) (table : Table) : Bool := table.all fun entry => keys.contains entry.1

theorem knows_entries {keys : List String} {fields : List (String × Option Value)}
    (known : fields.map (·.1) = keys) : knows keys (entries fields) = true := by
  rw [knows, List.all_eq_true, ← known]
  intro entry member
  obtain ⟨field, listed, written⟩ := List.mem_filterMap.mp member
  obtain ⟨value, _, rfl⟩ := Option.map_eq_some_iff.mp written
  exact List.contains_iff_mem.mpr (List.mem_map_of_mem listed)

variable {key : String} {read : Value → Option α} {table : Table} {value : Value} {x : α}

theorem field_eq (found : table.lookup key = some value) (reads : read value = some x) :
    field key read table = some x := by
  rw [field, found]
  exact reads

theorem fieldOr_eq {missing : α} (found : table.lookup key = some value)
    (reads : read value = some x) : fieldOr key read missing table = some x := by
  rw [fieldOr, found]
  exact reads

theorem fieldOr_missing {missing : α} (absent : table.lookup key = none) :
    fieldOr key read missing table = some missing := by
  rw [fieldOr, absent]

/-- A default that is not written is read all the same. -/
theorem fieldOr_skipped {missing : α} {p : Prop} [Decidable p]
    (found : table.lookup key = if p then none else some value) (skipped : p → x = missing)
    (reads : read value = some x) : fieldOr key read missing table = some x := by
  by_cases holds : p
  · rw [skipped holds]
    exact fieldOr_missing (found.trans (if_pos holds))
  · exact fieldOr_eq (found.trans (if_neg holds)) reads

/-- What is read may differ from what was written. -/
theorem fieldOption_eq {β : Type} {write : β → Value} {written : Option β} {back : β → α}
    (found : table.lookup key = written.map write) (reads : ∀ y, read (write y) = some (back y)) :
    fieldOption key read table = some (written.map back) := by
  cases written with
  | none => exact fieldOr_missing found
  | some y => exact fieldOr_eq found (congrArg (Option.map some) (reads y))

end

/-! ### Values -/

def readString : Value → Option String
  | .string text => some text
  | _ => none

def readBool : Value → Option Bool
  | .boolean value => some value
  | _ => none

def readNat : Value → Option Nat
  | .integer value => value.toNat?
  | _ => none

def readTable {α : Type} (read : Table → Option α) : Value → Option α
  | .table entries => read entries
  | _ => none

def readArray {α : Type} (read : Value → Option α) : Value → Option (List α)
  | .array items => items.mapM read
  | _ => none

def strings (texts : List String) : Value := .array (texts.map Value.string)

theorem mapM_map_eq {α : Type} {read : Value → Option α} {write : α → Value} {items : List α}
    (reads : ∀ x ∈ items, read (write x) = some x) : (items.map write).mapM read = some items := by
  induction items with
  | nil => rfl
  | cons x rest ih =>
      obtain ⟨first, others⟩ := List.forall_mem_cons.mp reads
      rw [List.map_cons, List.mapM_cons, first, ih others]
      rfl

theorem read_strings (texts : List String) : readArray readString (strings texts) = some texts :=
  mapM_map_eq fun _ _ => rfl

theorem readNat_integer (n : Nat) : readNat (.integer n) = some n :=
  Int.mem_toNat?.mpr rfl

/-- A unit variant by its name. -/
def readVariant {α : Type} (name : α → String) (variants : List α) (value : Value) : Option α :=
  (readString value).bind fun text => variants.find? fun variant => name variant = text

end Toml
