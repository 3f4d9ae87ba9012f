import Datapress.DataFusion.IndexBuild
import Datapress.DataFusion.ResidentSql

/-! The rows that the in-memory paths select: in the column that the policy indexes under the
name of a predicate, their cells are spelled as one of its literals. -/
namespace Datapress.DataFusion.Resident
open Positions

section
variable [JsonText]

/-- Whether a literal is spelled as a cell. The spelling of a floating-point number is
`serde_json`'s own. -/
def spells : JsonValue → Cell → Bool
  | .string text, .utf8 value => text == value
  | .string text, .boolean value => text == if value then "true" else "false"
  | .string text, .int value => text == value.repr
  | .bool b, .utf8 value => value == if b then "true" else "false"
  | .bool b, .boolean value => b == value
  | .number (.posInt n), .utf8 value => value == n.toNat.repr
  | .number (.posInt n), .int value => value == n.toNat
  | .number (.negInt n _), .utf8 value => value == n.toInt.repr
  | .number (.negInt n _), .int value => value == n.toInt
  | .number (.float x), .utf8 value => value == JsonText.display (.number (.float x))
  | .number (.float x), .boolean value =>
    (if value then "true" else "false") == JsonText.display (.number (.float x))
  | .number (.float x), .int value => value.repr == JsonText.display (.number (.float x))
  | _, _ => false

omit [JsonText] in
theorem mem_repr {n : Int} {c : Char} (member : c ∈ n.repr.toList) : c.isDigit = true ∨ c = '-' := by
  have digits (m : Nat) (listed : c ∈ m.repr.toList) : c.isDigit = true := by
    rw [Nat.repr_eq_ofList_toDigits, String.toList_ofList] at listed
    exact Nat.isDigit_of_mem_toDigits (by decide) (by decide) listed
  cases n with
  | ofNat m => exact .inl (digits m member)
  | negSucc m =>
      rw [Int.repr, String.toList_append, List.mem_append] at member
      rcases member with sign | listed
      · exact .inr (List.mem_singleton.mp sign)
      · exact .inl (digits _ listed)

omit [JsonText] in
theorem repr_ne_bool (n : Int) (b : Bool) : n.repr ≠ toString b := by
  intro same
  have letter : 'e' ∈ (toString b).toList := by cases b <;> decide
  rw [← same] at letter
  rcases mem_repr letter with digit | sign
  · exact absurd digit (by decide)
  · exact absurd sign (by decide)

/-- The keys of the index are these spellings. -/
theorem key_eq_spells (literal : JsonValue) (cell : Cell) :
    ((jsonIndexKey literal).any fun key => cell.text == some key) = spells literal cell := by
  cases literal with
  | null | array _ | object _ => rfl
  | string text =>
      cases cell with
      | null | other _ => rfl
      | utf8 value | int value => exact Bool.beq_comm
      | boolean value => cases value <;> exact Bool.beq_comm
  | bool b =>
      cases cell with
      | null | other _ => rfl
      | utf8 value => cases b <;> rfl
      | boolean value => cases b <;> cases value <;> rfl
      | int value => exact beq_false_of_ne fun same => repr_ne_bool value b (Option.some.inj same)
  | number number =>
      cases number with
      | float x =>
          cases cell with
          | null | other _ => rfl
          | utf8 value | int value => rfl
          | boolean value => cases value <;> rfl
      | posInt n =>
          cases cell with
          | null | other _ => rfl
          | utf8 value => rfl
          | boolean value =>
              exact beq_false_of_ne fun same =>
                repr_ne_bool n.toNat value (Option.some.inj same).symm
          | int value =>
              change (some value.repr == some (n.toNat : Int).repr) = (value == n.toNat)
              rw [Bool.eq_iff_iff, beq_iff_eq, beq_iff_eq, Option.some_inj, Int.repr_inj]
      | negInt n _ =>
          cases cell with
          | null | other _ => rfl
          | utf8 value => rfl
          | boolean value =>
              exact beq_false_of_ne fun same =>
                repr_ne_bool n.toInt value (Option.some.inj same).symm
          | int value =>
              change (some value.repr == some n.toInt.repr) = (value == n.toInt)
              rw [Bool.eq_iff_iff, beq_iff_eq, beq_iff_eq, Option.some_inj, Int.repr_inj]

end

section
variable [ToLowercase]

/-- Whether the policy has a column indexed: one of an indexable type, that is listed or in
automatic mode has few enough values as the build reads them. -/
def indexes (config : IndexConfig) (batches : Batches) (field : Field) (ci : Nat) : Bool :=
  field.dataType.indexed &&
    match config.mode with
    | .none => false
    | .list => config.columns.any (toLowercase · == toLowercase field.name)
    | .auto =>
      distinctValues (tableRows ColumnArray.read batches.arrays) ci ≤ config.maxCardinality

/-- The column that a name is looked up in: the last indexed one of the name. -/
def lookedUp (config : IndexConfig) (batches : Batches) (name : String) : Option Nat :=
  (batches.fields.zipIdx.reverse.find? fun (field, ci) =>
    toLowercase field.name == toLowercase name && indexes config batches field ci).map (·.2)

theorem indexes_iff {config : IndexConfig} {batches : Batches} {field : Field} {ci : Nat}
    (found : batches.fields[ci]? = some field) :
    indexes config batches field ci = true ↔ Sought config field ∧
      Fits config (tableRows ColumnArray.read batches.arrays) ci := by
  by_cases indexable : field.dataType.indexed = true
  case neg => simp [indexes, Sought, indexable]
  have card := card_cells (fun _ _ _ typed => typed.read) batches.arrays found indexable
  unfold indexes Sought Fits
  rw [card, indexable]
  cases mode : config.mode <;> simp

theorem owner_eq_lookedUp (config : IndexConfig) (batches : Batches) (name : String) :
    owner batches.arrays config (toLowercase name) = lookedUp config batches name := by
  ext ci
  rw [owner_iff, and_iff_right batches.nonempty, lookedUp,
    find?_zipIdx_reverse]
  refine IsLast.congr fun i field found => ?_
  rw [Bool.and_eq_true, beq_iff_eq, indexes_iff found]

variable [JsonText]

/-- Whether a row is spelled as a predicate asks, as the build of the index reads the row. -/
def meets (config : IndexConfig) (batches : Batches) (pred : Predicate)
    (place : ArrowBatch batches.fields × Nat) : Bool :=
  (lookedUp config batches pred.col).any fun ci =>
    (Predicate.literals pred).any (spells · (cellAt (rowAt ColumnArray.read place) ci))

def spelled (config : IndexConfig) (batches : Batches) (predicates : List Predicate)
    (place : ArrowBatch batches.fields × Nat) : Bool :=
  predicates.all (meets config batches · place)

def spelledRows (config : IndexConfig) (batches : Batches) (predicates : List Predicate) :
    List Row :=
  ((places batches.arrays).filter (spelled config batches predicates)).map
    (rowAt ColumnArray.value)

theorem byText_eq_spelled (config : IndexConfig) (batches : Batches) (predicates : List Predicate)
    (place : ArrowBatch batches.fields × Nat) :
    byText (owner batches.arrays config) predicates (rowAt ColumnArray.read place) =
      spelled config batches predicates place := by
  unfold byText spelled
  congr 1
  funext pred
  rw [meetsByText, owner_eq_lookedUp, meets]
  cases lookedUp config batches pred.col with
  | none => rfl
  | some ci =>
      simp only [Option.any_some, hasText, key_eq_spells]

theorem indexedRows_eq (config : IndexConfig) (batches : Batches) (predicates : List Predicate) :
    indexedRows config batches predicates = spelledRows config batches predicates := by
  unfold indexedRows spelledRows
  simp only [byText_eq_spelled]

end

end Datapress.DataFusion.Resident
