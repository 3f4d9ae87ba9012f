import Datapress.Library.JsonDocuments
import Datapress.Wire

/-!
What the client crate reads of an answer. The reader of its texts is `serde_json`, of which only
what it makes of the texts that the answers are put together of is assumed.
-/
namespace Datapress

open JsonReader Records JsonValue

/-! ### serde_json -/

/-- `Number::from` of a machine integer. -/
def JsonNumber.ofInt (n : Int) : JsonNumber :=
  if negative : n < 0 ∧ Int64.ofInt n < 0 then .negInt (.ofInt n) negative.2
  else .posInt (.ofNat n.toNat)

theorem JsonNumber.ofInt_toNat (n : UInt64) : ofInt n.toNat = .posInt n := by
  have positive : ¬ ((n.toNat : Int) < 0 ∧ Int64.ofInt n.toNat < 0) :=
    fun negative => absurd negative.1 (Int.not_lt.mpr (Int.natCast_nonneg _))
  rw [ofInt, dif_neg positive, Int.toNat_natCast, UInt64.ofNat_toNat]

/-- `serde_json::from_str` into a value, with the levels of lists and objects it may still enter. -/
structure SerdeJson where
  fromStr : Nat → List Char → Option JsonValue

namespace SerdeJson

/-- The text is a JSON document, and the value is read of it. -/
def Takes (serde : SerdeJson) (levels : Nat) (text : List Char) (value : JsonValue) : Prop :=
  (∃ document, Document text document) ∧ serde.fromStr levels text = some value

/-- An integer is read as it is where 64 bits hold it. An object has its fields in the order of
the map of `serde_json`. -/
structure Lawful (serde : SerdeJson) : Prop where
  null : ∀ levels, serde.fromStr levels ['n', 'u', 'l', 'l'] = some .null
  bool : ∀ levels (value : Bool), serde.fromStr levels (toString value).toList = some (.bool value)
  int : ∀ levels (n : Int), -2 ^ 63 ≤ n → n < 2 ^ 64 →
    serde.fromStr levels (toString n).toList = some (.number (.ofInt n))
  string : ∀ levels text content, Document text (.string content) →
    serde.fromStr levels text = some (.string (.ofList content))
  array : ∀ levels (items : List (List Char × JsonValue)),
    (∀ item ∈ items, Opens item.1 ∧ serde.Takes levels item.1 item.2) →
    serde.fromStr (levels + 1) ('[' :: itemTexts (items.map Prod.fst)) =
      some (.array (items.map Prod.snd))
  object : ∀ levels (members : List (String × List Char × JsonValue)),
    (members.map Prod.fst).Nodup →
    (∀ member ∈ members, member.1.toList.all plain = true ∧
      serde.Takes levels member.2.1 member.2.2) →
    ∃ fields, fields.Perm (members.map fun member => (member.1, member.2.2)) ∧
      serde.fromStr (levels + 1)
        ('{' :: memberTexts (members.map fun member => (member.1.toList, member.2.1))) =
          some (.object fields)

namespace Lawful

variable {serde : SerdeJson} (lawful : serde.Lawful) {levels : Nat}
include lawful

theorem takes_null : serde.Takes levels ['n', 'u', 'l', 'l'] .null :=
  ⟨⟨_, document_of_reads reads_null⟩, lawful.null levels⟩

theorem takes_bool (value : Bool) : serde.Takes levels (toString value).toList (.bool value) :=
  ⟨⟨_, document_of_reads (reads_bool value)⟩, lawful.bool levels value⟩

theorem takes_int {n : Int} (low : -2 ^ 63 ≤ n) (high : n < 2 ^ 64) :
    serde.Takes levels (toString n).toList (.number (.ofInt n)) :=
  ⟨⟨_, document_of_reads (reads_number n)⟩, lawful.int levels n low high⟩

theorem takes_count (n : UInt64) : serde.Takes levels (toString n).toList (ofU64 n) := by
  have low : (-2 ^ 63 : Int) ≤ n.toNat := Int.le_trans (by decide) (Int.natCast_nonneg _)
  have high : (n.toNat : Int) < 2 ^ 64 := by exact_mod_cast n.toNat_lt
  have taken : serde.Takes levels _ _ := lawful.takes_int low high
  rwa [JsonNumber.ofInt_toNat] at taken

theorem takes_string {text content : List Char} (document : Document text (.string content)) :
    serde.Takes levels text (.string (.ofList content)) :=
  ⟨⟨_, document⟩, lawful.string levels text content document⟩

theorem takes_array (items : List (List Char × JsonValue))
    (each : ∀ item ∈ items, Opens item.1 ∧ serde.Takes levels item.1 item.2) :
    serde.Takes (levels + 1) ('[' :: itemTexts (items.map Prod.fst)) (.array (items.map Prod.snd)) := by
  obtain ⟨_, _, whole⟩ := exists_document_list fun item member =>
    ⟨(each item member).1, (each item member).2.1⟩
  exact ⟨⟨_, whole⟩, lawful.array levels items each⟩

theorem takes_object (members : List (String × List Char × JsonValue))
    (distinct : (members.map Prod.fst).Nodup)
    (each : ∀ member ∈ members, member.1.toList.all plain = true ∧
      serde.Takes levels member.2.1 member.2.2) :
    ∃ fields, fields.Perm (members.map fun member => (member.1, member.2.2)) ∧
      serde.Takes (levels + 1)
        ('{' :: memberTexts (members.map fun member => (member.1.toList, member.2.1)))
        (.object fields) := by
  obtain ⟨fields, order, taken⟩ := lawful.object levels members distinct each
  obtain ⟨_, _, whole⟩ := exists_document_object fun member listed =>
    ⟨(each member listed).1, (each member listed).2.1⟩
  exact ⟨fields, order, ⟨_, whole⟩, taken⟩

end Lawful

end SerdeJson

/-! ### The client -/

namespace Client

structure QueryResponse where
  data : List JsonValue
  page : Option UInt64
  pageSize : Option UInt64

structure SqlResponse where
  data : List JsonValue
  maxRows : Option UInt64

def QueryResponse.ofJson (body : JsonValue) : Option QueryResponse := do
  let fields ← body.asFields
  let data ← field fields "data" (asVec some) none
  let page ← field fields "page" (asOption asU64) (some none)
  let pageSize ← field fields "page_size" (asOption asU64) (some none)
  some { data, page, pageSize }

def SqlResponse.ofJson (body : JsonValue) : Option SqlResponse := do
  let fields ← body.asFields
  let data ← field fields "data" (asVec some) none
  let maxRows ← field fields "max_rows" (asOption asU64) (some none)
  some { data, maxRows }

variable (serde : SerdeJson)

/-- `json_response`, of an answer that is a success. `serde_json` goes into 127 levels. -/
def jsonResponse (body : String) : Option JsonValue :=
  if body.isEmpty then some .null else serde.fromStr 127 body.toList

/-- What `query_json` makes of the body of a success. -/
def queryJson (body : String) : Option QueryResponse :=
  (jsonResponse serde body).bind QueryResponse.ofJson

/-- What `sql` makes of the body of a success. -/
def sql (body : String) : Option SqlResponse := (jsonResponse serde body).bind SqlResponse.ofJson

theorem asVec_some (items : List JsonValue) : asVec some (.array items) = some items := by
  rw [asVec, Lists.mapM_eq_some_iff]
  exact List.forall₂_same.mpr fun _ _ => rfl

variable {serde}

theorem jsonResponse_of_takes {body : String} {value : JsonValue} {text : List Char}
    (written : body.toList = '{' :: text) (taken : serde.Takes 127 body.toList value) :
    jsonResponse serde body = some value := by
  have inhabited : ¬ body.isEmpty = true := by
    intro empty
    rw [String.isEmpty_iff.mp empty] at written
    cases written
  rw [jsonResponse, if_neg inhabited, taken.2]

end Client

/-! ### A reader of integers -/

/-- What `serde_json` makes of a value, where that is no floating-point number. -/
def ofDocument : Nat → Value → Option JsonValue
  | _, .null => some .null
  | _, .bool value => some (.bool value)
  | _, .number n exponent =>
    if exponent = 0 ∧ -2 ^ 63 ≤ n ∧ n < 2 ^ 64 then some (.number (.ofInt n)) else none
  | _, .string text => some (.string (.ofList text))
  | 0, .array _ => none
  | levels + 1, .array items => (items.mapM (ofDocument levels)).map .array
  | 0, .object _ => none
  | levels + 1, .object members =>
    (members.mapM fun member => (ofDocument levels member.2).map (String.ofList member.1, ·)).map
      .object

/-- A reader of the texts that hold no other numbers, which keeps the order of the fields. -/
def integersOnly : SerdeJson where
  fromStr levels text := (read text).bind (ofDocument levels)

theorem integersOnly_of_document {levels : Nat} {text : List Char} {document : Value}
    (stands : Document text document) :
    integersOnly.fromStr levels text = ofDocument levels document := by
  simp only [integersOnly, stands.read, Option.bind_some]

theorem integersOnly_array {levels : Nat} {items : List (List Char × JsonValue)}
    (each : ∀ item ∈ items, Opens item.1 ∧ integersOnly.Takes levels item.1 item.2) :
    integersOnly.fromStr (levels + 1) ('[' :: itemTexts (items.map Prod.fst)) =
      some (.array (items.map Prod.snd)) := by
  obtain ⟨value, document, whole⟩ := exists_document_list fun item member =>
    ⟨(each item member).1, (each item member).2.1⟩
  refine (integersOnly_of_document whole).trans ?_
  refine congrArg (Option.map JsonValue.array) (Lists.mapM_eq_some_iff.mpr ?_)
  rw [List.forall₂_map_left_iff, List.forall₂_map_right_iff, List.forall₂_same]
  intro item member
  exact (integersOnly_of_document (document item member)).symm.trans (each item member).2.2

theorem integersOnly_object {levels : Nat} {members : List (String × List Char × JsonValue)}
    (each : ∀ member ∈ members, member.1.toList.all plain = true ∧
      integersOnly.Takes levels member.2.1 member.2.2) :
    integersOnly.fromStr (levels + 1)
        ('{' :: memberTexts (members.map fun member => (member.1.toList, member.2.1))) =
      some (.object (members.map fun member => (member.1, member.2.2))) := by
  obtain ⟨value, document, whole⟩ := exists_document_object fun member listed =>
    ⟨(each member listed).1, (each member listed).2.1⟩
  refine (integersOnly_of_document whole).trans ?_
  refine congrArg (Option.map JsonValue.object) (Lists.mapM_eq_some_iff.mpr ?_)
  rw [List.forall₂_map_left_iff, List.forall₂_map_right_iff, List.forall₂_same]
  intro member listed
  have taken := (integersOnly_of_document (document member listed)).symm.trans
    (each member listed).2.2
  simp only [taken, Option.map_some, String.ofList_toList]

theorem integersOnly_lawful : integersOnly.Lawful where
  null levels := by
    rw [integersOnly_of_document (document_of_reads reads_null), ofDocument]
  bool levels value := by
    rw [integersOnly_of_document (document_of_reads (reads_bool value)), ofDocument]
  int levels n low high := by
    rw [integersOnly_of_document (document_of_reads (reads_number n)), ofDocument,
      if_pos ⟨rfl, low, high⟩]
  string levels text content document := by
    rw [integersOnly_of_document document, ofDocument]
  array levels items each := integersOnly_array each
  object levels members _ each := ⟨_, .refl _, integersOnly_object each⟩

end Datapress
