import Datapress.Library.Records
import Datapress.Models

/-!
Requests on the wire: the bodies the client crate writes and the requests the server reads of
them, as JSON documents.

The server's readers are those that `serde` derives; a body that is no object is refused here.
-/
namespace Datapress

open Records

/-! ### Readers -/

namespace JsonValue

def asString : JsonValue → Option String
  | .string text => some text
  | _ => none

def asBool : JsonValue → Option Bool
  | .bool value => some value
  | _ => none

def asU64 : JsonValue → Option UInt64
  | .number n => n.asU64
  | _ => none

/-- An optional value: `null` counts as none. -/
def asOption {α : Type} (ofValue : JsonValue → Option α) : JsonValue → Option (Option α)
  | .null => some none
  | value => (ofValue value).map some

def asVec {α : Type} (ofValue : JsonValue → Option α) : JsonValue → Option (List α)
  | .array items => items.mapM ofValue
  | _ => none

def asFields : JsonValue → Option (List (String × JsonValue))
  | .object fields => some fields
  | _ => none

def isNull : JsonValue → Bool
  | .null => true
  | _ => false

def ofU64 (n : UInt64) : JsonValue := .number (.posInt n)

@[simp] theorem asString_string (text : String) : asString (.string text) = some text := rfl

@[simp] theorem asU64_ofU64 (n : UInt64) : asU64 (ofU64 n) = some n := rfl

@[simp] theorem asOption_string (text : String) :
    asOption asString (.string text) = some (some text) := rfl

@[simp] theorem asOption_ofU64 (n : UInt64) : asOption asU64 (ofU64 n) = some (some n) := rfl

/-- A list is read item by item. -/
theorem asVec_map {α β : Type} {write : α → JsonValue} {ofValue : JsonValue → Option β}
    {image : α → β} (items : List α) (reads : ∀ a, ofValue (write a) = some (image a)) :
    asVec ofValue (.array (items.map write)) = some (items.map image) := by
  rw [asVec, Lists.mapM_eq_some_iff]
  induction items with
  | nil => exact .nil
  | cons item items ih => exact .cons (reads item) ih

end JsonValue

open JsonValue

section Server

def Predicate.ofJson (body : JsonValue) : Option Predicate := do
  let fields ← body.asFields
  let col ← field fields "col" asString none
  let op ← field fields "op" asString none
  let val ← field fields "val" (asOption some) (some none)
  some { col, op, val }

def OrderBy.ofJson (body : JsonValue) : Option OrderBy := do
  let fields ← body.asFields
  let col ← field fields "col" asString none
  let dir ← field fields "dir" (asOption asString) (some none)
  some { col, dir }

def Aggregation.ofJson (body : JsonValue) : Option Aggregation := do
  let fields ← body.asFields
  let col ← field fields "col" (asOption asString) (some none)
  let op ← field fields "op" asString none
  let outputAlias ← field fields "alias" (asOption asString) (some none)
  some { col, op, outputAlias }

def defaultPage : UInt64 := 1

def defaultPageSize : UInt64 := 1000

def QueryRequest.ofJson (body : JsonValue) : Option QueryRequest := do
  let fields ← body.asFields
  let columns ← field fields "columns" (asVec asString) (some [])
  let predicates ← field fields "predicates" (asVec Predicate.ofJson) (some [])
  let groupBy ← field fields "group_by" (asVec asString) (some [])
  let aggregations ← field fields "aggregations" (asVec Aggregation.ofJson) (some [])
  let having ← field fields "having" (asVec Predicate.ofJson) (some [])
  let distinct ← field fields "distinct" asBool (some false)
  let orderBy ← field fields "order_by" (asVec OrderBy.ofJson) (some [])
  let limit ← field fields "limit" (asOption asU64) (some none)
  let page ← field fields "page" asU64 (some defaultPage)
  let pageSize ← field fields "page_size" asU64 (some defaultPageSize)
  some { columns, predicates, groupBy, aggregations, having, distinct, orderBy, limit, page, pageSize }

def CountRequest.ofJson (body : JsonValue) : Option CountRequest := do
  let fields ← body.asFields
  let predicates ← field fields "predicates" (asVec Predicate.ofJson) (some [])
  some { predicates }

end Server

/-! ### The client -/

namespace Client

/-- A list that is left out when it is empty. -/
def unlessEmpty {α : Type} (write : α → JsonValue) : List α → Option JsonValue
  | [] => none
  | items => some (.array (items.map write))

/-- The predicates, sort keys and aggregations of the client have the fields of the server's. -/
def predicateFields (p : Predicate) : List (String × Option JsonValue) :=
  [("col", some (.string p.col)), ("op", some (.string p.op)), ("val", p.val)]

def orderByFields (o : OrderBy) : List (String × Option JsonValue) :=
  [("col", some (.string o.col)), ("dir", o.dir.map .string)]

def aggregationFields (a : Aggregation) : List (String × Option JsonValue) :=
  [("col", a.col.map .string), ("op", some (.string a.op)), ("alias", a.outputAlias.map .string)]

def predicate (p : Predicate) : JsonValue := .object (present (predicateFields p))

def orderBy (o : OrderBy) : JsonValue := .object (present (orderByFields o))

def aggregation (a : Aggregation) : JsonValue := .object (present (aggregationFields a))

structure QueryRequest where
  columns : List String := []
  predicates : List Predicate := []
  groupBy : List String := []
  aggregations : List Aggregation := []
  having : List Predicate := []
  distinct : Bool := false
  orderBy : List OrderBy := []
  limit : Option UInt64 := none
  page : Option UInt64 := none
  pageSize : Option UInt64 := none
deriving Repr

def QueryRequest.fields (r : QueryRequest) : List (String × Option JsonValue) :=
  [("columns", unlessEmpty .string r.columns),
    ("predicates", unlessEmpty predicate r.predicates),
    ("group_by", unlessEmpty .string r.groupBy),
    ("aggregations", unlessEmpty aggregation r.aggregations),
    ("having", unlessEmpty predicate r.having),
    ("distinct", if r.distinct then some (.bool true) else none),
    ("order_by", unlessEmpty Client.orderBy r.orderBy),
    ("limit", r.limit.map ofU64),
    ("page", r.page.map ofU64),
    ("page_size", r.pageSize.map ofU64)]

def QueryRequest.toJson (r : QueryRequest) : JsonValue := .object (present r.fields)

/-- The body of `Client::count`. -/
def count (predicates : List Predicate) : JsonValue :=
  .object [("predicates", .array (predicates.map predicate))]

/-! ### What arrives -/

/-- A `null` value does not arrive: the server takes it for a missing one. -/
def received (p : Predicate) : Predicate :=
  { p with val := p.val.filter fun value => !value.isNull }

theorem predicate_received (p : Predicate) :
    Predicate.ofJson (predicate p) = some (received p) := by
  have read := field_present (predicateFields p) ["col", "op", "val"] rfl (by decide)
  simp only [Predicate.ofJson, predicate, asFields, Option.bind_eq_bind, Option.bind_some]
  rw [read 0 rfl, read 1 rfl, read 2 rfl]
  obtain ⟨col, op, val⟩ := p
  cases val with
  | none => rfl
  | some value => cases value <;> rfl

theorem orderBy_received (o : OrderBy) : OrderBy.ofJson (orderBy o) = some o := by
  have read := field_present (orderByFields o) ["col", "dir"] rfl (by decide)
  simp only [OrderBy.ofJson, orderBy, asFields, Option.bind_eq_bind, Option.bind_some]
  rw [read 0 rfl, read 1 rfl]
  obtain ⟨col, dir⟩ := o
  cases dir <;> rfl

theorem aggregation_received (a : Aggregation) : Aggregation.ofJson (aggregation a) = some a := by
  have read := field_present (aggregationFields a) ["col", "op", "alias"] rfl
    (by decide)
  simp only [Aggregation.ofJson, aggregation, asFields, Option.bind_eq_bind, Option.bind_some]
  rw [read 0 rfl, read 1 rfl, read 2 rfl]
  obtain ⟨col, op, outputAlias⟩ := a
  cases col <;> cases outputAlias <;> rfl

/-- A list that was left out arrives as the empty list. -/
theorem unlessEmpty_received {α β : Type} {write : α → JsonValue} {ofValue : JsonValue → Option β}
    {image : α → β} (items : List α) (reads : ∀ a, ofValue (write a) = some (image a)) :
    (unlessEmpty write items).elim (some []) (asVec ofValue) = some (items.map image) := by
  cases items with
  | nil => rfl
  | cons item items => exact asVec_map (item :: items) reads

/-- The request the server reads of a client's. -/
def QueryRequest.received (r : QueryRequest) : Datapress.QueryRequest where
  columns := r.columns
  predicates := r.predicates.map Client.received
  groupBy := r.groupBy
  aggregations := r.aggregations
  having := r.having.map Client.received
  distinct := r.distinct
  orderBy := r.orderBy
  limit := r.limit
  page := r.page.getD defaultPage
  pageSize := r.pageSize.getD defaultPageSize

theorem QueryRequest.ofJson_toJson (r : QueryRequest) :
    Datapress.QueryRequest.ofJson r.toJson = some r.received := by
  have read := field_present r.fields ["columns", "predicates", "group_by",
    "aggregations", "having", "distinct", "order_by", "limit", "page", "page_size"] rfl (by decide)
  simp only [Datapress.QueryRequest.ofJson, QueryRequest.toJson, asFields, Option.bind_eq_bind,
    Option.bind_some]
  rw [read 0 rfl, read 1 rfl, read 2 rfl, read 3 rfl, read 4 rfl, read 5 rfl, read 6 rfl,
    read 7 rfl, read 8 rfl, read 9 rfl]
  rw [unlessEmpty_received r.columns asString_string,
    unlessEmpty_received r.predicates predicate_received,
    unlessEmpty_received r.groupBy asString_string,
    unlessEmpty_received r.aggregations aggregation_received,
    unlessEmpty_received r.having predicate_received,
    unlessEmpty_received r.orderBy orderBy_received]
  have flag : (if r.distinct then some (JsonValue.bool true) else none).elim (some false) asBool =
      some r.distinct := by
    cases r.distinct <;> rfl
  have cap (limit : Option UInt64) :
      (limit.map ofU64).elim (some none) (asOption asU64) = some limit := by
    cases limit <;> rfl
  have number (n : Option UInt64) (default : UInt64) :
      (n.map ofU64).elim (some default) asU64 = some (n.getD default) := by
    cases n <;> rfl
  rw [flag, cap, number, number]
  simp only [Option.bind_some, List.map_id', QueryRequest.received]

theorem ofJson_count (predicates : List Predicate) :
    CountRequest.ofJson (count predicates) =
      some { predicates := predicates.map received } := by
  have there : field [("predicates", JsonValue.array (predicates.map predicate))] "predicates"
      (asVec Predicate.ofJson) (some []) = some (predicates.map received) :=
    asVec_map predicates predicate_received
  simp only [CountRequest.ofJson, count, asFields, Option.bind_eq_bind, Option.bind_some, there]

/-- Every structured query and every count arrives as it was built: what the client leaves out is
what the server fills in, and only a `null` in a predicate is lost. -/
theorem requests_received (r : QueryRequest) (predicates : List Predicate) :
    Datapress.QueryRequest.ofJson r.toJson = some r.received ∧
      CountRequest.ofJson (count predicates) = some { predicates := predicates.map received } :=
  ⟨r.ofJson_toJson, ofJson_count predicates⟩

end Client
end Datapress
