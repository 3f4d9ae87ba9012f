import Datapress.ClientJson
import Datapress.DataFusion.Serialize
import Datapress.EnforcementProofs
import Datapress.Handlers

/-!
The JSON answers of the query endpoints: the rows that the databases write, the envelope of the
handlers around them, and what the client crate reads of it.

What DuckDB writes for a row is a text of its own.
-/
namespace Datapress

open JsonReader Records

/-! ### The server -/

namespace DuckDB

/-- The loop of `stream_as_json_array`, over rows that may fail to be fetched. -/
def pushRows : List (Except AppError String) → Bool → String → Except AppError String
  | [], _, buf => .ok buf
  | row :: rows, first, buf => do
    let obj ← row
    pushRows rows false ((if first then buf else buf ++ ",") ++ obj)

def streamAsJsonArray (rows : List (Except AppError String)) : Except AppError String := do
  let buf ← pushRows rows true "["
  .ok (buf ++ "]")

end DuckDB

/-- The envelopes around the rows, which are spliced in as they are. -/
def Body.envelope : Body String → Option String
  | .page arr n size => some s!"\x7b\"data\":{arr},\"page\":{n},\"page_size\":{size}\x7d"
  | .sqlRows arr maxRows => some s!"\x7b\"data\":{arr},\"max_rows\":{maxRows}\x7d"
  | _ => none

/-! ### The envelope is read -/

section
variable {serde : SerdeJson} {arr : String} {rows : List JsonValue}

/-- The members of an envelope: the rows and some numbers about them. -/
def members (arr : String) (rows : List JsonValue) (numbers : List (String × UInt64)) :
    List (String × List Char × JsonValue) :=
  ("data", arr.toList, .array rows) :: numbers.map fun number =>
    (number.1, (toString number.2).toList, JsonValue.ofU64 number.2)

/-- An envelope with numbers under names of their own is an object, which has the rows and the
numbers. -/
theorem takes_members (lawful : serde.Lawful) (taken : serde.Takes 126 arr.toList (.array rows))
    (numbers : List (String × UInt64)) (distinct : ("data" :: numbers.map Prod.fst).Nodup)
    (names : ∀ name ∈ numbers.map Prod.fst, name.toList.all plain = true) :
    ∃ fields, serde.Takes 127
        ('{' :: memberTexts ((members arr rows numbers).map fun member =>
          (member.1.toList, member.2.1))) (.object fields) ∧
      unique "data" fields = some (some (.array rows)) ∧
      ∀ number ∈ numbers, unique number.1 fields = some (some (JsonValue.ofU64 number.2)) := by
  have apart : ((members arr rows numbers).map Prod.fst).Nodup := by
    rw [members, List.map_cons, List.map_map]
    exact distinct
  have each : ∀ member ∈ members arr rows numbers, member.1.toList.all plain = true ∧
      serde.Takes 126 member.2.1 member.2.2 := by
    refine List.forall_mem_cons.mpr ⟨⟨by simp; decide, taken⟩, ?_⟩
    rw [List.forall_mem_map]
    exact fun number member =>
      ⟨names _ (List.mem_map_of_mem member), lawful.takes_count number.2⟩
  obtain ⟨fields, order, read⟩ := lawful.takes_object _ apart each
  have own : (((members arr rows numbers).map fun member => (member.1, member.2.2)).map
      Prod.fst).Nodup := by
    rwa [List.map_map]
  refine ⟨fields, read, ?_, fun number member => ?_⟩
  · rw [unique_perm order]
    exact unique_eq own List.mem_cons_self
  · rw [unique_perm order]
    refine unique_eq own (List.mem_cons_of_mem _ ?_)
    rw [List.map_map]
    exact List.mem_map.mpr ⟨number, member, rfl⟩

theorem queryResponse_of_fields {fields : List (String × JsonValue)} {n size : UInt64}
    (data : unique "data" fields = some (some (.array rows)))
    (page : unique "page" fields = some (some (JsonValue.ofU64 n)))
    (pageSize : unique "page_size" fields = some (some (JsonValue.ofU64 size))) :
    Client.QueryResponse.ofJson (.object fields) =
      some { data := rows, page := some n, pageSize := some size } := by
  simp only [Client.QueryResponse.ofJson, JsonValue.asFields, Option.bind_eq_bind, Option.bind_some,
    field_of_unique data, field_of_unique page, field_of_unique pageSize, Client.asVec_some,
    JsonValue.asOption_ofU64]

theorem sqlResponse_of_fields {fields : List (String × JsonValue)} {cap : UInt64}
    (data : unique "data" fields = some (some (.array rows)))
    (maxRows : unique "max_rows" fields = some (some (JsonValue.ofU64 cap))) :
    Client.SqlResponse.ofJson (.object fields) = some { data := rows, maxRows := some cap } := by
  simp only [Client.SqlResponse.ofJson, JsonValue.asFields, Option.bind_eq_bind, Option.bind_some,
    field_of_unique data, field_of_unique maxRows, Client.asVec_some, JsonValue.asOption_ofU64]

/-- The client reads of a page the rows that are read of the array in it. -/
theorem queryJson_page (lawful : serde.Lawful) (taken : serde.Takes 126 arr.toList (.array rows))
    (n size : UInt64) {body : String} (written : Body.envelope (.page arr n size) = some body) :
    (∃ document, Document body.toList document) ∧ Client.queryJson serde body =
      some { data := rows, page := some n, pageSize := some size } := by
  cases written
  have text : (s!"\x7b\"data\":{arr},\"page\":{n},\"page_size\":{size}\x7d").toList =
      '{' :: memberTexts ((members arr rows [("page", n), ("page_size", size)]).map fun member =>
        (member.1.toList, member.2.1)) := by
    simp only [members, List.map_cons, List.map_nil, memberTexts, String.toList_append,
      List.append_assoc, List.cons_append]
    rfl
  obtain ⟨fields, read, data, numbers⟩ := takes_members lawful taken
    [("page", n), ("page_size", size)] (by simp) (by simp; decide)
  have page := numbers ("page", n) List.mem_cons_self
  have pageSize := numbers ("page_size", size) (List.mem_cons_of_mem _ List.mem_cons_self)
  rw [← text] at read
  refine ⟨read.1, ?_⟩
  rw [Client.queryJson, Client.jsonResponse_of_takes text read, Option.bind_some]
  exact queryResponse_of_fields data page pageSize

/-- The client reads of the answer to a statement the rows that are read of the array in it. -/
theorem sql_sqlRows (lawful : serde.Lawful) (taken : serde.Takes 126 arr.toList (.array rows))
    (cap : UInt64) {body : String} (written : Body.envelope (.sqlRows arr cap) = some body) :
    (∃ document, Document body.toList document) ∧
      Client.sql serde body = some { data := rows, maxRows := some cap } := by
  cases written
  have text : (s!"\x7b\"data\":{arr},\"max_rows\":{cap}\x7d").toList =
      '{' :: memberTexts ((members arr rows [("max_rows", cap)]).map fun member =>
        (member.1.toList, member.2.1)) := by
    simp only [members, List.map_cons, List.map_nil, memberTexts, String.toList_append,
      List.append_assoc, List.cons_append]
    rfl
  obtain ⟨fields, read, data, numbers⟩ := takes_members lawful taken
    [("max_rows", cap)] (by simp) (by simp; decide)
  have maxRows := numbers ("max_rows", cap) List.mem_cons_self
  rw [← text] at read
  refine ⟨read.1, ?_⟩
  rw [Client.sql, Client.jsonResponse_of_takes text read, Option.bind_some]
  exact sqlResponse_of_fields data maxRows

end

/-! ### The rows -/

namespace DuckDB

/-- What the loop appends for rows that could all be fetched. -/
theorem pushRows_ok (texts : List String) (buf : String) :
    ∃ arr, pushRows (texts.map .ok) false buf = .ok arr ∧
      arr.toList = buf.toList ++ texts.flatMap fun text => ',' :: text.toList := by
  induction texts generalizing buf with
  | nil => exact ⟨buf, rfl, (List.append_nil _).symm⟩
  | cons text texts ih =>
      obtain ⟨arr, pushed, whole⟩ := ih (buf ++ "," ++ text)
      refine ⟨arr, pushed, ?_⟩
      rw [whole]
      simp

/-- The array of rows that could all be fetched. -/
theorem streamAsJsonArray_ok (texts : List String) :
    ∃ arr, streamAsJsonArray (texts.map .ok) = .ok arr ∧
      arr.toList = '[' :: itemTexts (texts.map String.toList) := by
  cases texts with
  | nil => exact ⟨"[]", rfl, rfl⟩
  | cons text texts =>
      obtain ⟨arr, pushed, whole⟩ := pushRows_ok texts ("[" ++ text)
      refine ⟨arr ++ "]", ?_, ?_⟩
      · have first : pushRows ((text :: texts).map .ok) true "[" = .ok arr := pushed
        rw [streamAsJsonArray, first]
        rfl
      · rw [List.map_cons, itemTexts_eq, String.toList_append, whole]
        simp [List.flatMap_map]

/-- A row that cannot be fetched fails the answer, whatever was written before. -/
theorem pushRows_error (texts : List String) (e : AppError) (rest : List (Except AppError String))
    (first : Bool) (buf : String) :
    pushRows (texts.map .ok ++ .error e :: rest) first buf = .error e := by
  induction texts generalizing first buf with
  | nil => rfl
  | cons text texts ih => exact ih _ _

theorem streamAsJsonArray_error (texts : List String) (e : AppError)
    (rest : List (Except AppError String)) :
    streamAsJsonArray (texts.map .ok ++ .error e :: rest) = .error e := by
  rw [streamAsJsonArray, pushRows_error]
  rfl

/-- Either all rows were fetched or there is a first one that was not. -/
theorem fetched_or_failed (rows : List (Except AppError String)) :
    (∃ texts : List String, rows = texts.map .ok) ∨
      ∃ (texts : List String) (e : AppError) (rest : List (Except AppError String)),
        rows = texts.map .ok ++ .error e :: rest := by
  induction rows with
  | nil => exact .inl ⟨[], rfl⟩
  | cons row rows ih =>
      cases row with
      | error e => exact .inr ⟨[], e, rows, rfl⟩
      | ok text =>
          rcases ih with ⟨texts, rfl⟩ | ⟨texts, e, rest, rfl⟩
          · exact .inl ⟨text :: texts, rfl⟩
          · exact .inr ⟨text :: texts, e, rest, rfl⟩

/-- The text of an object, as the database writes a row. -/
def IsRow (text : String) (value : Value) : Prop :=
  Document text.toList value ∧ text.toList.head? = some '{'

theorem document_rows {rows : List (String × Value)} (each : ∀ row ∈ rows, IsRow row.1 row.2)
    {arr : String} (written : arr.toList = '[' :: itemTexts ((rows.map Prod.fst).map String.toList)) :
    Document arr.toList (.array (rows.map Prod.snd)) := by
  let item (row : String × Value) : List Char × Value := (row.1.toList, row.2)
  have texts : (rows.map Prod.fst).map String.toList = (rows.map item).map Prod.fst := by
    simp only [List.map_map, Function.comp_def, item]
  have values : rows.map Prod.snd = (rows.map item).map Prod.snd := by
    simp only [List.map_map, Function.comp_def, item]
  rw [written, texts, values]
  refine document_list ?_ ?_
  · rw [List.forall_mem_map]
    exact fun row member => ⟨'{', (each row member).2, by decide, by decide⟩
  · rw [List.forall_mem_map]
    exact fun row member => (each row member).1

/-- The answer is one document with just the rows that were fetched, in their order; when a row
could not be fetched it is the error of the first such row. -/
theorem streamAsJsonArray_rows {rows : List (Except AppError String)}
    (objects : ∀ text, .ok text ∈ rows → ∃ value, IsRow text value) :
    (∀ arr, streamAsJsonArray rows = .ok arr → ∃ fetched : List (String × Value),
      rows = fetched.map (fun row => .ok row.1) ∧ (∀ row ∈ fetched, IsRow row.1 row.2) ∧
        Document arr.toList (.array (fetched.map Prod.snd))) ∧
      ∀ e, streamAsJsonArray rows = .error e ↔
        ∃ (texts : List String) (rest : List (Except AppError String)),
          rows = texts.map .ok ++ .error e :: rest := by
  have nonempty : Nonempty Value := ⟨.null⟩
  refine ⟨fun arr streamed => ?_, fun e => ⟨fun failed => ?_, ?_⟩⟩
  · rcases fetched_or_failed rows with ⟨texts, rfl⟩ | ⟨texts, e, rest, rfl⟩
    · obtain ⟨_, same, written⟩ := streamAsJsonArray_ok texts
      cases streamed.symm.trans same
      choose! value row using objects
      have each : ∀ row ∈ texts.map fun text => (text, value text), IsRow row.1 row.2 := by
        rw [List.forall_mem_map]
        exact fun text member => row text (List.mem_map_of_mem member)
      refine ⟨texts.map fun text => (text, value text), ?_, each, document_rows each ?_⟩
      · rw [List.map_map]
        rfl
      · rw [written, List.map_map, List.map_map]
        rfl
    · cases streamed.symm.trans (streamAsJsonArray_error texts e rest)
  · rcases fetched_or_failed rows with ⟨texts, rfl⟩ | ⟨texts, first, rest, rfl⟩
    · obtain ⟨_, streamed, _⟩ := streamAsJsonArray_ok texts
      cases failed.symm.trans streamed
    · cases failed.symm.trans (streamAsJsonArray_error texts first rest)
      exact ⟨texts, rest, rfl⟩
  · rintro ⟨texts, rest, rfl⟩
    exact streamAsJsonArray_error texts e rest

/-- Two rows. -/
theorem streamAsJsonArray_rows_two :
    let rows := [.ok "\x7b\"a\":1\x7d", .ok "\x7b\"a\":2\x7d"]
    (∀ arr, streamAsJsonArray rows = .ok arr → ∃ fetched : List (String × Value),
      rows = fetched.map (fun row => .ok row.1) ∧ (∀ row ∈ fetched, IsRow row.1 row.2) ∧
        Document arr.toList (.array (fetched.map Prod.snd))) ∧
      ∀ e, streamAsJsonArray rows = .error e ↔
        ∃ (texts : List String) (rest : List (Except AppError String)),
          rows = texts.map .ok ++ .error e :: rest := by
  have row (n : Nat) (text : String)
      (written : text.toList = '{' :: memberTexts [(['a'], (toString n).toList)]) :
      ∃ value, IsRow text value := by
    have document := @document_object [(['a'], (toString n).toList, .number n 0)] (by simp; decide)
      (List.forall_mem_cons.mpr ⟨document_nat n, List.forall_mem_nil _⟩)
    exact ⟨_, written ▸ document, by rw [written]; rfl⟩
  refine streamAsJsonArray_rows fun text member => ?_
  rcases List.mem_cons.mp member with first | member
  · cases first
    exact row 1 _ rfl
  · cases List.mem_singleton.mp member
    exact row 2 _ rfl

end DuckDB

/-! ### The handlers -/

section
variable [ToLowercase] {api : Api String} {principal : Option Principal} {name : String}
  {request : QueryRequest} {response : Response String}

/-- The check of a structured query leaves its page as it is clamped. -/
theorem enforce_page {maxPageSize : UInt64} {lookup : Except AppError DatasetSchema} {call : Call}
    (admitted : (Call.query request).enforce maxPageSize lookup = .ok call) :
    ∃ enforced, call = .query enforced ∧ enforced.page = (request.clampPage maxPageSize).page ∧
      enforced.pageSize = (request.clampPage maxPageSize).pageSize := by
  obtain ⟨enforced, checked, rfl⟩ := Fallible.map_ok_iff.mp admitted
  refine ⟨enforced, rfl, ?_⟩
  unfold QueryRequest.enforce at checked
  split at checked
  case h_1 schema =>
    rw [(QueryRequest.enforceColumnFilters_ok checked).frame]
    exact ⟨rfl, rfl⟩
  case h_2 => cases checked; exact ⟨rfl, rfl⟩
  case h_3 => cases checked; exact ⟨rfl, rfl⟩
  case h_4 => cases checked

variable {serde : SerdeJson}

/-- The backend answers in JSON: with an array of rows, which `serde_json` reads inside of one
more object. -/
structure WritesRows (serde : SerdeJson) (backend : BackendData String) : Prop where
  answer : ∀ name asked arr, backend.answer name (.query asked) = .ok arr →
    ∃ rows, serde.Takes 126 arr.toList (.array rows)
  querySql : ∀ sql datasets cap arr, backend.querySql sql datasets cap = .ok arr →
    ∃ rows, serde.Takes 126 arr.toList (.array rows)

/-- What the client reads of an answer: the rows that the backend wrote, with the page as the
backend was asked for it, or with the cap as the backend was given it. -/
structure Delivers (serde : SerdeJson) (api : Api String) (principal : Option Principal) : Prop where
  page : ∀ name request response,
    Handlers.queryDataset api principal false name request = .ok response →
      ∃ asked arr rows body, api.backend.answer name (.query asked) = .ok arr ∧
        serde.fromStr 126 arr.toList = some (.array rows) ∧ response.body.envelope = some body ∧
        (∃ document, Document body.toList document) ∧
        Client.queryJson serde body =
          some { data := rows, page := some asked.page, pageSize := some asked.pageSize } ∧
        asked.page = (request.clampPage api.maxPageSize).page ∧
        asked.pageSize = (request.clampPage api.maxPageSize).pageSize
  sqlRows : ∀ sql maxRows response, Handlers.sqlQuery api principal false sql maxRows = .ok response →
    ∃ validated datasets cap arr rows body,
      api.backend.querySql validated datasets cap = .ok arr ∧
      serde.fromStr 126 arr.toList = some (.array rows) ∧ response.body.envelope = some body ∧
      (∃ document, Document body.toList document) ∧
      Client.sql serde body = some { data := rows, maxRows := some cap } ∧
      cap = Handlers.SqlSettings.cap api.sql maxRows

/-- Every answer in JSON is one document, of which the client reads what the backend wrote. -/
theorem answers_delivered (lawful : serde.Lawful) (writes : WritesRows serde api.backend) :
    Delivers serde api principal := by
  constructor
  · intro name request response answered
    obtain ⟨_, _, answered⟩ := Fallible.bind_ok_iff.mp answered
    obtain ⟨call, admitted, answered⟩ := Fallible.bind_ok_iff.mp answered
    obtain ⟨arr, ran, sent⟩ := Fallible.bind_ok_iff.mp answered
    cases sent
    obtain ⟨asked, rfl, page, pageSize⟩ := enforce_page admitted
    obtain ⟨rows, taken⟩ := writes.answer _ _ _ ran
    obtain ⟨document, read⟩ := queryJson_page lawful taken asked.page asked.pageSize rfl
    rw [page, pageSize] at document read
    refine ⟨asked, arr, rows, _, ran, taken.2, rfl, document, ?_, page, pageSize⟩
    rw [page, pageSize]
    exact read
  · intro sql maxRows response answered
    obtain ⟨_, answered⟩ := Fallible.refuse_ok_iff.mp answered
    obtain ⟨_, _, answered⟩ := Fallible.bind_ok_iff.mp answered
    obtain ⟨validated, _, answered⟩ := Fallible.bind_ok_iff.mp answered
    obtain ⟨arr, ran, sent⟩ := Fallible.bind_ok_iff.mp answered
    cases sent
    obtain ⟨rows, taken⟩ := writes.querySql _ _ _ _ ran
    obtain ⟨document, read⟩ := sql_sqlRows lawful taken (Handlers.SqlSettings.cap api.sql maxRows) rfl
    exact ⟨_, _, _, arr, rows, _, ran, taken.2, rfl, document, read, rfl⟩

end

section
attribute [local instance] asciiToLowercase

theorem noAdminToken : (none : Option String) ≠ some "" :=
  (Option.some_ne_none "").symm

/-- The rows of a dataset of two events. -/
def eventRows : String :=
  "[\x7b\"email\":\"a\",\"id\":1\x7d,\x7b\"email\":null,\"id\":-2\x7d]"

/-- A server of this dataset. -/
def eventsApi : Api String where
  auth := { auth := none, adminToken := ⟨none, noAdminToken⟩ }
  backend :=
    { names := ["events"]
      datasetStatuses := []
      schema _ := .ok (.new "events" [⟨"email", .utf8, "VARCHAR", true⟩, ⟨"id", .int, "BIGINT", false⟩])
      summary _ := .ok ⟨"events", 2, 2, false⟩
      indexedColumns _ := .ok []
      sample _ := .ok "{}"
      answer _ _ := .ok eventRows
      querySql _ _ _ := .ok eventRows
      querySqlArrowStream _ _ _ := .ok ""
      parquet _ := .ok ""
      register _ := .ok ⟨"events", 0, 1, false⟩
      reload _ := .ok ⟨0, 0, false, false⟩
      unregister _ := .ok ()
      isManaged _ := false
      isTemp _ := false }
  parse _ := .error "no parser"
  sql := {}
  maxPageSize := 100
  parquetCache _ := none
  parseByteRange _ _ := .ok none
  queriesEnabled := false
  admin :=
    { persistToSourceConfig _ := .ok ""
      loadSourceConfig := none
      reloadAll := ([], [])
      createQuery := .error (.internal "disabled")
      deleteQuery _ := .error (.internal "disabled") }

/-- The client reads the rows of the two events. -/
theorem takes_eventRows : ∃ rows, integersOnly.Takes 126 eventRows.toList (.array rows) := by
  have lawful := integersOnly_lawful
  have row (email id : List Char) (emailValue idValue : JsonValue)
      (first : integersOnly.Takes 124 email emailValue) (second : integersOnly.Takes 124 id idValue) :
      ∃ fields, integersOnly.Takes 125
        ('{' :: memberTexts [("email".toList, email), ("id".toList, id)]) (.object fields) := by
    obtain ⟨fields, _, read⟩ := lawful.takes_object
      [("email", email, emailValue), ("id", id, idValue)] (by simp) <|
      List.forall_mem_cons.mpr ⟨⟨by simp; decide, first⟩,
        List.forall_mem_singleton.mpr ⟨by simp; decide, second⟩⟩
    exact ⟨fields, read⟩
  have email : integersOnly.Takes 124 _ _ := lawful.takes_string
    (document_of_reads (DataFusion.Serialize.reads_stringText "a"))
  have one : integersOnly.Takes 124 (toString (1 : Int)).toList _ :=
    lawful.takes_int (by decide) (by decide)
  have other : integersOnly.Takes 124 (toString (-2 : Int)).toList _ :=
    lawful.takes_int (by decide) (by decide)
  obtain ⟨first, firstRead⟩ := row _ _ _ _ email one
  obtain ⟨second, secondRead⟩ := row _ _ _ _ lawful.takes_null other
  have both : integersOnly.Takes 126 _ _ := lawful.takes_array
    [(_, .object first), (_, .object second)] <|
    List.forall_mem_cons.mpr ⟨⟨⟨'{', rfl, by decide, by decide⟩, firstRead⟩,
      List.forall_mem_singleton.mpr ⟨⟨'{', rfl, by decide, by decide⟩, secondRead⟩⟩
  exact ⟨_, both⟩

theorem answers_delivered_events : Delivers integersOnly eventsApi none := by
  refine answers_delivered integersOnly_lawful
    ⟨fun name asked arr ran => ?_, fun sql datasets cap arr ran => ?_⟩
  · cases ran
    exact takes_eventRows
  · cases ran
    exact takes_eventRows

end

/-! ### The pages of the DataFusion backend -/

namespace DataFusion.Serialize

variable {valueAsString : DecimalType → Int → String} {batch : RecordBatch}

/-- The machine integers of a type. -/
def IntType.Holds (n : Int) : IntType → Prop
  | int8 => -2 ^ 7 ≤ n ∧ n < 2 ^ 7
  | int16 => -2 ^ 15 ≤ n ∧ n < 2 ^ 15
  | int32 => -2 ^ 31 ≤ n ∧ n < 2 ^ 31
  | int64 => -2 ^ 63 ≤ n ∧ n < 2 ^ 63
  | uint8 => 0 ≤ n ∧ n < 2 ^ 8
  | uint16 => 0 ≤ n ∧ n < 2 ^ 16
  | uint32 => 0 ≤ n ∧ n < 2 ^ 32
  | uint64 => 0 ≤ n ∧ n < 2 ^ 64

theorem IntType.Holds.bounds {n : Int} {type : IntType} (holds : type.Holds n) :
    -2 ^ 63 ≤ n ∧ n < 2 ^ 64 := by
  cases type <;> simp only [Holds] at holds <;> omega

/-- The integers of a column are such of its type. -/
def Column.InRange {rows : Nat} : Column rows → Prop
  | .ints type slots => ∀ row, type.Holds (slots row).value
  | _ => True

def Slot.value? {α : Type} (slot : Slot α) : Option α := if slot.valid then some slot.value else none

/-- The value of a cell in JSON, null where the cell is. -/
def Column.json {rows : Nat} (valueAsString : DecimalType → Int → String) (row : Fin rows) :
    Column rows → JsonValue
  | .strings _ slots => (slots row).value?.elim .null .string
  | .dictionary keys values _ =>
    ((keys row).value?.bind fun key => (values[key]?).bind Slot.value?).elim .null .string
  | .booleans slots => (slots row).value?.elim .null .bool
  | .ints _ slots => (slots row).value?.elim .null fun n => .number (.ofInt n)
  | .decimals type slots => (slots row).value?.elim .null fun n => .string (valueAsString type n)

/-- The client reads the value of a cell, which may be inside of some lists and objects. -/
theorem takes_cellText {serde : SerdeJson} (lawful : serde.Lawful) {levels rows : Nat}
    {column : Column rows} {row : Fin rows} (apart : column.nullBehindKey row = false)
    (inRange : column.InRange) :
    serde.Takes levels (cellText valueAsString column row) (column.json valueAsString row) := by
  have text (s : String) : serde.Takes levels (stringText s) (.string s) := by
    have taken : serde.Takes levels _ _ :=
      lawful.takes_string (document_of_reads (reads_stringText s))
    rwa [String.ofList_toList] at taken
  unfold cellText Column.json
  cases column with
  | strings type slots =>
      cases valid : (slots row).valid with
      | false => simpa [Column.isNull, Slot.value?, valid] using lawful.takes_null
      | true => simpa [Column.isNull, Slot.value?, valid, valueText] using text _
  | dictionary keys values inside =>
      cases valid : (keys row).valid with
      | false => simpa [Column.isNull, Slot.value?, valid] using lawful.takes_null
      | true =>
          obtain ⟨slot, found⟩ : ∃ slot, values[(keys row).value]? = some slot :=
            ⟨_, List.getElem?_eq_getElem (inside row valid)⟩
          have there : slot.valid = true := by
            simpa [Column.nullBehindKey, valid, found] using apart
          simpa [Column.isNull, Slot.value?, valid, valueText, valueAt, found, there] using text _
  | booleans slots =>
      cases valid : (slots row).valid with
      | false => simpa [Column.isNull, Slot.value?, valid] using lawful.takes_null
      | true => simpa [Column.isNull, Slot.value?, valid, valueText] using lawful.takes_bool _
  | ints type slots =>
      have bounds := (inRange row).bounds
      cases valid : (slots row).valid with
      | false => simpa [Column.isNull, Slot.value?, valid] using lawful.takes_null
      | true =>
          simpa [Column.isNull, Slot.value?, valid, valueText] using
            lawful.takes_int bounds.1 bounds.2
  | decimals type slots =>
      cases valid : (slots row).valid with
      | false => simpa [Column.isNull, Slot.value?, valid] using lawful.takes_null
      | true => simpa [Column.isNull, Slot.value?, valid, valueText] using text _

/-- The value is an object with just the cells of the row, under the names of their columns. -/
def ShowsRow (valueAsString : DecimalType → Int → String) (batch : RecordBatch)
    (row : Fin batch.rows) (value : JsonValue) : Prop :=
  ∃ fields, value = .object fields ∧
    fields.Perm (batch.fields.map fun field => (field.1, field.2.json valueAsString row))

/-- The client reads of a page the rows of the batch. -/
theorem serialize_received {serde : SerdeJson} (lawful : serde.Lawful)
    (plainNames : ∀ field ∈ batch.fields, field.1.toList.all plain = true)
    (apart : ∀ field ∈ batch.fields, ∀ row : Fin batch.rows, field.2.nullBehindKey row = false)
    (inRange : ∀ field ∈ batch.fields, field.2.InRange)
    {arr : String} (written : asBytes arr.toList = serialize valueAsString batch) (n size : UInt64)
    {body : String} (sent : Body.envelope (.page arr n size) = some body) :
    ∃ data, List.Forall₂ (ShowsRow valueAsString batch) (List.finRange batch.rows) data ∧
      Client.queryJson serde body = some { data, page := some n, pageSize := some size } := by
  have text : arr.toList = '[' :: itemTexts (rowTexts valueAsString batch) :=
    asBytes_injective (written.trans (serialize_eq valueAsString batch))
  have objects (row : Fin batch.rows) : ∃ value, ShowsRow valueAsString batch row value ∧
      serde.Takes 125 (rowText valueAsString batch row) value := by
    let member (field : String × Column batch.rows) : String × List Char × JsonValue :=
      (field.1, cellText valueAsString field.2 row, field.2.json valueAsString row)
    have names : ((batch.fields.map member).map Prod.fst).Nodup := by
      rw [List.map_map]
      exact batch.distinct
    have each : ∀ m ∈ batch.fields.map member, m.1.toList.all plain = true ∧
        serde.Takes 124 m.2.1 m.2.2 := by
      rw [List.forall_mem_map]
      exact fun field listed => ⟨plainNames field listed,
        takes_cellText lawful (apart field listed row) (inRange field listed)⟩
    obtain ⟨fields, order, taken⟩ := lawful.takes_object _ names each
    refine ⟨.object fields, ⟨fields, rfl, ?_⟩, ?_⟩
    · rwa [List.map_map] at order
    · rw [List.map_map] at taken
      rwa [rowText, members, List.map_map]
  choose value shows taken using objects
  let item (row : Fin batch.rows) : List Char × JsonValue :=
    (rowText valueAsString batch row, value row)
  have rows : serde.Takes 126 _ _ := lawful.takes_array ((List.finRange batch.rows).map item) <| by
    rw [List.forall_mem_map]
    exact fun row _ => ⟨⟨'{', rfl, by decide, by decide⟩, taken row⟩
  rw [List.map_map, List.map_map] at rows
  refine ⟨(List.finRange batch.rows).map value, ?_, ?_⟩
  · rw [List.forall₂_map_right_iff, List.forall₂_same]
    exact fun row _ => shows row
  · refine (queryJson_page lawful ?_ n size sent).2
    rw [text]
    exact rows

/-- A batch of two rows, with a name that has a quotation mark. -/
def people : RecordBatch where
  rows := 2
  fields := [
    ("id", .ints .int32 fun row => ⟨if row = 0 then 7 else -2, true⟩),
    ("name", .strings .utf8 fun row => if row = 0 then ⟨"a\"b", true⟩ else ⟨"", false⟩),
    ("ok", .booleans fun row => ⟨row = 0, true⟩)]
  distinct := by decide

/-- The page of this batch. -/
def peoplePage : String :=
  "\x7b\"data\":[\x7b\"id\":7,\"name\":\"a\\\"b\",\"ok\":true\x7d,\x7b\"id\":-2,\"name\":null,\"ok\":false\x7d],\"page\":1,\"page_size\":2\x7d"

theorem serialize_received_people : ∃ data,
    List.Forall₂ (ShowsRow (fun _ value => toString value) people) (List.finRange people.rows) data ∧
      Client.queryJson integersOnly peoplePage =
        some { data, page := some 1, pageSize := some 2 } := by
  have written : asBytes
      "[\x7b\"id\":7,\"name\":\"a\\\"b\",\"ok\":true\x7d,\x7b\"id\":-2,\"name\":null,\"ok\":false\x7d]".toList =
      serialize (fun _ value => toString value) people := by decide
  refine serialize_received integersOnly_lawful ?_ ?_ ?_ written 1 2 rfl
  · decide
  · exact List.forall_mem_cons.mpr ⟨fun _ => rfl, List.forall_mem_cons.mpr ⟨fun _ => rfl,
      List.forall_mem_singleton.mpr fun _ => rfl⟩⟩
  · have ids : ∀ row : Fin 2, IntType.int32.Holds (if row = 0 then 7 else -2) := by
      intro row
      split <;> simp [IntType.Holds]
    exact List.forall_mem_cons.mpr ⟨ids, List.forall_mem_cons.mpr ⟨trivial,
      List.forall_mem_singleton.mpr trivial⟩⟩

end DataFusion.Serialize

end Datapress
