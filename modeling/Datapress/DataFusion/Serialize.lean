import Datapress.Library.JsonTexts
import Mathlib.Data.List.FinRange

/-! The JSON text of a record batch, and what is read of it. -/
namespace Datapress.DataFusion.Serialize
open JsonReader

/-! ### Record batches

Of the types that are written without a cast, but the floating-point ones. -/

/-- A place of an array: its value is there also where it is null. -/
structure Slot (α : Type) where
  value : α
  valid : Bool

inductive StringType where
  | utf8
  | largeUtf8
  | utf8View

inductive IntType where
  | int8
  | int16
  | int32
  | int64
  | uint8
  | uint16
  | uint32
  | uint64

inductive DecimalType where
  | decimal128 (precision : Nat) (scale : Int)
  | decimal256 (precision : Nat) (scale : Int)

/-- The keys of a dictionary that are not null are places among its values. -/
inductive Column (rows : Nat) where
  | strings (type : StringType) (slots : Fin rows → Slot String)
  | dictionary (keys : Fin rows → Slot Nat) (values : List (Slot String))
      (inside : ∀ row, (keys row).valid = true → (keys row).value < values.length)
  | booleans (slots : Fin rows → Slot Bool)
  | ints (type : IntType) (slots : Fin rows → Slot Int)
  | decimals (type : DecimalType) (slots : Fin rows → Slot Int)

structure RecordBatch where
  rows : Nat
  fields : List (String × Column rows)
  distinct : (fields.map Prod.fst).Nodup

variable {rows : Nat}

/-- `is_null`: of a dictionary, whether the key is. -/
def Column.isNull (row : Fin rows) : Column rows → Bool
  | .strings _ slots => !(slots row).valid
  | .dictionary keys _ _ => !(keys row).valid
  | .booleans slots => !(slots row).valid
  | .ints _ slots => !(slots row).valid
  | .decimals _ slots => !(slots row).valid

/-! ### The writer -/

/-- The bytes of a text in UTF-8. -/
def asBytes (text : List Char) : List UInt8 := text.flatMap String.utf8EncodeChar

def hexDigits : List UInt8 := asBytes "0123456789abcdef".toList

def escapeByte (byte : UInt8) : List UInt8 :=
  if byte = '"'.toUInt8 then asBytes ['\\', '"']
  else if byte = '\\'.toUInt8 then asBytes ['\\', '\\']
  else if byte = '\n'.toUInt8 then asBytes ['\\', 'n']
  else if byte = '\r'.toUInt8 then asBytes ['\\', 'r']
  else if byte = '\t'.toUInt8 then asBytes ['\\', 't']
  else if byte ≤ 0x1f then
    asBytes ['\\', 'u', '0', '0'] ++
      [hexDigits.getD (byte >>> 4).toNat 0, hexDigits.getD (byte &&& 0xf).toNat 0]
  else [byte]

def writeStr (s : String) : List UInt8 :=
  asBytes ['"'] ++ (asBytes s.toList).flatMap escapeByte ++ asBytes ['"']

/-- The value of a dictionary at a key. -/
def valueAt (values : List (Slot String)) (key : Nat) : String :=
  (values[key]?).elim "" (·.value)

section
-- the text of a decimal, as the array of its type gives it
variable (valueAsString : DecimalType → Int → String)

/-- `write_value`, which does not look whether the cell is null. -/
def writeValue (column : Column rows) (row : Fin rows) : List UInt8 :=
  match column with
  | .strings _ slots => writeStr (slots row).value
  | .dictionary keys values _ => writeStr (valueAt values (keys row).value)
  | .booleans slots => asBytes (if (slots row).value then "true" else "false").toList
  | .ints _ slots => asBytes (toString (slots row).value).toList
  | .decimals type slots => writeStr (valueAsString type (slots row).value)

inductive ColEnc (rows : Nat) where
  | utf8 (type : StringType) (slots : Fin rows → Slot String)
  | dictI32Utf8 (keys : Fin rows → Slot Nat) (values : List (Slot String))
  | bool (slots : Fin rows → Slot Bool)
  | int (type : IntType) (slots : Fin rows → Slot Int)
  | dec (type : DecimalType) (slots : Fin rows → Slot Int)
  | other (column : Column rows)

namespace ColEnc

def new : Column rows → ColEnc rows
  | .strings type slots => .utf8 type slots
  | .dictionary keys values _ => .dictI32Utf8 keys values
  | .booleans slots => .bool slots
  | .ints type slots => .int type slots
  | .decimals type slots => .dec type slots

def nullBytes : List UInt8 := asBytes "null".toList

def write (encoder : ColEnc rows) (row : Fin rows) : List UInt8 :=
  match encoder with
  | utf8 _ slots => if !(slots row).valid then nullBytes else writeStr (slots row).value
  | dictI32Utf8 keys values =>
    if !(keys row).valid then nullBytes else writeStr (valueAt values (keys row).value)
  | bool slots =>
    if !(slots row).valid then nullBytes
    else asBytes (if (slots row).value then "true" else "false").toList
  | int _ slots =>
    if !(slots row).valid then nullBytes else asBytes (toString (slots row).value).toList
  | dec type slots =>
    if !(slots row).valid then nullBytes else writeStr (valueAsString type (slots row).value)
  | other column =>
    if column.isNull row then nullBytes else writeValue valueAsString column row

end ColEnc

/-- The bytes before a cell. The name is not escaped. -/
def key (name : String) : List UInt8 := asBytes ['"'] ++ asBytes name.toList ++ asBytes ['"', ':']

/-- The bytes of the items, with a comma before all but the first. -/
def separated {α : Type} (write : α → List UInt8) (items : List α) : List UInt8 :=
  items.zipIdx.flatMap fun (item, i) => (if i > 0 then asBytes [','] else []) ++ write item

def serialize (batch : RecordBatch) : List UInt8 :=
  let keys := batch.fields.map fun field => key field.1
  let encoders := batch.fields.map fun field => ColEnc.new field.2
  let writeRow (row : Fin batch.rows) : List UInt8 :=
    asBytes ['{'] ++
      separated (fun (key, encoder) => key ++ encoder.write valueAsString row) (keys.zip encoders) ++
      asBytes ['}']
  asBytes ['['] ++ separated writeRow (List.finRange batch.rows) ++ asBytes [']']

end

/-! ### The bytes and the characters they stand for -/

theorem asBytes_append (one other : List Char) :
    asBytes (one ++ other) = asBytes one ++ asBytes other := List.flatMap_append

theorem asBytes_flatMap {α : Type} (f : α → List Char) (xs : List α) :
    asBytes (xs.flatMap f) = xs.flatMap fun x => asBytes (f x) := List.flatMap_assoc

theorem asBytes_injective : Function.Injective asBytes := by
  intro one other same
  have encoded : one.utf8Encode = other.utf8Encode := congrArg List.toByteArray same
  have decoded := congrArg ByteArray.utf8Decode? encoded
  rw [List.utf8Decode?_utf8Encode, List.utf8Decode?_utf8Encode] at decoded
  exact List.toArray_inj (Option.some.inj decoded)

/-- The characters that `escapeByte` writes for one. -/
def escapeChar (c : Char) : List Char :=
  if c = '"' then ['\\', '"']
  else if c = '\\' then ['\\', '\\']
  else if c = '\n' then ['\\', 'n']
  else if c = '\r' then ['\\', 'r']
  else if c = '\t' then ['\\', 't']
  else if c.toNat < 32 then
    ['\\', 'u', '0', '0', (c.toNat / 16).digitChar, (c.toNat % 16).digitChar]
  else [c]

theorem escapeByte_ascii :
    ∀ n < 128, escapeByte (UInt8.ofNat n) = asBytes (escapeChar (Char.ofNat n)) := by
  decide +kernel

theorem escapeByte_of_le {byte : UInt8} (large : 128 ≤ byte.toNat) : escapeByte byte = [byte] := by
  have other (c : Char) (ascii : c.toUInt8.toNat < 128) : byte ≠ c.toUInt8 := by
    rintro rfl
    omega
  have above : ¬ byte ≤ 0x1f := by
    rw [UInt8.le_iff_toNat_le]
    exact fun small => absurd (Nat.le_trans large small) (by decide)
  rw [escapeByte, if_neg (other _ (by decide)), if_neg (other _ (by decide)),
    if_neg (other _ (by decide)), if_neg (other _ (by decide)), if_neg (other _ (by decide)),
    if_neg above]

theorem le_toNat_or (byte mask : UInt8) (large : 128 ≤ mask.toNat) :
    128 ≤ (byte ||| mask).toNat := by
  rw [UInt8.toNat_or]
  exact Nat.le_trans large Nat.right_le_or

/-- Every byte of a character that is not ASCII has its highest bit. -/
theorem le_of_mem_utf8EncodeChar {c : Char} (large : 128 ≤ c.toNat) :
    ∀ byte ∈ String.utf8EncodeChar c, 128 ≤ byte.toNat := by
  have more : c.utf8Size ≠ 1 := by
    rw [ne_eq, Char.utf8Size_eq_one_iff, UInt32.le_iff_toNat_le]
    exact Nat.not_le.mpr large
  intro byte member
  rcases c.utf8Size_eq with one | two | three | four
  · exact absurd one more
  · rw [String.utf8EncodeChar_eq_cons_cons two] at member
    simp only [List.mem_cons, List.not_mem_nil, or_false] at member
    rcases member with rfl | rfl <;> exact le_toNat_or _ _ (by decide)
  · rw [String.utf8EncodeChar_eq_cons_cons_cons three] at member
    simp only [List.mem_cons, List.not_mem_nil, or_false] at member
    rcases member with rfl | rfl | rfl <;> exact le_toNat_or _ _ (by decide)
  · rw [String.utf8EncodeChar_eq_cons_cons_cons_cons four] at member
    simp only [List.mem_cons, List.not_mem_nil, or_false] at member
    rcases member with rfl | rfl | rfl | rfl <;> exact le_toNat_or _ _ (by decide)

theorem escapeByte_char (c : Char) :
    (String.utf8EncodeChar c).flatMap escapeByte = asBytes (escapeChar c) := by
  rcases Nat.lt_or_ge c.toNat 128 with small | large
  · have one : c.utf8Size = 1 := by
      rw [Char.utf8Size_eq_one_iff, UInt32.le_iff_toNat_le]
      exact Nat.le_of_lt_succ small
    have ascii := escapeByte_ascii c.toNat small
    rw [Char.ofNat_toNat] at ascii
    rw [String.utf8EncodeChar_eq_singleton one, List.flatMap_singleton, ← ascii]
    rfl
  · have same : (String.utf8EncodeChar c).flatMap escapeByte = String.utf8EncodeChar c := by
      rw [List.flatMap_congr fun byte member =>
        escapeByte_of_le (le_of_mem_utf8EncodeChar large byte member), List.flatMap_singleton']
    have other (d : Char) (ascii : d.toNat < 128) : c ≠ d := by
      rintro rfl
      omega
    have itself : escapeChar c = [c] := by
      rw [escapeChar, if_neg (other _ (by decide)), if_neg (other _ (by decide)),
        if_neg (other _ (by decide)), if_neg (other _ (by decide)), if_neg (other _ (by decide)),
        if_neg (by omega)]
    rw [same, itself, asBytes, List.flatMap_singleton]

/-- A string as it is written. -/
def stringText (s : String) : List Char := '"' :: s.toList.flatMap escapeChar ++ ['"']

theorem writeStr_eq (s : String) : writeStr s = asBytes (stringText s) := by
  have escaped : (asBytes s.toList).flatMap escapeByte = asBytes (s.toList.flatMap escapeChar) := by
    rw [asBytes, List.flatMap_assoc, asBytes_flatMap]
    exact List.flatMap_congr fun c _ => escapeByte_char c
  rw [writeStr, escaped, ← asBytes_append, ← asBytes_append]
  rfl

theorem codeUnit_control :
    ∀ n < 32, codeUnit '0' '0' (n / 16).digitChar (n % 16).digitChar = some n := by
  decide

theorem spells_escapeChar (c : Char) : Spells escapeChar c := by
  unfold Spells escapeChar
  split
  case isTrue quote =>
      subst quote
      exact ⟨.char '"', .inl rfl, readPieces_escape (by decide)⟩
  case isFalse quote =>
  split
  case isTrue backslash =>
      subst backslash
      exact ⟨.char '\\', .inl rfl, readPieces_escape (by decide)⟩
  case isFalse backslash =>
  split
  case isTrue newline =>
      subst newline
      exact ⟨.char '\n', .inl rfl, readPieces_escape (by decide)⟩
  split
  case isTrue carriage =>
      subst carriage
      exact ⟨.char '\r', .inl rfl, readPieces_escape (by decide)⟩
  split
  case isTrue tab =>
      subst tab
      exact ⟨.char '\t', .inl rfl, readPieces_escape (by decide)⟩
  split
  case isTrue control =>
      exact ⟨.unit c.toNat, .inr ⟨rfl, by omega⟩, readPieces_unit (codeUnit_control _ control)⟩
  case isFalse control =>
      exact ⟨.char c, .inl rfl, readPieces_char (plain_iff.mpr ⟨quote, backslash, control⟩)⟩

theorem reads_stringText (s : String) : Reads 1 (stringText s) (.string s.toList) :=
  reads_string fun rest => readString_of_spells spells_escapeChar s.toList rest

/-! ### Cells -/

section
variable (valueAsString : DecimalType → Int → String)

/-- A cell that is not null as it is written. -/
def valueText (column : Column rows) (row : Fin rows) : List Char :=
  match column with
  | .strings _ slots => stringText (slots row).value
  | .dictionary keys values _ => stringText (valueAt values (keys row).value)
  | .booleans slots => (toString (slots row).value).toList
  | .ints _ slots => (toString (slots row).value).toList
  | .decimals type slots => stringText (valueAsString type (slots row).value)

/-- What is read of a cell that is not null as it is written. -/
def writtenValue (column : Column rows) (row : Fin rows) : Value :=
  match column with
  | .strings _ slots => .string (slots row).value.toList
  | .dictionary keys values _ => .string (valueAt values (keys row).value).toList
  | .booleans slots => .bool (slots row).value
  | .ints _ slots => .number (slots row).value 0
  | .decimals type slots => .string (valueAsString type (slots row).value).toList

def cellText (column : Column rows) (row : Fin rows) : List Char :=
  if column.isNull row then ['n', 'u', 'l', 'l'] else valueText valueAsString column row

def writtenCell (column : Column rows) (row : Fin rows) : Value :=
  if column.isNull row then .null else writtenValue valueAsString column row

/-- The encoder of a column looks for a null and writes what `writeValue` does. -/
theorem write_new (column : Column rows) (row : Fin rows) :
    (ColEnc.new column).write valueAsString row =
      if column.isNull row then ColEnc.nullBytes else writeValue valueAsString column row := by
  cases column <;> rfl

theorem writeValue_eq (column : Column rows) (row : Fin rows) :
    writeValue valueAsString column row = asBytes (valueText valueAsString column row) := by
  cases column with
  | strings type slots => exact writeStr_eq _
  | dictionary keys values inside => exact writeStr_eq _
  | booleans slots =>
      rw [writeValue, valueText]
      cases (slots row).value <;> rfl
  | ints type slots => rfl
  | decimals type slots => exact writeStr_eq _

theorem write_eq (column : Column rows) (row : Fin rows) :
    (ColEnc.new column).write valueAsString row = asBytes (cellText valueAsString column row) := by
  rw [write_new, cellText]
  split
  · rfl
  · exact writeValue_eq valueAsString column row

theorem reads_cellText (column : Column rows) (row : Fin rows) :
    Reads 1 (cellText valueAsString column row) (writtenCell valueAsString column row) := by
  unfold cellText writtenCell
  split
  · exact reads_null
  · cases column with
    | strings type slots => exact reads_stringText _
    | dictionary keys values inside => exact reads_stringText _
    | booleans slots => exact reads_bool _
    | ints type slots => exact reads_number _
    | decimals type slots => exact reads_stringText _

theorem shy_cellText (column : Column rows) (row : Fin rows) :
    Shy (cellText valueAsString column row) := by
  unfold cellText
  split
  · exact shy_of_all rfl
  · cases column with
    | strings type slots => exact shy_string _
    | dictionary keys values inside => exact shy_string _
    | booleans slots =>
        apply shy_of_all
        rw [valueText]
        cases (slots row).value <;> rfl
    | ints type slots => exact shy_number _
    | decimals type slots => exact shy_string _

def Slot.json {α : Type} (toValue : α → Value) (slot : Slot α) : Value :=
  if slot.valid then toValue slot.value else .null

/-- The JSON value of a cell. One of a dictionary is null where its key is and where the value
at the key is. -/
def cell (column : Column rows) (row : Fin rows) : Value :=
  match column with
  | .strings _ slots => (slots row).json fun value => .string value.toList
  | .dictionary keys values _ =>
    (keys row).json fun key => (values[key]?).elim .null (Slot.json fun value => .string value.toList)
  | .booleans slots => (slots row).json .bool
  | .ints _ slots => (slots row).json fun value => .number value 0
  | .decimals type slots => (slots row).json fun value => .string (valueAsString type value).toList

/-- The key of the row is that of a value that is null. -/
def Column.nullBehindKey (row : Fin rows) : Column rows → Bool
  | .dictionary keys values _ =>
    (keys row).valid && (values[(keys row).value]?).any fun slot => !slot.valid
  | _ => false

theorem writtenCell_eq_iff (column : Column rows) (row : Fin rows) :
    writtenCell valueAsString column row = cell valueAsString column row ↔
      column.nullBehindKey row = false := by
  cases column with
  | strings type slots =>
      refine iff_of_true ?_ rfl
      cases valid : (slots row).valid <;> simp [writtenCell, writtenValue, cell, Column.isNull, Slot.json, valid]
  | booleans slots =>
      refine iff_of_true ?_ rfl
      cases valid : (slots row).valid <;> simp [writtenCell, writtenValue, cell, Column.isNull, Slot.json, valid]
  | ints type slots =>
      refine iff_of_true ?_ rfl
      cases valid : (slots row).valid <;> simp [writtenCell, writtenValue, cell, Column.isNull, Slot.json, valid]
  | decimals type slots =>
      refine iff_of_true ?_ rfl
      cases valid : (slots row).valid <;> simp [writtenCell, writtenValue, cell, Column.isNull, Slot.json, valid]
  | dictionary keys values inside =>
      cases valid : (keys row).valid with
      | false => simp [writtenCell, cell, Column.isNull, Column.nullBehindKey, Slot.json, valid]
      | true =>
          obtain ⟨slot, found⟩ : ∃ slot, values[(keys row).value]? = some slot :=
            ⟨_, List.getElem?_eq_getElem (inside row valid)⟩
          cases there : slot.valid <;>
            simp [writtenCell, writtenValue, cell, Column.isNull, Column.nullBehindKey, Slot.json,
              valueAt, valid, found, there]

/-! ### Rows -/

variable (batch : RecordBatch)

/-- The members of a row as they are written and read. -/
def members (row : Fin batch.rows) : List Member :=
  batch.fields.map fun field =>
    (field.1.toList, cellText valueAsString field.2 row, writtenCell valueAsString field.2 row)

def rowText (row : Fin batch.rows) : List Char :=
  '{' :: memberTexts ((members valueAsString batch row).map Member.written)

def rowTexts : List (List Char) := (List.finRange batch.rows).map (rowText valueAsString batch)

theorem separated_map {α β : Type} (f : α → β) (write : β → List UInt8) (items : List α) :
    separated write (items.map f) = separated (fun item => write (f item)) items := by
  rw [separated, separated, List.zipIdx_map, List.flatMap_map]
  rfl

theorem separated_cons {α : Type} (write : α → List UInt8) (item : α) (items : List α) :
    separated write (item :: items) =
      write item ++ items.flatMap fun item => asBytes [','] ++ write item := by
  have later (k : Nat) : ((items.zipIdx (k + 1)).flatMap fun (item, i) =>
      (if i > 0 then asBytes [','] else []) ++ write item) =
        items.flatMap fun item => asBytes [','] ++ write item := by
    induction items generalizing k with
    | nil => rfl
    | cons next others ih =>
        rw [List.zipIdx_cons, List.flatMap_cons, List.flatMap_cons, ih (k + 1)]
        dsimp only
        rw [if_pos (Nat.succ_pos k)]
  rw [separated, List.zipIdx_cons, List.flatMap_cons, Nat.zero_add, later 0]
  rfl

theorem separated_members (members : List (List Char × List Char)) :
    separated (fun member => asBytes (memberText member)) members ++ asBytes ['}'] =
      asBytes (memberTexts members) := by
  cases members with
  | nil => rfl
  | cons member members =>
      rw [separated_cons, memberTexts_eq, asBytes_append, asBytes_append, asBytes_flatMap]
      rfl

theorem separated_items (items : List (List Char)) :
    separated asBytes items ++ asBytes [']'] = asBytes (itemTexts items) := by
  cases items with
  | nil => rfl
  | cons item items =>
      rw [separated_cons, itemTexts_eq, asBytes_append, asBytes_append, asBytes_flatMap]
      rfl

theorem serialize_eq :
    serialize valueAsString batch = asBytes ('[' :: itemTexts (rowTexts valueAsString batch)) := by
  have cells (row : Fin batch.rows) :
      separated (fun (key, encoder) => key ++ encoder.write valueAsString row)
        ((batch.fields.map fun field => key field.1).zip
          (batch.fields.map fun field => ColEnc.new field.2)) =
      separated (fun member => asBytes (memberText member))
        ((members valueAsString batch row).map Member.written) := by
    rw [members, List.map_map, List.zip_map', separated_map, separated_map]
    congr 1
    funext field
    dsimp only [Function.comp_apply, Member.written]
    rw [write_eq, key, memberText, ← asBytes_append, ← asBytes_append, ← asBytes_append]
    simp
  have row_bytes (row : Fin batch.rows) :
      asBytes ['{'] ++ separated (fun (key, encoder) => key ++ encoder.write valueAsString row)
        ((batch.fields.map fun field => key field.1).zip
          (batch.fields.map fun field => ColEnc.new field.2)) ++ asBytes ['}'] =
      asBytes (rowText valueAsString batch row) := by
    rw [cells, List.append_assoc, separated_members, ← asBytes_append]
    rfl
  simp only [serialize, row_bytes]
  rw [List.append_assoc, ← separated_map (rowText valueAsString batch) asBytes, separated_items,
    ← asBytes_append]
  rfl

/-! ### Reading the rows -/

/-- The rows as a JSON value, under the names of the columns. -/
def rowsJson : Value :=
  .array ((List.finRange batch.rows).map fun row =>
    .object (batch.fields.map fun field => (field.1.toList, cell valueAsString field.2 row)))

theorem length_members (row : Fin batch.rows) :
    (members valueAsString batch row).length = batch.fields.length := List.length_map _

theorem reads_members (row : Fin batch.rows) :
    ∀ m ∈ members valueAsString batch row, Reads 1 m.2.1 m.2.2 := by
  intro m member
  obtain ⟨field, _, rfl⟩ := List.mem_map.mp member
  exact reads_cellText valueAsString field.2 row

theorem shy_members (row : Fin batch.rows) :
    ∀ m ∈ members valueAsString batch row, Shy m.2.1 := by
  intro m member
  obtain ⟨field, _, rfl⟩ := List.mem_map.mp member
  exact shy_cellText valueAsString field.2 row

theorem plain_members (plainNames : ∀ field ∈ batch.fields, field.1.toList.all plain = true)
    (row : Fin batch.rows) : ∀ m ∈ members valueAsString batch row, m.1.all plain = true := by
  intro m member
  obtain ⟨field, listed, rfl⟩ := List.mem_map.mp member
  exact plainNames field listed

/-- What is read of the written rows where the names need no escape. -/
def writtenJson : Value :=
  .array ((List.finRange batch.rows).map fun row =>
    .object ((members valueAsString batch row).map Member.value))

theorem shy_rowText (row : Fin batch.rows) : Shy (rowText valueAsString batch row) :=
  fun _ clear => clear_cons (by decide) (shy_memberTexts _ _ clear)

/-- A list of rows is longer than it has rows and columns. -/
theorem length_lt_rowTexts (row : Fin batch.rows) (others : List (Fin batch.rows)) :
    batch.fields.length + others.length + 2 <
      (itemTexts (rowText valueAsString batch row ::
        others.map (rowText valueAsString batch))).length := by
  have first := length_lt_memberTexts ((members valueAsString batch row).map Member.written)
  have all := length_le_itemTexts (rowText valueAsString batch row)
    (others.map (rowText valueAsString batch))
  rw [List.length_map, length_members] at first
  rw [List.length_map, rowText, List.length_cons] at all
  rw [rowText]
  omega

theorem read_written (plainNames : ∀ field ∈ batch.fields, field.1.toList.all plain = true) :
    read ('[' :: itemTexts (rowTexts valueAsString batch)) =
      some (writtenJson valueAsString batch) := by
  have reads (row : Fin batch.rows) : Reads (1 + batch.fields.length + 1)
      (rowText valueAsString batch row)
      (.object ((members valueAsString batch row).map Member.value)) := by
    rw [← length_members valueAsString batch row]
    exact reads_object (plain_members valueAsString batch plainNames row)
      (reads_members valueAsString batch row)
  let item (row : Fin batch.rows) : List Char × Value :=
    (rowText valueAsString batch row, .object ((members valueAsString batch row).map Member.value))
  have texts : rowTexts valueAsString batch = ((List.finRange batch.rows).map item).map Prod.fst := by
    rw [List.map_map]
    rfl
  have values : writtenJson valueAsString batch =
      .array (((List.finRange batch.rows).map item).map Prod.snd) := by
    rw [List.map_map]
    rfl
  rw [texts, values]
  cases listed : List.finRange batch.rows with
  | nil => rfl
  | cons row others =>
      refine @read_list (1 + batch.fields.length + 1) _ ?_ ?_ ?_
      · have long := length_lt_rowTexts valueAsString batch row others
        have same : ((row :: others).map item).map Prod.fst =
            rowText valueAsString batch row :: others.map (rowText valueAsString batch) := by
          rw [List.map_map]
          rfl
        rw [same]
        simp only [List.length_map, List.length_cons]
        omega
      · intro found member
        obtain ⟨row, _, rfl⟩ := List.mem_map.mp member
        rfl
      · intro found member
        obtain ⟨row, _, rfl⟩ := List.mem_map.mp member
        exact reads row

/-- Where the first row is read under the names of the columns, these need no escape. -/
theorem plain_of_read {row : Fin batch.rows} {others : List (Fin batch.rows)}
    (listed : List.finRange batch.rows = row :: others)
    (decodes : read ('[' :: itemTexts (rowTexts valueAsString batch)) =
      some (rowsJson valueAsString batch)) :
    ∀ field ∈ batch.fields, field.1.toList.all plain = true := by
  rw [rowTexts, rowsJson, listed, List.map_cons, List.map_cons] at decodes
  intro field member
  obtain ⟨m, ms, some_member⟩ : ∃ m ms, members valueAsString batch row = m :: ms := by
    apply List.exists_cons_of_ne_nil
    exact fun none => absurd (List.map_eq_nil_iff.mp none) (List.ne_nil_of_mem member)
  have long := length_lt_rowTexts valueAsString batch row others
  have count := length_members valueAsString batch row
  have reads := reads_members valueAsString batch row
  have shy := shy_members valueAsString batch row
  have names : (members valueAsString batch row).map Prod.fst =
      batch.fields.map fun field => field.1.toList := by
    rw [members, List.map_map]
    rfl
  rw [rowText] at decodes long
  rw [some_member] at decodes long count reads shy names
  obtain ⟨rest', first⟩ := read_first decodes
  have clear : Clear (if others.map (rowText valueAsString batch) = [] then [']']
      else ',' :: itemTexts (others.map (rowText valueAsString batch))) := by
    split
    · exact clear_cons (by decide) (List.forall_mem_nil _)
    · refine clear_cons (by decide) (clear_itemTexts fun item listed => ?_)
      obtain ⟨next, _, rfl⟩ := List.mem_map.mp listed
      exact shy_rowText valueAsString batch next
  have enough : 1 + (m :: ms).length ≤ ('[' :: itemTexts (('{' :: memberTexts
      ((m :: ms).map Member.written)) :: others.map (rowText valueAsString batch))).length.pred.pred := by
    simp only [List.length_cons, Nat.pred_eq_sub_one] at count long ⊢
    omega
  have all := keys_plain enough reads shy clear first (by rw [names, List.map_map]; rfl)
  have among : (field.1.toList, cellText valueAsString field.2 row,
      writtenCell valueAsString field.2 row) ∈ members valueAsString batch row :=
    List.mem_map.mpr ⟨field, member, rfl⟩
  rw [some_member] at among
  exact all _ among

/-! ### What is read of the bytes -/

/-- The bytes are one JSON text, and it stands for the rows. -/
def Decodes : Prop :=
  ∃ text, asBytes text = serialize valueAsString batch ∧ read text = some (rowsJson valueAsString batch)

/-- The encoder of each column and the dispatch on the type write the same for each cell. -/
def EncodersAgree : Prop :=
  ∀ field ∈ batch.fields, ∀ row : Fin batch.rows,
    (ColEnc.new field.2).write valueAsString row =
        (ColEnc.other field.2).write valueAsString row ∧
      (field.2.isNull row = false →
        (ColEnc.new field.2).write valueAsString row = writeValue valueAsString field.2 row)

theorem encodersAgree : EncodersAgree valueAsString batch := by
  intro field _ row
  refine ⟨write_new valueAsString field.2 row, fun there => ?_⟩
  rw [write_new, there]
  rfl

theorem decodes_iff_read :
    Decodes valueAsString batch ↔
      read ('[' :: itemTexts (rowTexts valueAsString batch)) =
        some (rowsJson valueAsString batch) := by
  rw [Decodes, serialize_eq]
  constructor
  · rintro ⟨text, same, decodes⟩
    rwa [asBytes_injective same] at decodes
  · exact fun decodes => ⟨_, rfl, decodes⟩

theorem writtenJson_eq_iff :
    writtenJson valueAsString batch = rowsJson valueAsString batch ↔
      ∀ field ∈ batch.fields, ∀ row : Fin batch.rows, field.2.nullBehindKey row = false := by
  have cells (row : Fin batch.rows) (field : String × Column batch.rows) :
      (field.1.toList, writtenCell valueAsString field.2 row) =
        (field.1.toList, cell valueAsString field.2 row) ↔ field.2.nullBehindKey row = false := by
    rw [Prod.mk.injEq, eq_self, true_and, writtenCell_eq_iff]
  rw [writtenJson, rowsJson, Value.array.injEq, List.map_inj_left]
  simp only [List.mem_finRange, true_implies, Value.object.injEq, members, List.map_map,
    List.map_inj_left]
  constructor
  · exact fun same field member row => (cells row field).mp (same row field member)
  · exact fun there row field member => (cells row field).mpr (there field member row)

/-- The bytes stand for the rows exactly where no name needs an escape and no key of a dictionary
is that of a null. -/
theorem decodes_iff :
    Decodes valueAsString batch ∧ EncodersAgree valueAsString batch ↔
      batch.rows = 0 ∨ ∀ field ∈ batch.fields, field.1.toList.all plain = true ∧
        ∀ row : Fin batch.rows, field.2.nullBehindKey row = false := by
  rw [and_iff_left (encodersAgree valueAsString batch), decodes_iff_read]
  constructor
  · intro decodes
    cases listed : List.finRange batch.rows with
    | nil => exact .inl (by simpa using congrArg List.length listed)
    | cons row others =>
        have plainNames := plain_of_read valueAsString batch listed decodes
        rw [read_written valueAsString batch plainNames, Option.some.injEq,
          writtenJson_eq_iff] at decodes
        exact .inr fun field member => ⟨plainNames field member, decodes field member⟩
  · rintro (none | good)
    · have empty : List.finRange batch.rows = [] := by
        apply List.eq_nil_of_length_eq_zero
        rw [List.length_finRange, none]
      rw [rowTexts, rowsJson, empty]
      rfl
    · have same := (writtenJson_eq_iff valueAsString batch).mpr fun field member =>
        (good field member).2
      rw [← same]
      exact read_written valueAsString batch fun field member => (good field member).1

end

/-! A column whose name holds a quotation mark. -/

def quoted : RecordBatch where
  rows := 1
  fields := [("a\"b", .booleans fun _ => ⟨true, true⟩)]
  distinct := List.nodup_singleton _

theorem quoted_not_decodes :
    ¬ (Decodes (fun _ value => toString value) quoted ∧
      EncodersAgree (fun _ value => toString value) quoted) := by
  rintro ⟨decodes, _⟩
  rw [decodes_iff_read] at decodes
  have none : read ('[' :: itemTexts (rowTexts (fun _ value => toString value) quoted)) = none := by
    decide
  rw [none] at decodes
  cases decodes

end Datapress.DataFusion.Serialize
