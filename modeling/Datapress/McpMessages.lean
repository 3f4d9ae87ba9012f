import Datapress.Mcp
import Mathlib.Data.Rat.Floor

/-!
The JSON-RPC messages of the MCP endpoint: how a request body is read, and which id the
reply carries.
-/
namespace Datapress

/-- The exact value of a binary64, which has none where it is infinite or no number. -/
def F64.value (f : F64) : Option ℚ :=
  let sign : ℚ := if f.bits.toNat / 2 ^ 63 = 0 then 1 else -1
  let exponent : ℕ := f.bits.toNat / 2 ^ 52 % 2 ^ 11
  let fraction : ℕ := f.bits.toNat % 2 ^ 52
  if exponent = 2047 then none
  else if exponent = 0 then some (sign * fraction * 2 ^ (-1074 : ℤ))
  else some (sign * (2 ^ 52 + fraction) * 2 ^ ((exponent : ℤ) - 1075))

/-- `f as i64` of a float without a fraction and with a magnitude below `9.0e15`. -/
def F64.wholeI64 (f : F64) : Option Int64 :=
  match f.value with
  | some q => if q.den = 1 ∧ |q.num| < 9000000000000000 then some (.ofInt q.num) else none
  | none => none

theorem F64.toInt_wholeI64 {f : F64} {n : Int64} (whole : f.wholeI64 = some n) :
    f.value = some (n.toInt : ℚ) ∧ |n.toInt| < 9000000000000000 := by
  unfold wholeI64 at whole
  split at whole
  case h_2 => cases whole
  case h_1 q value =>
    obtain ⟨⟨integer, small⟩, read⟩ := Option.ite_none_right_eq_some.mp whole
    obtain rfl := Option.some.inj read
    obtain ⟨low, high⟩ := abs_lt.mp small
    have exact : (Int64.ofInt q.num).toInt = q.num := by
      apply Int64.toInt_ofInt_of_le <;> omega
    rw [exact]
    exact ⟨value.trans (congrArg some (Rat.den_eq_one_iff q |>.mp integer).symm), small⟩

/-- The float `1.0` is the integer one. -/
example : (F64.mk 0x3FF0000000000000).wholeI64 = some 1 := by decide +kernel

theorem F64.wholeI64_eq_some {f : F64} {n : ℤ} (value : f.value = some (n : ℚ))
    (small : |n| < 9000000000000000) : f.wholeI64 = some (.ofInt n) := by
  simp only [wholeI64, value, Rat.den_intCast, Rat.num_intCast, true_and, small, if_true]

/-- An integer beyond `2 ^ 63` stays beyond it when it is read as a float. -/
theorem F64.magnitude_large {n : ℕ} (low : 2 ^ 63 ≤ n) (high : n < 2 ^ 64) :
    1086 * 2 ^ 52 ≤ magnitude n ∧ magnitude n ≤ 1087 * 2 ^ 52 := by
  have log : Nat.log2 n = 63 := by
    rw [Nat.log2_eq_iff (by omega)]
    exact ⟨low, high⟩
  have kept : 2 ^ 52 ≤ n / 2 ^ 11 ∧ n / 2 ^ 11 < 2 ^ 53 := by omega
  have nonzero : n ≠ 0 := by omega
  simp only [magnitude, log, if_neg nonzero]
  rw [if_neg (by omega)]
  simp only [show 63 - 52 = 11 from rfl]
  split <;> omega

theorem F64.value_large {n : UInt64} (low : 2 ^ 63 ≤ n.toNat) :
    ∃ q : ℚ, (F64.ofInt n.toNat).value = some q ∧ 2 ^ 63 ≤ q := by
  obtain ⟨above, below⟩ := magnitude_large low n.toNat_lt
  have bits : (F64.ofInt n.toNat).bits.toNat = magnitude n.toNat := by
    rw [ofInt, if_neg (by omega), Int.natAbs_natCast]
    apply UInt64.toNat_ofNat_of_lt'
    rw [UInt64.size]
    omega
  have sign : magnitude n.toNat / 2 ^ 63 = 0 := by omega
  have exponent : 1086 ≤ magnitude n.toNat / 2 ^ 52 % 2 ^ 11 ∧
      magnitude n.toNat / 2 ^ 52 % 2 ^ 11 ≤ 1087 := by omega
  simp only [value, bits, sign, if_true]
  rw [if_neg (by omega), if_neg (by omega)]
  refine ⟨_, rfl, ?_⟩
  have scaled : (2 : ℚ) ^ (11 : ℤ) ≤ 2 ^ (((magnitude n.toNat / 2 ^ 52 % 2 ^ 11 : ℕ) : ℤ) - 1075) := by
    apply zpow_le_zpow_right₀ (by norm_num)
    omega
  have fraction : (0 : ℚ) ≤ (magnitude n.toNat % 2 ^ 52 : ℕ) := Nat.cast_nonneg _
  calc (2 : ℚ) ^ 63 = 2 ^ 52 * 2 ^ (11 : ℤ) := by norm_num
    _ ≤ _ := by
      gcongr
      linarith
theorem F64.wholeI64_large {n : UInt64} (low : 2 ^ 63 ≤ n.toNat) :
    (F64.ofInt n.toNat).wholeI64 = none := by
  obtain ⟨q, value, large⟩ := value_large low
  by_contra found
  obtain ⟨i, whole⟩ := Option.ne_none_iff_exists'.mp found
  obtain ⟨read, small⟩ := toInt_wholeI64 whole
  obtain rfl := Option.some.inj (value.symm.trans read)
  have bound : (2 : ℤ) ^ 63 ≤ i.toInt := by exact_mod_cast large
  have below := (abs_lt.mp small).2
  omega

/-- `Number::from` of an `i64`. -/
def JsonNumber.ofI64 (n : Int64) : JsonNumber :=
  if negative : n < 0 then .negInt n negative else .posInt n.toUInt64

theorem JsonNumber.ofI64_asI64 {number : JsonNumber} {n : Int64}
    (read : number.asI64 = some n) : ofI64 n = number := by
  cases number with
  | posInt value =>
    obtain ⟨small, read⟩ := Option.ite_none_right_eq_some.mp read
    obtain rfl := Option.some.inj read
    have nonneg : ¬ Int64.ofNat value.toNat < 0 := by
      rw [Int64.lt_iff_toInt_lt, Int64.toInt_ofNat_of_lt small]
      exact not_lt.mpr (Int.natCast_nonneg _)
    rw [ofI64, dif_neg nonneg, Int64.toUInt64_ofNat', UInt64.ofNat_toNat]
  | negInt value negative =>
    obtain rfl := Option.some.inj read
    exact dif_pos negative
  | float value => cases read

theorem JsonNumber.asI64_ofI64 (n : Int64) : (ofI64 n).asI64 = some n := by
  by_cases negative : n < 0
  · rw [ofI64, dif_pos negative, asI64]
  · have nonneg : 0 ≤ n := Int64.not_lt.mp negative
    have small : n.toUInt64.toNat < 2 ^ 63 := by
      have bound := n.toInt_lt
      rw [Int64.toNat_toUInt64_of_le nonneg, Int64.toNatClampNeg]
      omega
    rw [ofI64, dif_neg negative, asI64, if_pos small, ← UInt64.toInt64_ofNat', UInt64.ofNat_toNat,
      Int64.toInt64_toUInt64]

namespace Mcp.Protocol

open Datapress

/-- A request id: `null` is none. -/
inductive Id where
  | number (value : Int64)
  | str (value : String)
deriving DecidableEq, Repr

/-- An inbound message, before its version is checked. -/
structure RpcMessage where
  jsonrpc : Option String
  id : JsonValue
  /-- Tells a missing id from one that is `null`. -/
  idPresent : Bool
  method : Option String
  params : JsonValue

/-- A field of type `Option<String>`: missing and `null` both read as no text. -/
def optionalText (key : String) (fields : List (String × JsonValue)) : Option (Option String) :=
  match fields.lookup key with
  | none => some none
  | some .null => some none
  | some (.string text) => some (some text)
  | some _ => none

namespace RpcMessage

def fromValue : JsonValue → Option RpcMessage
  | .object fields => do
    let jsonrpc ← optionalText "jsonrpc" fields
    let method ← optionalText "method" fields
    some
      { jsonrpc
        id := (fields.lookup "id").getD .null
        idPresent := (fields.lookup "id").isSome
        method
        params := (fields.lookup "params").getD .null }
  | _ => none

def isNotification (message : RpcMessage) : Bool := !message.idPresent

def extractId (message : RpcMessage) : Except RpcError (Option Id) :=
  if !message.idPresent then .ok none
  else
    match message.id with
    | .string text => .ok (some (.str text))
    | .number n =>
      match n.asI64 with
      | some i => .ok (some (.number i))
      | none =>
        match n.asF64.bind F64.wholeI64 with
        | some i => .ok (some (.number i))
        | none => .error (.invalidRequest "request id must be an integer or string")
    | .null => .error (.invalidRequest "request id must not be null (MCP spec §2.4)")
    | _ => .error (.invalidRequest "request id must be a string or number")

theorem extractId_ne_none {message : RpcMessage} (present : message.idPresent = true) :
    message.extractId ≠ .ok none := by
  intro read
  simp only [extractId, present, Bool.not_true, Bool.false_eq_true, if_false] at read
  repeat' split at read
  all_goals cases read

end RpcMessage

def validateJsonrpc (message : RpcMessage) : Except RpcError Unit :=
  if message.jsonrpc = some "2.0" then .ok ()
  else .error (.invalidRequest "\"jsonrpc\" field must be \"2.0\"")

def idToValue : Id → JsonValue
  | .number n => .number (.ofI64 n)
  | .str text => .string text

/-- An outbound message; a part that is `none` is left out of its JSON. -/
structure RpcResponse (Data : Type) where
  id : Option JsonValue
  result : Option (RpcResult Data)
  error : Option RpcError

namespace RpcResponse
variable {Data : Type}

def ok (id : Option Id) (result : RpcResult Data) : RpcResponse Data :=
  { id := id.map idToValue, result := some result, error := none }

def err (id : Option Id) (error : RpcError) : RpcResponse Data :=
  { id := id.map idToValue, result := none, error := some error }

/-- Used when the id cannot be determined. -/
def errNullId (error : RpcError) : RpcResponse Data :=
  { id := some .null, result := none, error := some error }

end RpcResponse

/-! ### The handler, once the headers passed -/

/-- A body is JSON, or a text that is not, of which the first byte is compared with `[`. -/
inductive RequestBody where
  | malformed (opensArray : Bool)
  | json (value : JsonValue)

inductive Reply (Data : Type) where
  /-- 202 with an empty body. -/
  | accepted
  /-- 200 with the message. -/
  | rpc (response : RpcResponse Data)
  /-- The status and the body of an auth failure. -/
  | refused (e : AppError)

/-- A reply, and the method and parameters of the dispatch it took. -/
structure Handled (Data : Type) where
  reply : Reply Data
  dispatched : Option (String × JsonValue) := none

section Handler
variable [ToLowercase] [JsonParse] {Data : Type} [Encoded Data]

def handleMessage (auth : AuthState) (context : ToolContext Data) (principal : Option Principal)
    (timedOut : Bool) (message : RpcMessage) : Option (Handled Data) :=
  match validateJsonrpc message with
  | .error e =>
    -- The id is tried even in an invalid message.
    let bestId := message.extractId.toOption.join
    some { reply := .rpc (.err bestId e) }
  | .ok () =>
    match message.extractId with
    | .error e => some { reply := .rpc (.errNullId e) }
    | .ok id =>
      if message.isNotification then some { reply := .accepted }
      else
        match id with
        | none => some { reply := .accepted }
        | some id =>
          match message.method with
          | none =>
            some { reply := .rpc (.err (some id) (.invalidRequest "missing method field")) }
          | some method =>
            match auth.checkAuth method principal with
            | .error e => some { reply := .refused e }
            | .ok () => do
              let result ← dispatchMethod context timedOut method message.params
              let response :=
                match result with
                | .ok val => .ok (some id) val
                | .error e => .err (some id) e
              some { reply := .rpc response, dispatched := some (method, message.params) }

def parseError (message : String) : RpcError := ⟨-32700, message⟩

def handleBody (auth : AuthState) (context : ToolContext Data) (principal : Option Principal)
    (timedOut : Bool) : RequestBody → Option (Handled Data)
  | .malformed true => some { reply := .rpc (.errNullId
      (.invalidRequest "JSON-RPC batches are not supported by MCP")) }
  | .malformed false => some { reply := .rpc (.errNullId
      (parseError "could not parse request body as JSON")) }
  | .json (.array _) => some { reply := .rpc (.errNullId
      (.invalidRequest "JSON-RPC batches are not supported by MCP")) }
  | .json raw =>
    match RpcMessage.fromValue raw with
    | none => some { reply := .rpc (.errNullId (parseError "could not parse JSON-RPC message")) }
    | some message => handleMessage auth context principal timedOut message

end Handler

/-! ### The route -/

def RpcMessage.checked (message : RpcMessage) : Except RpcError Mcp.RpcMessage := do
  validateJsonrpc message
  let _ ← message.extractId
  .ok { isNotification := message.isNotification, method := message.method,
        params := message.params }

/-- What the route reads of a body: a message that asks, or the error it is answered with. -/
def RequestBody.message : RequestBody → Except RpcError Mcp.RpcMessage
  | .malformed true => .error (.invalidRequest "JSON-RPC batches are not supported by MCP")
  | .malformed false => .error (parseError "could not parse request body as JSON")
  | .json (.array _) => .error (.invalidRequest "JSON-RPC batches are not supported by MCP")
  | .json raw =>
    match RpcMessage.fromValue raw with
    | none => .error (parseError "could not parse JSON-RPC message")
    | some message => message.checked

def RpcResponse.outcome {Data : Type} (response : RpcResponse Data) :
    Option (Except RpcError (RpcResult Data)) :=
  match response.result, response.error with
  | some val, none => some (.ok val)
  | none, some e => some (.error e)
  | _, _ => none

/-- The reply as the route sends it, where the id does not show. -/
def Handled.response {Data : Type} (handled : Handled Data) : Option (Response Data) :=
  match handled.reply with
  | .accepted => some (.empty 202)
  | .rpc response => rpc <$> response.outcome
  | .refused e => some (.failure e)

section Route
variable [ToLowercase] [JsonParse] {Data : Type} [Encoded Data] {auth : AuthState}
  {context : ToolContext Data} {principal : Option Principal} {post : Post}

theorem handlePost_message (enabled : context.settings.enabled = true)
    (origin : post.originAllowed = true)
    (version : post.protocolVersion.any (· != protocolVersion) = false)
    (accept : post.accept.any (!acceptHeaderAllowsJson ·) = false) {message : RpcMessage}
    (received : post.message = message.checked) :
    handlePost auth context principal post =
      (handleMessage auth context principal post.timedOut message).bind Handled.response := by
  simp only [handlePost, enabled, origin, version, accept, received, Bool.not_true,
    Bool.false_eq_true, if_false, RpcMessage.checked, handleMessage]
  cases validateJsonrpc message with
  | error e => rfl
  | ok =>
    cases extracted : message.extractId with
    | error e => rfl
    | ok id =>
      simp only [bind, Except.bind]
      cases notification : message.isNotification with
      | true => rfl
      | false =>
        cases id with
        | none =>
          rw [RpcMessage.isNotification, Bool.not_eq_false'] at notification
          exact absurd extracted (RpcMessage.extractId_ne_none notification)
        | some id =>
          cases message.method with
          | none => rfl
          | some method =>
            simp only [Bool.false_eq_true, if_false]
            cases auth.checkAuth method principal with
            | error e => rfl
            | ok =>
              cases dispatchMethod context post.timedOut method message.params with
              | none => rfl
              | some result => cases result <;> rfl

/-- Once its header checks have passed, the route handles the body. -/
theorem handlePost_eq (enabled : context.settings.enabled = true)
    (origin : post.originAllowed = true)
    (version : post.protocolVersion.any (· != protocolVersion) = false)
    (accept : post.accept.any (!acceptHeaderAllowsJson ·) = false) {body : RequestBody}
    (received : post.message = body.message) :
    handlePost auth context principal post =
      (handleBody auth context principal post.timedOut body).bind Handled.response := by
  have failed : ∀ e, post.message = .error e →
      handlePost auth context principal post = some (rpc (.error e)) := by
    intro e received
    simp only [handlePost, enabled, origin, version, accept, received, Bool.not_true,
      Bool.false_eq_true, if_false]
  cases body with
  | malformed opensArray => cases opensArray <;> exact failed _ received
  | json raw =>
    cases raw with
    | object fields =>
      simp only [RequestBody.message] at received
      simp only [handleBody]
      cases read : RpcMessage.fromValue (.object fields) with
      | none =>
        rw [read] at received
        exact failed _ received
      | some message =>
        rw [read] at received
        exact handlePost_message enabled origin version accept received
    | _ => exact failed _ received

end Route

/-! ### The id of the reply -/

/-- The id a reply carries for the id of a request: a string or a 64-bit integer as it stands,
and a float without a fraction as the integer it is. -/
inductive Carried : JsonValue → JsonValue → Prop where
  | string (text : String) : Carried (.string text) (.string text)
  | unsigned (n : UInt64) (small : n.toNat < 2 ^ 63) :
      Carried (.number (.posInt n)) (.number (.posInt n))
  | negative (n : Int64) (negative : n < 0) :
      Carried (.number (.negInt n negative)) (.number (.negInt n negative))
  | whole (f : F64) (i : Int64) (value : f.value = some (i.toInt : ℚ))
      (small : |i.toInt| < 9000000000000000) (number : JsonNumber) (read : number.asI64 = some i) :
      Carried (.number (.float f)) (.number number)

section Ids
variable {message : RpcMessage} {id : JsonValue}

theorem extractId_of_carried (present : message.idPresent = true)
    (carried : Carried message.id id) :
    ∃ i, message.extractId = .ok (some i) ∧ idToValue i = id := by
  simp only [RpcMessage.extractId, present, Bool.not_true, Bool.false_eq_true, if_false]
  generalize message.id = value at carried
  cases carried with
  | string text => exact ⟨.str text, rfl, rfl⟩
  | unsigned n small =>
    have read : (JsonNumber.posInt n).asI64 = some (.ofNat n.toNat) := if_pos small
    simp only [read]
    exact ⟨_, rfl, congrArg _ (JsonNumber.ofI64_asI64 read)⟩
  | negative n negative =>
    have read : (JsonNumber.negInt n negative).asI64 = some n := rfl
    exact ⟨.number n, rfl, congrArg _ (JsonNumber.ofI64_asI64 read)⟩
  | whole f i value small number read =>
    have whole : f.wholeI64 = some i := by
      rw [F64.wholeI64_eq_some value small, Int64.ofInt_toInt]
    simp only [JsonNumber.asI64, JsonNumber.asF64, Option.bind_some, whole]
    exact ⟨_, rfl, congrArg _ (JsonNumber.ofI64_asI64 read)⟩

theorem carried_of_extractId {i : Id} (read : message.extractId = .ok (some i)) :
    Carried message.id (idToValue i) := by
  unfold RpcMessage.extractId at read
  split at read
  · cases read
  · generalize message.id = value at read ⊢
    cases value with
    | string text => cases read; exact .string text
    | number n =>
      cases n with
      | posInt n =>
        by_cases small : n.toNat < 2 ^ 63
        · have exact : (JsonNumber.posInt n).asI64 = some (.ofNat n.toNat) := if_pos small
          simp only [exact] at read
          cases read
          rw [idToValue, JsonNumber.ofI64_asI64 exact]
          exact .unsigned n small
        · -- A float this large is never tolerated.
          have missed : (JsonNumber.posInt n).asI64 = none := if_neg small
          simp only [missed, JsonNumber.asF64, Option.bind_some,
            F64.wholeI64_large (not_lt.mp small)] at read
          cases read
      | negInt n negative =>
        cases read
        have same : (JsonNumber.negInt n negative).asI64 = some n := rfl
        rw [idToValue, JsonNumber.ofI64_asI64 same]
        exact .negative n negative
      | float f =>
        simp only [JsonNumber.asI64, JsonNumber.asF64, Option.bind_some] at read
        split at read
        · rename_i i whole
          cases read
          obtain ⟨value, small⟩ := F64.toInt_wholeI64 whole
          exact .whole f i value small _ (JsonNumber.asI64_ofI64 i)
        · cases read
    | _ => cases read

theorem extractId_of_uncarried (present : message.idPresent = true)
    (uncarried : ¬ ∃ id, Carried message.id id) : ∃ e, message.extractId = .error e := by
  cases read : message.extractId with
  | error e => exact ⟨e, rfl⟩
  | ok id =>
    cases id with
    | some i => exact absurd ⟨_, carried_of_extractId read⟩ uncarried
    | none => exact absurd read (RpcMessage.extractId_ne_none present)

end Ids

/-- A field that is missing, `null` or a string. -/
def TextField (key : String) (fields : List (String × JsonValue)) : Prop :=
  ∀ value, fields.lookup key = some value → value = .null ∨ ∃ text, value = .string text

theorem optionalText_isSome_iff {key : String} {fields : List (String × JsonValue)} :
    (optionalText key fields).isSome = true ↔ TextField key fields := by
  unfold optionalText TextField
  cases fields.lookup key with
  | none => simp
  | some value => cases value <;> simp

theorem optionalText_eq_some_iff {key text : String} {fields : List (String × JsonValue)} :
    optionalText key fields = some (some text) ↔ fields.lookup key = some (.string text) := by
  unfold optionalText
  cases fields.lookup key with
  | none => simp
  | some value => cases value <;> simp

namespace Handled
variable {Data : Type}

/-- A message with this id and either a result or an error. -/
def Carries (id : JsonValue) (handled : Handled Data) : Prop :=
  ∃ response, handled.reply = .rpc response ∧ response.id = some id ∧
    (response.result.isSome = true ↔ response.error = none)

/-- A message with this id and an error. -/
def Fails (id : JsonValue) (handled : Handled Data) : Prop :=
  ∃ e, handled.reply = .rpc { id := some id, result := none, error := some e }

end Handled

section Fidelity
variable {Data : Type}

/-- Which id the reply to a body carries. -/
structure Fidelity (auth : AuthState) (principal : Option Principal) (body : RequestBody)
    (handled : Handled Data) : Prop where
  answered : ∀ fields id carried, body = .json (.object fields) → TextField "method" fields →
    fields.lookup "jsonrpc" = some (.string "2.0") → fields.lookup "id" = some id →
    Carried id carried →
    handled.Carries carried ∨
      ∃ method e, fields.lookup "method" = some (.string method) ∧
        auth.checkAuth method principal = .error e ∧ (e.statusCode = 401 ∨ e.statusCode = 403) ∧
        handled = { reply := .refused e }
  notified : ∀ fields, body = .json (.object fields) → TextField "method" fields →
    fields.lookup "jsonrpc" = some (.string "2.0") → fields.lookup "id" = none →
    handled = { reply := .accepted }
  unusable : ∀ fields id, body = .json (.object fields) → TextField "method" fields →
    fields.lookup "jsonrpc" = some (.string "2.0") → fields.lookup "id" = some id →
    (¬ ∃ carried, Carried id carried) → handled.Fails .null
  /-- Another version is refused under the id of the message. -/
  otherVersion : ∀ fields id carried, body = .json (.object fields) →
    TextField "method" fields → TextField "jsonrpc" fields →
    fields.lookup "jsonrpc" ≠ some (.string "2.0") → fields.lookup "id" = some id →
    Carried id carried → handled.Fails carried
  unread : (∀ fields, body = .json (.object fields) →
      ¬ (TextField "jsonrpc" fields ∧ TextField "method" fields)) → handled.Fails .null

end Fidelity

section Reading
variable {fields : List (String × JsonValue)} {message : RpcMessage}

theorem fromValue_fields (read : RpcMessage.fromValue (.object fields) = some message) :
    optionalText "jsonrpc" fields = some message.jsonrpc ∧
      optionalText "method" fields = some message.method ∧
      message.id = (fields.lookup "id").getD .null ∧
      message.idPresent = (fields.lookup "id").isSome := by
  obtain ⟨jsonrpc, hasVersion, read⟩ := Option.bind_eq_some_iff.mp read
  obtain ⟨method, hasMethod, read⟩ := Option.bind_eq_some_iff.mp read
  cases read
  exact ⟨hasVersion, hasMethod, rfl, rfl⟩

theorem fromValue_id (read : RpcMessage.fromValue (.object fields) = some message)
    {id : JsonValue} (asked : fields.lookup "id" = some id) :
    message.id = id ∧ message.idPresent = true := by
  obtain ⟨-, -, hasId, present⟩ := fromValue_fields read
  rw [asked] at hasId present
  exact ⟨hasId, present⟩

theorem fromValue_isSome_iff : (RpcMessage.fromValue (.object fields)).isSome = true ↔
    TextField "jsonrpc" fields ∧ TextField "method" fields := by
  simp only [RpcMessage.fromValue, ← optionalText_isSome_iff]
  cases optionalText "jsonrpc" fields with
  | none => simp
  | some jsonrpc => cases optionalText "method" fields <;> simp

theorem validateJsonrpc_of_fields (read : RpcMessage.fromValue (.object fields) = some message)
    (version : fields.lookup "jsonrpc" = some (.string "2.0")) :
    validateJsonrpc message = .ok () := by
  have found := (fromValue_fields read).1.symm.trans (optionalText_eq_some_iff.mpr version)
  exact if_pos (Option.some.inj found)

theorem validateJsonrpc_error (read : RpcMessage.fromValue (.object fields) = some message)
    (version : fields.lookup "jsonrpc" ≠ some (.string "2.0")) :
    ∃ e, validateJsonrpc message = .error e := by
  refine ⟨_, if_neg fun found => version ?_⟩
  rw [← optionalText_eq_some_iff, (fromValue_fields read).1, found]

end Reading

/-- The guard answers with the statuses of an auth failure. -/
theorem checkAuth_error_status {auth : AuthState} {principal : Option Principal}
    {method : String} {e : AppError}
    (refused : auth.checkAuth method principal = .error e) :
    e.statusCode = 401 ∨ e.statusCode = 403 := by
  have scopes : ∀ required, requireScopes principal required = .error e →
      e.statusCode = 401 ∨ e.statusCode = 403 := by
    intro required refused
    unfold requireScopes at refused
    repeat' split at refused
    all_goals cases refused
    · exact .inr rfl
    · exact .inl rfl
  unfold AuthState.checkAuth at refused
  split at refused
  · cases refused
  · split at refused
    · cases refused
    · split at refused
      · split at refused
        · cases refused
          exact .inl rfl
        · cases refused
      · split at refused
        · cases refused
          exact .inl rfl
        · cases refused
      · split at refused
        · cases refused
          exact .inl rfl
        · cases refused
      · exact scopes _ refused

theorem clamp_isSome (value : UInt64) {low high : UInt64} (le : low ≤ high) :
    (clamp value low high).isSome = true := by
  rw [clamp, if_pos le, Option.isSome_some]

section Handler
variable [ToLowercase] [JsonParse] {Data : Type} [Encoded Data] {auth : AuthState}
  {context : ToolContext Data} {principal : Option Principal} {timedOut : Bool}
  {body : RequestBody} {handled : Handled Data} {message : RpcMessage}

omit [JsonParse] in
theorem callQueryDataset_isSome (pages : 1 ≤ context.settings.maxPageSize) (pageSize : UInt64)
    (args : JsonValue) : (callQueryDataset context pageSize args).isSome = true := by
  unfold callQueryDataset
  split
  · rfl
  · split
    · rfl
    · rename_i request _
      obtain ⟨size, clamped⟩ := Option.isSome_iff_exists.mp
        (clamp_isSome request.pageSize pages)
      simp only [clamped, Option.bind_eq_bind, Option.bind_some]
      repeat' split
      all_goals rfl
  · rfl

omit [JsonParse] [Encoded Data] in
theorem callSql_isSome (rows : 1 ≤ context.settings.sqlMaxRows) (args : JsonValue) :
    (callSql context args).isSome = true := by
  unfold callSql
  split
  · rfl
  · simp only [Option.bind_eq_bind]
    split
    · rename_i asked _
      obtain ⟨maxRows, clamped⟩ := Option.isSome_iff_exists.mp
        (clamp_isSome asked rows)
      simp only [clamped, Option.bind_some]
      repeat' split
      all_goals rfl
    · simp only [Option.bind_some]
      repeat' split
      all_goals rfl

theorem dispatch_isSome (pages : 1 ≤ context.settings.maxPageSize)
    (rows : 1 ≤ context.settings.sqlMaxRows) (pageSize : UInt64) (name : String)
    (args : JsonValue) : (dispatch context pageSize name args).isSome = true := by
  unfold dispatch
  split
  · rfl
  · rfl
  · rfl
  · exact Option.isSome_map.trans (callQueryDataset_isSome pages pageSize args)
  · rfl
  · split
    · exact Option.isSome_map.trans (callSql_isSome rows args)
    · rfl
  · rfl

/-- A call panics only where a limit of zero leaves no page size or row count. -/
theorem dispatchMethod_isSome (timedOut : Bool) (pages : 1 ≤ context.settings.maxPageSize)
    (rows : 1 ≤ context.settings.sqlMaxRows) (method : String) (params : JsonValue) :
    (dispatchMethod context timedOut method params).isSome = true := by
  unfold dispatchMethod
  split
  · rfl
  · rfl
  · rfl
  · unfold handleToolsCall
    split
    · rfl
    · rename_i name _
      obtain ⟨pageSize, clamped⟩ := Option.isSome_iff_exists.mp
        (clamp_isSome context.settings.pageSize pages)
      obtain ⟨result, dispatched⟩ := Option.isSome_iff_exists.mp
        (dispatch_isSome pages rows pageSize name ((field "arguments" params).getD .null))
      simp only [clamped, dispatched, Option.bind_eq_bind, Option.bind_some]
      split <;> rfl
  · rfl

theorem handleMessage_isSome (pages : 1 ≤ context.settings.maxPageSize)
    (rows : 1 ≤ context.settings.sqlMaxRows) :
    (handleMessage auth context principal timedOut message).isSome = true := by
  unfold handleMessage
  repeat' split
  all_goals try rfl
  rename_i method _ _ _
  obtain ⟨result, dispatched⟩ := Option.isSome_iff_exists.mp
    (dispatchMethod_isSome timedOut pages rows method message.params)
  simp only [dispatched, Option.bind_eq_bind, Option.bind_some, Option.isSome_some]

theorem handleBody_isSome (pages : 1 ≤ context.settings.maxPageSize)
    (rows : 1 ≤ context.settings.sqlMaxRows) :
    (handleBody auth context principal timedOut body).isSome = true := by
  unfold handleBody
  repeat' split
  all_goals try rfl
  exact handleMessage_isSome pages rows

/-- A message of the version with an id is answered under it, unless its caller is refused. -/
theorem handleMessage_answers (version : validateJsonrpc message = .ok ())
    (present : message.idPresent = true) {id : JsonValue} (carried : Carried message.id id)
    (ran : handleMessage auth context principal timedOut message = some handled) :
    handled.Carries id ∨
      ∃ method e, message.method = some method ∧ auth.checkAuth method principal = .error e ∧
        handled = { reply := .refused e } := by
  obtain ⟨i, extracted, rfl⟩ := extractId_of_carried present carried
  simp only [handleMessage, version, extracted, RpcMessage.isNotification, present,
    Bool.not_true, Bool.false_eq_true, if_false] at ran
  split at ran
  · cases ran
    exact .inl ⟨_, rfl, rfl, by simp [RpcResponse.err]⟩
  · rename_i method asked
    split at ran
    · rename_i e refused
      cases ran
      exact .inr ⟨method, e, asked, refused, rfl⟩
    · obtain ⟨result, -, ran⟩ := Option.bind_eq_some_iff.mp ran
      cases ran
      cases result with
      | ok val => exact .inl ⟨_, rfl, rfl, by simp [RpcResponse.ok]⟩
      | error e => exact .inl ⟨_, rfl, rfl, by simp [RpcResponse.err]⟩

/-- A message without an id is accepted, and nothing is dispatched. -/
theorem handleMessage_notified (version : validateJsonrpc message = .ok ())
    (absent : message.idPresent = false)
    (ran : handleMessage auth context principal timedOut message = some handled) :
    handled = { reply := .accepted } := by
  have extracted : message.extractId = .ok none := by
    rw [RpcMessage.extractId, absent, Bool.not_false, if_pos rfl]
  simp only [handleMessage, version, extracted, RpcMessage.isNotification, absent,
    Bool.not_false, if_true] at ran
  exact (Option.some.inj ran).symm

theorem handleMessage_unusable (version : validateJsonrpc message = .ok ())
    (present : message.idPresent = true) (uncarried : ¬ ∃ id, Carried message.id id)
    (ran : handleMessage auth context principal timedOut message = some handled) :
    handled.Fails .null := by
  obtain ⟨e, extracted⟩ := extractId_of_uncarried present uncarried
  simp only [handleMessage, version, extracted] at ran
  cases ran
  exact ⟨e, rfl⟩

theorem handleMessage_otherVersion {e : RpcError} (version : validateJsonrpc message = .error e)
    (present : message.idPresent = true) {id : JsonValue} (carried : Carried message.id id)
    (ran : handleMessage auth context principal timedOut message = some handled) :
    handled.Fails id := by
  obtain ⟨i, extracted, rfl⟩ := extractId_of_carried present carried
  simp only [handleMessage, version, extracted] at ran
  cases ran
  exact ⟨e, rfl⟩

/-- Every body gets a reply, and the reply has the id of the message. -/
theorem id_fidelity (auth : AuthState) (context : ToolContext Data)
    (pages : 1 ≤ context.settings.maxPageSize) (rows : 1 ≤ context.settings.sqlMaxRows)
    (principal : Option Principal) (timedOut : Bool) (body : RequestBody) :
    ∃ handled, handleBody auth context principal timedOut body = some handled ∧
      Fidelity auth principal body handled := by
  have answers : (handleBody auth context principal timedOut body).isSome = true :=
    handleBody_isSome pages rows
  obtain ⟨handled, ran⟩ := Option.isSome_iff_exists.mp answers
  refine ⟨handled, ran, ?_⟩
  -- An object with readable fields is handled as the message it reads as.
  have asMessage : ∀ fields, body = .json (.object fields) → TextField "jsonrpc" fields →
      TextField "method" fields → ∃ message, RpcMessage.fromValue (.object fields) = some message ∧
        handleMessage auth context principal timedOut message = some handled := by
    rintro fields rfl version method
    obtain ⟨message, read⟩ := Option.isSome_iff_exists.mp
      (fromValue_isSome_iff.mpr ⟨version, method⟩)
    simp only [handleBody, read] at ran
    exact ⟨message, read, ran⟩
  have versionText : ∀ fields, fields.lookup "jsonrpc" = some (.string "2.0") →
      TextField "jsonrpc" fields := by
    intro fields found value found'
    exact .inr ⟨"2.0", Option.some.inj (found'.symm.trans found)⟩
  constructor
  case answered =>
    intro fields id carried isBody method version asked carries
    obtain ⟨message, read, ran⟩ := asMessage fields isBody (versionText fields version) method
    obtain ⟨rfl, present⟩ := fromValue_id read asked
    rcases handleMessage_answers (validateJsonrpc_of_fields read version) present carries ran with
      answered | ⟨method, e, named, refused, rfl⟩
    · exact .inl answered
    · have hasMethod := (fromValue_fields read).2.1
      rw [named] at hasMethod
      exact .inr ⟨method, e, optionalText_eq_some_iff.mp hasMethod, refused,
        checkAuth_error_status refused, rfl⟩
  case notified =>
    intro fields isBody method version absent
    obtain ⟨message, read, ran⟩ := asMessage fields isBody (versionText fields version) method
    obtain ⟨-, -, -, present⟩ := fromValue_fields read
    rw [absent] at present
    exact handleMessage_notified (validateJsonrpc_of_fields read version) present ran
  case unusable =>
    intro fields id isBody method version asked uncarried
    obtain ⟨message, read, ran⟩ := asMessage fields isBody (versionText fields version) method
    obtain ⟨rfl, present⟩ := fromValue_id read asked
    exact handleMessage_unusable (validateJsonrpc_of_fields read version) present uncarried ran
  case otherVersion =>
    intro fields id carried isBody method version other asked carries
    obtain ⟨message, read, ran⟩ := asMessage fields isBody version method
    obtain ⟨rfl, present⟩ := fromValue_id read asked
    obtain ⟨e, invalid⟩ := validateJsonrpc_error read other
    exact handleMessage_otherVersion invalid present carries ran
  case unread =>
    intro unreadable
    unfold handleBody at ran
    split at ran
    · cases ran; exact ⟨_, rfl⟩
    · cases ran; exact ⟨_, rfl⟩
    · cases ran; exact ⟨_, rfl⟩
    · rename_i raw _
      split at ran
      · cases ran; exact ⟨_, rfl⟩
      · rename_i message read
        cases raw with
        | object fields =>
          exact absurd (fromValue_isSome_iff.mp (Option.isSome_of_eq_some read))
            (unreadable fields rfl)
        | _ => cases read

end Handler

section Runs
attribute [local instance] asciiToLowercase unusedJsonParse unusedRows

/-- An endpoint over a backend without datasets. -/
private def idleContext : ToolContext Unit where
  backend :=
    { names := []
      datasetStatuses := []
      schema _ := .error (.notFound "no datasets")
      summary _ := .error (.notFound "no datasets")
      indexedColumns _ := .error (.notFound "no datasets")
      sample _ := .error (.notFound "no datasets")
      answer _ _ := .error (.notFound "no datasets")
      querySql _ _ _ := .error (.notFound "no datasets")
      querySqlArrowStream _ _ _ := .error (.notFound "no datasets")
      parquet _ := .error (.notFound "no datasets")
      register _ := .error (.internal "disabled")
      reload _ := .error (.notFound "no datasets")
      unregister _ := .error (.notFound "no datasets")
      isManaged _ := false
      isTemp _ := false }
  parse _ := .error "no statement"
  settings := { enabled := true }
  decode :=
    { initializeParams _ := .ok ()
      queryRequest _ := .error "no decoder"
      countRequest _ := .error "no decoder" }

theorem id_fidelity_ping :
    (1 : UInt64) ≤ idleContext.settings.maxPageSize ∧
      (1 : UInt64) ≤ idleContext.settings.sqlMaxRows ∧
      ∃ handled, handleBody { auth := none, adminToken := ⟨none, by decide⟩ } idleContext none false
          (.json (.object [("jsonrpc", .string "2.0"), ("id", .string "a"),
            ("method", .string "ping")])) = some handled ∧
        Fidelity { auth := none, adminToken := ⟨none, by decide⟩ } none
          (.json (.object [("jsonrpc", .string "2.0"), ("id", .string "a"),
            ("method", .string "ping")])) handled :=
  ⟨by decide, by decide, id_fidelity _ idleContext (by decide) (by decide) none false _⟩

/-- A message of another version is answered under its id, not under `null`. -/
theorem other_version_keeps_id :
    ∃ (context : ToolContext Unit) (fields : List (String × JsonValue)) (handled : Handled Unit),
      handleBody { auth := none, adminToken := ⟨none, by decide⟩ } context none false
          (.json (.object fields)) = some handled ∧
        fields.lookup "jsonrpc" ≠ some (.string "2.0") ∧ ¬ handled.Fails .null := by
  refine ⟨idleContext, [("jsonrpc", .string "1.0"), ("id", .number (.posInt 1))], _, rfl, ?_, ?_⟩
  · rw [List.lookup_cons_self]
    simp
  · rintro ⟨e, same⟩
    cases same

end Runs
end Mcp.Protocol
end Datapress
