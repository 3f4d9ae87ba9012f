import Mathlib.Algebra.Ring.Int.Defs
import Mathlib.Algebra.Ring.Nat
import Mathlib.Data.Nat.Log

/-! JSON values as requests carry them. Floating-point values are their IEEE
bit patterns, so that equality of values is decidable. -/
namespace Datapress

/-- A binary64 value by its bit pattern. -/
structure F64 where
  bits : UInt64
deriving Repr, DecidableEq

/-- The magnitude rounded to the nearest binary64, ties to even, without a sign. -/
def F64.magnitude (n : Nat) : Nat :=
  if n = 0 then 0
  else
    let exponent := Nat.log2 n
    if exponent ≤ 52 then
      (exponent + 1023) * 2 ^ 52 + (n * 2 ^ (52 - exponent) - 2 ^ 52)
    else
      let shift := exponent - 52
      let kept := n / 2 ^ shift
      let lost := n % 2 ^ shift
      let half := 2 ^ (shift - 1)
      let rounded := if lost > half || (lost == half && kept % 2 == 1) then kept + 1 else kept
      (exponent + 1023) * 2 ^ 52 + (rounded - 2 ^ 52)

/-- The conversion `as f64` of a machine integer. -/
def F64.ofInt (value : Int) : F64 :=
  if value < 0 then ⟨.ofNat (2 ^ 63 + magnitude value.natAbs)⟩
  else ⟨.ofNat (magnitude value.natAbs)⟩

/-- `serde_json::Number`: a negative integer is kept apart from a positive one. -/
inductive JsonNumber where
  | posInt (value : UInt64)
  | negInt (value : Int64) (negative : value < 0)
  | float (value : F64)
deriving Repr, DecidableEq

namespace JsonNumber

def asI64 : JsonNumber → Option Int64
  | posInt n => if n.toNat < 2 ^ 63 then some (Int64.ofNat n.toNat) else none
  | negInt n _ => some n
  | float _ => none

def asU64 : JsonNumber → Option UInt64
  | posInt n => some n
  | negInt _ _ => none
  | float _ => none

def asF64 : JsonNumber → Option F64
  | posInt n => some (.ofInt n.toNat)
  | negInt n _ => some (.ofInt n.toInt)
  | float value => some value

end JsonNumber

inductive JsonValue where
  | null
  | bool (value : Bool)
  | number (value : JsonNumber)
  | string (value : String)
  | array (items : List JsonValue)
  | object (fields : List (String × JsonValue))
deriving Repr

/-- `Value::as_array`. -/
def JsonValue.asArray : JsonValue → Option (List JsonValue)
  | array items => some items
  | _ => none

/-- The `Display` of a JSON value, its compact text, belongs to `serde_json`. -/
class JsonText where
  display : JsonValue → String

/-- A display for runs that put no JSON value into an error. -/
@[reducible] def unusedJsonText : JsonText where
  display _ := ""

end Datapress
