import Mathlib.Data.List.Basic

/-! The errors a request can end with, their wording and their HTTP status. -/
namespace Datapress

inductive AppError where
  | unknownColumn (column : String)
  | unknownOperator (operator : String)
  | invalidValue (value : String)
  | notFound (name : String)
  | unauthorized (message : String)
  | forbidden (message : String)
  | unavailable (message : String)
  | conflict (message : String)
  /-- The dataset is registered but pending or building. -/
  | notReady (dataset state : String)
  /-- The source of a dataset resolved to no data. -/
  | emptyDataset (message : String)
  | internal (message : String)
deriving Repr, DecidableEq

namespace AppError

/-- The text of the error, which the HTTP response carries. -/
def display : AppError → String
  | unknownColumn c => s!"unknown column: {c}"
  | unknownOperator o => s!"unknown operator: {o}"
  | invalidValue v => s!"invalid value: {v}"
  | notFound n => s!"not found: {n}"
  | unauthorized m => s!"unauthorized: {m}"
  | forbidden m => s!"forbidden: {m}"
  | unavailable m => s!"service unavailable: {m}"
  | conflict m => s!"conflict: {m}"
  | notReady dataset state => s!"dataset '{dataset}' is not ready (state: {state})"
  | emptyDataset m => s!"empty dataset: {m}"
  | internal s => s!"internal error: {s}"

def statusCode : AppError → Nat
  | internal _ => 500
  | notFound _ => 404
  | unauthorized _ => 401
  | forbidden _ => 403
  | conflict _ => 409
  | unavailable _ | notReady _ _ => 503
  | unknownColumn _ | unknownOperator _ | invalidValue _ | emptyDataset _ => 400

end AppError
end Datapress
