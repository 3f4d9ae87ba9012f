import Mathlib.Data.List.AList
import Datapress.Backend

/-! What a backend keeps of the refreshes of its datasets, and who writes it. -/
namespace Datapress.Refresh

/-- The times are texts. -/
structure RefreshRecord where
  lastRefreshAt : Option String := none
  lastRefreshDurationMs : Option Nat := none
  refreshSource : Option RefreshSource := none
  generationId : Option String := none
  consecutiveFailures : UInt32 := 0
  lastError : Option String := none
  nextRefreshAt : Option String := none
deriving DecidableEq, Repr

/-- `refresh_records`, in both backends. -/
abbrev RefreshRecords := AList fun _ : String => RefreshRecord

namespace RefreshRecords

/-- `record_refresh`, which is the same in both backends. -/
def recordRefresh (records : RefreshRecords) (name : String) (record : RefreshRecord) :
    RefreshRecords :=
  let existing := (records.lookup name).getD {}
  records.insert name { existing with
    consecutiveFailures := record.consecutiveFailures
    lastError := record.lastError
    nextRefreshAt := record.nextRefreshAt <|> existing.nextRefreshAt
    refreshSource := record.refreshSource <|> existing.refreshSource
    lastRefreshAt := record.lastRefreshAt <|> existing.lastRefreshAt
    lastRefreshDurationMs := record.lastRefreshDurationMs <|> existing.lastRefreshDurationMs }

/-- `record_publish`, at the end of a build that succeeds. -/
def recordPublish (records : RefreshRecords) (name now : String) (elapsedMs : Nat)
    (source : RefreshSource) (generationId : Option String) : RefreshRecords :=
  let existing := (records.lookup name).getD {}
  records.insert name { existing with
    lastRefreshAt := some now
    lastRefreshDurationMs := some elapsedMs
    refreshSource := some source
    generationId
    consecutiveFailures := 0
    lastError := none }

/-- `record_reload_failure`, which adds without overflow. -/
def recordReloadFailure (records : RefreshRecords) (name error : String) : RefreshRecords :=
  let record := (records.lookup name).getD {}
  let failures := record.consecutiveFailures
  records.recordRefresh name { record with
    consecutiveFailures := if failures + 1 = 0 then failures else failures + 1
    lastError := some (String.ofList (error.toList.take 500)) }

variable {records : RefreshRecords} {name : String}

/-- Whatever the record is for, its count and its error replace the stored ones. -/
theorem lookup_recordRefresh {record : RefreshRecord} :
    ∃ stored, (records.recordRefresh name record).lookup name = some stored ∧
      stored.consecutiveFailures = record.consecutiveFailures ∧
      stored.lastError = record.lastError := by
  rw [recordRefresh, AList.lookup_insert]
  exact ⟨_, rfl, rfl, rfl⟩

end RefreshRecords

/-- The characters that fill the given number of bytes; a slice inside a character panics. -/
def sliceBytes : Nat → List Char → Option (List Char)
  | 0, _ => some []
  | _ + 1, [] => none
  | n + 1, c :: rest =>
    if c.utf8Size ≤ n + 1 then (c :: ·) <$> sliceBytes (n + 1 - c.utf8Size) rest else none

/-- `truncate_error`, or nothing where it panics. -/
def truncateError (msg : String) : Option String :=
  if msg.utf8ByteSize ≤ 500 then some msg
  else (sliceBytes 499 msg.toList).map fun chars => String.ofList chars ++ "…"

/-- The `Debug` text of a duration of whole milliseconds. -/
def debugDuration (ms : Nat) : String :=
  if ms = 0 then "0ns"
  else if ms < 1000 then s!"{ms}ms"
  else if ms % 1000 = 0 then s!"{ms / 1000}s"
  else
    let digits := [ms % 1000 / 100, ms % 100 / 10, ms % 10]
    let fraction := (digits.reverse.dropWhile (· = 0)).reverse.map toString
    s!"{ms / 1000}.{String.join fraction}s"

end Datapress.Refresh
