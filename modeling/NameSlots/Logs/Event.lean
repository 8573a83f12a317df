import NameSlots.Files.Basic
import NameSlots.Json.Reader

/-! The last event of a request, read from a line of a log. -/

namespace NameSlots.Logs

/-- What a log tells about a request that has ended. -/
structure Event where
  operation : Text
  outcome : Text
  errorCode : Option Text
  totalMs : Option Int
  workerMs : Option Int
  queueWaitMs : Option Int
deriving DecidableEq

/-- What a log may hold that cannot be read: bytes that are no text, a number with too many digits,
a list or a table for the name of an event, or a time that is no number or infinite. -/
inductive LogError where
  | undecodable (fault : Utf8.Fault)
  | tooManyDigits (count : Nat)
  | nameless
  | noTime
  | endlessTime
deriving DecidableEq

def LogError.message : LogError → Text
  | .undecodable fault => fault.message
  | .tooManyDigits count => Number.tooManyDigitsMessage count
  | .nameless => "unhashable name of an event".toList
  | .noTime => "cannot convert float NaN to integer".toList
  | .endlessTime => "cannot convert float infinity to integer".toList

/-- What a line of a log is. -/
inductive Line where
  | event (event : Event)
  /-- Not an object. -/
  | faulty
  /-- Blank, or an event that does not count. -/
  | skipped
deriving DecidableEq

/-- The events that end a request. -/
def lastEvents : List Text := ["done".toList, "error".toList]

/-- The error code of a request that found no free slot. -/
def busyCode : Text := "TOO_MANY_REQUESTS".toList

/-- Whether an event of this name ends a request. -/
def isLast : Option Json → Except LogError Bool
  | some (.string name) => .ok (name ∈ lastEvents)
  | some (.array _) | some (.object _) => .error .nameless
  | _ => .ok false

/-- The text of a field. -/
def textField? (name : String) (payload : Json) : Option Text :=
  match payload.field? name with
  | some (.string t) => some t
  | _ => none

/-- A time in whole milliseconds, if there is one. -/
def time? (name : String) (timing : Json) : Except LogError (Option Int) :=
  match timing.field? name with
  | some (.int n) => .ok (some n)
  | some (.bool b) => .ok (some b.toNat)
  | some (.float .nan) => .error .noTime
  | some (.float x) =>
    match x.truncate? with
    | some n => .ok (some n)
    | none => .error .endlessTime
  | _ => .ok none

/-- The event of an operation that a payload tells. -/
def eventOf (operation : Text) (payload : Json) : Except LogError Event := do
  let timing := (payload.field? "timing").getD .null
  let totalMs ← time? "total_ms" timing
  let workerMs ← time? "worker_ms" timing
  let queueWaitMs ← time? "queue_wait_ms" timing
  pure {
    operation
    outcome := (textField? "outcome" payload).getD "unknown".toList
    errorCode := textField? "error_code" payload
    totalMs, workerMs, queueWaitMs }

/-- What an object is, if only some operations count. -/
def lineOf (counts : Text → Bool) (payload : Json) : Except LogError Line := do
  if ← isLast (payload.field? "event") then
    match textField? "operation" payload with
    | some operation =>
      if counts operation then
        let event ← eventOf operation payload
        pure (.event event)
      else pure .skipped
    | none => pure .skipped
  else pure .skipped

/-- Reads a line. -/
def readLine (counts : Text → Bool) (line : Text) : Except LogError Line :=
  let content := Text.trim line
  if content.isEmpty then .ok .skipped
  else match Json.read content with
    | .ok (.object fields) => lineOf counts (.object fields)
    | .ok _ => .ok .faulty
    | .error (.malformed _ _) => .ok .faulty
    | .error (.tooManyDigits count) => .error (.tooManyDigits count)

/-- Reads the lines of a log. -/
def readLines (counts : Text → Bool) (content : Text) : Except LogError (List Line) :=
  (Text.splitLines content).mapM (readLine counts)

end NameSlots.Logs
