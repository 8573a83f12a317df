import NameSlots.Json.Writer
import NameSlots.Logs.Summary
import NameSlots.Report.Human

/-! The summary of logs as a table. -/

namespace NameSlots.Logs

/-- What stands for a value that is not known. -/
def unknown : Text := ['-']

/-- A rate in percent. -/
def rateText (rate : Double) : Text := (rate.mul (Double.ofInt 100)).fixedText 1 ++ ['%']

/-- The columns of a row. -/
def row (name requests rate p50 p95 : Text) : Text :=
  Text.padRight 10 name ++ ' ' :: Text.padLeft 8 requests ++ ' ' :: Text.padLeft 10 rate ++
    ' ' :: Text.padLeft 7 p50 ++ ' ' :: Text.padLeft 7 p95

def header : Text :=
  row "operation".toList "requests".toList "match_rate".toList "p50_ms".toList "p95_ms".toList

/-- The lines of an operation. -/
def operationLines (name : Text) (stats : Stats) : List Text :=
  let time (ms : Option Int) : Text := (ms.map Text.ofInt).getD unknown
  let errors := if stats.errorCodes.isEmpty then []
    else [Text.padRight 10 [] ++ " errors: ".toList ++ Report.counts stats.errorCodes]
  row name (Text.ofNat stats.requests) ((stats.matchRate.map rateText).getD unknown)
    (time stats.totalMsP50) (time stats.totalMsP95) :: errors

/-- The summary as a table. -/
def Summary.text (summary : Summary) : Text :=
  let totals := "files=".toList ++ Text.ofNat summary.files.length ++ " parse_errors=".toList ++
    Text.ofNat summary.faultyLines ++ " unreadable_files=".toList ++
    Text.ofNat summary.unreadableFiles ++ " busy_rejections=".toList ++
    Text.ofNat summary.busyRejections
  let table := if summary.operations.isEmpty then ["no terminal events found".toList]
    else header :: summary.operations.flatMap fun (name, stats) => operationLines name stats
  Report.lines ("namekey operation summary".toList :: totals :: table)

end NameSlots.Logs
