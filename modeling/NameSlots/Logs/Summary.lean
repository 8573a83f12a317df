import NameSlots.Logs.Event
import NameSlots.Number.Arithmetic
import NameSlots.Rules.Summary

/-! Match rates and times by operation, over the last events of requests. -/

namespace NameSlots.Logs

/-- The value at a percentile of an ordered list: the rank is rounded up, and the list's ends bound
it. None of an empty list, or if the percentile is no finite number. -/
def percentile? (p : Double) (values : List Int) : Option Int := do
  let share := (p.div (Double.ofInt 100)).mul (Double.ofInt values.length)
  let rank := (← share.ceil?) - 1
  let ordered := values.mergeSort (· ≤ ·)
  ordered[(min (values.length - 1 : Int) (max 0 rank)).toNat]?

/-- The places of a match rate. -/
def ratePlaces : Nat := 4

/-- What is known about the requests of an operation. -/
structure Stats where
  requests : Nat
  outcomes : List (Text × Int)
  matchRate : Option Double
  errorCodes : List (Text × Int)
  totalMsP50 : Option Int
  totalMsP95 : Option Int
  workerMsP95 : Option Int
  queueWaitMsP95 : Option Int

/-- The share of matches among requests that match or do not. -/
def matchRate? (outcomes : List Text) : Option Double :=
  let matched := outcomes.count "matched".toList
  let decided := matched + outcomes.count "no_match".toList
  if decided = 0 then none
  else some ((Double.ofRatio false matched decided).roundTo ratePlaces)

/-- The percentile of the times that are known. -/
def timePercentile? (p : Int) (time? : Event → Option Int) (events : List Event) : Option Int :=
  percentile? (Double.ofInt p) (events.filterMap time?)

/-- The statistics of events. -/
def Stats.ofEvents (events : List Event) : Stats where
  requests := events.length
  outcomes := tally (events.map (·.outcome))
  matchRate := matchRate? (events.map (·.outcome))
  errorCodes := tally (events.filterMap (·.errorCode))
  totalMsP50 := timePercentile? 50 (·.totalMs) events
  totalMsP95 := timePercentile? 95 (·.totalMs) events
  workerMsP95 := timePercentile? 95 (·.workerMs) events
  queueWaitMsP95 := timePercentile? 95 (·.queueWaitMs) events

/-- What logs tell. -/
structure Summary where
  files : List Text
  faultyLines : Nat
  unreadableFiles : Nat
  busyRejections : Nat
  operations : List (Text × Stats)

/-- The lines of a file; none if it cannot be read. -/
def fileLines? (counts : Text → Bool) (files : Files) (path : Path) :
    Except LogError (Option (List Line)) :=
  match files.readText path with
  | .ok content => do
    let lines ← readLines counts content
    pure (some lines)
  | .error (.undecodable fault) => .error (.undecodable fault)
  | .error _ => .ok none

def Line.event? : Line → Option Event
  | .event found => some found
  | _ => none

/-- The summary of the lines of files. -/
def Summary.ofLines (files : List Text) (found : List (Option (List Line))) : Summary :=
  let lines := (found.filterMap id).flatten
  let events := lines.filterMap (·.event?)
  let operations := (events.map (·.operation)).eraseDups.mergeSort Text.le
  { files
    faultyLines := lines.count .faulty
    unreadableFiles := found.count none
    busyRejections := events.countP (·.errorCode == some busyCode)
    operations := operations.map fun operation =>
      (operation, Stats.ofEvents (events.filter (·.operation == operation))) }

/-- Whether an operation counts; all do where none are named. -/
def isAmong (operations : Option (List Text)) (operation : Text) : Bool :=
  operations.all fun named => operation ∈ named

/-- Summarizes log files. -/
def summarize (files : Files) (paths : List Path) (operations : Option (List Text)) :
    Except LogError Summary := do
  let found ← paths.mapM (fileLines? (isAmong operations) files)
  pure (Summary.ofLines (paths.map (·.text)) found)

/-! ## Output -/

def countsJson (counts : List (Text × Int)) : Json :=
  .object (counts.map fun (name, count) => (name, .int count))

def Stats.toJson (stats : Stats) : Json :=
  .record [("requests", .ofNat stats.requests), ("outcomes", countsJson stats.outcomes),
    ("match_rate", .ofOption .float stats.matchRate), ("error_codes", countsJson stats.errorCodes),
    ("total_ms_p50", .ofOption .int stats.totalMsP50),
    ("total_ms_p95", .ofOption .int stats.totalMsP95),
    ("worker_ms_p95", .ofOption .int stats.workerMsP95),
    ("queue_wait_ms_p95", .ofOption .int stats.queueWaitMsP95)]

def Summary.toJson (summary : Summary) : Json :=
  .record [("files", .texts summary.files), ("parse_errors", .ofNat summary.faultyLines),
    ("unreadable_files", .ofNat summary.unreadableFiles),
    ("busy_rejections", .ofNat summary.busyRejections),
    ("operations",
      .object (summary.operations.map fun (name, stats) => (name, stats.toJson)))]

end NameSlots.Logs
