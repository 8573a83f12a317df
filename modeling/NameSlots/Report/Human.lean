import NameSlots.Key.Match
import NameSlots.Rules.Summary
import NameSlots.Text.Quoted

/-! Results as lines for a reader. -/

namespace NameSlots.Report

/-- Lines with a line feed between them. -/
def lines (all : List Text) : Text := Text.join ['\n'] all

/-- What stands for a value that is not there. -/
def absent : Text := "None".toList

/-- The line of a segment. -/
def segmentLine (index : Nat) (segment : Key.Segment) : Text :=
  let detail := match segment with
    | .regex body flags =>
      " body=".toList ++ Text.quoted body ++ " flags=".toList ++ Text.quoted flags
    | _ => []
  '[' :: Text.ofNat index ++ "] ".toList ++ segment.kindText ++
    ' ' :: Text.quoted segment.content ++ detail

/-- A key with its segments. -/
def segments (key : Text) (all : List Key.Segment) : Text :=
  let note := if all.any (·.isSlot) then []
    else ["note: no name slot, this key never matches".toList]
  lines (["key: ".toList ++ Text.quoted key, "segments: ".toList ++ Text.ofNat all.length] ++
    all.mapIdx segmentLine ++ note)

/-- Whether an input matched, with the names and the output if there is one. -/
def matching (matched : Bool) (names : List Text) (output : Option Text) : Text :=
  let result := if matched then "result=MATCHED".toList else "result=NO_MATCH".toList
  let found := if matched then ["names: ".toList ++ Text.join ", ".toList names] else []
  let expanded := match output with
    | some output => ["output: ".toList ++ output]
    | none => []
  lines (result :: found ++ expanded)

/-- The line of an outcome. -/
def outcomeLine (outcome : Outcome) : Text :=
  if outcome.matched then
    outcome.input ++ " -> ".toList ++ outcome.output.getD absent ++ " (rule ".toList ++
      (outcome.ruleIndex.map Text.ofInt).getD absent ++ ")".toList
  else outcome.input ++ " -> NO_MATCH".toList

/-- Keys with their counts. -/
def counts (all : List (Text × Int)) : Text :=
  Text.join ", ".toList (all.map fun (key, count) => key ++ '=' :: Text.ofInt count)

/-- How many of the rule keys with most hits are shown. -/
def shownHits : Nat := 5

/-- Most hits first, equal counts in code-point order of their keys. -/
def byHits (hits : List (Text × Int)) : List (Text × Int) :=
  hits.mergeSort fun a b => b.2 < a.2 || (a.2 == b.2 && Text.le a.1 b.1)

/-- Outcomes, one a line, and their summary. -/
def outcomes (all : List Outcome) (summary : Summary) : Text :=
  let totals := "summary: total=".toList ++ Text.ofInt summary.total ++ " matched=".toList ++
    Text.ofInt summary.matchedCount ++ " unmatched=".toList ++ Text.ofInt summary.unmatchedCount
  let hits := if summary.ruleHits.isEmpty then []
    else ["rule_hits: ".toList ++ counts ((byHits summary.ruleHits).take shownHits)]
  lines (all.map outcomeLine ++ totals :: hits)

end NameSlots.Report
