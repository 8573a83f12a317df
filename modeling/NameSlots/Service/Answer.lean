import NameSlots.Key.Data
import NameSlots.Rules.Data

/-! What the service does, and what comes of it. -/

namespace NameSlots.Service

/-- What the service can be asked for. -/
inductive Operation where
  | parse
  | matching
  | expand
  | resolve
deriving DecidableEq

namespace Operation

def name : Operation → Text
  | .parse => "parse".toList
  | .matching => "match".toList
  | .expand => "expand".toList
  | .resolve => "resolve".toList

/-- Where an operation is asked for. -/
def path (operation : Operation) : Text := "/v1/".toList ++ operation.name

def all : List Operation := [.parse, .matching, .expand, .resolve]

/-- The operation of a name. -/
def ofName? (name : Text) : Option Operation := all.find? fun operation => operation.name == name

end Operation

/-- The result of an operation. -/
inductive Answer where
  | segments (all : List Key.Segment)
  | matching (result : MatchResult) (output : Option Text)
  | expansion (text : Text)
  | resolution (outcomes : List Outcome) (summary : Summary)

/-- What a result says of matching. -/
inductive Label where
  | matched
  | noMatch
  | ok
deriving DecidableEq

def Label.text : Label → Text
  | .matched => "matched".toList
  | .noMatch => "no_match".toList
  | .ok => "ok".toList

namespace Answer

def toJson : Answer → Json
  | .segments all =>
    .record [("segments", .array (all.map Key.Segment.toJson)),
      ("has_name_slot", .bool (all.any (·.isSlot)))]
  | .matching result output =>
    .record [("matched", .bool result.isMatched), ("matched_names", .texts result.names),
      ("output", .ofOption .string output)]
  | .expansion text => .record [("output", .string text)]
  | .resolution outcomes summary => resolutionJson outcomes summary

def label : Answer → Label
  | .matching result _ => if result.isMatched then .matched else .noMatch
  | .resolution _ summary => if summary.matchedCount = 0 then .noMatch else .matched
  | _ => .ok

end Answer

end NameSlots.Service
