import NameSlots.Json.Value

/-! What a check finds wrong with data, and where. -/

namespace NameSlots

/-- A step from data into a part of it. -/
inductive Step where
  | name (name : Text)
  | index (index : Nat)
deriving BEq, DecidableEq

/-- What is wrong with a part of data. -/
inductive Flaw where
  | missing
  | extra
  | notText
  | textTooShort
  | notRecord (record : Text)
  | notWhole
  | unreadableWhole
  | fraction
  | wholeTooLarge
  | notFinite
  | notFlag
  | unreadableFlag
  | notList
  | listTooShort
  | notTable
  /-- The data is none of the choices, which stand in the text. -/
  | notChoice (choices : Text)
deriving DecidableEq

namespace Flaw

/-- The name of the kind of flaw. -/
def kind : Flaw → String
  | .missing => "missing"
  | .extra => "extra_forbidden"
  | .notText => "string_type"
  | .textTooShort => "string_too_short"
  | .notRecord _ => "model_type"
  | .notWhole => "int_type"
  | .unreadableWhole => "int_parsing"
  | .fraction => "int_from_float"
  | .wholeTooLarge => "int_parsing_size"
  | .notFinite => "finite_number"
  | .notFlag => "bool_type"
  | .unreadableFlag => "bool_parsing"
  | .notList => "list_type"
  | .listTooShort => "too_short"
  | .notTable => "dict_type"
  | .notChoice _ => "literal_error"

def message : Flaw → Text
  | .missing => "Field required".toList
  | .extra => "Extra inputs are not permitted".toList
  | .notText => "Input should be a valid string".toList
  | .textTooShort => "String should have at least 1 character".toList
  | .notRecord record =>
    "Input should be a valid dictionary or instance of ".toList ++ record
  | .notWhole => "Input should be a valid integer".toList
  | .unreadableWhole =>
    "Input should be a valid integer, unable to parse string as an integer".toList
  | .fraction => "Input should be a valid integer, got a number with a fractional part".toList
  | .wholeTooLarge => "Unable to parse input string as an integer, exceeded maximum size".toList
  | .notFinite => "Input should be a finite number".toList
  | .notFlag => "Input should be a valid boolean".toList
  | .unreadableFlag => "Input should be a valid boolean, unable to interpret input".toList
  | .notList => "Input should be a valid list".toList
  | .listTooShort => "List should have at least 1 item after validation, not 0".toList
  | .notTable => "Input should be a valid dictionary".toList
  | .notChoice choices => "Input should be ".toList ++ choices

/-- What the flaw depends on. -/
def context? : Flaw → Option Json
  | .textTooShort => some (.record [("min_length", .int 1)])
  | .notRecord record => some (.record [("class_name", .string record)])
  | .listTooShort =>
    some (.record [("actual_length", .int 0), ("field_type", .text "List"), ("min_length", .int 1)])
  | .notChoice choices => some (.record [("expected", .string choices)])
  | _ => none

end Flaw

/-- A flaw in a part of data. -/
structure Issue where
  flaw : Flaw
  place : List Step
  input : Json

namespace Issue

/-- The issue in data of which its own is a part. -/
def under (step : Step) (issue : Issue) : Issue := { issue with place := step :: issue.place }

def stepJson : Step → Json
  | .name name => .string name
  | .index index => .ofNat index

def toJson (issue : Issue) : Json :=
  let context := match issue.flaw.context? with
    | some context => [("ctx", context)]
    | none => []
  .record ([("type", .text issue.flaw.kind), ("loc", .array (issue.place.map stepJson)),
    ("msg", .string issue.flaw.message), ("input", issue.input)] ++ context)

end Issue

end NameSlots
