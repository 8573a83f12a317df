import NameSlots.Json.Value
import NameSlots.Number.Shortest
import NameSlots.Text.Quoted

/-! Data as messages show it: a text as it is, but quoted inside a list or a table. -/

namespace NameSlots.Json

mutual

/-- A value inside a list or a table. -/
def quotedText : Json → Text
  | .null => "None".toList
  | .bool true => "True".toList
  | .bool false => "False".toList
  | .int n => Text.ofInt n
  | .float x => x.toText
  | .string t => Text.quoted t
  | .array items => '[' :: Text.join ", ".toList (quotedItems items) ++ [']']
  | .object fields => '\x7b' :: Text.join ", ".toList (quotedFields fields) ++ ['\x7d']

def quotedItems : List Json → List Text
  | [] => []
  | item :: rest => quotedText item :: quotedItems rest

def quotedFields : List (Text × Json) → List Text
  | [] => []
  | (name, value) :: rest =>
    (Text.quoted name ++ ": ".toList ++ quotedText value) :: quotedFields rest

end

/-- A value as a message shows it. -/
def shown : Json → Text
  | .string t => t
  | value => quotedText value

end NameSlots.Json
