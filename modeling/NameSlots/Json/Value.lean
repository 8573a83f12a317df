import NameSlots.Number.Double
import NameSlots.Table
import NameSlots.Text.Basic

/-! JSON values. The fields of an object keep their order. -/

namespace NameSlots

/-- A JSON value. -/
inductive Json where
  | null
  | bool (value : Bool)
  | int (value : Int)
  | float (value : Double)
  | string (value : Text)
  | array (items : List Json)
  | object (fields : List (Text × Json))
deriving BEq

namespace Json

/-- A text written in the program. -/
def text (s : String) : Json := .string s.toList

/-- An object with fields in the given order. -/
def record (fields : List (String × Json)) : Json :=
  .object (fields.map fun (name, value) => (name.toList, value))

def ofNat (n : Nat) : Json := .int n

/-- A list of texts. -/
def texts (items : List Text) : Json := .array (items.map .string)

/-- A value, or null where there is none. -/
def ofOption {α : Type} (encode : α → Json) : Option α → Json
  | some value => encode value
  | none => .null

/-- The field of an object. -/
def field? (name : String) : Json → Option Json
  | .object fields => fields.lookup name.toList
  | _ => none

/-- The items of a list, the names of a table, or the characters of a text. -/
def parts? : Json → Option (List Json)
  | .array items => some items
  | .object fields => some (fields.map fun (name, _) => .string name)
  | .string t => some (t.map fun c => .string [c])
  | _ => none

mutual

/-- Whether all numbers in a value are finite. -/
def isFinite : Json → Bool
  | .float x => x.units?.isSome
  | .array items => itemsFinite items
  | .object fields => fieldsFinite fields
  | _ => true

def itemsFinite : List Json → Bool
  | [] => true
  | item :: rest => isFinite item && itemsFinite rest

def fieldsFinite : List (Text × Json) → Bool
  | [] => true
  | (_, value) :: rest => isFinite value && fieldsFinite rest

end

end Json

end NameSlots
