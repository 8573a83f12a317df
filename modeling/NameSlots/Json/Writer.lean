import NameSlots.Json.Value
import NameSlots.Number.Shortest
import NameSlots.Text.Hex

/-!
Writing JSON text, on one line or with two blanks for every level. Fields are in the code-point
order of their names, and only what must be escaped is.
-/

namespace NameSlots.Json

/-- A character inside a string. -/
def escape (c : Char) : Text :=
  match c with
  | '"' => ['\\', '"']
  | '\\' => ['\\', '\\']
  | '\n' => ['\\', 'n']
  | '\r' => ['\\', 'r']
  | '\t' => ['\\', 't']
  | '\x08' => ['\\', 'b']
  | '\x0c' => ['\\', 'f']
  | c =>
    if c < ' ' then '\\' :: 'u' :: Text.hexDigits 4 c.toNat else [c]

/-- A string in quotes. -/
def quote (s : Text) : Text := '"' :: s.flatMap escape ++ ['"']

/-- A number that need not be finite. -/
def floatText : Double → Text
  | .nan => "NaN".toList
  | .infinite negative => if negative then "-Infinity".toList else "Infinity".toList
  | x => x.toText

/-- Fields in the order of their names. -/
def sortFields {α : Type} (fields : List (Text × α)) : List (Text × α) :=
  fields.mergeSort fun a b => Text.le a.1 b.1

/-- How lists are laid out. -/
structure Layout where
  /-- What stands before an item of the list at a level. -/
  lead : Nat → Text
  afterColon : Text

/-- All on one line, without blanks. -/
def Layout.compact : Layout where
  lead := fun _ => []
  afterColon := []

/-- An item a line, with two blanks for every level. -/
def Layout.indented : Layout where
  lead := fun level => '\n' :: List.replicate (2 * level) ' '
  afterColon := [' ']

/-- Items between brackets at a level. -/
def enclose (layout : Layout) (level : Nat) (first last : Char) (items : List Text) : Text :=
  if items.isEmpty then [first, last]
  else first :: layout.lead (level + 1) ++
    Text.join (',' :: layout.lead (level + 1)) items ++ layout.lead level ++ [last]

mutual

/-- The text of a value at a level. -/
def write (layout : Layout) (level : Nat) : Json → Text
  | .null => "null".toList
  | .bool true => "true".toList
  | .bool false => "false".toList
  | .int n => Text.ofInt n
  | .float x => floatText x
  | .string s => quote s
  | .array items => enclose layout level '[' ']' (writeItems layout (level + 1) items)
  | .object fields =>
    enclose layout level '\x7b' '\x7d'
      ((sortFields (writeFields layout (level + 1) fields)).map fun (name, value) =>
        quote name ++ ':' :: layout.afterColon ++ value)

def writeItems (layout : Layout) (level : Nat) : List Json → List Text
  | [] => []
  | item :: rest => write layout level item :: writeItems layout level rest

def writeFields (layout : Layout) (level : Nat) : List (Text × Json) → List (Text × Text)
  | [] => []
  | (name, value) :: rest => (name, write layout level value) :: writeFields layout level rest

end

/-- The value on one line. -/
def compact (value : Json) : Text := value.write .compact 0

/-- The value with an item a line. -/
def pretty (value : Json) : Text := value.write .indented 0

end NameSlots.Json
