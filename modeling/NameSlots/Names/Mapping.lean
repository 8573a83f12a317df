import NameSlots.Text.Basic

/-! Name mappings: what stands for a name in a text, and the name it stands for. -/

namespace NameSlots

/-- A key that stands for a value. -/
structure Mapping where
  key : Text
  value : Text
deriving DecidableEq

/-- Items with a text each, longer texts first; equally long ones keep their order. An item with an
empty text is left out. -/
def longestFirst {α : Type} (text : α → Text) (items : List α) : List α :=
  (items.filter fun item => !(text item).isEmpty).mergeSort fun a b =>
    (text b).length ≤ (text a).length

/-- Decodes a text by mappings in the order they are tried. A character that no key starts with is
dropped. -/
def decodeBy (ordered : List Mapping) : Text → List Text
  | [] => []
  | c :: rest =>
    match ordered.find? fun mapping => mapping.key.isPrefixOf (c :: rest) with
    | some mapping => mapping.value :: decodeBy ordered (rest.drop (mapping.key.length - 1))
    | none => decodeBy ordered rest
termination_by text => text.length

/-- The names in a text: at every place the longest key counts, of equally long ones the first. -/
def decode (table : List Mapping) (text : Text) : List Text :=
  decodeBy (longestFirst Mapping.key table) text

end NameSlots
