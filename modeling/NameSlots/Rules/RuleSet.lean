import NameSlots.Key.Match

/-! Rules: keys with templates, in the order in which they are tried. -/

namespace NameSlots

/-- A key with the template it expands to. -/
structure Rule where
  key : Text
  value : Text
  note : Option Text := none
deriving DecidableEq

/-- Rules with the mappings that their slots decode by. -/
structure RuleSet where
  version : Int := 1
  slotMode : SlotMode := .all
  mappings : List Mapping := []
  rules : List Rule := []
deriving DecidableEq

end NameSlots
