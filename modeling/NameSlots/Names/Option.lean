import NameSlots.Names.Mapping
import NameSlots.Text.Quoted

/-! Mappings written with an equals sign. -/

namespace NameSlots

/-- Why a text is no mapping: it has no equals sign, or nothing before it. -/
structure MappingError where
  text : Text
deriving DecidableEq

def MappingError.message (e : MappingError) : Text :=
  "Invalid --map entry (expected key=value): ".toList ++ Text.quoted e.text

namespace Mapping

/-- Reads a mapping: the key ends at the first equals sign. -/
def ofText (t : Text) : Except MappingError Mapping :=
  match Text.splitFirst '=' t with
  | (c :: key, some value) => .ok ⟨c :: key, value⟩
  | _ => .error ⟨t⟩

/-- Reads mappings in order. -/
def ofTexts? (all : List Text) : Except MappingError (List Mapping) := all.mapM ofText

end Mapping

end NameSlots
