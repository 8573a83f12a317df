import NameSlots.Text.Basic

/-! What commands give back. -/

namespace NameSlots

/-- An exit code with what is printed. -/
structure Printed where
  exit : Nat
  output : Text

namespace Printed

/-- What is given back when the arguments make no sense. -/
def usage : Printed := ⟨2, []⟩

/-- A text that is printed with a line feed after it. -/
def text (exit : Nat) (t : Text) : Printed := ⟨exit, t ++ ['\n']⟩

/-- Lines, each with a line feed after it. -/
def lines (all : List Text) : Printed := ⟨0, all.flatMap (· ++ ['\n'])⟩

/-- A message about why there is no result. -/
def error (message : Text) : Printed := text 1 ("ERROR: ".toList ++ message)

end Printed

end NameSlots
