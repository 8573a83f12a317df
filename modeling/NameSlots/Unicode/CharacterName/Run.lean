import NameSlots.Text.Basic

/-! Names of characters with consecutive codes. -/

namespace NameSlots.Unicode

/-- The names of characters from a code on, in rows with semicolons between them. An empty name is
that of no character. -/
structure NameRun where
  first : Nat
  rows : List String

/-- The code of a name. -/
def NameRun.code? (run : NameRun) (name : Text) : Option Nat :=
  ((run.rows.flatMap fun row => Text.splitAll ';' row.toList).idxOf? name).map (run.first + ·)

end NameSlots.Unicode
