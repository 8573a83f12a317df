import NameSlots.Text.Basic
import NameSlots.Unicode.Case

/-! Texts in lower case. -/

namespace NameSlots.Text

/-- The capital I with a dot, whose lower case has two characters. -/
def dottedCapital : Char := Char.ofNat 0x130

/-- The dot above the letter before it. -/
def dotAbove : Char := Char.ofNat 0x307

/-- The text in lower case, character by character. -/
def lower (t : Text) : Text :=
  t.flatMap fun c =>
    if c = dottedCapital then ['i', dotAbove] else [Char.ofNat (Unicode.lower c.toNat)]

end NameSlots.Text
