import NameSlots.Unicode.Ranges

/-! White space: the characters that trimming removes and that a blank line may hold. -/

namespace NameSlots.Unicode

/-- The white space of Unicode 14, with the four ASCII information separators. -/
def blankRanges : List (Nat × Nat) := [
  (0x9, 0xD), (0x1C, 0x20), (0x85, 0x85), (0xA0, 0xA0), (0x1680, 0x1680), (0x2000, 0x200A),
  (0x2028, 0x2029), (0x202F, 0x202F), (0x205F, 0x205F), (0x3000, 0x3000)]

/-- White space: trimmed from the ends of texts and matched by `\s`. -/
def isBlank (c : Char) : Bool := inRanges blankRanges c.toNat

/-- The six ASCII blanks. -/
def isAsciiBlank (c : Char) : Bool :=
  c == ' ' || (9 ≤ c.toNat && c.toNat ≤ 13)

example : [' ', '\t', '\n'].all isBlank = true := by decide

end NameSlots.Unicode
