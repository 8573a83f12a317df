import NameSlots.Text.Hex
import NameSlots.Unicode.Printable

/-!
Text in quotes: single ones, or double ones if the text holds a single quote and no double one. What
is not printable is escaped.
-/

namespace NameSlots.Text

/-- A character between quotes of a kind. -/
def quoteChar (mark c : Char) : Text :=
  if c = '\\' || c = mark then ['\\', c]
  else if c = '\n' then ['\\', 'n']
  else if c = '\r' then ['\\', 'r']
  else if c = '\t' then ['\\', 't']
  else if Unicode.isPrintable c then [c]
  else if c.toNat < 256 then '\\' :: 'x' :: hexDigits 2 c.toNat
  else if c.toNat < 65536 then '\\' :: 'u' :: hexDigits 4 c.toNat
  else '\\' :: 'U' :: hexDigits 8 c.toNat

/-- The text in quotes. -/
def quoted (t : Text) : Text :=
  let mark := if '\'' ∈ t ∧ '"' ∉ t then '"' else '\''
  mark :: t.flatMap (quoteChar mark) ++ [mark]

end NameSlots.Text
