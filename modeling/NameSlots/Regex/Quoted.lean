import NameSlots.Text.Basic

/-! Text as a pattern that matches just this text. -/

namespace NameSlots.Regex

/-- The characters that mean something in a pattern. -/
def special : Text := "\t\n\x0b\x0c\r #$&()*+-.?[\\]^\x7b|\x7d~".toList

/-- A character as a pattern. -/
def quoteChar (c : Char) : Text := if c ∈ special then ['\\', c] else [c]

/-- A text as a pattern. -/
def quote (text : Text) : Text := text.flatMap quoteChar

end NameSlots.Regex
