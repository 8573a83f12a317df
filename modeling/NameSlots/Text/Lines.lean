import NameSlots.Text.Basic
import NameSlots.Unicode.Blank

/-! Lines of a text. -/

namespace NameSlots.Text

/-- The text with every line end of a file as a line feed. -/
def unifyLineEnds : Text → Text
  | [] => []
  | '\r' :: '\n' :: rest => '\n' :: unifyLineEnds rest
  | '\r' :: rest => '\n' :: unifyLineEnds rest
  | c :: rest => c :: unifyLineEnds rest

/-- Whether a character ends a line. -/
def isLineBreak (c : Char) : Bool :=
  c ∈ ['\n', '\r', '\x0b', '\x0c', '\x1c', '\x1d', '\x1e', Char.ofNat 0x85, Char.ofNat 0x2028,
    Char.ofNat 0x2029]

/-- The lines of a text, of which `line` has been read of the first one, the latest character first.
A carriage return and a line feed end one line together. -/
def splitFrom (line : Text) : Text → List Text
  | [] => if line.isEmpty then [] else [line.reverse]
  | '\r' :: '\n' :: rest => line.reverse :: splitFrom [] rest
  | c :: rest =>
    if isLineBreak c then line.reverse :: splitFrom [] rest else splitFrom (c :: line) rest

/-- The lines of a text without what ends them. -/
def splitLines (t : Text) : List Text := splitFrom [] t

/-- The text without blanks at its ends. -/
def trim (t : Text) : Text := trimWhere Unicode.isBlank t

/-- The lines of a file that are not blank. -/
def inputLines (content : Text) : List Text :=
  (splitLines (unifyLineEnds content)).filter fun line => !line.all Unicode.isBlank

end NameSlots.Text
