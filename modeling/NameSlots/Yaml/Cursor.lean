import NameSlots.Yaml.Fault

/-! A place in a text, with its line and column. -/

namespace NameSlots.Yaml

/-- What is left of a text, and where that is. -/
structure Cursor where
  rest : Text
  index : Nat := 0
  line : Nat := 0
  column : Nat := 0

/-- What is read at the end of a text. -/
def endMark : Char := '\x00'

def nextLine : Char := Char.ofNat 0x85

def lineSeparator : Char := Char.ofNat 0x2028

def paragraphSeparator : Char := Char.ofNat 0x2029

/-- Whether a character ends a line. -/
def isBreak (c : Char) : Bool :=
  c == '\n' || c == '\r' || c == nextLine || c == lineSeparator || c == paragraphSeparator

/-- Whether a line ends at a character, or the text does. -/
def isLineEnd (c : Char) : Bool := c == endMark || isBreak c

/-- Whether a character is a space, or a line or the text ends at it. -/
def isSpaceOrEnd (c : Char) : Bool := c == ' ' || isLineEnd c

/-- Whether a character is a space or a tab, or a line or the text ends at it. -/
def isGap (c : Char) : Bool := c == '\t' || isSpaceOrEnd c

/-- Whether a character may stand in a name of an anchor or a tag handle. -/
def isNameChar (c : Char) : Bool := c.isAlphanum || c == '-' || c == '_'

namespace Cursor

def peek (cursor : Cursor) : Char := cursor.rest.headD endMark

/-- The character some places further on. -/
def peekAt (cursor : Cursor) (n : Nat) : Char := cursor.rest.getD n endMark

/-- The place after the next character. -/
def next (cursor : Cursor) : Cursor :=
  match cursor.rest with
  | [] => cursor
  | c :: rest =>
    if c == '\n' || c == nextLine || c == lineSeparator || c == paragraphSeparator ||
        (c == '\r' && rest.head? != some '\n') then
      { rest, index := cursor.index + 1, line := cursor.line + 1, column := 0 }
    else if c == Char.ofNat 0xFEFF then
      { cursor with rest, index := cursor.index + 1 }
    else { cursor with rest, index := cursor.index + 1, column := cursor.column + 1 }

/-- The place some characters further on. -/
def advance (cursor : Cursor) : Nat → Cursor
  | 0 => cursor
  | n + 1 => cursor.next.advance n

/-- The characters of a kind, and the place after them. -/
def takeWhile (cursor : Cursor) (accept : Char → Bool) : Text × Cursor :=
  let taken := cursor.rest.takeWhile accept
  (taken, cursor.advance taken.length)

/-- The place after the characters of a kind. -/
def skipWhile (cursor : Cursor) (accept : Char → Bool) : Cursor := (cursor.takeWhile accept).2

/-- A line end as it counts in text, and the place after it; nothing where there is none. -/
def takeBreak (cursor : Cursor) : Text × Cursor :=
  match cursor.rest with
  | '\r' :: '\n' :: _ => (['\n'], cursor.advance 2)
  | c :: _ =>
    if c == '\r' || c == '\n' || c == nextLine then (['\n'], cursor.next)
    else if c == lineSeparator || c == paragraphSeparator then ([c], cursor.next)
    else ([], cursor)
  | [] => ([], cursor)

/-- Whether a line of three hyphens or three points starts here. -/
def atMark (cursor : Cursor) (mark : Char) : Bool :=
  cursor.rest.take 3 == List.replicate 3 mark && isGap (cursor.peekAt 3)

/-- Whether a document ends or starts here, if this is the start of a line. -/
def atSeparator (cursor : Cursor) : Bool := cursor.atMark '-' || cursor.atMark '.'

/-- The place after a comment. -/
def skipComment (cursor : Cursor) : Cursor :=
  if cursor.peek == '#' then cursor.skipWhile (!isBreak ·) else cursor

/-- The place at the next line, if only blanks and a comment come before it. -/
def skipLine? (cursor : Cursor) : Option Cursor :=
  let cursor := (cursor.skipWhile (· == ' ')).skipComment
  if isLineEnd cursor.peek then some cursor.takeBreak.2 else none

end Cursor

end NameSlots.Yaml
