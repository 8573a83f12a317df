import NameSlots.Text.Hex
import NameSlots.Yaml.Cursor

/-! Scalars as they are written: plain, in quotes, and as a block of lines. -/

namespace NameSlots.Yaml

def malformed {α : Type} (what : Malformed) : Except Fault α := .error (.malformed what)

/-! ## Plain scalars -/

/-- What follows a piece of a plain scalar. -/
structure PlainGap where
  /-- What the gap stands for; none where the scalar must end. -/
  text : Option Text
  /-- A line ends in the gap. -/
  broken : Bool
  cursor : Cursor

/-- The line ends and spaces at the start of lines, and whether a document ends there. -/
def plainBreaks : (fuel : Nat) → Cursor → Text × Bool × Cursor
  | 0, cursor => ([], false, cursor)
  | fuel + 1, cursor =>
    if cursor.peek == ' ' then plainBreaks fuel cursor.next
    else if isBreak cursor.peek then
      let (found, after) := cursor.takeBreak
      if after.atSeparator then (found, true, after)
      else
        let (breaks, ended, after) := plainBreaks fuel after
        (found ++ breaks, ended, after)
    else ([], false, cursor)

/-- A line end and those after it: a single line feed is a space, and of several the first one does
not count. -/
def foldBreaks (first breaks : Text) : Text :=
  if first != ['\n'] then first ++ breaks else if breaks.isEmpty then [' '] else breaks

/-- The gap at a place in a plain scalar. -/
def plainGap (cursor : Cursor) : PlainGap :=
  let (spaces, cursor) := cursor.takeWhile (· == ' ')
  if isBreak cursor.peek then
    let (first, cursor) := cursor.takeBreak
    if cursor.atSeparator then ⟨none, true, cursor⟩
    else
      let (breaks, ended, cursor) := plainBreaks (cursor.rest.length + 1) cursor
      ⟨if ended then none else some (foldBreaks first breaks), true, cursor⟩
  else ⟨if spaces.isEmpty then none else some spaces, false, cursor⟩

/-- Whether a plain scalar ends before a character, given the one after it. -/
def endsPlain (inFlow : Bool) (c after : Char) : Bool :=
  isGap c || (c == ':' && (isGap after || (inFlow && after ∈ [',', '[', ']', '\x7b', '\x7d']))) ||
    (inFlow && c ∈ [',', '?', '[', ']', '\x7b', '\x7d'])

/-- The piece of a plain scalar up to a gap. -/
def plainPiece (inFlow : Bool) : Text → Text
  | [] => []
  | c :: rest => if endsPlain inFlow c (rest.headD endMark) then [] else c :: plainPiece inFlow rest

/-- A plain scalar after a gap that stands for a text, and whether a line has ended in the gap after
its last piece. -/
def plainFrom (inFlow : Bool) (indent : Nat) :
    (fuel : Nat) → (gap : Text) → (broken : Bool) → Cursor → Text × Bool × Cursor
  | 0, _, broken, cursor => ([], broken, cursor)
  | fuel + 1, gap, broken, cursor =>
    let piece := plainPiece inFlow cursor.rest
    if cursor.peek == '#' || piece.isEmpty then ([], broken, cursor)
    else
      let found := plainGap (cursor.advance piece.length)
      match found.text with
      | none => (gap ++ piece, found.broken, found.cursor)
      | some text =>
        if found.cursor.peek == '#' || (!inFlow && found.cursor.column < indent) then
          (gap ++ piece, found.broken, found.cursor)
        else
          let (more, broken, after) := plainFrom inFlow indent fuel text found.broken found.cursor
          (gap ++ piece ++ more, broken, after)

/-- A plain scalar, and whether a line has ended in the gap after it. -/
def readPlain (inFlow : Bool) (indent : Nat) (cursor : Cursor) : Text × Bool × Cursor :=
  plainFrom inFlow indent (cursor.rest.length + 1) [] false cursor

/-! ## Quoted scalars -/

/-- The character that one after a backslash stands for. -/
def escaped? : Char → Option Char
  | '0' => some '\x00'
  | 'a' => some '\x07'
  | 'b' => some '\x08'
  | 't' | '\t' => some '\t'
  | 'n' => some '\n'
  | 'v' => some '\x0b'
  | 'f' => some '\x0c'
  | 'r' => some '\r'
  | 'e' => some '\x1b'
  | ' ' => some ' '
  | '"' => some '"'
  | '\\' => some '\\'
  | '/' => some '/'
  | 'N' => some nextLine
  | '_' => some (Char.ofNat 0xA0)
  | 'L' => some lineSeparator
  | 'P' => some paragraphSeparator
  | _ => none

/-- The number of hexadecimal digits after a letter that follows a backslash. -/
def codeLength? : Char → Option Nat
  | 'x' => some 2
  | 'u' => some 4
  | 'U' => some 8
  | _ => none

/-- The character of a code. -/
def codeChar (code : Nat) : Except Fault Char :=
  if 0x80000000 ≤ code then .error .codeOverflow
  else if 0x10FFFF < code then .error .codeTooLarge
  else .ok (Char.ofNat code)

/-- The line ends and blanks at the start of lines inside quotes. -/
def quotedBreaks : (fuel : Nat) → Cursor → Except Fault (Text × Cursor)
  | 0, cursor => .ok ([], cursor)
  | fuel + 1, cursor =>
    if cursor.atSeparator then malformed .quotedScalar
    else
      let cursor := cursor.skipWhile fun c => c == ' ' || c == '\t'
      if isBreak cursor.peek then do
        let (found, cursor) := cursor.takeBreak
        let (more, cursor) ← quotedBreaks fuel cursor
        pure (found ++ more, cursor)
      else .ok ([], cursor)

/-- What stands after a backslash in double quotes. -/
def readEscape (cursor : Cursor) : Except Fault (Text × Cursor) :=
  match escaped? cursor.peek, codeLength? cursor.peek with
  | some c, _ =>
    if cursor.rest.isEmpty then malformed .quotedScalar else .ok ([c], cursor.next)
  | none, some length => do
    let digits := cursor.next.rest.take length
    if digits.length < length || !digits.all Text.isHex then malformed .quotedScalar
    else
      let c ← codeChar (Text.numeral 16 digits)
      pure ([c], cursor.next.advance length)
  | none, none =>
    if isBreak cursor.peek then
      quotedBreaks (cursor.rest.length + 1) cursor.takeBreak.2
    else malformed .quotedScalar

/-- The blanks at a place inside quotes and what they stand for. -/
def quotedGap (cursor : Cursor) : Except Fault (Text × Cursor) :=
  let (blanks, cursor) := cursor.takeWhile fun c => c == ' ' || c == '\t'
  if cursor.rest.isEmpty then malformed .quotedScalar
  else if isBreak cursor.peek then do
    let (first, cursor) := cursor.takeBreak
    let (breaks, cursor) ← quotedBreaks (cursor.rest.length + 1) cursor
    pure (foldBreaks first breaks, cursor)
  else .ok (blanks, cursor)

/-- A scalar in quotes of a kind, up to the closing one. -/
def readQuoted (double : Bool) : (fuel : Nat) → Cursor → Except Fault (Text × Cursor)
  | 0, _ => malformed .quotedScalar
  | fuel + 1, cursor => do
    let c := cursor.peek
    let mark := if double then '"' else '\''
    if isGap c then
      let (gap, cursor) ← quotedGap cursor
      let (more, cursor) ← readQuoted double fuel cursor
      pure (gap ++ more, cursor)
    else if c == mark then
      if !double && cursor.peekAt 1 == mark then
        let (more, cursor) ← readQuoted double fuel (cursor.advance 2)
        pure (mark :: more, cursor)
      else pure ([], cursor.next)
    else if double && c == '\\' then
      let (text, cursor) ← readEscape cursor.next
      let (more, cursor) ← readQuoted double fuel cursor
      pure (text ++ more, cursor)
    else
      let (more, cursor) ← readQuoted double fuel cursor.next
      pure (c :: more, cursor)

/-! ## Block scalars -/

/-- What becomes of the line ends at the end of a block. -/
inductive Chomp where
  | strip
  | clip
  | keep
deriving DecidableEq

/-- The header of a block scalar. -/
structure BlockHeader where
  chomp : Chomp := .clip
  /-- The indentation of the block beyond the one around it, if it is given. -/
  increment : Option Nat := none

def chomp? : Char → Option Chomp
  | '+' => some .keep
  | '-' => some .strip
  | _ => none

/-- Reads how a block ends. -/
def readChomp (cursor : Cursor) : Chomp × Cursor :=
  match chomp? cursor.peek with
  | some chomp => (chomp, cursor.next)
  | none => (.clip, cursor)

/-- Reads an indentation. -/
def readIncrement (cursor : Cursor) : Except Fault (Option Nat × Cursor) :=
  let c := cursor.peek
  if c == '0' then malformed .blockScalar
  else if c.isDigit then .ok (some (c.toNat - 48), cursor.next)
  else .ok (none, cursor)

/-- Reads the header, in which both parts may come first. -/
def readHeader (cursor : Cursor) : Except Fault (BlockHeader × Cursor) := do
  let (header, cursor) ←
    if (chomp? cursor.peek).isSome then do
      let (chomp, cursor) := readChomp cursor
      let (increment, cursor) ← readIncrement cursor
      pure (({ chomp, increment } : BlockHeader), cursor)
    else do
      let (increment, cursor) ← readIncrement cursor
      if increment.isSome then
        let (chomp, cursor) := readChomp cursor
        pure ({ chomp, increment }, cursor)
      else pure ({}, cursor)
  if !isSpaceOrEnd cursor.peek then malformed .blockScalar
  match cursor.skipLine? with
  | some cursor => pure (header, cursor)
  | none => malformed .blockScalar

/-- The place after spaces up to a column. -/
def skipIndent (indent : Nat) : (fuel : Nat) → Cursor → Cursor
  | 0, cursor => cursor
  | fuel + 1, cursor =>
    if cursor.column < indent && cursor.peek == ' ' then skipIndent indent fuel cursor.next
    else cursor

/-- The empty lines at a place, and the place in the next line after the indentation. -/
def blockBreaks (indent : Nat) : (fuel : Nat) → Cursor → Text × Cursor
  | 0, cursor => ([], cursor)
  | fuel + 1, cursor =>
    let cursor := skipIndent indent (indent + 1) cursor
    if isBreak cursor.peek then
      let (found, cursor) := cursor.takeBreak
      let (more, cursor) := blockBreaks indent fuel cursor
      (found ++ more, cursor)
    else ([], cursor)

/-- The empty lines before the first line of a block, and the largest column that their spaces and
those of the first line reach. -/
def firstIndent : (fuel most : Nat) → Cursor → Text × Nat × Cursor
  | 0, most, cursor => ([], most, cursor)
  | fuel + 1, most, cursor =>
    if cursor.peek == ' ' then
      firstIndent fuel (max most cursor.next.column) cursor.next
    else if isBreak cursor.peek then
      let (found, cursor) := cursor.takeBreak
      let (more, most, cursor) := firstIndent fuel most cursor
      (found ++ more, most, cursor)
    else ([], most, cursor)

/-- Whether a character is a space or a tab. -/
def isBlank (c : Char) : Bool := c == ' ' || c == '\t'

/-- The lines of a block, with the empty lines before them, and the line ends after them: the last
one, and those of empty lines. -/
def blockLines (folded : Bool) (indent : Nat) :
    (fuel : Nat) → (breaks : Text) → Cursor → Text × Text × Text × Cursor
  | 0, breaks, cursor => ([], [], breaks, cursor)
  | fuel + 1, breaks, cursor =>
    if cursor.column == indent && !cursor.rest.isEmpty then
      let startsBlank := isBlank cursor.peek
      let (line, cursor) := cursor.takeWhile (!isBreak ·)
      let (lineBreak, cursor) := cursor.takeBreak
      let (after, cursor) := blockBreaks indent (cursor.rest.length + 1) cursor
      if cursor.column == indent && !cursor.rest.isEmpty then
        let joint :=
          if folded && lineBreak == ['\n'] && !startsBlank && !isBlank cursor.peek then
            if after.isEmpty then [' '] else []
          else lineBreak
        let (more, last, left, cursor) := blockLines folded indent fuel after cursor
        (breaks ++ line ++ joint ++ more, last, left, cursor)
      else (breaks ++ line, lineBreak, after, cursor)
    else ([], [], breaks, cursor)

/-- A block scalar after its mark; `indent` is the least indentation of its lines. -/
def readBlock (folded : Bool) (indent : Nat) (cursor : Cursor) : Except Fault (Text × Cursor) := do
  let (header, cursor) ← readHeader cursor
  let (indent, breaks, cursor) := match header.increment with
    | some increment =>
      let indent := indent + increment - 1
      let (breaks, cursor) := blockBreaks indent (cursor.rest.length + 1) cursor
      (indent, breaks, cursor)
    | none =>
      let (breaks, most, cursor) := firstIndent (cursor.rest.length + 1) 0 cursor
      (max indent most, breaks, cursor)
  let (text, lineBreak, left, cursor) :=
    blockLines folded indent (cursor.rest.length + 1) breaks cursor
  let tail := match header.chomp with
    | .strip => []
    | .clip => lineBreak
    | .keep => lineBreak ++ left
  pure (text ++ tail, cursor)

end NameSlots.Yaml
