import NameSlots.Text.Quoted
import NameSlots.Yaml.Cursor
import NameSlots.Yaml.Tag

/-!
Texts written as scalars: plain where that reads back as the same text, else in single quotes, else
in double quotes with escapes. Long lines are folded.
-/

namespace NameSlots.Yaml

/-- The column after which a line is folded at the next place where it can be. -/
def foldColumn : Nat := 80

/-- A new line with spaces at its start. -/
def newLine (indent : Nat) : Text := '\n' :: List.replicate indent ' '

/-! ## Styles -/

/-- Whether a character can be written only as an escape. -/
def isSpecial (c : Char) : Bool :=
  let n := c.toNat
  !(c == '\n' || (0x20 ≤ n && n ≤ 0x7E) || n == 0x85 || (0xA0 ≤ n && n ≤ 0xFFFD && n != 0xFEFF) ||
    (0x10000 ≤ n && n < 0x10FFFF))

/-- The characters that begin something other than a plain scalar wherever they stand first. -/
def openers : Text := "#,[]\x7b\x7d&*!|>'\"%@".toList ++ [Char.ofNat 96]

/-- Whether a text begins with a mark. -/
def startsWithMark : Text → Bool
  | c :: rest => openers.contains c || ((c == '?' || c == '-') && isGap (rest.headD endMark))
  | [] => false

/-- Whether a text holds a colon before a gap or a number sign after one; `before` is the character
before it. -/
def holdsMark (before : Char) : Text → Bool
  | [] => false
  | c :: rest =>
    (c == ':' && isGap (rest.headD endMark)) || (c == '#' && isGap before) || holdsMark c rest

/-- Whether a text can be a plain scalar in a block. -/
def allowsPlain (t : Text) : Bool :=
  Tag.ofForm t == .text && t.head? != some ' ' && t.getLast? != some ' ' &&
    !t.any (fun c => isBreak c || isSpecial c) && !"---".toList.isPrefixOf t &&
    !"...".toList.isPrefixOf t && !startsWithMark t && !holdsMark ' ' t

/-- Whether a space and a line end stand beside each other. -/
def holdsSpaceAtBreak (t : Text) : Bool :=
  (t.zip (t.drop 1)).any fun (a, b) => (a == ' ' && isBreak b) || (isBreak a && b == ' ')

/-- Whether a text can stand in single quotes. -/
def allowsSingle (t : Text) : Bool := !t.any isSpecial && !holdsSpaceAtBreak t

/-! ## Plain scalars and single quotes -/

/-- Runs of spaces, of line ends and of other characters. -/
def runs (t : Text) : List Text :=
  t.splitBy fun a b => (a == ' ') == (b == ' ') && isBreak a == isBreak b

/-- Writes runs. A single space between others is a place to fold; line ends are written with one
line feed more, if they begin with one. -/
def writeRuns (character : Char → Text) (indent : Nat) :
    (first : Bool) → (column : Nat) → List Text → Text
  | _, _, [] => []
  | first, column, run :: rest =>
    if run == [' '] && foldColumn < column && !first && !rest.isEmpty then
      newLine indent ++ writeRuns character indent false indent rest
    else if run.any isBreak then
      run.take 1 |>.filter (· == '\n') |> (· ++ run ++ List.replicate indent ' ') |>
        (· ++ writeRuns character indent false indent rest)
    else
      let shown := run.flatMap character
      shown ++ writeRuns character indent false (column + shown.length) rest

/-- A quote inside single quotes is written twice. -/
def doubleQuote (c : Char) : Text := if c == '\'' then [c, c] else [c]

/-! ## Double quotes -/

/-- The letter after a backslash that stands for a character. -/
def escapeLetter? (c : Char) : Option Char :=
  match c with
  | '\x00' => some '0'
  | '\x07' => some 'a'
  | '\x08' => some 'b'
  | '\t' => some 't'
  | '\n' => some 'n'
  | '\x0b' => some 'v'
  | '\x0c' => some 'f'
  | '\r' => some 'r'
  | '\x1b' => some 'e'
  | '"' => some '"'
  | '\\' => some '\\'
  | _ =>
    if c == nextLine then some 'N'
    else if c == lineSeparator then some 'L'
    else if c == paragraphSeparator then some 'P'
    else none

/-- The escape of a character; none for one that stands for itself in double quotes. -/
def escape? (c : Char) : Option Text :=
  let n := c.toNat
  match escapeLetter? c with
  | some letter => some ['\\', letter]
  | none =>
    if (0x20 ≤ n && n ≤ 0x7E) || (0xA0 ≤ n && n ≤ 0xFFFD && n != 0xFEFF) then none
    else
      let digits (mark : Char) (count : Nat) : Text :=
        '\\' :: mark :: (Text.hexDigits count n).map Char.toUpper
      some (if n < 0x100 then digits 'x' 2 else if n < 0x10000 then digits 'u' 4 else digits 'U' 8)

/-- Ends a line inside double quotes; a space at the start of the next one needs a backslash. -/
def breakQuoted (indent : Nat) (next : Text) : Text :=
  '\\' :: newLine indent ++ (if next.head? == some ' ' then ['\\'] else [])

/-- Writes a text in double quotes. A line may be broken before a space, and before and after an
escape, but not at the first or the last character. -/
def writeEscaped (indent : Nat) : (first afterEscape : Bool) → (column : Nat) → Text → Text
  | _, _, _, [] => []
  | first, afterEscape, column, c :: rest =>
    let mayBreak := !first && !rest.isEmpty
    match escape? c with
    | some shown =>
      let column := column + shown.length
      if mayBreak && foldColumn + 1 < column then
        let gap := breakQuoted indent rest
        shown ++ gap ++ writeEscaped indent false true (gap.length - 2) rest
      else shown ++ writeEscaped indent false true column rest
    | none =>
      if mayBreak && (c == ' ' || afterEscape) && foldColumn < column then
        let gap := breakQuoted indent (c :: rest)
        gap ++ c :: writeEscaped indent false false (gap.length - 1) rest
      else c :: writeEscaped indent false false (column + 1) rest

/-! ## Scalars -/

/-- A text as a scalar that begins at a column; later lines have spaces at their start. -/
def writeText (indent column : Nat) (t : Text) : Text :=
  if allowsPlain t then writeRuns (fun c => [c]) indent true column (runs t)
  else if allowsSingle t then
    '\'' :: writeRuns doubleQuote indent true (column + 1) (runs t) ++ ['\'']
  else '"' :: writeEscaped indent true false (column + 1) t ++ ['"']

end NameSlots.Yaml
