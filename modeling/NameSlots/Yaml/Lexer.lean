import NameSlots.Yaml.Token

/-!
Cutting a document into tokens. Indentation becomes tokens of its own, and where a colon follows a
scalar on its line, the key it makes is put before the tokens of that scalar.
-/

namespace NameSlots.Yaml

/-- A place at which a key may have begun. -/
structure PossibleKey where
  /-- The number of tokens before it. -/
  tokenNumber : Nat
  /-- Only a key may stand there. -/
  required : Bool
  index : Nat
  line : Nat
  column : Nat

/-- A document that is being cut. Indentations count from one, so that zero is outside all blocks.
-/
structure Lexing where
  cursor : Cursor
  /-- The tokens so far, the latest first. -/
  tokens : List Token := []
  flowLevel : Nat := 0
  /-- The column of the innermost block, and one more. -/
  indent : Nat := 0
  outerIndents : List Nat := []
  keyAllowed : Bool := true
  possibleKeys : List (Nat × PossibleKey) := []
  done : Bool := false

/-- The most characters between the start of a key and its colon. -/
def keyLimit : Nat := 1024

namespace Lexing

def push (lexing : Lexing) (token : Token) : Lexing :=
  { lexing with tokens := token :: lexing.tokens }

/-- Puts tokens before the one with a number. -/
def insert (lexing : Lexing) (tokenNumber : Nat) (new : List Token) : Lexing :=
  let after := lexing.tokens.length - tokenNumber
  { lexing with
    tokens := lexing.tokens.take after ++ new.reverse ++ lexing.tokens.drop after }

def advance (lexing : Lexing) (n : Nat) : Lexing :=
  { lexing with cursor := lexing.cursor.advance n }

def inFlow (lexing : Lexing) : Bool := lexing.flowLevel != 0

/-- The column, counted as indentations are. -/
def depth (lexing : Lexing) : Nat := lexing.cursor.column + 1

/-! ## Keys -/

/-- Whether a place is no longer one at which a key may have begun. -/
def isStale (lexing : Lexing) (key : PossibleKey) : Bool :=
  key.line != lexing.cursor.line || keyLimit < lexing.cursor.index - key.index

/-- Forgets the places at which no key can have begun. -/
def dropStale (lexing : Lexing) : Except Fault Lexing :=
  if lexing.possibleKeys.any fun (_, key) => lexing.isStale key && key.required then
    malformed .simpleKey
  else
    .ok { lexing with
      possibleKeys := lexing.possibleKeys.filter fun (_, key) => !lexing.isStale key }

/-- Forgets the place in the innermost collection. -/
def dropKey (lexing : Lexing) : Except Fault Lexing :=
  match lexing.possibleKeys.lookup lexing.flowLevel with
  | none => .ok lexing
  | some key =>
    if key.required then malformed .simpleKey
    else .ok { lexing with
      possibleKeys := lexing.possibleKeys.filter fun (level, _) => level != lexing.flowLevel }

/-- Keeps in mind that a key may begin here. -/
def saveKey (lexing : Lexing) : Except Fault Lexing :=
  if lexing.keyAllowed then do
    let key : PossibleKey :=
      { tokenNumber := lexing.tokens.length
        required := !lexing.inFlow && lexing.indent == lexing.depth
        index := lexing.cursor.index
        line := lexing.cursor.line
        column := lexing.cursor.column }
    let lexing ← lexing.dropKey
    pure { lexing with possibleKeys := (lexing.flowLevel, key) :: lexing.possibleKeys }
  else .ok lexing

/-! ## Indentation -/

/-- Ends the blocks that are indented more. -/
def unwindTo (lexing : Lexing) (indent : Nat) : (outer : List Nat) → Lexing
  | [] => lexing
  | outer :: rest =>
    if indent < lexing.indent then
      ({ lexing with indent := outer, outerIndents := rest }.push .blockEnd).unwindTo indent rest
    else lexing

/-- Ends the blocks that are indented more, unless this is inside brackets. -/
def unwind (lexing : Lexing) (indent : Nat) : Lexing :=
  if lexing.inFlow then lexing else lexing.unwindTo indent lexing.outerIndents

/-- Starts a block at an indentation, if none is there yet: the block's token goes before the one
with a number. -/
def openBlock (lexing : Lexing) (indent tokenNumber : Nat) (token : Token) : Lexing :=
  if !lexing.inFlow && lexing.indent < indent then
    { lexing with indent, outerIndents := lexing.indent :: lexing.outerIndents }.insert tokenNumber
      [token]
  else lexing

/-- Starts a block here, if none is there yet. -/
def openBlockHere (lexing : Lexing) (token : Token) : Lexing :=
  lexing.openBlock lexing.depth lexing.tokens.length token

/-! ## Tokens -/

/-- The place after blanks, comments and line ends; outside brackets a key may begin on a new line.
-/
def skipBlanks : (fuel : Nat) → Lexing → Lexing
  | 0, lexing => lexing
  | fuel + 1, lexing =>
    let cursor := (lexing.cursor.skipWhile (· == ' ')).skipComment
    if isBreak cursor.peek then
      skipBlanks fuel
        { lexing with
          cursor := cursor.takeBreak.2
          keyAllowed := lexing.keyAllowed || !lexing.inFlow }
    else { lexing with cursor }

/-- The place after a mark of the byte order at the start of the text. -/
def skipOrderMark (lexing : Lexing) : Lexing :=
  if lexing.cursor.index == 0 && lexing.cursor.peek == Char.ofNat 0xFEFF then lexing.advance 1
  else lexing

/-- The end of the text. -/
def endStream (lexing : Lexing) : Except Fault Lexing := do
  let lexing ← (lexing.unwind 0).dropKey
  pure { lexing.push .streamEnd with possibleKeys := [], done := true }

/-- A directive. -/
def directive (lexing : Lexing) : Except Fault Lexing := do
  let lexing ← (lexing.unwind 0).dropKey
  let (directive, cursor) ← readDirective lexing.cursor.next
  pure ({ lexing with keyAllowed := false, cursor }.push (.directive directive))

/-- The start or the end of a document. -/
def documentMark (lexing : Lexing) (token : Token) : Except Fault Lexing := do
  let lexing ← (lexing.unwind 0).dropKey
  pure (({ lexing with keyAllowed := false }.push token).advance 3)

/-- An opening bracket. -/
def openFlow (lexing : Lexing) (token : Token) : Except Fault Lexing := do
  let lexing ← lexing.saveKey
  let inner := { lexing with flowLevel := lexing.flowLevel + 1, keyAllowed := true }
  pure ((inner.push token).advance 1)

/-- A closing bracket. -/
def closeFlow (lexing : Lexing) (token : Token) : Except Fault Lexing := do
  let lexing ← lexing.dropKey
  let outer := { lexing with flowLevel := lexing.flowLevel - 1, keyAllowed := false }
  pure ((outer.push token).advance 1)

/-- A comma between brackets. -/
def flowEntry (lexing : Lexing) : Except Fault Lexing := do
  let lexing ← lexing.dropKey
  pure (({ lexing with keyAllowed := true }.push .flowEntry).advance 1)

/-- A hyphen before an item. -/
def blockEntry (lexing : Lexing) : Except Fault Lexing := do
  if !lexing.inFlow && !lexing.keyAllowed then malformed .misplaced
  let lexing ← (lexing.openBlockHere .blockSequence).dropKey
  pure (({ lexing with keyAllowed := true }.push .blockEntry).advance 1)

/-- A question mark before a key. -/
def key (lexing : Lexing) : Except Fault Lexing := do
  if !lexing.inFlow && !lexing.keyAllowed then malformed .misplaced
  let lexing ← (lexing.openBlockHere .blockMapping).dropKey
  pure (({ lexing with keyAllowed := !lexing.inFlow }.push .key).advance 1)

/-- A colon before a value: the key before it has been kept in mind, or stands after a question
mark. -/
def value (lexing : Lexing) : Except Fault Lexing :=
  match lexing.possibleKeys.lookup lexing.flowLevel with
  | some key =>
    let possibleKeys := lexing.possibleKeys.filter fun (level, _) => level != lexing.flowLevel
    let lexing := { lexing with possibleKeys, keyAllowed := false }.insert key.tokenNumber [.key]
    let lexing := lexing.openBlock (key.column + 1) key.tokenNumber .blockMapping
    .ok ((lexing.push .value).advance 1)
  | none => do
    if !lexing.inFlow && !lexing.keyAllowed then malformed .misplaced
    let lexing ← (lexing.openBlockHere .blockMapping).dropKey
    pure (({ lexing with keyAllowed := !lexing.inFlow }.push .value).advance 1)

/-- A token that may be a key or a part of one. -/
def keyPart {α : Type} (lexing : Lexing) (read : Cursor → Except Fault (α × Cursor))
    (token : α → Token) : Except Fault Lexing := do
  let lexing ← lexing.saveKey
  let (found, cursor) ← read lexing.cursor
  pure ({ lexing with keyAllowed := false, cursor }.push (token found))

/-- A scalar in quotes. -/
def quoted (lexing : Lexing) (double : Bool) : Except Fault Lexing :=
  lexing.keyPart (fun cursor => readQuoted double (cursor.rest.length + 1) cursor.next)
    (.scalar · false)

/-- A block scalar. -/
def block (lexing : Lexing) (folded : Bool) : Except Fault Lexing := do
  let lexing ← lexing.dropKey
  let (text, cursor) ← readBlock folded (max lexing.indent 1) lexing.cursor.next
  pure ({ lexing with keyAllowed := true, cursor }.push (.scalar text false))

/-- A plain scalar. -/
def plain (lexing : Lexing) : Except Fault Lexing := do
  let lexing ← lexing.saveKey
  let (text, broken, cursor) := readPlain lexing.inFlow lexing.indent lexing.cursor
  pure ({ lexing with keyAllowed := broken, cursor }.push (.scalar text true))

/-- The characters that begin something other than a plain scalar. -/
def indicators : Text := "-?:,[]\x7b\x7d#&*!|>'\"%@".toList ++ [Char.ofNat 96]

/-- Whether a plain scalar begins here. -/
def startsPlain (lexing : Lexing) : Bool :=
  let c := lexing.cursor.peek
  (!isGap c && !indicators.contains c) ||
    (!isGap (lexing.cursor.peekAt 1) &&
      (c == '-' || (!lexing.inFlow && (c == '?' || c == ':'))))

/-- Whether a character that ends before a gap, or anywhere between brackets, is a mark here. -/
def isMark (lexing : Lexing) : Bool := lexing.inFlow || isGap (lexing.cursor.peekAt 1)

/-- Reads the token here. -/
def token (lexing : Lexing) : Except Fault Lexing :=
  let cursor := lexing.cursor
  let atStart := cursor.column == 0
  if cursor.rest.isEmpty then lexing.endStream
  else if cursor.peek == '%' && atStart then lexing.directive
  else if atStart && cursor.atMark '-' then lexing.documentMark .documentStart
  else if atStart && cursor.atMark '.' then lexing.documentMark .documentEnd
  else match cursor.peek with
    | '[' => lexing.openFlow .flowSequence
    | '\x7b' => lexing.openFlow .flowMapping
    | ']' => lexing.closeFlow .flowSequenceEnd
    | '\x7d' => lexing.closeFlow .flowMappingEnd
    | ',' => lexing.flowEntry
    | '*' => lexing.keyPart (fun cursor => readAnchor cursor.next) .alias
    | '&' => lexing.keyPart (fun cursor => readAnchor cursor.next) .anchor
    | '!' => lexing.keyPart readTag .tag
    | '\'' => lexing.quoted false
    | '"' => lexing.quoted true
    | c =>
      if c == '-' && isGap (cursor.peekAt 1) then lexing.blockEntry
      else if c == '?' && lexing.isMark then lexing.key
      else if c == ':' && lexing.isMark then lexing.value
      else if c == '|' && !lexing.inFlow then lexing.block false
      else if c == '>' && !lexing.inFlow then lexing.block true
      else if lexing.startsPlain then lexing.plain
      else malformed .character

/-- Reads the next token with what comes before it. -/
def step (lexing : Lexing) : Except Fault Lexing := do
  let lexing := lexing.skipOrderMark.skipBlanks (lexing.cursor.rest.length + 1)
  let lexing ← lexing.dropStale
  (lexing.unwind lexing.depth).token

/-- The number of tokens before all places at which a key may still begin. -/
def settled (lexing : Lexing) : Nat :=
  let open_ := lexing.possibleKeys.filter fun (_, key) => !lexing.isStale key
  open_.foldl (fun n (_, key) => min n key.tokenNumber) lexing.tokens.length

/-- Goes on after a token. A fault stands after the tokens that are settled before it. -/
def goOn (lexing : Lexing) (next : Lexing → List Token × Option Fault) :
    Except Fault Lexing → List Token × Option Fault
  | .ok after => next after
  | .error fault => (lexing.tokens.reverse.take lexing.settled, some fault)

/-- Reads all tokens. -/
def run : (fuel : Nat) → Lexing → List Token × Option Fault
  | 0, lexing => (lexing.tokens.reverse, none)
  | fuel + 1, lexing =>
    if lexing.done then (lexing.tokens.reverse, none) else lexing.goOn (run fuel) lexing.step

end Lexing

/-- Whether a character may stand in a document. -/
def isPrintable (c : Char) : Bool :=
  let n := c.toNat
  n == 0x09 || n == 0x0A || n == 0x0D || (0x20 ≤ n && n ≤ 0x7E) || n == 0x85 ||
    (0xA0 ≤ n && n ≤ 0xFFFD) || 0x10000 ≤ n

/-- The tokens of a document, and the fault after them if there is one. -/
def tokens (text : Text) : List Token × Option Fault :=
  if text.all isPrintable then
    Lexing.run (text.length + 2) { cursor := { rest := text } }
  else ([], some (.malformed .unprintable))

end NameSlots.Yaml
