import NameSlots.Regex.Item.Basic
import NameSlots.Text.Hex
import NameSlots.Unicode.CharacterName
import NameSlots.Unicode.Identifier

/-! Names in a pattern, and what a backslash and the character after it stand for. -/

namespace NameSlots.Regex

/-- The text up to a stop, which is read too. -/
def readUntil (stop : Char) : List Token → Except Fault (Text × List Token)
  | [] => malformed .missingName
  | .dangling :: _ => malformed .danglingBackslash
  | token :: rest =>
    if token = .plain stop then pure ([], rest) else do
      let (name, left) ← readUntil stop rest
      pure (token.text ++ name, left)

/-- The text up to a stop, which is read too; it may not be empty. -/
def readName (stop : Char) (tokens : List Token) : Except Fault (Text × List Token) := do
  let (name, rest) ← readUntil stop tokens
  if name.isEmpty then malformed .missingName else pure (name, rest)

/-- A group name, up to a stop. -/
def readGroupName (stop : Char) (tokens : List Token) : Except Fault (Text × List Token) := do
  let (name, rest) ← readName stop tokens
  if Unicode.isIdentifier name then pure (name, rest) else malformed .badGroupName

def isOctal (c : Char) : Bool := '0' ≤ c && c ≤ '7'

/-- The largest code point. -/
def maxCode : Nat := 0x10FFFF

/-- Exactly `length` hexadecimal digits. -/
def readHex (length : Nat) (tokens : List Token) : Except Fault (Nat × List Token) := do
  let (digits, rest) ← readRun Text.isHex length tokens
  if digits.length < length then malformed .shortEscape
  else if Text.numeral 16 digits > maxCode then malformed .unknownEscape
  else pure (Text.numeral 16 digits, rest)

/-- A character by its name in braces. -/
def readCharacterName : List Token → Except Fault (Nat × List Token)
  | .plain '\x7b' :: tokens => do
    let (name, rest) ← readName '\x7d' tokens
    match Unicode.characterNamed? name with
    | some code => pure (code, rest)
    | none => malformed .unknownCharacterName
  | _ => malformed .missingName

/-- The control character that a letter after a backslash stands for. -/
def controlCode? : Char → Option Nat
  | 'a' => some 7
  | 'f' => some 12
  | 'n' => some 10
  | 'r' => some 13
  | 't' => some 9
  | 'v' => some 11
  | _ => none

/-- The kind of character that a letter after a backslash stands for, and whether it is negated. -/
def charKind? : Char → Option (CharKind × Bool)
  | 'd' => some (.digit, false)
  | 'D' => some (.digit, true)
  | 's' => some (.blank, false)
  | 'S' => some (.blank, true)
  | 'w' => some (.word, false)
  | 'W' => some (.word, true)
  | _ => none

/-- An escape that stands for one character and is the same inside a class and outside. -/
def readCharEscape (c : Char) (rest : List Token) : Except Fault (Nat × List Token) :=
  match controlCode? c with
  | some code => pure (code, rest)
  | none =>
    match c with
    | 'x' => readHex 2 rest
    | 'u' => readHex 4 rest
    | 'U' => readHex 8 rest
    | 'N' => readCharacterName rest
    | _ => if c.isAlphanum then malformed .unknownEscape else pure (c.toNat, rest)

/-- An octal escape whose digits have been read. -/
def octalCode (digits : Text) : Except Fault Nat :=
  if Text.numeral 8 digits > 0xFF then malformed .octalTooLarge else pure (Text.numeral 8 digits)

/-- An escape inside a class. -/
def readClassEscape (c : Char) (rest : List Token) : Except Fault (ClassItem × List Token) :=
  match charKind? c with
  | some (kind, negated) => pure (.kind kind negated, rest)
  | none =>
    if c = 'b' then pure (.code 8, rest)
    else if isOctal c then do
      let (more, left) ← readRun isOctal 2 rest
      let code ← octalCode (c :: more)
      pure (.code code, left)
    else do
      let (code, left) ← readCharEscape c rest
      pure (.code code, left)

/-- An escape that starts with a digit other than zero: three octal digits are a character, all
else refers to a group. -/
def readNumbered (c : Char) (rest : List Token) : Except Fault (Item × List Token) := do
  let (second, left) ← readRun Char.isDigit 1 rest
  let (third, afterThird) ← readRun isOctal 1 left
  if isOctal c && !second.isEmpty && second.all isOctal && !third.isEmpty then
    let code ← octalCode (c :: second ++ third)
    pure (.code code, afterThird)
  else pure (.backref (.number (Text.numeral 10 (c :: second))), left)

/-- An escape outside a class. -/
def readEscape (c : Char) (rest : List Token) : Except Fault (Item × List Token) :=
  match charKind? c with
  | some (kind, negated) => pure (.char (.oneOf false [.kind kind negated]), rest)
  | none =>
    match c with
    | 'A' => pure (.anchor .textStart, rest)
    | 'Z' => pure (.anchor .textEnd, rest)
    | 'b' => pure (.boundary false, rest)
    | 'B' => pure (.boundary true, rest)
    | '0' => do
      let (digits, left) ← readRun isOctal 2 rest
      pure (.code (Text.numeral 8 digits), left)
    | _ =>
      if c.isDigit then readNumbered c rest
      else do
        let (code, left) ← readCharEscape c rest
        pure (.code code, left)

end NameSlots.Regex
