import NameSlots.Json.Value
import NameSlots.Number.Whole
import NameSlots.Text.Hex
import NameSlots.Unicode.Surrogate

/-!
Reading JSON text. Beside the standard it takes `NaN`, `Infinity` and `-Infinity`, and the last of
several fields of one name counts. A fault tells where it stands by the number of characters that
are left there.
-/

namespace NameSlots.Json

/-- What JSON text can lack or have too much. -/
inductive Malformed where
  | value
  | name
  | colon
  | comma
  | extra
  | control
  | escape
  | unicodeEscape
  | unterminated
  | byteOrderMark
deriving DecidableEq

/-- A fault of JSON text with the number of characters left, or an integer with too many digits. -/
inductive Fault where
  | malformed (what : Malformed) (left : Nat)
  | tooManyDigits (count : Nat)
deriving DecidableEq

/-- The text without the blanks at its start. -/
def skipBlanks (text : Text) : Text :=
  text.dropWhile fun c => c = ' ' || c = '\t' || c = '\n' || c = '\r'

/-! ## Strings -/

/-- The number that four hexadecimal digits write. -/
def hexFour? (a b c d : Char) : Option Nat :=
  if [a, b, c, d].all Text.isHex then some (Text.numeral 16 [a, b, c, d]) else none

/-- The character that a letter after a backslash stands for. -/
def escaped? : Char → Option Char
  | '"' => some '"'
  | '\\' => some '\\'
  | '/' => some '/'
  | 'b' => some '\x08'
  | 'f' => some '\x0c'
  | 'n' => some '\n'
  | 'r' => some '\r'
  | 't' => some '\t'
  | _ => none

/-- What follows an escaped surrogate. -/
inductive Partner where
  | unpaired
  /-- An escape without four hexadecimal digits, with the number of characters left. -/
  | bad (left : Nat)
  | low (code : Nat)

/-- The low surrogate whose escape follows a high one and does not end the text. -/
def pairedLow? (high : Nat) (next : Char) (rest : Text) : Partner :=
  match Unicode.isHighSurrogate high, next, rest with
  | true, '\\', 'u' :: a :: b :: c :: d :: _ :: left =>
    match hexFour? a b c d with
    | none => .bad (left.length + 6)
    | some low => if Unicode.isLowSurrogate low then .low low else .unpaired
  | _, _, _ => .unpaired

/-- Reads a string whose opening quote has been read; `start` is the text from the quote on. -/
def readString (start : Text) (text : Text) : Except Fault (Text × Text) :=
  match text with
  | [] => .error (.malformed .unterminated start.length)
  | '"' :: rest => .ok ([], rest)
  | ['\\'] => .error (.malformed .unterminated start.length)
  | '\\' :: 'u' :: a :: b :: c :: d :: next :: rest =>
    match hexFour? a b c d with
    | none => .error (.malformed .unicodeEscape (rest.length + 6))
    | some high =>
      match pairedLow? high next rest with
      | .unpaired => do
        let (s, left) ← readString start (next :: rest)
        pure (Unicode.charOf high :: s, left)
      | .bad left => .error (.malformed .unicodeEscape left)
      | .low low => do
        let (s, left) ← readString start (rest.drop 5)
        pure (Unicode.charOf (Unicode.joinSurrogates high low) :: s, left)
  | '\\' :: 'u' :: rest => .error (.malformed .unicodeEscape (rest.length + 1))
  | '\\' :: c :: rest =>
    match escaped? c with
    | some c => do
      let (s, left) ← readString start rest
      pure (c :: s, left)
    | none => .error (.malformed .escape (rest.length + 2))
  | c :: rest =>
    if c < ' ' then .error (.malformed .control (rest.length + 1))
    else do
      let (s, left) ← readString start rest
      pure (c :: s, left)
termination_by text.length

/-! ## Numbers -/

/-- The digits after a decimal point, and what follows them. -/
def readFraction (text : Text) : Text × Text :=
  match text with
  | '.' :: rest =>
    let digits := rest.takeWhile Char.isDigit
    if digits.isEmpty then ([], text) else (digits, rest.dropWhile Char.isDigit)
  | _ => ([], text)

/-- The power of ten after an `e`, if there is one, and what follows it. -/
def readPower (text : Text) : Option Int × Text :=
  match text with
  | c :: rest =>
    if c = 'e' || c = 'E' then
      let (negative, unsigned) := match rest with
        | '-' :: rest => (true, rest)
        | '+' :: rest => (false, rest)
        | _ => (false, rest)
      let digits := unsigned.takeWhile Char.isDigit
      let size : Int := Text.numeral 10 digits
      if digits.isEmpty then (none, text)
      else (some (if negative then -size else size), unsigned.dropWhile Char.isDigit)
    else (none, text)
  | [] => (none, text)

/-- Reads a number without its sign; none if there is no digit. -/
def readNumber? (negative : Bool) (text : Text) : Option (Except Fault (Json × Text)) :=
  let whole := match text with
    | '0' :: _ => ['0']
    | _ => text.takeWhile Char.isDigit
  let rest := text.drop whole.length
  if whole.isEmpty then none
  else
    let (fraction, rest) := readFraction rest
    let (power, rest) := readPower rest
    if fraction.isEmpty && power.isNone then
      if whole.length > Number.maxDigits then some (.error (.tooManyDigits whole.length))
      else
        let size : Int := Text.numeral 10 whole
        some (.ok (.int (if negative then -size else size), rest))
    else
      let scale : Int := power.getD 0 - fraction.length
      let digits := Text.numeral 10 (whole ++ fraction)
      some (.ok (.float (Double.ofDecimal negative digits scale), rest))

/-! ## Values -/

/-- The values that are one word. -/
def words : List (Text × Json) :=
  [("null".toList, .null), ("true".toList, .bool true), ("false".toList, .bool false),
    ("NaN".toList, .float .nan), ("Infinity".toList, .float (.infinite false)),
    ("-Infinity".toList, .float (.infinite true))]

/-- Reads a word or a number. -/
def readPlain (text : Text) : Except Fault (Json × Text) :=
  match words.findSome? fun (word, value) => (Text.dropFront? word text).map (value, ·) with
  | some found => .ok found
  | none =>
    let number := match text with
      | '-' :: rest => readNumber? true rest
      | _ => readNumber? false text
    number.getD (.error (.malformed .value text.length))

mutual

/-- Reads a value. `fuel` is more than twice the number of characters. -/
def readValue (fuel : Nat) (text : Text) : Except Fault (Json × Text) :=
  match fuel with
  | 0 => .error (.malformed .value text.length)
  | fuel + 1 =>
    match text with
    | '"' :: rest => do
      let (s, rest) ← readString text rest
      pure (.string s, rest)
    | '[' :: rest =>
      match skipBlanks rest with
      | ']' :: rest => .ok (.array [], rest)
      | rest => do
        let (items, rest) ← readItems fuel rest
        pure (.array items, rest)
    | '\x7b' :: rest =>
      match skipBlanks rest with
      | '\x7d' :: rest => .ok (.object [], rest)
      | rest => do
        let (fields, rest) ← readFields fuel rest
        pure (.object (Table.ofPairs fields), rest)
    | _ => readPlain text

/-- Reads the items of an array up to its end; there is one at least. -/
def readItems (fuel : Nat) (text : Text) : Except Fault (List Json × Text) :=
  match fuel with
  | 0 => .error (.malformed .value text.length)
  | fuel + 1 => do
    let (item, rest) ← readValue fuel text
    match skipBlanks rest with
    | ']' :: rest => pure ([item], rest)
    | ',' :: rest =>
      let (items, rest) ← readItems fuel (skipBlanks rest)
      pure (item :: items, rest)
    | rest => .error (.malformed .comma rest.length)

/-- Reads the fields of an object up to its end; there is one at least. -/
def readFields (fuel : Nat) (text : Text) : Except Fault (List (Text × Json) × Text) :=
  match fuel, text with
  | fuel + 1, '"' :: rest => do
    let (name, rest) ← readString text rest
    match skipBlanks rest with
    | ':' :: rest =>
      let (value, rest) ← readValue fuel (skipBlanks rest)
      match skipBlanks rest with
      | '\x7d' :: rest => pure ([(name, value)], rest)
      | ',' :: rest =>
        let (fields, rest) ← readFields fuel (skipBlanks rest)
        pure ((name, value) :: fields, rest)
      | rest => .error (.malformed .comma rest.length)
    | rest => .error (.malformed .colon rest.length)
  | _, text => .error (.malformed .name text.length)

end

/-- The mark that tells the byte order of a text. -/
def byteOrderMark : Char := Char.ofNat 0xFEFF

/-- Reads a text that is one value with blanks around it. -/
def readWhole (text : Text) : Except Fault Json := do
  let (value, rest) ← readValue (2 * text.length + 1) (skipBlanks text)
  match skipBlanks rest with
  | [] => pure value
  | rest => .error (.malformed .extra rest.length)

/-- Reads a text without a mark of the byte order. -/
def read (text : Text) : Except Fault Json :=
  if text.head? = some byteOrderMark then .error (.malformed .byteOrderMark text.length)
  else readWhole text

/-! ## Messages -/

def Malformed.message : Malformed → Text
  | .value => "Expecting value".toList
  | .name => "Expecting property name enclosed in double quotes".toList
  | .colon => "Expecting ':' delimiter".toList
  | .comma => "Expecting ',' delimiter".toList
  | .extra => "Extra data".toList
  | .control => "Invalid control character at".toList
  | .escape => "Invalid \\escape".toList
  | .unicodeEscape => "Invalid \\uXXXX escape".toList
  | .unterminated => "Unterminated string starting at".toList
  | .byteOrderMark => "Unexpected UTF-8 BOM (decode using utf-8-sig)".toList

/-- What is wrong with a text, and where: line, column and offset. -/
def Fault.message (text : Text) : Fault → Text
  | .malformed what left =>
    let offset := text.length - left
    let before := text.take offset
    let line := before.count '\n' + 1
    let column := (before.reverse.takeWhile (· ≠ '\n')).length + 1
    what.message ++ ": line ".toList ++ Text.ofNat line ++ " column ".toList ++ Text.ofNat column ++
      " (char ".toList ++ Text.ofNat offset ++ ")".toList
  | .tooManyDigits count => Number.tooManyDigitsMessage count

end NameSlots.Json
