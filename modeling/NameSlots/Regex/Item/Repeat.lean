import NameSlots.Number.Whole
import NameSlots.Regex.Item.Escape

/-! Repeats: how often the latest piece may occur, and how eagerly. -/

namespace NameSlots.Regex

/-- The first repeat count that is too large. -/
def maxRepeat : Nat := 4294967295

/-- A repeat count; none where there are no digits. -/
def repeatCount (digits : Text) : Except Fault (Option Nat) :=
  if digits.isEmpty then pure none
  else if digits.length > Number.maxDigits then .error (.refused (.tooManyDigits digits.length))
  else if Text.numeral 10 digits ≥ maxRepeat then .error .repeatTooLarge
  else pure (some (Text.numeral 10 digits))

/-- The tokens after a plain character, if they start with it. -/
def dropPlain? (c : Char) : List Token → Option (List Token)
  | .plain d :: rest => if d = c then some rest else none
  | _ => none

/-- The digits between braces, before and after a comma; without a comma both are the same. None if
the tokens do not form a repeat. -/
def braceDigits? (tokens : List Token) : Option (Text × Text × List Token) :=
  let (low, rest) := takePlain Char.isDigit tokens.length tokens
  match dropPlain? ',' rest with
  | some rest =>
    let (high, rest) := takePlain Char.isDigit rest.length rest
    (dropPlain? '\x7d' rest).map fun rest => (low, high, rest)
  | none =>
    if low.isEmpty then none else (dropPlain? '\x7d' rest).map fun rest => (low, low, rest)

/-- What may follow a repeat and tells how eager it is. -/
def readGreed : List Token → Except Fault (Greed × List Token)
  | .plain '?' :: rest => pure (.reluctant, rest)
  | .plain '+' :: rest => pure (.possessive, rest)
  | tokens => pure (.greedy, tokens)

/-- A repeat whose counts have been read. -/
def readTimes (least : Nat) (most : Option Nat) (tokens : List Token) :
    Except Fault (Item × List Token) := do
  let (greed, rest) ← readGreed tokens
  pure (.times greed least most, rest)

/-- A repeat whose digits have been read. -/
def readCounts (low high : Text) (tokens : List Token) : Except Fault (Item × List Token) := do
  let least ← repeatCount low
  let most ← repeatCount high
  if most.any (· < least.getD 0) then malformed .descendingRepeat
  else readTimes (least.getD 0) most tokens

/-- A repeat in braces, or an opening brace by itself. -/
def readBraces (tokens : List Token) : Except Fault (Item × List Token) :=
  match braceDigits? tokens with
  | none => pure (.code '\x7b'.toNat, tokens)
  | some (low, high, rest) =>
    if rest = [.dangling] then malformed .danglingBackslash else readCounts low high rest

end NameSlots.Regex
