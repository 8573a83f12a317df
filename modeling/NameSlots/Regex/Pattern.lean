import NameSlots.Regex.Item.Reader
import NameSlots.Regex.Reading.Take

/-!
Compiling a pattern: its tokens are read from left to right, one item at a time. The result is the
pattern as a tree with the number of its groups, or the reason why there is none.
-/

namespace NameSlots.Regex

namespace Reading

/-- Reads an item and takes it in. -/
def step (reading : Reading) (token : Token) (rest : List Token) :
    Except Fault (Reading × List Token) := do
  let (item, rest) ← Item.read reading.top.flags.verbose token rest
  let reading ← reading.take item
  pure (reading, rest)

/-- Reads tokens, with fuel for as many steps. -/
def run : Reading → (fuel : Nat) → List Token → Except Fault Reading
  | reading, _, [] => pure reading
  | _, 0, _ :: _ => malformed .unclosedGroup
  | reading, fuel + 1, token :: rest => do
    let (reading, rest) ← reading.step token rest
    reading.run fuel rest

/-- Reads all tokens; every step takes one at least, so their number is fuel enough. -/
def readAll (reading : Reading) (tokens : List Token) : Except Fault Reading :=
  reading.run tokens.length tokens

/-- The pattern that has been read, if it may end here. -/
def finish (reading : Reading) : Except Fault (Node × Nat) :=
  if !reading.below.isEmpty then malformed .unclosedGroup
  else if reading.global.ascii && reading.global.unicode then .error (.refused .asciiAndUnicode)
  else if reading.groups.tested.any (· > reading.groups.count) then malformed .unknownGroup
  else match reading.late with
    | some why => malformed why
    | none => pure (reading.top.body.node, reading.groups.count)

end Reading

/-- A pattern with the number of its groups. -/
structure Pattern where
  node : Node
  groups : Nat

/-- A pattern of which nothing has been read yet, with flags that hold from its start. -/
def Reading.start (flags : Flags) : Reading := { top := { opener := .whole, flags }, global := flags }

/-- Compiles a pattern with flags that hold from its start. -/
def compile (flags : Flags) (source : Text) : Except Fault Pattern := do
  let reading ← (Reading.start flags).readAll (Token.ofText source)
  let (node, groups) ← reading.finish
  pure { node, groups }

end NameSlots.Regex
