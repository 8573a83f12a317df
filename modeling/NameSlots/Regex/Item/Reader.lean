import NameSlots.Regex.Item.CharClass
import NameSlots.Regex.Item.Parenthesis
import NameSlots.Regex.Item.Repeat
import NameSlots.Unicode.Blank

/-! Reading one item of a pattern from its tokens. -/

namespace NameSlots.Regex.Item

/-- Reads an item that starts with a plain character. -/
def readPlain (c : Char) (rest : List Token) : Except Fault (Item × List Token) :=
  match c with
  | '|' => pure (.bar, rest)
  | ')' => pure (.close, rest)
  | '[' => readClass rest
  | '*' => readTimes 0 none rest
  | '+' => readTimes 1 none rest
  | '?' => readTimes 0 (some 1) rest
  | '\x7b' => readBraces rest
  | '(' => readParenthesis rest
  | '.' => pure (.char .any, rest)
  | '^' => pure (.lineStart, rest)
  | '$' => pure (.lineEnd, rest)
  | _ => pure (.code c.toNat, rest)

/-- Reads an item whose first token is there; `verbose` tells that blanks and comments are to be
skipped. -/
def read (verbose : Bool) (token : Token) (rest : List Token) :
    Except Fault (Item × List Token) :=
  match token with
  | .dangling => malformed .danglingBackslash
  | .escaped c => readEscape c rest
  | .plain c =>
    if verbose && Unicode.isAsciiBlank c then pure (.blank, rest)
    else if verbose && c = '#' then do
      let rest ← skipLine rest
      pure (.blank, rest)
    else readPlain c rest

end NameSlots.Regex.Item
