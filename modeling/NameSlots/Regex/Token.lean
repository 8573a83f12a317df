import NameSlots.Text.Basic

/-! Patterns as tokens: a backslash and the character after it are one token. -/

namespace NameSlots.Regex

/-- A character by itself, a character after a backslash, or a backslash at the very end. -/
inductive Token where
  | plain (c : Char)
  | escaped (c : Char)
  | dangling
deriving DecidableEq

namespace Token

/-- The tokens of a pattern. -/
def ofText : Text → List Token
  | [] => []
  | ['\\'] => [.dangling]
  | '\\' :: c :: rest => .escaped c :: ofText rest
  | c :: rest => .plain c :: ofText rest

/-- The characters that a token stands for in a pattern. -/
def text : Token → Text
  | .plain c => [c]
  | .escaped c => ['\\', c]
  | .dangling => ['\\']

/-- The character of a token that is one plain character. -/
def plain? : Token → Option Char
  | .plain c => some c
  | _ => none

end Token

/-- At most `limit` plain characters of a kind, and the tokens after them. -/
def takePlain (accept : Char → Bool) : (limit : Nat) → List Token → Text × List Token
  | 0, tokens => ([], tokens)
  | _ + 1, [] => ([], [])
  | limit + 1, token :: rest =>
    match token.plain? with
    | some c =>
      if accept c then
        let (found, left) := takePlain accept limit rest
        (c :: found, left)
      else ([], token :: rest)
    | none => ([], token :: rest)

end NameSlots.Regex
