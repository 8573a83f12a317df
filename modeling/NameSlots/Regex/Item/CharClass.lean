import NameSlots.Regex.Item.Escape

/-! Classes of characters in square brackets. -/

namespace NameSlots.Regex

/-- One end of a range, or a member of a class by itself, whose first token has been read. -/
def readClassEnd (token : Token) (rest : List Token) : Except Fault (ClassItem × List Token) :=
  match token with
  | .plain c => pure (.code c.toNat, rest)
  | .escaped c => readClassEscape c rest
  | .dangling => malformed .danglingBackslash

/-- A range between two members that are single code points. -/
def classRange : ClassItem → ClassItem → Except Fault ClassItem
  | .code first, .code last =>
    if last < first then malformed .badRange else pure (.range first last)
  | _, _ => malformed .badRange

/-- The range that a dash makes of a member. Before the closing bracket a dash makes none and is
left. -/
def readRange (first : ClassItem) (tokens : List Token) : Except Fault (ClassItem × List Token) :=
  match tokens with
  | .plain '-' :: [] => malformed .unclosedClass
  | .plain '-' :: .plain ']' :: _ => pure (first, tokens)
  | .plain '-' :: token :: rest => do
    let (last, left) ← readClassEnd token rest
    let range ← classRange first last
    pure (range, left)
  | _ => pure (first, tokens)

/-- A member of a class whose first token has been read. -/
def readClassMember (token : Token) (rest : List Token) :
    Except Fault (ClassItem × List Token) := do
  let (first, left) ← readClassEnd token rest
  readRange first left

/-- The members of a class up to its closing bracket, in order; `first` tells that a closing bracket
would still be a member. `fuel` bounds the number of members. -/
def readClassItems : (fuel : Nat) → (first : Bool) → List Token →
    Except Fault (List ClassItem × List Token)
  | 0, _, _ => malformed .unclosedClass
  | _ + 1, _, [] => malformed .unclosedClass
  | fuel + 1, first, token :: rest =>
    if token = .plain ']' ∧ ¬ first then pure ([], rest)
    else do
      let (item, left) ← readClassMember token rest
      let (items, left) ← readClassItems fuel false left
      pure (item :: items, left)

/-- A class without repeated members; a class of a single code point is that code point. -/
def classTest (negated : Bool) (items : List ClassItem) : CharTest :=
  match items.eraseDups with
  | [.code code] => .code negated code
  | items => .oneOf negated items

/-- A caret at the start of a class, which negates it. -/
def readNegation : List Token → Except Fault (Bool × List Token)
  | .plain '^' :: rest => pure (true, rest)
  | tokens => pure (false, tokens)

/-- The members of a class up to its closing bracket. -/
def readClassBody (tokens : List Token) : Except Fault (List ClassItem × List Token) :=
  readClassItems (tokens.length + 1) true tokens

/-- A class after its opening bracket. -/
def readClass (tokens : List Token) : Except Fault (Item × List Token) := do
  let (negated, tokens) ← readNegation tokens
  let (items, rest) ← readClassBody tokens
  pure (.char (classTest negated items), rest)

end NameSlots.Regex
