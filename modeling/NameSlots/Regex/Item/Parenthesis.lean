import NameSlots.Number.Whole
import NameSlots.Regex.Item.Escape

/-! Opening parentheses: what the tokens after one make of it. -/

namespace NameSlots.Regex

/-- The flags after a minus sign, up to the colon; `any` tells that there has been one. -/
def readDropped (drop : Flags) (any : Bool) : List Token → Except Fault (Flags × List Token)
  | .plain c :: rest =>
    if any && c == ':' then pure (drop, rest)
    else match Flags.ofLetter? c with
      | some flag =>
        if flag.choosesAlphabet then malformed .badInlineFlags
        else readDropped (drop.union flag) true rest
      | none => malformed .badInlineFlags
  | _ => malformed .badInlineFlags

/-- The flags of parentheses that add some and drop others. -/
def insideFlags (add drop : Flags) : Except Fault Item :=
  if add.template || drop.template || add.meets drop then malformed .badInlineFlags
  else pure (.flagged add drop)

/-- The flags of an inline group, up to the character that ends them. -/
def readInlineFlags (add : Flags) : List Token → Except Fault (Item × List Token)
  | .plain ')' :: rest => pure (.global add, rest)
  | .plain ':' :: rest => do
    let item ← insideFlags add {}
    pure (item, rest)
  | .plain '-' :: rest => do
    if add.template then malformed .badInlineFlags
    else
      let (drop, rest) ← readDropped {} false rest
      let item ← insideFlags add drop
      pure (item, rest)
  | .plain c :: rest =>
    match Flags.ofLetter? c with
    | some flag =>
      if flag.choosesAlphabet && add.choosesAlphabet && !add.meets flag then
        malformed .badInlineFlags
      else readInlineFlags (add.union flag) rest
    | none => malformed .badInlineFlags
  | _ => malformed .badInlineFlags

/-- The tokens after the end of a comment in parentheses. -/
def skipComment : List Token → Except Fault (List Token)
  | [] => malformed .unclosedComment
  | .dangling :: _ => malformed .danglingBackslash
  | .plain ')' :: rest => pure rest
  | _ :: rest => skipComment rest

/-- The tokens after the line that a verbose comment takes. -/
def skipLine : List Token → Except Fault (List Token)
  | [] => pure []
  | .dangling :: _ => malformed .danglingBackslash
  | .plain '\n' :: rest => pure rest
  | _ :: rest => skipLine rest

/-- A condition on a group, which is named or numbered. -/
def readCondition (tokens : List Token) : Except Fault (Item × List Token) := do
  let (name, rest) ← readName ')' tokens
  if Unicode.isIdentifier name then pure (.condition (.name name), rest)
  else match Number.whole name with
    | .ok (.ofNat 0) => malformed .badGroupName
    | .ok (.ofNat group) => pure (.condition (.number group), rest)
    | _ => malformed .badGroupName

/-- What follows `(?`. -/
def readExtension (tokens : List Token) : Except Fault (Item × List Token) :=
  match tokens with
  | .plain 'P' :: .plain '<' :: rest => do
    let (name, rest) ← readGroupName '>' rest
    pure (.capture (some name), rest)
  | .plain 'P' :: .plain '=' :: rest => do
    let (name, rest) ← readGroupName ')' rest
    pure (.backref (.name name), rest)
  | .plain ':' :: rest => pure (.bracket, rest)
  | .plain '#' :: rest => do
    let rest ← skipComment rest
    pure (.blank, rest)
  | .plain '=' :: rest => pure (.ahead false, rest)
  | .plain '!' :: rest => pure (.ahead true, rest)
  | .plain '<' :: .plain '=' :: rest => pure (.behind false, rest)
  | .plain '<' :: .plain '!' :: rest => pure (.behind true, rest)
  | .plain '(' :: rest => readCondition rest
  | .plain '>' :: rest => pure (.atomic, rest)
  | .plain c :: _ =>
    if c = '-' || (Flags.ofLetter? c).isSome then readInlineFlags {} tokens
    else malformed .unknownExtension
  | _ => malformed .unknownExtension

/-- What follows an opening parenthesis. -/
def readParenthesis (tokens : List Token) : Except Fault (Item × List Token) :=
  match tokens with
  | .plain '?' :: rest => readExtension rest
  | _ => pure (.capture none, tokens)

end NameSlots.Regex
