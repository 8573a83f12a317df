import NameSlots.Yaml.Time

/-! Tags: what kind of value a node stands for. A plain scalar without a tag has one by its form. -/

namespace NameSlots.Yaml

/-- What a node stands for. -/
inductive Tag where
  | null
  | bool
  | int
  | float
  | binary
  | time
  | text
  | list
  | table
  | set
  | orderedPairs
  | pairs
  /-- The key `<<`, whose value is merged into the table around it. -/
  | merge
  /-- The key `=`, whose value stands for the table around it where a scalar is asked for. -/
  | default
  | unknown
deriving DecidableEq

namespace Tag

/-- What the names of common tags start with. -/
def family : Text := "tag:yaml.org,2002:".toList

/-- The tags by the rest of their names. -/
def byName : List (Text × Tag) := [
  ("null".toList, null), ("bool".toList, bool), ("int".toList, int), ("float".toList, float),
  ("binary".toList, binary), ("timestamp".toList, time), ("str".toList, text),
  ("seq".toList, list), ("map".toList, table), ("set".toList, set),
  ("omap".toList, orderedPairs), ("pairs".toList, pairs), ("merge".toList, merge),
  ("value".toList, default)]

/-- The tag of a name. -/
def ofName (name : Text) : Tag :=
  match Text.dropFront? family name with
  | some rest => (byName.lookup rest).getD unknown
  | none => unknown

/-! ## Forms of plain scalars -/

def nullWords : List Text := ["~", "null", "Null", "NULL"].map String.toList

def trueWords : List Text :=
  ["yes", "Yes", "YES", "true", "True", "TRUE", "on", "On", "ON"].map String.toList

def falseWords : List Text :=
  ["no", "No", "NO", "false", "False", "FALSE", "off", "Off", "OFF"].map String.toList

/-- The text without a sign at its front. -/
def dropSign : Text → Text
  | '+' :: rest | '-' :: rest => rest
  | t => t

def isDigitOrScore (c : Char) : Bool := c.isDigit || c == '_'

/-- Whether a text is a digit with digits and underscores after it. -/
def isGrouped : Text → Bool
  | c :: rest => c.isDigit && rest.all isDigitOrScore
  | [] => false

/-- Whether a text is a number below sixty, of one digit or two. -/
def isSixtieth : Text → Bool
  | [c] => c.isDigit
  | [c, d] => '0' ≤ c && c ≤ '5' && d.isDigit
  | _ => false

/-- Whether a text is a number with sixtieths after it, all after colons. -/
def isSexagesimal (t : Text) : Bool :=
  match Text.splitAll ':' t with
  | first :: part :: rest => isGrouped first && (part :: rest).all isSixtieth
  | _ => false

/-- Whether a text is a whole number without a sign. -/
def isUnsignedInt (t : Text) : Bool :=
  match t with
  | '0' :: 'b' :: c :: rest => (c :: rest).all fun d => d == '0' || d == '1' || d == '_'
  | '0' :: 'x' :: c :: rest =>
    (c :: rest).all fun d => isDigitOrScore d || ('a' ≤ d && d ≤ 'f') || ('A' ≤ d && d ≤ 'F')
  | '0' :: rest => rest.all fun d => ('0' ≤ d && d ≤ '7') || d == '_'
  | _ => isGrouped t || isSexagesimal t

/-- Whether a text is a power of ten after a number, or nothing. -/
def isPower : Text → Bool
  | [] => true
  | letter :: sign :: c :: rest =>
    (letter == 'e' || letter == 'E') && (sign == '+' || sign == '-') && (c :: rest).all Char.isDigit
  | _ => false

/-- Whether a text is a real number without a sign, with a digit before its point. -/
def isUnsignedFloat (t : Text) : Bool :=
  let whole := t.takeWhile (· != '.')
  match t.drop whole.length with
  | '.' :: rest =>
    (isGrouped whole && isPower (rest.dropWhile isDigitOrScore)) ||
      (isSexagesimal whole && rest.all isDigitOrScore)
  | _ => false

/-- Whether a text is a real number. -/
def isFloat (t : Text) : Bool :=
  isUnsignedFloat (dropSign t) || (dropSign t) ∈ [".inf", ".Inf", ".INF"].map String.toList ||
    t ∈ [".nan", ".NaN", ".NAN"].map String.toList ||
    match t with
    | '.' :: c :: rest => c.isDigit && isPower (rest.dropWhile isDigitOrScore)
    | _ => false

/-- The text without a line feed at its end. -/
def dropLastBreak (t : Text) : Text := if t.getLast? == some '\n' then t.dropLast else t

/-- The tag that a plain scalar has by its form. -/
def ofForm (written : Text) : Tag :=
  let t := dropLastBreak written
  if written.isEmpty || t ∈ nullWords then null
  else if t ∈ trueWords || t ∈ falseWords then bool
  else if isUnsignedInt (dropSign t) then int
  else if isFloat t then float
  else if isTime t then time
  else if t == "<<".toList then merge
  else if t == ['='] then default
  else if t ∈ [['!'], ['&'], ['*']] then unknown
  else text

end Tag

end NameSlots.Yaml
