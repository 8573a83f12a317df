import NameSlots.Number.Whole
import NameSlots.Schema.Issue
import NameSlots.Text.Hex

/-!
Checks of data: a check gives a value of its type or all issues, in the order of the fields. Whole
numbers are also taken from flags, from numbers without a fraction and from text; flags also from
zero, one and words for yes and no.
-/

namespace NameSlots

/-- A checked value, or what is wrong. -/
abbrev Checked (α : Type) := Except (List Issue) α

/-- A check of data. -/
abbrev Check (α : Type) := Json → Checked α

namespace Check

variable {α β : Type}

/-- The one issue of data as a whole. -/
def fail (flaw : Flaw) (input : Json) : Checked α := .error [⟨flaw, [], input⟩]

/-- A function and its argument, with the issues of both. -/
def also (f : Checked (α → β)) (x : Checked α) : Checked β :=
  match f, x with
  | .ok f, .ok x => .ok (f x)
  | .error a, .error b => .error (a ++ b)
  | .error a, .ok _ => .error a
  | .ok _, .error b => .error b

/-- The issues of a part, as those of the whole. -/
def under (step : Step) : Checked α → Checked α
  | .ok x => .ok x
  | .error issues => .error (issues.map (·.under step))

/-- Any text. -/
def text : Check Text
  | .string s => .ok s
  | input => fail .notText input

/-- A text of one character or more. -/
def nonemptyText : Check Text
  | .string [] => fail .textTooShort (.string [])
  | .string s => .ok s
  | input => fail .notText input

/-- A value, or null for none. -/
def orNull (check : Check α) : Check (Option α)
  | .null => .ok none
  | input =>
    match check input with
    | .ok x => .ok (some x)
    | .error issues => .error issues

/-! ## Whole numbers -/

/-- The digits of a number with zeros before it, which may hold underscores: all from the first
other digit on, or from the last zero before a point. None if something else follows the zeros. -/
def dropZeros? (last : Char) : Text → Option Text
  | [] => some [last]
  | c :: rest =>
    if c = '0' || c = '_' then dropZeros? c rest
    else if '1' ≤ c && c ≤ '9' then some (c :: rest)
    else if c = '.' then some (last :: c :: rest)
    else none

/-- The number without zeros before it. -/
def dropLeadingZeros? : Text → Option Text
  | [] => none
  | c :: rest =>
    if c = '0' then dropZeros? c rest
    else if ('1' ≤ c && c ≤ '9') || c = '-' then some (c :: rest)
    else none

/-- The number without a point that only zeros follow. -/
def dropPlaces (t : Text) : Text :=
  if (t.dropWhile (· ≠ '.')).drop 1 |>.all (· = '0') then t.takeWhile (· ≠ '.') else t

/-- Whether two underscores stand side by side. -/
def doubleUnderscore : Text → Bool
  | '_' :: '_' :: _ => true
  | _ :: rest => doubleUnderscore rest
  | [] => false

/-- The number without single underscores inside it. -/
def dropUnderscores (t : Text) : Text :=
  if t.head? = some '_' || t.getLast? = some '_' || doubleUnderscore t then t
  else t.filter (· ≠ '_')

/-- A number in its plainest form: a minus sign perhaps, and digits without a zero before them. -/
def plainWhole? (t : Text) : Option Int :=
  let (negative, digits) := match t with
    | '-' :: rest => (true, rest)
    | _ => (false, t)
  let size : Int := Text.numeral 10 digits
  if digits.isEmpty || !digits.all Char.isDigit then none
  else if digits.head? = some '0' && digits.length > 1 then none
  else some (if negative then -size else size)

/-- The number of digits at the start of a number in its plainest form. -/
def leadingDigits (t : Text) : Nat :=
  let unsigned := match t with
    | '-' :: rest => rest
    | _ => t
  if unsigned.head? = some '0' then 1 else (unsigned.takeWhile Char.isDigit).length

/-- A whole number in text: blanks around it, a plus sign and zeros before it, single underscores
inside it and zeros after a point do not count. -/
def wholeOfText? (t : Text) : Option Int :=
  match plainWhole? t with
  | some n => some n
  | none => do
    let trimmed := Text.trimWhere Number.isMargin t
    let unsigned := match trimmed with
      | '+' :: rest => rest
      | _ => trimmed
    let digits := dropUnderscores (dropPlaces (← dropLeadingZeros? unsigned))
    if leadingDigits digits > Number.maxDigits then none else plainWhole? digits

/-- The size from which on a number with a point is no whole number. -/
def wholeLimit : Nat := 9223372036854775808

/-- A whole number. -/
def whole : Check Int
  | .int n => .ok n
  | .bool b => .ok b.toNat
  | .float x =>
    match x.truncate? with
    | none => fail .notFinite (.float x)
    | some n =>
      if !x.isWhole then fail .fraction (.float x)
      else if n.natAbs < wholeLimit then .ok n
      else fail .wholeTooLarge (.float x)
  | .string t =>
    if leadingDigits t > Number.maxDigits then fail .wholeTooLarge (.string t)
    else match wholeOfText? t with
      | some n => .ok n
      | none => fail .unreadableWhole (.string t)
  | input => fail .notWhole input

/-! ## Flags -/

def yesWords : List Text := ["1", "t", "y", "on", "yes", "true"].map (·.toList)

def noWords : List Text := ["0", "f", "n", "no", "off", "false"].map (·.toList)

/-- A flag. -/
def flag : Check Bool
  | .bool b => .ok b
  | .int n =>
    if n = 0 then .ok false
    else if n = 1 then .ok true
    else if -(wholeLimit : Int) ≤ n ∧ n < wholeLimit then fail .unreadableFlag (.int n)
    else fail .notFlag (.int n)
  | .float x =>
    match x.truncate? with
    | some n =>
      if !x.isWhole || wholeLimit ≤ n.natAbs then fail .notFlag (.float x)
      else if n = 0 then .ok false
      else if n = 1 then .ok true
      else fail .unreadableFlag (.float x)
    | none => fail .notFlag (.float x)
  | .string t =>
    let word := t.map Char.toLower
    if word ∈ noWords then .ok false
    else if word ∈ yesWords then .ok true
    else fail .unreadableFlag (.string t)
  | input => fail .notFlag input

/-! ## Lists, tables and records -/

/-- Items from an index on. -/
def items (check : Check α) (index : Nat) : List Json → Checked (List α)
  | [] => .ok []
  | item :: rest =>
    also (also (.ok List.cons) (under (.index index) (check item))) (items check (index + 1) rest)

/-- A list of items. -/
def list (check : Check α) : Check (List α)
  | .array all => items check 0 all
  | input => fail .notList input

/-- A list of one item or more. -/
def nonemptyList (check : Check α) : Check (List α)
  | .array [] => fail .listTooShort (.array [])
  | input => list check input

def entries (check : Check α) : List (Text × Json) → Checked (List (Text × α))
  | [] => .ok []
  | (name, value) :: rest =>
    also (also (.ok fun value rest => (name, value) :: rest) (under (.name name) (check value)))
      (entries check rest)

/-- A table of named values. -/
def table (check : Check α) : Check (List (Text × α))
  | .object fields => entries check fields
  | input => fail .notTable input

/-- The fields of a record. -/
abbrev Fields := List (Text × Json)

/-- A field that must be there. -/
def required (fields : Fields) (name : String) (check : Check α) : Checked α :=
  match fields.lookup name.toList with
  | some value => under (.name name.toList) (check value)
  | none => under (.name name.toList) (fail .missing (.object fields))

/-- A field with a value to take where it is not there. -/
def optional (fields : Fields) (name : String) (default : α) (check : Check α) : Checked α :=
  match fields.lookup name.toList with
  | some value => under (.name name.toList) (check value)
  | none => .ok default

/-- The fields that no name asks for. -/
def extras (names : List String) (fields : Fields) : List Issue :=
  (fields.filter fun field => !names.any (·.toList == field.1)).map fun (name, value) =>
    ⟨.extra, [.name name], value⟩

/-- A record with fields of given names and no others. -/
def record (title : String) (names : List String) (build : Fields → Checked α) : Check α
  | .object fields =>
    match build fields, extras names fields with
    | .ok x, [] => .ok x
    | .ok _, issues => .error issues
    | .error found, issues => .error (found ++ issues)
  | input => fail (.notRecord title.toList) input

end Check

end NameSlots
