import NameSlots.Text.Quoted
import NameSlots.Unicode.Blank
import NameSlots.Unicode.Digit

/-! Whole numbers read from text: blanks around them, a sign, digits of any script, and single
underscores between digits. -/

namespace NameSlots.Number

/-- The most digits that a number may have in text. -/
def maxDigits : Nat := 4300

/-- Why a text is not a whole number. -/
inductive WholeError where
  | invalid
  | tooManyDigits (count : Nat)
deriving DecidableEq

def tooManyDigitsMessage (count : Nat) : Text :=
  "Exceeds the limit (4300 digits) for integer string conversion: value has ".toList ++
    Text.ofNat count ++
    " digits; use sys.set_int_max_str_digits() to increase the limit".toList

/-- What is said of a number with more digits than a text may have. -/
def unwritableMessage : Text :=
  ("Exceeds the limit (4300 digits) for integer string conversion; " ++
    "use sys.set_int_max_str_digits() to increase the limit").toList

/-- Whether a number has few enough digits to be written. -/
def isWritable (n : Int) : Bool := (Text.ofNat n.natAbs).length ≤ maxDigits

/-- The most characters of a bad number that a message shows. -/
def shownLength : Nat := 200

/-- What is said of a text that is no whole number in a base. -/
def invalidMessage (base : Nat) (t : Text) : Text :=
  "invalid literal for int() with base ".toList ++ Text.ofNat base ++ ": ".toList ++
    (Text.quoted t).take shownLength

/-- White space that may stand around a number: any but the ASCII information separators. -/
def isMargin (c : Char) : Bool := Unicode.isBlank c && !(28 ≤ c.toNat && c.toNat ≤ 31)

/-- The digits at the front, underscores between them left out, and what follows them. `afterDigit`
tells whether an underscore may come next. -/
def digits (afterDigit : Bool) : Text → List Nat × Text
  | [] => ([], [])
  | c :: rest =>
    match Unicode.digitValue? c with
    | some d =>
      let (ds, left) := digits true rest
      (d :: ds, left)
    | none =>
      match afterDigit && c == '_', rest with
      | true, next :: _ =>
        if Unicode.isDigit next then digits false rest else ([], c :: rest)
      | _, _ => ([], c :: rest)

/-- The number written by digits, most significant first. -/
def ofDigits (ds : List Nat) : Nat := ds.foldl (fun n d => 10 * n + d) 0

/-- A sign at the front, and what follows it. -/
def sign : Text → Bool × Text
  | '-' :: rest => (true, rest)
  | '+' :: rest => (false, rest)
  | t => (false, t)

/-- Reads a whole number. -/
def whole (t : Text) : Except WholeError Int :=
  let (negative, unsigned) := sign (t.dropWhile isMargin)
  let (ds, left) := digits false unsigned
  if ds.isEmpty then .error .invalid
  else if ds.length > maxDigits then .error (.tooManyDigits ds.length)
  else if left.all isMargin then
    .ok (if negative then -(ofDigits ds : Int) else ofDigits ds)
  else .error .invalid

/-! ## Other bases -/

/-- The value of a digit or of a letter after the digits. -/
def baseDigit? (c : Char) : Option Nat :=
  match Unicode.digitValue? c with
  | some d => some d
  | none =>
    let small := c.toLower
    if 'a' ≤ small && small ≤ 'z' then some (small.toNat - 87) else none

/-- The letter that marks a base after a zero. -/
def baseMark? : Nat → Option Char
  | 2 => some 'b'
  | 8 => some 'o'
  | 16 => some 'x'
  | _ => none

/-- The digits without a zero and the mark of their base before them. -/
def dropMark (base : Nat) (t : Text) : Text :=
  match t with
  | '0' :: c :: rest => if some c.toLower = baseMark? base then rest else t
  | _ => t

/-- Reads a whole number in a base, with blanks around it, a sign and the mark of its base. -/
def wholeIn? (base : Nat) (t : Text) : Option Int := do
  let (negative, unsigned) := sign (Text.trimWhere isMargin t)
  let ds ← (dropMark base unsigned).mapM baseDigit?
  if ds.isEmpty || ds.any (base ≤ ·) then none
  else
    let size : Nat := ds.foldl (fun n d => base * n + d) 0
    some (if negative then -(size : Int) else size)

end NameSlots.Number
