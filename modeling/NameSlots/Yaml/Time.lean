import NameSlots.Text.Hex
import NameSlots.Yaml.Fault

/-! Dates and times of day, as they are written and as values of the calendar. -/

namespace NameSlots.Yaml

/-- A day of the calendar. -/
structure Date where
  year : Nat
  month : Nat
  day : Nat
deriving DecidableEq

/-- A time of day, with millionths of a second. -/
structure Clock where
  hour : Nat
  minute : Nat
  second : Nat
  micro : Nat
deriving DecidableEq

/-- A day, or a time on a day with its offset in seconds if it is given. -/
inductive Time where
  | dayOnly (date : Date)
  | moment (date : Date) (clock : Clock) (offset : Option Int)
deriving DecidableEq

/-! ## As it is written -/

/-- Decimal digits at the front, at least and at most so many, and what follows them. -/
def takeDigits (least most : Nat) (t : Text) : Option (Nat × Text) :=
  let digits := (t.take most).takeWhile Char.isDigit
  if digits.length < least then none
  else some (Text.numeral 10 digits, t.drop digits.length)

/-- What follows a character at the front. -/
def dropChar? (c : Char) (t : Text) : Option Text := Text.dropFront? [c] t

/-- The millionths that the digits after a point write; later digits do not count. -/
def millionths (digits : Text) : Nat :=
  Text.numeral 10 ((digits ++ "000000".toList).take 6)

/-- A fraction of a second, if there is a point. -/
def takeFraction (t : Text) : Nat × Text :=
  match t with
  | '.' :: rest => (millionths (rest.takeWhile Char.isDigit), rest.dropWhile Char.isDigit)
  | _ => (0, t)

/-- The minutes of an offset, if there is a colon. -/
def takeOffsetMinutes (t : Text) : Option (Nat × Text) :=
  match t with
  | ':' :: rest => takeDigits 2 2 rest
  | _ => some (0, t)

/-- The rest of a text as an offset in seconds. -/
def offset? (t : Text) : Option (Option Int) :=
  if t.isEmpty then some none
  else match t.dropWhile fun c => c == ' ' || c == '\t' with
    | ['Z'] => some (some 0)
    | mark :: rest =>
      if mark == '+' || mark == '-' then do
        let (hours, rest) ← takeDigits 1 2 rest
        let (minutes, rest) ← takeOffsetMinutes rest
        let size : Int := (60 * hours + minutes) * 60
        if rest.isEmpty then some (some (if mark == '-' then -size else size)) else none
      else none
    | [] => none

/-- What follows the mark between a day and a time of day: a letter, or blanks. -/
def dropTimeMark? : Text → Option Text
  | 'T' :: rest | 't' :: rest => some rest
  | ' ' :: rest | '\t' :: rest => some (rest.dropWhile fun c => c == ' ' || c == '\t')
  | _ => none

/-- Reads the rest of a text as a time of day. -/
def clock? (t : Text) : Option (Clock × Option Int) := do
  let (hour, t) ← takeDigits 1 2 (← dropTimeMark? t)
  let (minute, t) ← takeDigits 2 2 (← dropChar? ':' t)
  let (second, t) ← takeDigits 2 2 (← dropChar? ':' t)
  let (micro, t) := takeFraction t
  let offset ← offset? t
  pure (⟨hour, minute, second, micro⟩, offset)

/-- Reads a day or a time on a day; its parts may still be out of range. -/
def Time.read? (t : Text) : Option Time := do
  let (year, t) ← takeDigits 4 4 t
  let (month, t) ← takeDigits 1 2 (← dropChar? '-' t)
  let (day, t) ← takeDigits 1 2 (← dropChar? '-' t)
  if t.isEmpty then some (.dayOnly ⟨year, month, day⟩)
  else do
    let (clock, offset) ← clock? t
    some (.moment ⟨year, month, day⟩ clock offset)

/-- Whether a text is a day or a time on a day by its form alone: a month and a day without a time
have two digits. -/
def isTime (t : Text) : Bool :=
  match Time.read? t with
  | some (.dayOnly _) => t.length == "0000-00-00".length
  | some (.moment _ _ _) => true
  | none => false

/-! ## The calendar -/

def isLeapYear (year : Nat) : Bool := year % 4 == 0 && (year % 100 != 0 || year % 400 == 0)

/-- The number of days in a month. -/
def monthDays (year month : Nat) : Nat :=
  if month == 2 then (if isLeapYear year then 29 else 28)
  else if month ∈ [4, 6, 9, 11] then 30
  else 31

/-- A day that is in the calendar. -/
def Date.check (date : Date) : Except Fault Unit :=
  if date.year = 0 then .error .yearRange
  else if date.month = 0 ∨ 12 < date.month then .error .monthRange
  else if date.day = 0 ∨ monthDays date.year date.month < date.day then .error .dayRange
  else .ok ()

/-- A time that there is on every day. -/
def Clock.check (clock : Clock) : Except Fault Unit :=
  if 23 < clock.hour then .error .hourRange
  else if 59 < clock.minute then .error .minuteRange
  else if 59 < clock.second then .error .secondRange
  else .ok ()

/-- The number of seconds in a day. -/
def daySeconds : Nat := 86400

/-- An offset of less than a day. -/
def checkOffset : Option Int → Except Fault Unit
  | some seconds => if daySeconds ≤ seconds.natAbs then .error (.offsetRange seconds) else .ok ()
  | none => .ok ()

/-- A time all of whose parts are in range. -/
def Time.check : Time → Except Fault Unit
  | .dayOnly date => date.check
  | .moment date clock offset => do
    checkOffset offset
    date.check
    clock.check

/-! ## As text -/

/-- Numbers with commas between them. -/
def numbersText (numbers : List Nat) : Text := Text.join ", ".toList (numbers.map Text.ofNat)

/-- The seconds of a time of day; none where it is on the minute. -/
def Clock.secondParts (clock : Clock) : List Nat :=
  if clock.micro ≠ 0 then [clock.second, clock.micro]
  else if clock.second ≠ 0 then [clock.second]
  else []

def offsetText : Option Int → Text
  | none => []
  | some 0 => ", tzinfo=datetime.timezone.utc".toList
  | some seconds => ", tzinfo=datetime.timezone(".toList ++ durationText seconds ++ [')']

/-- How messages show a time. -/
def Time.text : Time → Text
  | .dayOnly date =>
    "datetime.date(".toList ++ numbersText [date.year, date.month, date.day] ++ [')']
  | .moment date clock offset =>
    "datetime.datetime(".toList ++
      numbersText ([date.year, date.month, date.day, clock.hour, clock.minute] ++
        clock.secondParts) ++ offsetText offset ++ [')']

end NameSlots.Yaml
