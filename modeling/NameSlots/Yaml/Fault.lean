import NameSlots.Number.Whole

/-! Why a text is no document. -/

namespace NameSlots.Yaml

/-- What is wrong with the form of a document. -/
inductive Malformed where
  | unprintable
  | character
  | directive
  | anchor
  | tag
  | blockScalar
  | quotedScalar
  | simpleKey
  | misplaced
  | nesting
  | undefinedAlias
  | repeatedAnchor
  | unknownTag
  | unsuitedTag
  | unhashableKey
  | merge
  | binary
deriving DecidableEq

/-- Why a text is no document: its form is wrong, or a value of a tag cannot be read. -/
inductive Fault where
  | malformed (what : Malformed)
  /-- A code beyond the last character. -/
  | codeTooLarge
  /-- A code beyond the largest number of a machine. -/
  | codeOverflow
  /-- A weight beyond the largest real number. -/
  | weightOverflow
  | invalidWhole (base : Nat) (text : Text)
  | tooManyDigits (count : Nat)
  /-- A number that has too many digits to be written. -/
  | unwritableWhole
  | invalidReal (text : Text)
  /-- A number without a character. -/
  | emptyNumber
  /-- No truth value. -/
  | unknownWord (word : Text)
  | notTime
  /-- A table for which a time is asked. -/
  | timeOfTable
  | yearRange
  | monthRange
  | dayRange
  | hourRange
  | minuteRange
  | secondRange
  /-- An offset of a day or more, in seconds. -/
  | offsetRange (seconds : Int)
deriving DecidableEq

/-- A duration in whole days and the seconds left over. -/
def durationText (seconds : Int) : Text :=
  let days := seconds / 86400
  let left := seconds % 86400
  let dayPart := if days = 0 then [] else ["days=".toList ++ Text.ofInt days]
  let secondPart := if left = 0 then [] else ["seconds=".toList ++ Text.ofInt left]
  let parts := dayPart ++ secondPart
  "datetime.timedelta(".toList ++ (if parts.isEmpty then ['0'] else Text.join ", ".toList parts) ++
    [')']

def Fault.message : Fault → Text
  | .malformed _ => []
  | .codeTooLarge => "chr() arg not in range(0x110000)".toList
  | .codeOverflow => "Python int too large to convert to C int".toList
  | .weightOverflow => "int too large to convert to float".toList
  | .invalidWhole base t => Number.invalidMessage base t
  | .tooManyDigits count => Number.tooManyDigitsMessage count
  | .unwritableWhole => Number.unwritableMessage
  | .invalidReal t => "could not convert string to float: ".toList ++ Text.quoted t
  | .emptyNumber => "string index out of range".toList
  | .unknownWord word => Text.quoted word
  | .notTime => "'NoneType' object has no attribute 'groupdict'".toList
  | .timeOfTable => "expected string or bytes-like object, got 'list'".toList
  | .yearRange => "year 0 is out of range".toList
  | .monthRange => "month must be in 1..12".toList
  | .dayRange => "day is out of range for month".toList
  | .hourRange => "hour must be in 0..23".toList
  | .minuteRange => "minute must be in 0..59".toList
  | .secondRange => "second must be in 0..59".toList
  | .offsetRange seconds =>
    let range := "offset must be a timedelta strictly between -timedelta(hours=24) and " ++
      "timedelta(hours=24), not "
    range.toList ++ durationText seconds ++ ['.']

end NameSlots.Yaml
