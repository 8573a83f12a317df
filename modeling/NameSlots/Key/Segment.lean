import NameSlots.Regex.Flags
import NameSlots.Text.Basic

/-! The pieces of a key: literal text, embedded patterns with flags, and slots for names. -/

namespace NameSlots.Key

/-- A slot takes one name, or one name after another. -/
inductive Slot where
  | single
  | several
deriving DecidableEq

/-- How a slot is written in a key. -/
def Slot.text : Slot → Text
  | .single => "<p>".toList
  | .several => "<p,>".toList

/-- A piece of a key. -/
inductive Segment where
  | literal (text : Text)
  | regex (body flags : Text)
  | slot (which : Slot)
deriving DecidableEq

namespace Segment

/-- What the segment takes of the key. -/
def content : Segment → Text
  | .literal text => text
  | .regex body flags => '/' :: body ++ '/' :: flags
  | .slot which => which.text

def isSlot : Segment → Bool
  | .slot _ => true
  | _ => false

/-- The name of the segment's kind. -/
def kindText : Segment → Text
  | .literal _ => "literal".toList
  | .regex _ _ => "regex".toList
  | .slot _ => "name_slot".toList

end Segment

/-- The flag that a letter after an embedded pattern stands for; some letters are taken and stand
for none. -/
def letterFlag? : Char → Option Regex.Flags
  | 'i' => some { ignoreCase := true }
  | 'm' => some { multiline := true }
  | 's' => some { dotAll := true }
  | 'g' | 'u' | 'y' | 'd' | 'v' => some {}
  | _ => none

/-- All flags that letters stand for. -/
def unionFlags? : Text → Option Regex.Flags
  | [] => some {}
  | c :: rest => do
    let flag ← letterFlag? c
    let flags ← unionFlags? rest
    pure (flag.union flags)

/-- The flags after an embedded pattern; a letter may stand there once. -/
def readFlags? (letters : Text) : Option Regex.Flags :=
  if letters.Nodup then unionFlags? letters else none

end NameSlots.Key
