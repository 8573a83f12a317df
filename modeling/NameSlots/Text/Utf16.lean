import NameSlots.Text.Utf8
import NameSlots.Unicode.Surrogate

/-!
Texts in units of two or four bytes, the least or the greatest byte of a unit first. A surrogate
without a partner becomes a replacement character.
-/

namespace NameSlots.Utf16

/-- Which byte of a unit comes first. -/
inductive ByteOrder where
  | least
  | greatest
deriving DecidableEq

/-- The size of a unit. -/
inductive UnitSize where
  | two
  | four
deriving DecidableEq

/-- Why bytes are no text. -/
inductive Reason where
  | truncated
  | range
deriving DecidableEq

/-- Bytes that are no text: the first of them, where it is, and how many they are. -/
structure Fault where
  size : UnitSize
  order : ByteOrder
  reason : Reason
  byte : UInt8
  position : Nat
  count : Nat
deriving DecidableEq

/-- The name of an encoding. -/
def encodingName : UnitSize → ByteOrder → String
  | .two, .least => "utf-16-le"
  | .two, .greatest => "utf-16-be"
  | .four, .least => "utf-32-le"
  | .four, .greatest => "utf-32-be"

def Reason.message : Reason → Text
  | .truncated => "truncated data".toList
  | .range => "code point not in range(0x110000)".toList

def Fault.message (fault : Fault) : Text :=
  Utf8.faultText (encodingName fault.size fault.order) fault.byte fault.position fault.count
    fault.reason.message

/-- The number that the bytes of a unit write. -/
def unit (order : ByteOrder) (bytes : Bytes) : Nat :=
  let ordered := match order with
    | .least => bytes.reverse
    | .greatest => bytes
  ordered.foldl (fun n b => 256 * n + b.toNat) 0

/-- The text of units of two bytes. -/
def joinUnits : List Nat → Text
  | [] => []
  | [code] => [Unicode.charOf code]
  | code :: next :: rest =>
    if Unicode.isHighSurrogate code && Unicode.isLowSurrogate next then
      Unicode.charOf (Unicode.joinSurrogates code next) :: joinUnits rest
    else Unicode.charOf code :: joinUnits (next :: rest)

/-- The units of two bytes of which the first one is at a position. -/
def pairs (order : ByteOrder) (position : Nat) : Bytes → Except Fault (List Nat)
  | [] => .ok []
  | [a] => .error ⟨.two, order, .truncated, a, position, 1⟩
  | a :: b :: rest => do
    let units ← pairs order (position + 2) rest
    pure (unit order [a, b] :: units)

/-- The text of units of four bytes of which the first one is at a position. -/
def quads (order : ByteOrder) (position : Nat) : Bytes → Except Fault Text
  | [] => .ok []
  | a :: b :: c :: d :: rest => do
    let code := unit order [a, b, c, d]
    if 0x10FFFF < code then throw ⟨.four, order, .range, a, position, 4⟩
    let text ← quads order (position + 4) rest
    pure (Unicode.charOf code :: text)
  | a :: rest => .error ⟨.four, order, .truncated, a, position, rest.length + 1⟩

/-- Decodes bytes of which the first one is at a position. -/
def decode (size : UnitSize) (order : ByteOrder) (position : Nat) (bytes : Bytes) :
    Except Fault Text :=
  match size with
  | .two => joinUnits <$> pairs order position bytes
  | .four => quads order position bytes

end NameSlots.Utf16
