import NameSlots.Json.Reader
import NameSlots.Text.Utf16

/-! The bodies of requests: JSON in any of the encodings that its first bytes tell apart. -/

namespace NameSlots.Service

/-- How a text is encoded. -/
inductive Encoding where
  | utf8
  | wide (size : Utf16.UnitSize) (order : Utf16.ByteOrder)
deriving DecidableEq

/-- The encoding that a mark at the front tells, and the bytes after it. -/
def marked? : Bytes → Option (Encoding × Bytes)
  | 0x00 :: 0x00 :: 0xFE :: 0xFF :: rest => some (.wide .four .greatest, rest)
  | 0xFF :: 0xFE :: 0x00 :: 0x00 :: rest => some (.wide .four .least, rest)
  | 0xFE :: 0xFF :: rest => some (.wide .two .greatest, rest)
  | 0xFF :: 0xFE :: rest => some (.wide .two .least, rest)
  | 0xEF :: 0xBB :: 0xBF :: rest => some (.utf8, rest)
  | _ => none

/-- The encoding that the zero bytes of the first characters tell, which are ASCII. -/
def unmarked (bytes : Bytes) : Encoding :=
  match bytes with
  | a :: b :: c :: d :: _ =>
    if a == 0 then .wide (if b == 0 then .four else .two) .greatest
    else if b == 0 then .wide (if c == 0 && d == 0 then .four else .two) .least
    else .utf8
  | [a, b] =>
    if a == 0 then .wide .two .greatest else if b == 0 then .wide .two .least else .utf8
  | _ => .utf8

/-- Why a body is no JSON: bytes that are no text, or text that is no value. -/
inductive BodyFault where
  | utf8 (fault : Utf8.Fault)
  | wide (fault : Utf16.Fault)
  | json (text : Text) (fault : Json.Fault)

namespace BodyFault

def message : BodyFault → Text
  | .utf8 fault => fault.message
  | .wide fault => fault.message
  | .json text fault => fault.message text

end BodyFault

/-- The text of a body. A mark counts in the positions of units of two or four bytes. -/
def bodyText (bytes : Bytes) : Except BodyFault Text :=
  let (encoding, rest) := (marked? bytes).getD (unmarked bytes, bytes)
  match encoding with
  | .utf8 => (Utf8.decode rest).mapError .utf8
  | .wide size order => (Utf16.decode size order (bytes.length - rest.length) rest).mapError .wide

/-- The value of a body; an empty body is null. -/
def readBody (bytes : Bytes) : Except BodyFault Json :=
  if bytes.isEmpty then .ok .null
  else do
    let text ← bodyText bytes
    (Json.readWhole text).mapError (.json text)

end NameSlots.Service
