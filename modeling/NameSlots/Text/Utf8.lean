import NameSlots.Text.Quoted

/-! UTF-8. A fault tells the bytes at which decoding stopped, and why. -/

namespace NameSlots

/-- Bytes in order. -/
abbrev Bytes := List UInt8

namespace Utf8

/-- Why bytes are not UTF-8. -/
inductive Reason where
  | startByte
  | continuation
  | truncated
deriving DecidableEq

/-- Bytes that are not UTF-8: the first of them, where it is, and how many they are. -/
structure Fault where
  reason : Reason
  byte : UInt8
  position : Nat
  count : Nat
deriving DecidableEq

def Reason.message : Reason → Text
  | .startByte => "invalid start byte".toList
  | .continuation => "invalid continuation byte".toList
  | .truncated => "unexpected end of data".toList

/-- What is said of bytes that are no text: the name of the encoding, the first of them, where it
is, how many they are, and why. -/
def faultText (encoding : String) (byte : UInt8) (position count : Nat) (reason : Text) : Text :=
  let place :=
    if count = 1 then
      "byte 0x".toList ++ Text.hexDigits 2 byte.toNat ++ " in position ".toList ++
        Text.ofNat position
    else
      "bytes in position ".toList ++ Text.ofNat position ++ '-' ::
        Text.ofNat (position + count - 1)
  '\'' :: encoding.toList ++ "' codec can't decode ".toList ++ place ++ ": ".toList ++ reason

def Fault.message (fault : Fault) : Text :=
  faultText "utf-8" fault.byte fault.position fault.count fault.reason.message

/-- Whether a byte may follow the first one of a character. -/
def isContinuation (b : UInt8) : Bool := 0x80 ≤ b && b < 0xC0

/-- Whether the second byte of a character may follow the first one: it gives no character a longer
form than needed, no surrogate and none beyond the last code point. -/
def mayFollow (first second : UInt8) : Bool :=
  isContinuation second &&
    (if first = 0xE0 then 0xA0 ≤ second
     else if first = 0xED then second < 0xA0
     else if first = 0xF0 then 0x90 ≤ second
     else if first = 0xF4 then second < 0x90
     else true)

/-- The number of bytes that follow the first one of a character. -/
def followers? (first : UInt8) : Option Nat :=
  if first < 0x80 then some 0
  else if first < 0xC2 then none
  else if first < 0xE0 then some 1
  else if first < 0xF0 then some 2
  else if first < 0xF5 then some 3
  else none

/-- The six bits of a byte that follows. -/
def lowBits (b : UInt8) : Nat := b.toNat % 64

/-- A character with the number of bytes after its first one, or a reason with the number of bytes
that it concerns. -/
def decodeChar (first : UInt8) (rest : Bytes) : Except (Reason × Nat) (Char × Nat) :=
  match followers? first, rest with
  | none, _ => .error (.startByte, 1)
  | some 0, _ => .ok (Char.ofNat first.toNat, 0)
  | some _, [] => .error (.truncated, 1)
  | some 1, b :: _ =>
    if mayFollow first b then .ok (Char.ofNat (64 * (first.toNat % 32) + lowBits b), 1)
    else .error (.continuation, 1)
  | some 2, b :: rest =>
    if !mayFollow first b then .error (.continuation, 1)
    else match rest with
      | [] => .error (.truncated, 2)
      | c :: _ =>
        if isContinuation c then
          .ok (Char.ofNat (4096 * (first.toNat % 16) + 64 * lowBits b + lowBits c), 2)
        else .error (.continuation, 2)
  | some _, b :: rest =>
    if !mayFollow first b then .error (.continuation, 1)
    else match rest with
      | [] => .error (.truncated, 2)
      | c :: rest =>
        if !isContinuation c then .error (.continuation, 2)
        else match rest with
          | [] => .error (.truncated, 3)
          | d :: _ =>
            if isContinuation d then
              .ok (Char.ofNat (262144 * (first.toNat % 8) + 4096 * lowBits b + 64 * lowBits c +
                lowBits d), 3)
            else .error (.continuation, 3)

/-- Decodes bytes of which the first one is at a position. -/
def decodeFrom (position : Nat) (bytes : Bytes) : Except Fault Text :=
  match bytes with
  | [] => .ok []
  | first :: rest =>
    match decodeChar first rest with
    | .error (reason, count) => .error ⟨reason, first, position, count⟩
    | .ok (c, n) =>
      match decodeFrom (position + n + 1) (rest.drop n) with
      | .ok t => .ok (c :: t)
      | .error fault => .error fault
termination_by bytes.length

/-- Decodes bytes. -/
def decode (bytes : Bytes) : Except Fault Text := decodeFrom 0 bytes

/-- The bytes of a character. -/
def encodeChar (c : Char) : Bytes :=
  let n := c.toNat
  if n < 0x80 then [n.toUInt8]
  else if n < 0x800 then [(0xC0 + n / 64).toUInt8, (0x80 + n % 64).toUInt8]
  else if n < 0x10000 then
    [(0xE0 + n / 4096).toUInt8, (0x80 + n / 64 % 64).toUInt8, (0x80 + n % 64).toUInt8]
  else
    [(0xF0 + n / 262144).toUInt8, (0x80 + n / 4096 % 64).toUInt8, (0x80 + n / 64 % 64).toUInt8,
      (0x80 + n % 64).toUInt8]

/-- The bytes of a text. -/
def encode (t : Text) : Bytes := t.flatMap encodeChar

end Utf8

end NameSlots
