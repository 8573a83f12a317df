/-! Surrogates: codes that stand for no character alone and for one in pairs. -/

namespace NameSlots.Unicode

/-- Whether a code is the first one of a pair. -/
def isHighSurrogate (code : Nat) : Bool := 0xD800 ≤ code && code ≤ 0xDBFF

/-- Whether a code is the second one of a pair. -/
def isLowSurrogate (code : Nat) : Bool := 0xDC00 ≤ code && code ≤ 0xDFFF

/-- The code of a pair. -/
def joinSurrogates (high low : Nat) : Nat := 0x10000 + 1024 * (high - 0xD800) + (low - 0xDC00)

/-- The character of a code; a surrogate without its partner becomes a replacement character. -/
def charOf (code : Nat) : Char :=
  Char.ofNat (if isHighSurrogate code || isLowSurrogate code then 0xFFFD else code)

end NameSlots.Unicode
