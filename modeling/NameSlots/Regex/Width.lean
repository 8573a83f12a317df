/-! How many characters a pattern can match. -/

namespace NameSlots.Regex

/-- The fewest and the most characters that a pattern can match; both stop at `Width.limit`. -/
structure Width where
  least : Nat
  most : Nat
deriving DecidableEq

namespace Width

/-- Widths from here on count as endless. -/
def limit : Nat := 18446744073709551616

/-- The widest pattern that may stand in a lookbehind. -/
def lookbehindLimit : Nat := 4294967295

def zero : Width := ⟨0, 0⟩

def single : Width := ⟨1, 1⟩

/-- A pattern after another. -/
def add (a b : Width) : Width := ⟨min (a.least + b.least) limit, min (a.most + b.most) limit⟩

/-- A pattern or another. -/
def either (a b : Width) : Width := ⟨min a.least b.least, max a.most b.most⟩

/-- Rounds of a pattern. -/
def times (a : Width) (least : Nat) (most : Option Nat) : Width where
  least := min (a.least * least) limit
  most := match most with
    | some n => min (a.most * n) limit
    | none => if a.most = 0 then 0 else limit

end Width

end NameSlots.Regex
