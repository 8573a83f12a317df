/-!
Binary floating-point numbers of double precision. A finite number counts units of `2 ^ -1074`, the
least distance of two numbers, so that all arithmetic is on natural numbers; a ratio is rounded to
the nearest number, and of two equally near ones to the one with an even mantissa.
-/

namespace NameSlots

/-- A number of double precision. A finite one is its mantissa times `2 ^ exponent` units. -/
inductive Double where
  | nan
  | infinite (negative : Bool)
  | finite (negative : Bool) (mantissa exponent : Nat)
deriving DecidableEq

/-- The quotient rounded to the nearest whole number, a half to the even one. -/
def roundDiv (n d : Nat) : Nat :=
  let q := n / d
  let twice := 2 * (n % d)
  if twice < d then q else if d < twice then q + 1 else q + q % 2

namespace Double

/-- The number of units in one. -/
def unitsInOne : Nat := Nat.pow 2 1074

/-- The number of bits after the first one of a mantissa. -/
def mantissaPlaces : Nat := 52

/-- The largest exponent of a finite number. -/
def maxExponent : Nat := 2045

def zero : Double := .finite false 0 0

/-- A mantissa that may have been rounded up to the next power of two. -/
def assemble (negative : Bool) (mantissa exponent : Nat) : Double :=
  let (mantissa, exponent) :=
    if mantissa = Nat.pow 2 (mantissaPlaces + 1) then (Nat.pow 2 mantissaPlaces, exponent + 1)
    else (mantissa, exponent)
  if maxExponent < exponent then .infinite negative else .finite negative mantissa exponent

/-- The number nearest to a ratio. -/
def ofRatio (negative : Bool) (n d : Nat) : Double :=
  let units := n * unitsInOne
  let exponent := (units / d).log2 - mantissaPlaces
  assemble negative (roundDiv units (d * Nat.pow 2 exponent)) exponent

/-- The number nearest to a whole number. -/
def ofInt (n : Int) : Double := ofRatio (n < 0) n.natAbs 1

/-- Decimal numbers with more digits than this before the point are infinite, and those with more
zeros than this after the point are zero. -/
def decimalRange : Nat := 400

/-- The number nearest to `n` times a power of ten. -/
def ofDecimal (negative : Bool) (n : Nat) (power : Int) : Double :=
  let places := (Nat.toDigits 10 n).length + power
  if n = 0 then .finite negative 0 0
  else if places > decimalRange then .infinite negative
  else if places < -(decimalRange : Int) then .finite negative 0 0
  else if power < 0 then ofRatio negative n (Nat.pow 10 power.natAbs)
  else ofRatio negative (n * Nat.pow 10 power.natAbs) 1

def isNegative : Double → Bool
  | .nan => false
  | .infinite negative => negative
  | .finite negative _ _ => negative

/-- The size of a finite number, in units. -/
def units? : Double → Option Nat
  | .finite _ mantissa exponent => some (mantissa * Nat.pow 2 exponent)
  | _ => none

/-- The whole number that is left when the places after the point are dropped. -/
def truncate? (x : Double) : Option Int :=
  x.units?.map fun units =>
    let whole : Int := (units / unitsInOne : Nat)
    if x.isNegative then -whole else whole

/-- Whether the number is finite and whole. -/
def isWhole (x : Double) : Bool := x.units?.any (· % unitsInOne == 0)

/-- The number with its sign changed. -/
def neg : Double → Double
  | .nan => .nan
  | .infinite negative => .infinite (!negative)
  | .finite negative mantissa exponent => .finite (!negative) mantissa exponent

/-- The size of a finite number in units, with its sign. -/
def signedUnits? (x : Double) : Option Int :=
  x.units?.map fun units => if x.isNegative then -(units : Int) else units

/-- The number nearest to a signed number of parts of a unit. -/
def ofUnits (negativeZero : Bool) (n : Int) (parts : Nat) : Double :=
  if n = 0 then .finite negativeZero 0 0
  else ofRatio (n < 0) n.natAbs (parts * unitsInOne)

end Double

end NameSlots
