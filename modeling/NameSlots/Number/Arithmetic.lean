import NameSlots.Number.Double
import NameSlots.Text.Basic

/-! Arithmetic of doubles: every result is the number nearest to the exact one. -/

namespace NameSlots.Double

/-- The quotient by a number that is not zero. -/
def div (x y : Double) : Double :=
  match x.units?, y.units? with
  | some a, some b => if b = 0 then .nan else ofRatio (x.isNegative != y.isNegative) a b
  | _, _ => .nan

def isZero (x : Double) : Bool := x.units? == some 0

/-- The product. A zero times an infinite number is no number. -/
def mul (x y : Double) : Double :=
  let negative := x.isNegative != y.isNegative
  match x, y with
  | .nan, _ | _, .nan => .nan
  | .infinite _, y => if y.isZero then .nan else .infinite negative
  | x, .infinite _ => if x.isZero then .nan else .infinite negative
  | x, y =>
    match x.units?, y.units? with
    | some a, some b => ofRatio negative (a * b) (unitsInOne * unitsInOne)
    | _, _ => .nan

/-- The sum. Infinite numbers of different signs add up to no number. -/
def add (x y : Double) : Double :=
  match x, y with
  | .nan, _ | _, .nan => .nan
  | .infinite s, .infinite t => if s == t then .infinite s else .nan
  | .infinite s, _ | _, .infinite s => .infinite s
  | x, y =>
    match x.signedUnits?, y.signedUnits? with
    | some a, some b => ofUnits (x.isNegative && y.isNegative) (a + b) 1
    | _, _ => .nan

/-- Whether a finite number is not above another one. -/
def le (x y : Double) : Bool :=
  match x.signedUnits?, y.signedUnits? with
  | some a, some b => a ≤ b
  | _, _ => false

/-- Whether two numbers have the same value; zeros of both signs have. -/
def equals : Double → Double → Bool
  | .infinite s, .infinite t => s == t
  | x, y => x.signedUnits?.isSome && x.signedUnits? == y.signedUnits?

/-- The least whole number that is not below a finite number. -/
def ceil? (x : Double) : Option Int :=
  x.units?.map fun units =>
    if x.isNegative then -(units / unitsInOne : Nat)
    else ((units + unitsInOne - 1) / unitsInOne : Nat)

/-- The number of steps of a power of ten in the size of a finite number, a half going to the even
one. -/
def decimals (places units : Nat) : Nat := roundDiv (units * Nat.pow 10 places) unitsInOne

/-- A finite number rounded to decimal places. -/
def roundTo (places : Nat) (x : Double) : Double :=
  match x.units? with
  | some units => ofDecimal x.isNegative (decimals places units) (-(places : Int))
  | none => x

/-- A size with a fixed number of decimal places. -/
def fixedText (places : Nat) (x : Double) : Text :=
  let steps := decimals places (x.units?.getD 0)
  let fraction := Text.ofNat (steps % Nat.pow 10 places)
  Text.ofNat (steps / Nat.pow 10 places) ++ '.' ::
    List.replicate (places - fraction.length) '0' ++ fraction

end NameSlots.Double
