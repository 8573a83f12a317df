import NameSlots.Number.Double
import NameSlots.Text.Basic

/-!
The shortest decimal that reads back as a number, the nearest of them where there are several. It is
written without a power of ten from `1e-4` up to below `1e16`.
-/

namespace NameSlots.Double

/-- Ten to this power times the least positive number is more than one. -/
def liftPlaces : Nat := 343

/-- The number of digits before the decimal point of a positive size; it is negative where zeros
follow the point. -/
def pointPlace (units : Nat) : Int :=
  (Nat.toDigits 10 (units * Nat.pow 10 liftPlaces / unitsInOne)).length - liftPlaces

/-- The size as a multiple of a power of ten: a numerator and a denominator. -/
def inPowers (units : Nat) (power : Int) : Nat × Nat :=
  if power < 0 then (units * Nat.pow 10 power.natAbs, unitsInOne)
  else (units, unitsInOne * Nat.pow 10 power.natAbs)

/-- The neighbour of a size among the multiples of a power of ten that reads back as the number; of
two the nearer, and of two equally near ones the even one. -/
def neighbour? (x : Double) (units : Nat) (power : Int) : Option Nat :=
  let (n, d) := inPowers units power
  let below := n / d
  let twice := 2 * (n % d)
  let readsBack (digits : Nat) : Bool := ofDecimal x.isNegative digits power == x
  let belowIsNearer := twice < d || (twice == d && below % 2 == 0)
  match readsBack below, readsBack (below + 1) with
  | true, true => some (if belowIsNearer then below else below + 1)
  | true, false => some below
  | false, true => some (below + 1)
  | false, false => none

/-- The digits of the shortest decimal and its power of ten, from `count` digits on. -/
def shortestFrom (x : Double) (units : Nat) (place : Int) : (left count : Nat) → Nat × Int
  | 0, count => (roundDiv (inPowers units (place - count)).1 (inPowers units (place - count)).2,
      place - count)
  | left + 1, count =>
    match neighbour? x units (place - count) with
    | some digits => (digits, place - count)
    | none => shortestFrom x units place left (count + 1)

/-- No number needs more digits. -/
def mostDigits : Nat := 17

/-- Digits with the point after the first `place` of them. -/
def positional (digits : Text) (place : Int) : Text :=
  if place ≤ 0 then "0.".toList ++ List.replicate place.natAbs '0' ++ digits
  else if digits.length ≤ place.natAbs then
    digits ++ List.replicate (place.natAbs - digits.length) '0' ++ ".0".toList
  else digits.take place.natAbs ++ '.' :: digits.drop place.natAbs

/-- Digits with the point after the first of them and a power of ten. -/
def scientific (digits : Text) (place : Int) : Text :=
  let fraction := match digits.drop 1 with
    | [] => []
    | rest => '.' :: rest
  let power := place - 1
  let size := Text.ofNat power.natAbs
  digits.take 1 ++ fraction ++ ['e', if power < 0 then '-' else '+'] ++
    List.replicate (2 - size.length) '0' ++ size

/-- Digits without the zeros that end them. -/
def trimZeros (digits : Text) : Text := (digits.reverse.dropWhile (· = '0')).reverse

/-- The size of a finite number in decimal. -/
def sizeText (x : Double) (units : Nat) : Text :=
  if units = 0 then "0.0".toList
  else
    let (number, power) := shortestFrom x units (pointPlace units) mostDigits 1
    let written := Text.ofNat number
    let place := written.length + power
    let digits := trimZeros written
    if -4 < place ∧ place ≤ 16 then positional digits place else scientific digits place

/-- The number in decimal. -/
def toText (x : Double) : Text :=
  match x with
  | .nan => "nan".toList
  | .infinite negative => if negative then "-inf".toList else "inf".toList
  | .finite negative mantissa exponent =>
    let size := sizeText x (mantissa * Nat.pow 2 exponent)
    if negative then '-' :: size else size

end NameSlots.Double
