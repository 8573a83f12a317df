import NameSlots.Number.Double
import NameSlots.Number.Whole

/-! Real numbers read from text: blanks around them, a sign, digits of any script with a point and a
power of ten, or a word for infinity or for no number. -/

namespace NameSlots.Number

def infinityWords : List Text := ["inf".toList, "infinity".toList]

/-- Digits after a point, if there is one. -/
def fraction : Text → List Nat × Text
  | '.' :: rest => digits false rest
  | t => ([], t)

/-- A power of ten after an `e`; none if there is none, and no digits after an `e` that stands
alone. -/
def power? : Text → Option (Option Int × Text)
  | c :: rest =>
    if c = 'e' || c = 'E' then
      let (negative, unsigned) := sign rest
      let (ds, left) := digits false unsigned
      let size : Int := ofDigits ds
      if ds.isEmpty then none else some (some (if negative then -size else size), left)
    else some (none, c :: rest)
  | [] => some (none, [])

/-- Reads a real number. -/
def real? (t : Text) : Option Double :=
  let (negative, unsigned) := sign (Text.trimWhere isMargin t)
  let word := unsigned.map Char.toLower
  if word ∈ infinityWords then some (.infinite negative)
  else if word = "nan".toList then some .nan
  else
    let (ds, rest) := digits false unsigned
    let (places, rest) := fraction rest
    match power? rest with
    | some (power, []) =>
      if ds.isEmpty && places.isEmpty then none
      else some (Double.ofDecimal negative (ofDigits (ds ++ places)) (power.getD 0 - places.length))
    | _ => none

end NameSlots.Number
