import NameSlots.Number.Arithmetic
import NameSlots.Number.Real
import NameSlots.Number.Shortest
import NameSlots.Table
import NameSlots.Text.Base64
import NameSlots.Text.Lower
import NameSlots.Yaml.Tag

/-! Values of documents, and the values of scalars by their tags. -/

namespace NameSlots.Yaml

/-- A value of a document. -/
inductive Value where
  | null
  | bool (value : Bool)
  | int (value : Int)
  | float (value : Double)
  | text (value : Text)
  | bytes (value : Bytes)
  | time (value : Time)
  | list (items : List Value)
  | set (items : List Value)
  | pairs (items : List (Value × Value))
  | table (entries : List (Value × Value))
  /-- A collection that this place is in. -/
  | loop (number : Nat)

namespace Value

mutual

/-- Whether two values are the same. -/
def same : Value → Value → Bool
  | .null, .null => true
  | .bool a, .bool b => a == b
  | .int m, .int n => m == n
  | .float x, .float y => x == y
  | .text s, .text t => s == t
  | .bytes a, .bytes b => a == b
  | .time s, .time t => s == t
  | .list xs, .list ys => sameItems xs ys
  | .set xs, .set ys => sameItems xs ys
  | .pairs xs, .pairs ys => samePairs xs ys
  | .table xs, .table ys => samePairs xs ys
  | .loop m, .loop n => m == n
  | _, _ => false

def sameItems : List Value → List Value → Bool
  | [], [] => true
  | x :: xs, y :: ys => same x y && sameItems xs ys
  | _, _ => false

def samePairs : List (Value × Value) → List (Value × Value) → Bool
  | [], [] => true
  | (k, x) :: xs, (l, y) :: ys => same k l && same x y && samePairs xs ys
  | _, _ => false

end

instance : BEq Value := ⟨same⟩

/-- Whether a value can be a key: it is no collection. -/
def isKey : Value → Bool
  | .list _ | .set _ | .pairs _ | .table _ | .loop _ => false
  | _ => true

end Value

/-! ## Scalars -/

namespace Scalar

/-- A part of a number, read in base ten. -/
def wholePart (t : Text) : Except Fault Int :=
  match Number.whole t with
  | .ok n => .ok n
  | .error .invalid => .error (.invalidWhole 10 t)
  | .error (.tooManyDigits count) => .error (.tooManyDigits count)

/-- A number in another base. -/
def inBase (base : Nat) (t : Text) : Except Fault Int :=
  match Number.wholeIn? base t with
  | some n => .ok n
  | none => .error (.invalidWhole base t)

/-- A whole number after its sign: the characters at the front tell its base. -/
def unsignedInt (t : Text) : Except Fault Int :=
  match t with
  | [] => .error .emptyNumber
  | ['0'] => .ok 0
  | '0' :: 'b' :: rest => inBase 2 rest
  | '0' :: 'x' :: rest => inBase 16 rest
  | '0' :: _ => inBase 8 t
  | _ => do
    let parts ← (Text.splitAll ':' t).mapM wholePart
    pure (parts.foldl (fun n part => 60 * n + part) 0)

/-- Reads a whole number. -/
def readInt (written : Text) : Except Fault Int := do
  let t := written.filter (· != '_')
  let size ← unsignedInt (Tag.dropSign t)
  pure (if t.head? = some '-' then -size else size)

/-- A part of a real number. -/
def realPart (t : Text) : Except Fault Double :=
  match Number.real? t with
  | some x => .ok x
  | none => .error (.invalidReal t)

/-- The sum of parts, the last one first, each counting sixty times as much as the one before it. -/
def sexagesimal (weight : Nat) (sum : Double) : (parts : List Double) → Except Fault Double
  | [] => .ok sum
  | part :: rest =>
    match Double.ofInt weight with
    | .infinite _ => .error .weightOverflow
    | factor => sexagesimal (60 * weight) (sum.add (part.mul factor)) rest

/-- A real number after its sign. -/
def unsignedFloat (t : Text) : Except Fault Double :=
  if t == ".inf".toList then .ok (.infinite false)
  else if t == ".nan".toList then .ok .nan
  else if ':' ∈ t then do
    let parts ← (Text.splitAll ':' t).mapM realPart
    sexagesimal 1 Double.zero parts.reverse
  else realPart t

/-- Reads a real number. -/
def readFloat (written : Text) : Except Fault Double := do
  let t := Text.lower (written.filter (· != '_'))
  if t.isEmpty then throw .emptyNumber
  let size ← unsignedFloat (Tag.dropSign t)
  pure (if t.head? = some '-' then size.neg else size)

/-- Reads a truth value. -/
def readBool (written : Text) : Except Fault Bool :=
  let word := Text.lower written
  if word ∈ Tag.trueWords then .ok true
  else if word ∈ Tag.falseWords then .ok false
  else .error (.unknownWord word)

/-- Reads bytes. -/
def readBytes (written : Text) : Except Fault Bytes :=
  match Base64.decode? written with
  | some bytes => if written.all (·.toNat < 128) then .ok bytes else .error (.malformed .binary)
  | none => .error (.malformed .binary)

/-- Reads a time. -/
def readTime (written : Text) : Except Fault Time :=
  match Time.read? (Tag.dropLastBreak written) with
  | some time => do
    time.check
    pure time
  | none => .error .notTime

end Scalar

namespace Value

/-- The value of a scalar by a tag; none if the tag is one of collections. -/
def ofScalar? (tag : Tag) (written : Text) : Option (Except Fault Value) :=
  match tag with
  | .null => some (.ok .null)
  | .bool => some (.bool <$> Scalar.readBool written)
  | .int => some (.int <$> Scalar.readInt written)
  | .float => some (.float <$> Scalar.readFloat written)
  | .binary => some (.bytes <$> Scalar.readBytes written)
  | .time => some (.time <$> Scalar.readTime written)
  | .text => some (.ok (.text written))
  | .merge | .default | .unknown => some (.error (.malformed .unknownTag))
  | .list | .table | .set | .orderedPairs | .pairs => none

/-! ## Keys in messages -/

/-- The text of bytes in quotes. -/
def quotedBytes (content : Bytes) : Text :=
  let shown : Text := content.map fun b => Char.ofNat b.toNat
  let mark := if '\'' ∈ shown ∧ '"' ∉ shown then '"' else '\''
  let character (c : Char) : Text :=
    if 127 ≤ c.toNat then '\\' :: 'x' :: Text.hexDigits 2 c.toNat else Text.quoteChar mark c
  'b' :: mark :: shown.flatMap character ++ [mark]

/-- How a message shows a key. -/
def keyText : Value → Text
  | .null => "None".toList
  | .bool true => "True".toList
  | .bool false => "False".toList
  | .int n => Text.ofInt n
  | .float x => x.toText
  | .text t => Text.quoted t
  | .bytes content => quotedBytes content
  | .time moment => moment.text
  | _ => []

end Value

end NameSlots.Yaml
