import NameSlots.Regex.Flags
import NameSlots.Unicode.Blank
import NameSlots.Unicode.Case
import NameSlots.Unicode.Digit
import NameSlots.Unicode.Word

/-! Tests on one character: a code point, a class of code points, or any character. -/

namespace NameSlots.Regex

open Unicode

/-- A kind of character with an escape of its own. -/
inductive CharKind where
  | digit
  | blank
  | word
deriving DecidableEq

/-- Whether a character is of a kind; `ascii` keeps to the ASCII characters. -/
def CharKind.holds (ascii : Bool) : CharKind → Char → Bool
  | .digit, c => if ascii then c.isDigit else isDigit c
  | .blank, c => if ascii then isAsciiBlank c else isBlank c
  | .word, c => if ascii then isAsciiWord c else isWord c

/-- A member of a character class. -/
inductive ClassItem where
  | code (listed : Nat)
  | range (first last : Nat)
  | kind (what : CharKind) (negated : Bool)
deriving DecidableEq

/-- A test on one character. -/
inductive CharTest where
  | any
  | code (negated : Bool) (listed : Nat)
  | oneOf (negated : Bool) (items : List ClassItem)
deriving DecidableEq

/-- The last code point of the basic plane. -/
def basicPlaneEnd : Nat := 0xFFFF

namespace ClassItem

/-- Whether the item makes its class compare lower cases when case is ignored: it is beyond the
basic plane or has a letter with another case. -/
def foldsCase (ascii : Bool) : ClassItem → Bool
  | .code c => c > basicPlaneEnd || (if ascii then isAsciiLetter c else isCased c)
  | .range first last =>
    last > basicPlaneEnd ||
      (if ascii then (first ≤ 90 && 65 ≤ last) || (first ≤ 122 && 97 ≤ last)
       else anyCased first last)
  | .kind _ _ => false

/-- Whether a character is what the item lists. -/
def holds (ascii : Bool) (item : ClassItem) (c : Char) : Bool :=
  match item with
  | .code listed => c.toNat == listed
  | .range first last => first ≤ c.toNat && c.toNat ≤ last
  | .kind what negated => what.holds ascii c != negated

/-- Whether a lower-case character stands for what the item lists. Listed code points of the basic
plane count with all letters of the same case pair; a single one beyond it counts as written, and
a range beyond it counts with the upper case of the character too. -/
def holdsFolded (ascii : Bool) (item : ClassItem) (c : Nat) : Bool :=
  let lowerOf := if ascii then asciiLower else lower
  let also := if ascii then [] else alsoLower c
  match item with
  | .code listed =>
    if listed > basicPlaneEnd then c == listed else (c :: also).contains (lowerOf listed)
  | .range first last =>
    let basicLast := min last basicPlaneEnd
    let listed (source : Nat) : Bool := first ≤ source && source ≤ basicLast
    let sources (small : Nat) : List Nat :=
      if ascii then (if lowerOf small == small then [small] else []) ++
        (if 97 ≤ small && small ≤ 122 then [small - 32] else [])
      else lowerSources small
    ((c :: also).any fun small => (sources small).any listed) ||
      (last > basicPlaneEnd &&
        ((first ≤ c && c ≤ last) || (first ≤ upper c && upper c ≤ last)))
  | .kind what negated => what.holds ascii (Char.ofNat c) != negated

end ClassItem

namespace CharTest

/-- Whether a code point matches a listed one when case is ignored. -/
def sameFolded (ascii : Bool) (listed c : Nat) : Bool :=
  if ascii then
    if isAsciiLetter listed then asciiLower c == asciiLower listed else c == listed
  else if isCased listed then (lower listed :: alsoLower (lower listed)).contains (lower c)
  else c == listed

/-- Whether a character passes a test under the flags in force. -/
def holds (flags : Flags) (test : CharTest) (c : Char) : Bool :=
  match test with
  | .any => flags.dotAll || c != '\n'
  | .code negated listed =>
    (if flags.ignoreCase then sameFolded flags.ascii listed c.toNat
     else c.toNat == listed) != negated
  | .oneOf negated items =>
    (if flags.ignoreCase && items.any (·.foldsCase flags.ascii) then
      let folded := if flags.ascii then asciiLower c.toNat else lower c.toNat
      items.any (·.holdsFolded flags.ascii folded)
     else items.any (·.holds flags.ascii c)) != negated

end CharTest

end NameSlots.Regex
