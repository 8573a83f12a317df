/-! Flags of a pattern: those in force at a place, and how inline groups change them. -/

namespace NameSlots.Regex

/-- A set of flags. -/
structure Flags where
  ignoreCase : Bool := false
  multiline : Bool := false
  dotAll : Bool := false
  verbose : Bool := false
  ascii : Bool := false
  unicode : Bool := false
  template : Bool := false
deriving DecidableEq

namespace Flags

/-- The flag that a letter stands for inside a pattern. -/
def ofLetter? : Char → Option Flags
  | 'i' => some { ignoreCase := true }
  | 'm' => some { multiline := true }
  | 's' => some { dotAll := true }
  | 'x' => some { verbose := true }
  | 'a' => some { ascii := true }
  | 'u' => some { unicode := true }
  | 't' => some { template := true }
  | _ => none

def union (a b : Flags) : Flags where
  ignoreCase := a.ignoreCase || b.ignoreCase
  multiline := a.multiline || b.multiline
  dotAll := a.dotAll || b.dotAll
  verbose := a.verbose || b.verbose
  ascii := a.ascii || b.ascii
  unicode := a.unicode || b.unicode
  template := a.template || b.template

def without (a b : Flags) : Flags where
  ignoreCase := a.ignoreCase && !b.ignoreCase
  multiline := a.multiline && !b.multiline
  dotAll := a.dotAll && !b.dotAll
  verbose := a.verbose && !b.verbose
  ascii := a.ascii && !b.ascii
  unicode := a.unicode && !b.unicode
  template := a.template && !b.template

/-- Whether a flag is in both sets. -/
def meets (a b : Flags) : Bool := a.without b != a

/-- Whether the set chooses between ASCII and Unicode. -/
def choosesAlphabet (a : Flags) : Bool := a.ascii || a.unicode

/-- The flags inside a group that adds some and drops others: a choice of alphabet replaces the
outer one. -/
def within (outer add drop : Flags) : Flags :=
  let kept := if add.choosesAlphabet then { outer with ascii := false, unicode := false } else outer
  (kept.union add).without drop

end Flags

end NameSlots.Regex
