import NameSlots.Regex.Fault
import NameSlots.Regex.Node
import NameSlots.Regex.Token

/-! What a pattern says at one place: the items that its tokens form, one after the other. -/

namespace NameSlots.Regex

def malformed {α : Type} (why : Malformed) : Except Fault α := .error (.malformed why)

/-- Reads plain characters of a kind, `limit` of them at most. -/
def readRun (accept : Char → Bool) (limit : Nat) (tokens : List Token) :
    Except Fault (Text × List Token) := pure (takePlain accept limit tokens)

/-- A group that an earlier part of the pattern has opened, by its number or its name. -/
inductive GroupRef where
  | number (group : Nat)
  | name (text : Text)
deriving DecidableEq

/-- An item of a pattern. -/
inductive Item where
  /-- A comment, or a blank where blanks mean nothing. -/
  | blank
  | char (test : CharTest)
  | anchor (place : Anchor)
  | lineStart
  | lineEnd
  | boundary (negated : Bool)
  | backref (group : GroupRef)
  | times (greed : Greed) (least : Nat) (most : Option Nat)
  | bar
  | close
  /-- An opening parenthesis that captures, with the name of its group. -/
  | capture (name : Option Text)
  | bracket
  /-- An opening parenthesis that adds some flags and drops others. -/
  | flagged (add drop : Flags)
  | atomic
  | ahead (negated : Bool)
  | behind (negated : Bool)
  | condition (on : GroupRef)
  /-- Flags for the pattern as a whole. -/
  | global (add : Flags)
deriving DecidableEq

def Item.code (listed : Nat) : Item := .char (.code false listed)

end NameSlots.Regex
