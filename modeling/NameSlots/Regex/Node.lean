import NameSlots.Regex.CharTest

/-! Patterns as trees. -/

namespace NameSlots.Regex

/-- A condition on a place between two characters. -/
inductive Anchor where
  | textStart
  | lineStart
  /-- The end of the text, or before the line feed that ends it. -/
  | lastLineEnd
  | lineEnd
  | textEnd
  | boundary (ascii : Bool)
  | noBoundary (ascii : Bool)
deriving DecidableEq

/-- How a repeat chooses the number of its rounds: as many as possible first, as few as possible
first, or as many as possible and never fewer. -/
inductive Greed where
  | greedy
  | reluctant
  | possessive
deriving DecidableEq

/-- A pattern. -/
inductive Node where
  | empty
  | seq (first second : Node)
  | alt (first second : Node)
  | one (flags : Flags) (test : CharTest)
  | anchor (place : Anchor)
  /-- Parentheses that capture under a number. -/
  | capture (group : Nat) (body : Node)
  /-- Parentheses that only group. -/
  | bracket (body : Node)
  /-- Parentheses whose first way to match is final. -/
  | atomic (body : Node)
  | backref (group : Nat) (flags : Flags)
  /-- One of two patterns, by whether a group took part. -/
  | conditional (group : Nat) (yes no : Node)
  | times (greed : Greed) (least : Nat) (most : Option Nat) (body : Node)
  | ahead (negated : Bool) (body : Node)
  /-- A pattern that matches the `width` characters before the place. -/
  | behind (negated : Bool) (width : Nat) (body : Node)
deriving DecidableEq

namespace Node

def isAnchor : Node → Bool
  | .anchor _ => true
  | _ => false

def isTimes : Node → Bool
  | .times .. => true
  | _ => false

/-- Patterns one after the other. -/
def sequence : List Node → Node
  | [] => .empty
  | node :: rest => .seq node (sequence rest)

/-- Patterns to try one after the other. -/
def choice : List Node → Node
  | [] => .empty
  | [node] => node
  | node :: rest => .alt node (choice rest)

end Node

end NameSlots.Regex
