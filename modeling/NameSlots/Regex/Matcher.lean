import NameSlots.Regex.Node

/-!
Backtracking. A matcher is given a spot and what is left to do, and gives the first spot at the end
of it all, trying its own ways in order. Every combinator here is total: a repeat runs for as many
rounds as its least count and the rest of the text allow.
-/

namespace NameSlots.Regex

/-- How far a match has come, and where groups were opened and closed on the way, the latest first.
-/
structure Spot where
  pos : Nat
  opened : List (Nat × Nat) := []
  closed : List (Nat × Nat) := []
deriving DecidableEq

/-- Where a group starts and ends, if it took part. -/
def Spot.span? (spot : Spot) (group : Nat) : Option (Nat × Nat) :=
  match spot.opened.lookup group, spot.closed.lookup group with
  | some first, some last => if first ≤ last then some (first, last) else none
  | _, _ => none

/-- Goes on from a spot with what is left to do. -/
abbrev Matcher := Spot → (Spot → Option Spot) → Option Spot

namespace Matcher

/-- The first way to match by itself. -/
def first (body : Matcher) (spot : Spot) : Option Spot := body spot some

/-- One after the other. -/
def both (a b : Matcher) : Matcher := fun spot rest => a spot fun spot => b spot rest

/-- One or else the other. -/
def either (a b : Matcher) : Matcher := fun spot rest =>
  match a spot rest with
  | some found => some found
  | none => b spot rest

/-- Whether another round may follow `count` rounds. -/
def mayRepeat (most : Option Nat) (count : Nat) : Bool := most.all (count < ·)

/-- Rounds of a body, as many as possible first. `start` is where the latest optional round began: a
round that ends there has matched nothing, and no other follows it. -/
def greedy (body : Matcher) (least : Nat) (most : Option Nat) :
    (fuel count : Nat) → (start : Option Nat) → Matcher
  | 0, _, _, spot, rest => rest spot
  | fuel + 1, count, start, spot, rest =>
    if count < least then
      body spot fun spot => greedy body least most fuel (count + 1) start spot rest
    else if mayRepeat most count && start != some spot.pos then
      match body spot fun next =>
          greedy body least most fuel (count + 1) (some spot.pos) next rest with
      | some found => some found
      | none => rest spot
    else rest spot

/-- Rounds of a body, as few as possible first. -/
def reluctant (body : Matcher) (least : Nat) (most : Option Nat) :
    (fuel count : Nat) → (start : Option Nat) → Matcher
  | 0, _, _, spot, rest => rest spot
  | fuel + 1, count, start, spot, rest =>
    if count < least then
      body spot fun spot => reluctant body least most fuel (count + 1) start spot rest
    else
      match rest spot with
      | some found => some found
      | none =>
        if mayRepeat most count && start != some spot.pos then
          body spot fun next =>
            reluctant body least most fuel (count + 1) (some spot.pos) next rest
        else none

/-- Rounds of a body, each in its first way, as many as possible. -/
def possessive (body : Matcher) (least : Nat) (most : Option Nat) :
    (fuel count : Nat) → (start : Option Nat) → Spot → Option Spot
  | 0, _, _, spot => some spot
  | fuel + 1, count, start, spot =>
    if count < least then
      match body.first spot with
      | some next => possessive body least most fuel (count + 1) start next
      | none => none
    else if mayRepeat most count && start != some spot.pos then
      match body.first spot with
      | some next => possessive body least most fuel (count + 1) (some spot.pos) next
      | none => some spot
    else some spot

/-- Goes on from a spot that is there. -/
def onward (spot : Option Spot) (rest : Spot → Option Spot) : Option Spot := spot.bind rest

end Matcher

/-- Whether a place is at a word boundary; an empty text has no place that is or is not. -/
def atBoundary (text : Array Char) (ascii : Bool) (pos : Nat) : Option Bool :=
  if text.isEmpty then none
  else
    let isWord (c : Option Char) : Bool := c.any (CharKind.word.holds ascii)
    let before := if pos = 0 then false else isWord text[pos - 1]?
    some (before != isWord text[pos]?)

/-- Whether a place satisfies an anchor. -/
def Anchor.holds (text : Array Char) (place : Anchor) (pos : Nat) : Bool :=
  match place with
  | .textStart => pos == 0
  | .lineStart => pos == 0 || text[pos - 1]? == some '\n'
  | .lastLineEnd => pos == text.size || (pos + 1 == text.size && text[pos]? == some '\n')
  | .lineEnd => pos == text.size || text[pos]? == some '\n'
  | .textEnd => pos == text.size
  | .boundary ascii => atBoundary text ascii pos == some true
  | .noBoundary ascii => atBoundary text ascii pos == some false

/-- Whether two characters are the same under the flags in force. -/
def sameChar (flags : Flags) (a b : Char) : Bool :=
  if !flags.ignoreCase then a == b
  else if flags.ascii then Unicode.asciiLower a.toNat == Unicode.asciiLower b.toNat
  else Unicode.lower a.toNat == Unicode.lower b.toNat

/-- Whether the characters from one place on are the same as those from another on. -/
def sameRun (text : Array Char) (flags : Flags) (a b length : Nat) : Bool :=
  (List.range length).all fun i =>
    match text[a + i]?, text[b + i]? with
    | some c, some d => sameChar flags c d
    | _, _ => false

namespace Node

/-- The matcher of a pattern on a text. -/
def matcher (text : Array Char) : Node → Matcher
  | .empty => fun spot rest => rest spot
  | .seq a b => (matcher text a).both (matcher text b)
  | .alt a b => (matcher text a).either (matcher text b)
  | .one flags test => fun spot rest =>
    match text[spot.pos]? with
    | some c => if test.holds flags c then rest { spot with pos := spot.pos + 1 } else none
    | none => none
  | .anchor place => fun spot rest => if place.holds text spot.pos then rest spot else none
  | .capture group body => fun spot rest =>
    matcher text body { spot with opened := (group, spot.pos) :: spot.opened } fun spot =>
      rest { spot with closed := (group, spot.pos) :: spot.closed }
  | .bracket body => matcher text body
  | .atomic body => fun spot rest => Matcher.onward ((matcher text body).first spot) rest
  | .backref group flags => fun spot rest =>
    match spot.span? group with
    | some (first, last) =>
      if sameRun text flags first spot.pos (last - first) then
        rest { spot with pos := spot.pos + (last - first) }
      else none
    | none => none
  | .conditional group yes no => fun spot rest =>
    if (spot.span? group).isSome then matcher text yes spot rest else matcher text no spot rest
  | .times greed least most body => fun spot rest =>
    let fuel := least + (text.size - spot.pos) + 2
    match greed with
    | .greedy => (matcher text body).greedy least most fuel 0 none spot rest
    | .reluctant => (matcher text body).reluctant least most fuel 0 none spot rest
    | .possessive =>
      Matcher.onward ((matcher text body).possessive least most fuel 0 none spot) rest
  | .ahead negated body => fun spot rest =>
    match (matcher text body).first spot with
    | some found => if negated then none else rest { found with pos := spot.pos }
    | none => if negated then rest spot else none
  | .behind negated width body => fun spot rest =>
    let found := if width ≤ spot.pos then
        (matcher text body).first { spot with pos := spot.pos - width }
      else none
    match found with
    | some found => if negated then none else rest { found with pos := spot.pos }
    | none => if negated then rest spot else none

end Node

/-- Matches a text from its start to its end. -/
def fullMatch? (node : Node) (text : Array Char) : Option Spot :=
  node.matcher text { pos := 0 } fun spot => if spot.pos = text.size then some spot else none

/-- The text that a group took, if it took part. -/
def groupText? (text : Array Char) (spot : Spot) (group : Nat) : Option (List Char) :=
  (spot.span? group).map fun (first, last) => (text.extract first last).toList

end NameSlots.Regex
