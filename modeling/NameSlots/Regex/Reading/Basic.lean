import NameSlots.Regex.Item.Basic
import NameSlots.Regex.Width

/-!
A pattern that is being read. The parentheses that are still open are a stack of frames, so that one
step of reading touches the top frame only. A group may be referred to once it is closed.
-/

namespace NameSlots.Regex

/-- A pattern that has been read, with its width. -/
structure Piece where
  node : Node
  width : Width

/-- What has been read of groups so far. -/
structure Groups where
  /-- The number of capturing groups that have been opened. -/
  count : Nat := 0
  /-- The capturing groups that have been closed, with their widths. -/
  closed : List (Nat × Width) := []
  names : List (Text × Nat) := []
  /-- Inside a lookbehind: the number of the first group that opens in it. -/
  lookbehindStart : Option Nat := none
  /-- The group numbers that conditions ask for. -/
  tested : List Nat := []

/-- What an open parenthesis becomes when it is closed. -/
inductive Opener where
  | whole
  | capture (group : Nat)
  | bracket
  | atomic
  | ahead (negated : Bool)
  /-- `outermost` tells that no lookbehind is around this one. -/
  | behind (negated outermost : Bool)
  /-- A condition on a group; `yes` is there once the bar has been read. -/
  | conditional (group : Nat) (yes : Option Piece)

/-- The pattern, or a parenthesis that is still open. -/
structure Frame where
  opener : Opener
  flags : Flags
  /-- The alternatives before the last bar, the latest first. -/
  branches : List Piece := []
  /-- What has been read since the last bar, the latest first. -/
  pieces : List Piece := []

/-- A pattern that is being read. -/
structure Reading where
  top : Frame
  below : List Frame := []
  groups : Groups := {}
  /-- The flags that the pattern sets for itself as a whole. -/
  global : Flags := {}
  /-- A fault that counts only if the rest of the pattern is well-formed. -/
  late : Option Malformed := none

namespace Frame

/-- The alternative that is being read. -/
def branch (frame : Frame) : Piece where
  node := .sequence (frame.pieces.reverse.map (·.node))
  width := frame.pieces.foldr (fun piece width => width.add piece.width) .zero

/-- All alternatives of the frame. -/
def body (frame : Frame) : Piece :=
  match frame.branches with
  | [] => frame.branch
  | _ :: _ =>
    let all := (frame.branch :: frame.branches).reverse
    ⟨.choice (all.map (·.node)),
      frame.branches.foldl (fun width piece => width.either piece.width) frame.branch.width⟩

def push (frame : Frame) (piece : Piece) : Frame := { frame with pieces := piece :: frame.pieces }

end Frame

namespace Reading

def push (reading : Reading) (piece : Piece) : Reading :=
  { reading with top := reading.top.push piece }

def pushNode (reading : Reading) (node : Node) (width : Width) : Reading :=
  reading.push ⟨node, width⟩

def pushChar (reading : Reading) (test : CharTest) : Reading :=
  reading.pushNode (.one reading.top.flags test) .single

def pushAnchor (reading : Reading) (place : Anchor) : Reading :=
  reading.pushNode (.anchor place) .zero

def setLate (reading : Reading) (why : Malformed) : Reading :=
  { reading with late := reading.late <|> some why }

def openFrame (reading : Reading) (opener : Opener) (flags : Flags) : Reading :=
  { reading with top := { opener, flags }, below := reading.top :: reading.below }

end Reading

namespace Groups

/-- A group that may be referred to: it is closed, and not part of a lookbehind around the place. -/
def closedWidth (groups : Groups) (group : Nat) : Except Fault Width :=
  match groups.closed.lookup group with
  | none => malformed .openGroup
  | some width =>
    if groups.lookbehindStart.any (· ≤ group) then malformed .groupOfSameLookbehind
    else pure width

/-- The group that is referred to, if it has been opened. -/
def find? (groups : Groups) : GroupRef → Option Nat
  | .number group => if group ≤ groups.count then some group else none
  | .name name => groups.names.lookup name

/-- The group that a condition asks for; a number may stand for a group that comes later. -/
def testing (groups : Groups) : GroupRef → Except Fault (Nat × Groups)
  | .number group => pure (group, { groups with tested := group :: groups.tested })
  | .name name =>
    match groups.names.lookup name with
    | some group => pure (group, groups)
    | none => malformed .unknownGroup

/-- A condition may ask for any group; in a lookbehind only for one that may be referred to. -/
def checkTested (groups : Groups) (group : Nat) : Except Fault Unit :=
  if groups.lookbehindStart.isSome then do
    let _ ← groups.closedWidth group
    pure ()
  else pure ()

/-- Opens a capturing group and gives it the next number. -/
def openCapture (groups : Groups) (name : Option Text) : Except Fault (Nat × Groups) :=
  let group := groups.count + 1
  match name with
  | none => pure (group, { groups with count := group })
  | some name =>
    if (groups.names.lookup name).isSome then malformed .duplicateName
    else pure (group, { groups with count := group, names := (name, group) :: groups.names })

end Groups

end NameSlots.Regex
