import NameSlots.Regex.Reading.Basic
import NameSlots.Unicode.Identifier

/-! What each item of a pattern does to the pattern that is being read. -/

namespace NameSlots.Regex.Reading

/-- Refers back to a group, which must be there. -/
def backref (reading : Reading) (ref : GroupRef) : Except Fault Reading :=
  match reading.groups.find? ref with
  | some group => do
    let width ← reading.groups.closedWidth group
    pure (reading.pushNode (.backref group reading.top.flags) width)
  | none => malformed .unknownGroup

/-- Opens a capturing group. -/
def openCapture (reading : Reading) (name : Option Text) : Except Fault Reading := do
  let (group, groups) ← reading.groups.openCapture name
  pure ({ reading with groups }.openFrame (.capture group) reading.top.flags)

/-- Opens a lookbehind. -/
def openBehind (reading : Reading) (negated : Bool) : Reading :=
  let outermost := reading.groups.lookbehindStart.isNone
  let start := reading.groups.lookbehindStart.getD (reading.groups.count + 1)
  let groups := { reading.groups with lookbehindStart := some start }
  { reading with groups }.openFrame (.behind negated outermost) reading.top.flags

/-- Opens a condition on a group. -/
def openCondition (reading : Reading) (on : GroupRef) : Except Fault Reading := do
  let (group, groups) ← reading.groups.testing on
  groups.checkTested group
  pure ({ reading with groups }.openFrame (.conditional group none) reading.top.flags)

/-- Flags for the whole pattern, which only its start may set. -/
def setGlobal (reading : Reading) (add : Flags) : Except Fault Reading :=
  let top := reading.top
  let atStart := reading.below.isEmpty && top.branches.isEmpty && top.pieces.isEmpty
  if atStart then
    let global := reading.global.union add
    let flags := { global with unicode := false }
    pure { reading with global, top := { top with flags } }
  else malformed .lateGlobalFlags

/-- Repeats the latest piece. -/
def repeatLatest (reading : Reading) (greed : Greed) (least : Nat) (most : Option Nat) :
    Except Fault Reading :=
  match reading.top.pieces with
  | [] => malformed .nothingToRepeat
  | piece :: earlier =>
    if piece.node.isAnchor then malformed .nothingToRepeat
    else if piece.node.isTimes then malformed .repeatOfRepeat
    else
      let repeated : Piece :=
        ⟨.times greed least most piece.node, piece.width.times least most⟩
      let reading := { reading with top := { reading.top with pieces := repeated :: earlier } }
      pure (if reading.global.template then reading.setLate .repeatInTemplate else reading)

/-- What a closed frame is, and what it tells about groups. -/
def closing (reading : Reading) : Except Fault (Piece × Reading) :=
  let frame := reading.top
  let body := frame.body
  match frame.opener with
  | .whole => malformed .unopenedGroup
  | .capture group =>
    let groups := { reading.groups with closed := (group, body.width) :: reading.groups.closed }
    pure (⟨.capture group body.node, body.width⟩, { reading with groups })
  | .bracket => pure (⟨.bracket body.node, body.width⟩, reading)
  | .atomic => pure (⟨.atomic body.node, body.width⟩, reading)
  | .ahead negated => pure (⟨.ahead negated body.node, .zero⟩, reading)
  | .behind negated outermost =>
    let groups := if outermost then { reading.groups with lookbehindStart := none }
      else reading.groups
    let reading := { reading with groups }
    let reading :=
      if body.width.least > Width.lookbehindLimit then reading.setLate .lookbehindTooWide
      else if body.width.least ≠ body.width.most then reading.setLate .lookbehindOfVaryingWidth
      else reading
    pure (⟨.behind negated body.width.least body.node, .zero⟩, reading)
  | .conditional group none =>
    pure (⟨.conditional group body.node .empty, ⟨0, body.width.most⟩⟩, reading)
  | .conditional group (some yes) =>
    pure (⟨.conditional group yes.node body.node, yes.width.either body.width⟩, reading)

/-- A closing parenthesis. -/
def close (reading : Reading) : Except Fault Reading :=
  match reading.below with
  | [] =>
    if reading.global.ascii && reading.global.unicode then .error (.refused .asciiAndUnicode)
    else malformed .unopenedGroup
  | frame :: below => do
    let (piece, reading) ← reading.closing
    pure { reading with top := frame.push piece, below }

/-- A bar. -/
def bar (reading : Reading) : Except Fault Reading :=
  let frame := reading.top
  let next := { frame with branches := frame.branch :: frame.branches, pieces := [] }
  match frame.opener with
  | .whole =>
    let flags := { next.flags with verbose := reading.global.verbose }
    pure { reading with top := { next with flags } }
  | .conditional group none =>
    let opener := .conditional group (some frame.branch)
    pure { reading with top := { frame with opener, pieces := [] } }
  | .conditional _ (some _) => malformed .thirdConditionBranch
  | _ => pure { reading with top := next }

/-- Takes in an item. -/
def take (reading : Reading) : Item → Except Fault Reading
  | .blank => pure reading
  | .char test => pure (reading.pushChar test)
  | .anchor place => pure (reading.pushAnchor place)
  | .lineStart =>
    pure (reading.pushAnchor (if reading.top.flags.multiline then .lineStart else .textStart))
  | .lineEnd =>
    pure (reading.pushAnchor (if reading.top.flags.multiline then .lineEnd else .lastLineEnd))
  | .boundary negated =>
    let ascii := reading.top.flags.ascii
    pure (reading.pushAnchor (if negated then .noBoundary ascii else .boundary ascii))
  | .backref ref => reading.backref ref
  | .times greed least most => reading.repeatLatest greed least most
  | .bar => reading.bar
  | .close => reading.close
  | .capture name => reading.openCapture name
  | .bracket => pure (reading.openFrame .bracket reading.top.flags)
  | .flagged add drop => pure (reading.openFrame .bracket (reading.top.flags.within add drop))
  | .atomic => pure (reading.openFrame .atomic reading.top.flags)
  | .ahead negated => pure (reading.openFrame (.ahead negated) reading.top.flags)
  | .behind negated => pure (reading.openBehind negated)
  | .condition on => reading.openCondition on
  | .global add => reading.setGlobal add

end NameSlots.Regex.Reading
