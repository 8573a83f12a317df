import NameSlots.Key.Segment
import NameSlots.Names.Mapping
import NameSlots.Regex.Matcher
import NameSlots.Regex.Pattern
import NameSlots.Regex.Quoted

/-!
The one pattern of a whole key. A slot is a group that takes one of the mapped keys, longer keys
first; an embedded pattern is a group around its body. The groups of slots are counted along.
-/

namespace NameSlots.Key

/-- The mapped keys as alternatives. -/
def alternation (keys : List Text) : Text :=
  Text.join ['|'] ((longestFirst id keys).map Regex.quote)

/-- The group of a slot. -/
def slotSource (alternatives : Text) : Slot → Text
  | .single => '(' :: alternatives ++ [')']
  | .several => "((?:".toList ++ alternatives ++ ")+)".toList

/-- A pattern that is put together: its source so far, and the group numbers of its slots. -/
structure Draft where
  source : Text
  slots : List Nat

/-- The source of segments and the groups of their slots, if the next group is `group`. -/
def draft (alternatives : Text) (group : Nat) : List Segment → Except Regex.Fault Draft
  | [] => .ok ⟨[], []⟩
  | .literal text :: rest => do
    let tail ← draft alternatives group rest
    pure ⟨Regex.quote text ++ tail.source, tail.slots⟩
  | .regex body _ :: rest =>
    if body.isEmpty then draft alternatives group rest
    else do
      let pattern ← Regex.compile {} body
      let tail ← draft alternatives (group + 1 + pattern.groups) rest
      pure ⟨'(' :: body ++ ')' :: tail.source, tail.slots⟩
  | .slot slot :: rest => do
    let tail ← draft alternatives (group + 1) rest
    pure ⟨slotSource alternatives slot ++ tail.source, group :: tail.slots⟩

/-- The pattern of a key, with its source and the groups of its slots. -/
structure Joined where
  source : Text
  pattern : Regex.Pattern
  slots : List Nat

/-- Joins segments over mapped keys. -/
def join (segments : List Segment) (keys : List Text) : Except Regex.Fault Joined := do
  let draft ← draft (alternation keys) 1 segments
  let source := '^' :: draft.source ++ ['$']
  let pattern ← Regex.compile {} source
  pure { source, pattern, slots := draft.slots }

/-- The texts that the slots take of an input that matches as a whole; none for a slot that took no
part. -/
def Joined.slotTexts? (joined : Joined) (input : Text) : Option (List (Option Text)) :=
  let text := input.toArray
  (Regex.fullMatch? joined.pattern.node text).map fun spot =>
    joined.slots.map fun group => Regex.groupText? text spot group

end NameSlots.Key
