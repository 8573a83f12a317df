import NameSlots.Json.Value
import NameSlots.Key.Segment

/-! Segments as data. -/

namespace NameSlots.Key.Segment

/-- The body of an embedded pattern. -/
def body? : Segment → Option Text
  | .regex body _ => some body
  | _ => none

/-- The flags of an embedded pattern. -/
def flags? : Segment → Option Text
  | .regex _ flags => some flags
  | _ => none

def toJson (segment : Segment) : Json :=
  .record [("kind", .string segment.kindText), ("content", .string segment.content),
    ("body", .ofOption .string segment.body?), ("flags", .ofOption .string segment.flags?)]

end NameSlots.Key.Segment
