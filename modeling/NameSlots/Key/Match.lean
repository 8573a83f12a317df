import NameSlots.Key.Joined
import NameSlots.Key.Parser

/-! Matching an input against a key, and the names that its slots took. -/

namespace NameSlots

/-- Whether names come from all slots of a key or from the first one only. -/
inductive SlotMode where
  | all
  | first
deriving DecidableEq

namespace SlotMode

def text : SlotMode → Text
  | .all => "all".toList
  | .first => "first".toList

def ofText? (t : Text) : Option SlotMode :=
  if t = all.text then some all else if t = first.text then some first else none

end SlotMode

/-- Why there is no answer to whether an input matches. -/
inductive MatchError where
  | unsupportedMode (mode : Text)
  | refused (why : Regex.Refusal)
deriving DecidableEq

def MatchError.message : MatchError → Text
  | .unsupportedMode mode => "Unsupported slot mode: ".toList ++ mode
  | .refused why => why.message

/-- The slot mode that a text names. -/
def SlotMode.read (t : Text) : Except MatchError SlotMode :=
  match ofText? t with
  | some mode => .ok mode
  | none => .error (.unsupportedMode t)

/-- How an input stands to a key. -/
inductive MatchResult where
  | matched (names : List Text)
  | unmatched
  /-- The segments of the key do not join to one pattern. -/
  | uncompilable
deriving DecidableEq

namespace MatchResult

def isMatched : MatchResult → Bool
  | .matched _ => true
  | _ => false

def names : MatchResult → List Text
  | .matched names => names
  | _ => []

end MatchResult

namespace Key

/-- The names in what slots took. -/
def slotNames (table : List Mapping) (mode : SlotMode) (taken : List (Option Text)) : List Text :=
  let taken := match mode with
    | .all => taken
    | .first => taken.take 1
  taken.flatMap fun text => decode table (text.getD [])

/-- What an input is matched against. -/
inductive Target where
  | pattern (joined : Joined)
  /-- There is no slot, or no mapped key for one. -/
  | nothing
  /-- The segments do not join to one pattern. -/
  | uncompilable

/-- What an input is matched against by segments and mappings. -/
def target (segments : List Segment) (table : List Mapping) : Except MatchError Target :=
  let keys := (table.map (·.key)).filter (!·.isEmpty)
  if !segments.any (·.isSlot) || keys.isEmpty then .ok .nothing
  else
    match join segments keys with
    | .error (.refused why) => .error (.refused why)
    | .error _ => .ok .uncompilable
    | .ok joined => .ok (.pattern joined)

/-- Matches an input against a pattern: without a decoded name there is no match. -/
def matchJoined (joined : Joined) (table : List Mapping) (mode : SlotMode) (input : Text) :
    MatchResult :=
  match joined.slotTexts? input with
  | none => .unmatched
  | some taken =>
    let names := slotNames table mode taken
    if names.isEmpty then .unmatched else .matched names

/-- Matches an input against segments. -/
def matchSegments (segments : List Segment) (table : List Mapping) (mode : SlotMode)
    (input : Text) : Except MatchError MatchResult :=
  match target segments table with
  | .error e => .error e
  | .ok .nothing => .ok .unmatched
  | .ok .uncompilable => .ok .uncompilable
  | .ok (.pattern joined) => .ok (matchJoined joined table mode input)

/-- Matches an input against a key. -/
def matchInput (key : Text) (table : List Mapping) (mode : SlotMode) (input : Text) :
    Except MatchError MatchResult :=
  match segments key with
  | .error why => .error (.refused why)
  | .ok segments => matchSegments segments table mode input

end Key

end NameSlots
