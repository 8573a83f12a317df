import NameSlots.Json.Shown
import NameSlots.Number.Real
import NameSlots.Service.Answer

/-!
Operations as they reach a worker: a name and data. A worker reads each part of the data when it
needs it, so that a part that is missing or of a wrong type counts only then.
-/

namespace NameSlots.Service

/-- An operation with the data for it. -/
structure Task where
  operation : Text
  payload : Json

/-- Why a worker gives no result. -/
inductive TaskFault where
  | unsupported (operation : Text)
  | missing (field : Text)
  /-- A place in a table for which there is no entry. -/
  | noEntry
  /-- A part of a type with which nothing can be done. -/
  | illTyped
  /-- A part that is no text where text is worked on. -/
  | notText
  | invalid (issues : List Issue)
  | matching (why : MatchError)
  /-- A delay that is no number. -/
  | badDelay (text : Text)
  /-- A delay that is not a number by its value. -/
  | noDelay
  | negativeDelay
  | endlessDelay

namespace TaskFault

/-- The name of the kind of fault. -/
def kind : TaskFault → Text
  | .missing _ | .noEntry => "KeyError".toList
  | .illTyped => "TypeError".toList
  | .notText => "AttributeError".toList
  | .invalid _ => "ValidationError".toList
  | .endlessDelay => "OverflowError".toList
  | _ => "ValueError".toList

def message : TaskFault → Text
  | .unsupported operation => "Unsupported operation: ".toList ++ operation
  | .missing field => Text.quoted field
  | .noEntry => ['0']
  | .matching why => why.message
  | .badDelay t => "could not convert string to float: ".toList ++ Text.quoted t
  | .noDelay => "Invalid value NaN (not a number)".toList
  | .negativeDelay => "sleep length must be non-negative".toList
  | .endlessDelay => "timestamp out of range for platform time_t".toList
  | .illTyped | .notText | .invalid _ => []

end TaskFault

/-- The work of a worker. -/
abbrev Work := Except TaskFault

namespace Task

/-- A field of data. -/
def field (payload : Json) (name : String) : Work Json :=
  match payload with
  | .object _ =>
    match payload.field? name with
    | some value => .ok value
    | none => .error (.missing name.toList)
  | _ => .error .illTyped

/-- A field of data that may be missing, which counts as null. -/
def field? (payload : Json) (name : String) : Json := (payload.field? name).getD .null

/-- Whether data counts as nothing. -/
def isEmpty : Json → Bool
  | .null | .bool false | .int 0 | .string [] | .array [] | .object [] => true
  | .float x => x.units? == some 0
  | _ => false

/-- The parts of data that has any. -/
def parts (value : Json) : Work (List Json) :=
  match value.parts? with
  | some parts => .ok parts
  | none => .error .illTyped

/-- The text of a key; data without parts counts as an empty one. -/
def keyText : Json → Work Text
  | .string t => .ok t
  | .array [] | .object [] => .ok []
  | .array _ => .error .notText
  | .object _ => .error .noEntry
  | _ => .error .illTyped

/-- The slot mode that data names. -/
def slotMode : Json → Work SlotMode
  | .array _ | .object _ => .error .illTyped
  | value => (SlotMode.read value.shown).mapError .matching

/-- The segments of a key. -/
def segments (key : Text) : Work (List Key.Segment) :=
  (Key.segments key).mapError fun why => .matching (.refused why)

def parse (payload : Json) : Work Answer := do
  let key ← keyText (← field payload "key")
  .segments <$> segments key

/-- Matches data; only a text can be matched against a pattern. -/
def matchData (segments : List Key.Segment) (table : List Mapping) (mode : SlotMode)
    (input : Json) : Work MatchResult :=
  match input with
  | .string t => (Key.matchSegments segments table mode t).mapError .matching
  | _ =>
    match Key.target segments table with
    | .error why => .error (.matching why)
    | .ok (.pattern _) => .error .illTyped
    | .ok _ => .ok .unmatched

def matching (payload : Json) : Work Answer := do
  let items ← parts (← field payload "name_mappings")
  let table ← items.mapM fun item => (Mapping.check item).mapError .invalid
  let input ← field payload "input"
  let key ← field payload "key"
  let mode ← slotMode (← field payload "slot_mode")
  let segments ← segments (← keyText key)
  let result ← matchData segments table mode input
  match field? payload "value" with
  | .null => pure (.matching result none)
  | .string value =>
    let output := if result.isMatched then some (Template.expand value result.names) else none
    pure (.matching result output)
  | _ => if result.isMatched then .error .notText else pure (.matching result none)

/-- A text among data. -/
def text : Json → Work Text
  | .string t => .ok t
  | _ => .error .illTyped

/-- The names for a template. Those of a table can stand in one place only. -/
def names (template : Text) (value : Json) : Work (List Text) :=
  if isEmpty value then .ok []
  else match value with
    | .object fields =>
      if (Template.pieces template).length ≤ 2 then .ok (fields.map (·.1)) else .error .illTyped
    | _ => do (← parts value).mapM text

def expand (payload : Json) : Work Answer := do
  let value ← field payload "value"
  let given ← field payload "names"
  match value with
  | .string template => do
    let names ← names template given
    pure (.expansion (Template.expand template names))
  | _ => .error .notText

/-- Resolves data; only a text can be matched, or stand in an outcome. -/
def resolveData (ruleSet : RuleSet) (mode : Work SlotMode) (input : Json) : Work Outcome := do
  if !ruleSet.rules.isEmpty then let _ ← mode
  match input with
  | .string t =>
    let overrides : Overrides := { mode := mode.toOption.map SlotMode.text }
    (ruleSet.resolve overrides t).mapError .matching
  | _ =>
    ruleSet.rules.forM fun rule => do
      let _ ← matchData (← segments rule.key) ruleSet.mappings ruleSet.slotMode input
    .error (.invalid [])

def resolve (payload : Json) : Work Answer := do
  let ruleSet ← (RuleSet.check (← field payload "ruleset")).mapError .invalid
  let inputs ← parts (← field payload "inputs")
  let given := field? payload "slot_mode"
  let mode := if isEmpty given then .ok ruleSet.slotMode else slotMode given
  let outcomes ← inputs.mapM (resolveData ruleSet mode)
  pure (.resolution outcomes (summarize outcomes))

/-- Does what a task asks for. -/
def run (task : Task) : Work Answer :=
  match Operation.ofName? task.operation with
  | some .parse => parse task.payload
  | some .matching => matching task.payload
  | some .expand => expand task.payload
  | some .resolve => resolve task.payload
  | none => .error (.unsupported task.operation)

/-! ## Delays -/

/-- The number of parts of a second in which delays are counted. -/
def delayParts : Nat := 1000000000

/-- The parts of a second in the shortest delay that is too long. -/
def delayLimit : Nat := 9223372036854775808

/-- Reads the seconds of a delay. -/
def readDelay (t : Text) : Work Double :=
  match Number.real? t with
  | none => .error (.badDelay t)
  | some .nan => .error .noDelay
  | some x =>
    match x.signedUnits? with
    | none => .error .endlessDelay
    | some units =>
      if delayLimit * Double.unitsInOne ≤ units.natAbs * delayParts then .error .endlessDelay
      else if units < 0 then .error .negativeDelay
      else .ok x

/-- The delay of a worker; without a text there is none. -/
def delay (t : Option Text) : Work Double :=
  match t with
  | some t => readDelay t
  | none => .ok Double.zero

/-- Does what a task asks for after a delay. -/
def runAfter (delayText : Option Text) (task : Task) : Work Answer := do
  let _ ← delay delayText
  task.run

end Task

end NameSlots.Service
