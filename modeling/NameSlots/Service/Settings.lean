import NameSlots.Files.Path
import NameSlots.Number.Real
import NameSlots.Text.Lines

/-! What the service is set to, read from variables. A value that is no number or too small does not
count. -/

namespace NameSlots.Service

/-- Variables by name. -/
abbrev Variables := List (Text × Text)

/-- What the service is set to. -/
structure Settings where
  /-- The most characters of a text. -/
  maxChars : Nat
  maxMappings : Nat
  maxRules : Nat
  /-- The seconds after which an operation is given up. -/
  timeout : Double
  /-- The number of operations that may run at once. -/
  capacity : Nat
  /-- The seconds that a request waits for a free slot. -/
  queueTimeout : Double
  /-- The rule set for requests that bring none. -/
  ruleSetPath : Option Path
  /-- The seconds that a worker waits first, as they are written. -/
  delay : Option Text

namespace Settings

/-- A whole number above zero. -/
def count (environment : Variables) (name : String) (usual : Nat) : Nat :=
  match (environment.lookup name.toList).map Number.whole with
  | some (.ok n) => if 0 < n then n.toNat else usual
  | _ => usual

/-- A time in seconds that a condition holds of. -/
def seconds (environment : Variables) (name : String) (usual : Double) (fits : Double → Bool) :
    Double :=
  match (environment.lookup name.toList).bind Number.real? with
  | some x => if fits x then x else usual
  | none => usual

/-- Whether a number is above zero. -/
def isAboveZero : Double → Bool
  | .nan => false
  | .infinite negative => !negative
  | x => x.units? != some 0 && !x.isNegative

/-- Whether a number is zero or above. -/
def isFromZero (x : Double) : Bool := isAboveZero x || x.units? == some 0

/-- The path in a variable; none if it is blank. -/
def path? (environment : Variables) (name : String) : Option Path :=
  match Text.trim ((environment.lookup name.toList).getD []) with
  | [] => none
  | t => some (Path.ofText t)

/-- The text in a variable; none if it is empty. -/
def text? (environment : Variables) (name : String) : Option Text :=
  match environment.lookup name.toList with
  | some (c :: t) => some (c :: t)
  | _ => none

/-- The settings that variables give. -/
def ofVariables (environment : Variables) : Settings where
  maxChars := count environment "NAMEKEY_MAX_INPUT_CHARS" 10000
  maxMappings := count environment "NAMEKEY_MAX_MAPPINGS" 5000
  maxRules := count environment "NAMEKEY_MAX_RULES" 1000
  timeout := seconds environment "NAMEKEY_REQUEST_TIMEOUT_SECONDS" (Double.ofInt 10) isAboveZero
  capacity := count environment "NAMEKEY_MAX_CONCURRENCY" 4
  queueTimeout := seconds environment "NAMEKEY_QUEUE_TIMEOUT_SECONDS" Double.zero isFromZero
  ruleSetPath := path? environment "NAMEKEY_RULESET_PATH"
  delay := text? environment "NAMEKEY_TEST_SLEEP_SECONDS"

end Settings

end NameSlots.Service
