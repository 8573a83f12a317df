import NameSlots.Cli.Arguments
import NameSlots.Files.Basic

/-! The commands, and how they are read from arguments. -/

namespace NameSlots.Cli

/-- A set in a store, as far as it is named. -/
structure SetChoice where
  store : Option Path
  name : Option Text

/-- Where mappings come from. -/
structure Sources where
  maps : List Text
  ruleSet : Option Path
  set : SetChoice

/-- A request to match one input. -/
structure MatchCommand where
  key : Text
  input : Text
  sources : Sources
  value : Option Text
  slotMode : Text
  json : Bool

/-- A request to resolve inputs by a rule set. -/
structure ResolveCommand where
  ruleSet : Path
  input : Option Text
  inputFile : Option Path
  set : SetChoice
  slotMode : Option Text
  out : Option Path
  json : Bool

/-- A request about the sets of a store. -/
inductive NamesCommand where
  | list
  | show (name : Text)
  | put (name key value : Text)
  | remove (name : Text) (key : Option Text)
  | bring (name : Text) (ruleSet : Path) (note : Option Text)
  | write (name : Text) (out : Path) (ruleSet : Option Path)

/-- What a command line asks for. -/
inductive Command where
  | parse (key : Text) (json : Bool)
  | matching (request : MatchCommand)
  | expand (value : Text) (names : List Text)
  | resolve (request : ResolveCommand)
  | names (store : Path) (request : NamesCommand)

/-! ## Paths -/

/-- What the path of an option must lead to. -/
inductive PathRule where
  /-- A file that is there. -/
  | present
  /-- A file, or nothing yet. -/
  | noDirectory
  | any

/-- Whether a rule holds of what a path leads to. -/
def PathRule.holds : PathRule → Option Entry → Bool
  | .any, _ => true
  | _, some .directory => false
  | .present, none => false
  | _, _ => true

/-- The path of an option, if it is given; none if it leads to something else than it must. -/
def Given.path (given : Given) (files : Files) (rule : PathRule) (name : String) :
    Option (Option Path) :=
  match given.value? name with
  | none => some none
  | some written =>
    if rule.holds (files.stat? written) then some (some (Path.ofText written)) else none

/-! ## Commands -/

namespace Command

/-- A set in a store. -/
def setChoice (files : Files) (given : Given) : Option SetChoice := do
  let store ← given.path files .noDirectory "store"
  pure { store, name := given.value? "set-name" }

def readParse (given : Given) : Option Command :=
  match given.plain with
  | [key] => some (.parse key (given.has "json"))
  | _ => none

def readMatch (files : Files) (given : Given) : Option Command := do
  let key ← given.value? "key"
  let input ← given.value? "input"
  let ruleSet ← given.path files .present "ruleset"
  let set ← setChoice files given
  pure (.matching {
    key
    input
    sources := { maps := given.all "map", ruleSet, set }
    value := given.value? "value"
    slotMode := (given.value? "slot-mode").getD "all".toList
    json := given.has "json" })

def readExpand (given : Given) : Option Command := do
  let value ← given.value? "value"
  pure (.expand value (given.all "name"))

def readResolve (files : Files) (given : Given) : Option Command := do
  let ruleSet ← ← given.path files .present "ruleset"
  let inputFile ← given.path files .present "input-file"
  let set ← setChoice files given
  let out ← given.path files .any "out"
  pure (.resolve {
    ruleSet
    input := given.value? "input"
    inputFile
    set
    slotMode := given.value? "slot-mode"
    out
    json := given.has "json" })

/-- The options of commands about a store. -/
def namesOptions (command : String) : Option OptionNames :=
  match command with
  | "list" => some { values := ["store"] }
  | "show" => some { values := ["store", "set-name"] }
  | "set" => some { values := ["store", "set-name", "key", "value"] }
  | "remove" => some { values := ["store", "set-name", "key"] }
  | "import" => some { values := ["store", "set-name", "ruleset", "note"] }
  | "export" => some { values := ["store", "set-name", "out", "ruleset"] }
  | _ => none

def readNamesCommand (files : Files) (command : String) (given : Given) : Option NamesCommand :=
  match command with
  | "list" => some .list
  | "show" => do pure (.show (← given.value? "set-name"))
  | "set" => do
    pure (.put (← given.value? "set-name") (← given.value? "key") (← given.value? "value"))
  | "remove" => do pure (.remove (← given.value? "set-name") (given.value? "key"))
  | "import" => do
    let ruleSet ← ← given.path files .present "ruleset"
    pure (.bring (← given.value? "set-name") ruleSet (given.value? "note"))
  | "export" => do
    let out ← ← given.path files .noDirectory "out"
    let ruleSet ← given.path files .present "ruleset"
    pure (.write (← given.value? "set-name") out ruleSet)
  | _ => none

/-- A command that takes options only. -/
def readOptions {α : Type} (names : OptionNames) (read : Given → Option α) (arguments : List Text) :
    Option α := do
  let given ← readArguments names {} arguments
  if given.plain.isEmpty then read given else none

def readNames (files : Files) (arguments : List Text) : Option Command := do
  let (name, rest) ← splitCommand arguments
  let command := String.ofList name
  let names ← namesOptions command
  readOptions names (fun given => do
    let store ← ← given.path files .noDirectory "store"
    let request ← readNamesCommand files command given
    pure (.names store request)) rest

/-- Reads a command; none if the arguments make no sense. -/
def ofArguments? (files : Files) (arguments : List Text) : Option Command := do
  let (name, rest) ← splitCommand arguments
  match String.ofList name with
  | "parse" => do readParse (← readArguments { flags := ["json"] } {} rest)
  | "match" =>
    readOptions
      { flags := ["json"]
        values := ["key", "input", "map", "ruleset", "store", "set-name", "value", "slot-mode"] }
      (readMatch files) rest
  | "expand" => readOptions { values := ["value", "name"] } readExpand rest
  | "resolve" =>
    readOptions
      { flags := ["json"]
        values := ["ruleset", "input", "input-file", "store", "set-name", "slot-mode", "out"] }
      (readResolve files) rest
  | "names" => readNames files rest
  | _ => none

end Command

end NameSlots.Cli
