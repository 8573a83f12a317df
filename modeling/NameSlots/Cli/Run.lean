import NameSlots.Cli.Command
import NameSlots.Cli.Printed
import NameSlots.Json.Shown
import NameSlots.Key.Data
import NameSlots.Names.Option
import NameSlots.Names.StoreFile
import NameSlots.Report.Human
import NameSlots.Rules.Source
import NameSlots.Text.Lower

/-! Running commands. -/

namespace NameSlots.Cli

/-- Why a command has no result. -/
inductive CommandError where
  /-- Said in a line of the output. -/
  | said (message : Text)
  | store (why : StoreError)
  | ruleSet (why : RuleSetError)
  | matching (why : MatchError)
  | file (why : FileError)

/-- What is said of a command that has no result. -/
def CommandError.message : CommandError → Text
  | .said message => message
  | .store why => why.message
  | .ruleSet why => why.message
  | .matching why => why.message
  | .file why => why.reason

/-- A command that is being run. -/
abbrev Run := Action CommandError

namespace Run

def say {α : Type} (message : String) : Run α := throw (.said message.toList)

/-! ## What commands share -/

/-- An action on a store; what is wrong with the store is said. -/
def onStore {α : Type} (action : Action StoreError α) : Run α :=
  ExceptT.adapt (fun e => if e.isReported then .said e.message else .store e) action

/-- The rule set of a file; what is wrong with it is said. -/
def ruleSet (path : Path) : Run RuleSet := do
  match RuleSet.load (← Action.files) path with
  | .ok ruleSet => pure ruleSet
  | .error e => throw (if e.isReported then .said e.message else .ruleSet e)

/-- The set of a name, which must be there. -/
def set (store : Path) (name : Text) : Run NameSet := do
  match ← onStore ((StoreFile.mk store).get? name) with
  | some set => pure set
  | none => throw (.said ("mapping set not found: ".toList ++ name))

/-- The mappings of a set, of which both the store and the name must be given. -/
def setMappings (choice : SetChoice) : Run (List Mapping) := do
  match choice.store, choice.name with
  | some store, some name => do
    let set ← set store name
    pure set.mappings
  | _, _ => say "--store and --set-name must be used together."

/-- The slot mode that a text names, in any letter case and with blanks around it. -/
def slotMode (written : Text) : Run SlotMode :=
  match SlotMode.ofText? (Text.trim (Text.lower written)) with
  | some mode => pure mode
  | none => say "--slot-mode must be one of: all, first."

def matched {α : Type} (result : Except MatchError α) : Run α := Action.ofExcept .matching result

/-! ## Keys and templates -/

def parse (key : Text) (json : Bool) : Run Printed := do
  let all ← matched ((Key.segments key).mapError .refused)
  pure (.text 0
    (if json then (Json.array (all.map Key.Segment.toJson)).pretty else Report.segments key all))

/-- The mappings of the one source that must be given. -/
def mappings (sources : Sources) : Run (List Mapping) := do
  let hasSet := sources.set.store.isSome || sources.set.name.isSome
  match sources.maps, sources.ruleSet, hasSet with
  | item :: rest, none, false =>
    match Mapping.ofTexts? (item :: rest) with
    | .ok table => pure table
    | .error e => throw (.said e.message)
  | [], some path, false => do
    let ruleSet ← ruleSet path
    pure ruleSet.mappings
  | [], none, true => setMappings sources.set
  | _, _, _ => say "use exactly one of --map, --ruleset, or --store/--set-name."

/-- The exit code of a command for which there is a match or none. -/
def matchExit (isMatched : Bool) : Nat := if isMatched then 0 else 2

def matching (request : MatchCommand) : Run Printed := do
  let mode ← slotMode request.slotMode
  let table ← mappings request.sources
  let result ← matched (Key.matchInput request.key table mode request.input)
  let output :=
    if result.isMatched then request.value.map (Template.expand · result.names) else none
  let shown :=
    if request.json then
      (Json.record [("matched", .bool result.isMatched), ("matched_names", .texts result.names),
        ("output", .ofOption .string output)]).pretty
    else Report.matching result.isMatched result.names output
  pure (.text (matchExit result.isMatched) shown)

/-! ## Rule sets -/

/-- The inputs of a request: one, or the lines of a file that are not blank. -/
def inputs (request : ResolveCommand) : Run (List Text) := do
  match request.input, request.inputFile with
  | some input, _ => pure [input]
  | none, some path => Text.inputLines <$> Action.ask .file (·.readText path)
  | none, none => pure []

def resolve (request : ResolveCommand) : Run Printed := do
  if request.input.isSome == request.inputFile.isSome then
    say "exactly one of --input or --input-file is required."
  let mode ← request.slotMode.mapM slotMode
  let ruleSet ← ruleSet request.ruleSet
  let table ← if request.set.store.isSome || request.set.name.isSome then
      some <$> setMappings request.set
    else pure none
  let inputs ← inputs request
  let overrides : Overrides := { mappings := table, mode := mode.map SlotMode.text }
  let outcomes ← matched (ruleSet.resolveAll overrides inputs)
  let summary := summarize outcomes
  let data := resolutionJson outcomes summary
  request.out.forM fun path => Action.writeJson .file path data
  pure (.text (matchExit (summary.matchedCount ≠ 0))
    (if request.json then data.pretty else Report.outcomes outcomes summary))

/-! ## Sets of mappings -/

/-- A number of mappings. -/
def countText (count : Nat) : Text := Text.ofNat count ++ " mapping(s)".toList

/-- What is said of a set that has been changed. -/
def changedText (name : Text) (count : Nat) : Printed :=
  .text 0 ("INFO: ".toList ++ name ++ " now has ".toList ++ countText count)

def list (store : Path) : Run Printed := do
  let sets ← onStore (StoreFile.mk store).list
  pure (if sets.isEmpty then .text 0 "INFO: no mapping sets stored".toList
    else .lines (sets.map fun set =>
      set.name.shown ++ ": ".toList ++ countText set.mappings.length))

def mappingsOf (store : Path) (name : Text) : Run Printed := do
  let set ← set store name
  pure (.lines (set.mappings.map fun mapping => mapping.key ++ '=' :: mapping.value))

def put (store : Path) (name key value : Text) : Run Printed := do
  if key.isEmpty then say "--key must not be empty."
  let set ← onStore ((StoreFile.mk store).putMapping name key value)
  pure (changedText name set.mappings.length)

def remove (store : Path) (name : Text) (key : Option Text) : Run Printed := do
  let file := StoreFile.mk store
  let removed ← onStore (match key with
    | some key => file.dropMappings name key
    | none => file.drop name)
  if removed then pure (.text 0 "INFO: removed".toList) else say "nothing to remove."

/-- Puts the mappings of a rule set into a store. -/
def bring (store : Path) (name : Text) (path : Path) (note : Option Text) : Run Printed := do
  let ruleSet ← ruleSet path
  onStore ((StoreFile.mk store).put name ruleSet.mappings (.ofOption .string note))
  pure (changedText name ruleSet.mappings.length)

/-- Writes a rule set to a file. Where it cannot be written only the directory of the file is made. -/
def saveRuleSet (ruleSet : RuleSet) (out : Path) : Run Unit := do
  if ruleSet.isWritable then ruleSet.save .file out
  else
    Action.change .file (·.makeDirectory out.parent)
    throw (.ruleSet (.badValue .unwritableWhole))

/-- Writes the mappings of a set as a rule set, with the rules of another one if it is given. -/
def write (store : Path) (name : Text) (out : Path) (other : Option Path) : Run Printed := do
  let set ← set store name
  let base ← match other with
    | some path => ruleSet path
    | none => pure {}
  let written := { base with mappings := set.mappings }
  saveRuleSet written out
  pure (.text 0 ("INFO: wrote ".toList ++ countText set.mappings.length ++ " and ".toList ++
    Text.ofNat written.rules.length ++ " rule(s) to ".toList ++ out.text))

def names (store : Path) : NamesCommand → Run Printed
  | .list => list store
  | .show name => mappingsOf store name
  | .put name key value => put store name key value
  | .remove name key => remove store name key
  | .bring name ruleSet note => bring store name ruleSet note
  | .write name out ruleSet => write store name out ruleSet

end Run

namespace Command

/-- Does what a command asks for. -/
def perform : Command → Run Printed
  | .parse key json => Run.parse key json
  | .matching request => Run.matching request
  | .expand value given => pure (.text 0 (Template.expand value given))
  | .resolve request => Run.resolve request
  | .names store request => Run.names store request

end Command

/-- Runs a command line. What is said of a failure is printed. -/
def run (arguments : List Text) : Run Printed := do
  match Command.ofArguments? (← Action.files) arguments with
  | none => pure .usage
  | some command =>
    tryCatch command.perform fun
      | .said message => pure (.error message)
      | e => throw e

end NameSlots.Cli
