import NameSlots.Files.Atomic
import NameSlots.Rules.Data
import NameSlots.Yaml.Meaning
import NameSlots.Yaml.Printer

/-!
Rule sets as documents. A rule set is read from any document with the right values, in which the
mappings may also be a table from keys to values; it is written in one form.
-/

namespace NameSlots

/-- Why a text or a file is no rule set. `label` names the source. -/
inductive RuleSetError where
  | notFound (path : Path)
  | unreadable (path : Path) (why : FileError)
  | notYaml (label : Text)
  /-- A value of the document cannot be read. -/
  | badValue (why : Yaml.Fault)
  | notTable (label : Text)
  | badMapping (label : Text) (key : Yaml.Value)
  | badSchema (label : Text)

namespace RuleSetError

def message : RuleSetError → Text
  | .notFound path => "Rule set file not found: ".toList ++ path.text
  | .unreadable path why => why.message path
  | .notYaml label => "Invalid YAML in rule set: ".toList ++ label
  | .badValue why => why.message
  | .notTable label => "Rule set must contain a mapping: ".toList ++ label
  | .badMapping label key =>
    "Name mapping keys and values must be strings in ".toList ++ label ++ ": ".toList ++ key.keyText
  | .badSchema label => "Invalid rule set schema: ".toList ++ label

/-- Whether a source that is no rule set is reported in words. -/
def isReported : RuleSetError → Bool
  | .unreadable _ _ | .badValue _ => false
  | _ => true

end RuleSetError

namespace Yaml.Value

mutual

/-- The value as JSON: bytes are text, and sets and pairs are lists. There is none for times, for
tables with other keys than texts, and for collections that hold themselves. -/
def toJson? : Value → Option Json
  | .null => some .null
  | .bool b => some (.bool b)
  | .int n => some (.int n)
  | .float x => some (.float x)
  | .text t => some (.string t)
  | .bytes content => (Utf8.decode content).toOption.map .string
  | .time _ => none
  | .list items => .array <$> itemsJson? items
  | .set items => .array <$> itemsJson? items
  | .pairs items => .array <$> pairsJson? items
  | .table entries => .object <$> entriesJson? entries
  | .loop _ => none

/-- The values of a list as JSON. -/
def itemsJson? : List Value → Option (List Json)
  | [] => some []
  | item :: rest => do
    let item ← toJson? item
    let rest ← itemsJson? rest
    pure (item :: rest)

/-- Pairs as lists of two values. -/
def pairsJson? : List (Value × Value) → Option (List Json)
  | [] => some []
  | (key, value) :: rest => do
    let key ← toJson? key
    let value ← toJson? value
    let rest ← pairsJson? rest
    pure (.array [key, value] :: rest)

/-- The entries of a table as fields. -/
def entriesJson? : List (Value × Value) → Option (List (Text × Json))
  | [] => some []
  | (.text key, value) :: rest => do
    let value ← toJson? value
    let rest ← entriesJson? rest
    pure ((key, value) :: rest)
  | _ :: _ => none

end

/-- Whether a value has few enough digits to be shown. -/
def isShown : Value → Bool
  | .int n => Number.isWritable n
  | _ => true

/-- The value of a key. -/
def field? (name : String) (entries : List (Value × Value)) : Option Value :=
  entries.lookup (.text name.toList)

end Yaml.Value

namespace RuleSet

/-! ## Reading -/

/-- Why an entry is no mapping. -/
def badEntry (label : Text) (key : Yaml.Value) : RuleSetError :=
  if key.isShown then .badMapping label key else .badValue .unwritableWhole

/-- The mappings of a table. -/
def mappingsOf (label : Text) (entries : List (Yaml.Value × Yaml.Value)) :
    Except RuleSetError (List Yaml.Value) :=
  entries.mapM fun
    | (.text key, .text value) =>
      .ok (.table [(.text "key".toList, .text key), (.text "value".toList, .text value)])
    | (key, _) => .error (badEntry label key)

/-- The entries of a document with the mappings as a list. A document that is its own table of
mappings counts as one too. -/
def withMappingList (label : Text) (entries : List (Yaml.Value × Yaml.Value)) :
    Except RuleSetError (List (Yaml.Value × Yaml.Value)) := do
  let put (table : List (Yaml.Value × Yaml.Value)) := do
    let mappings ← mappingsOf label table
    pure (Table.put (.text "name_mappings".toList) (.list mappings) entries)
  match Yaml.Value.field? "name_mappings" entries with
  | some (.table table) => put table
  | some (.loop _) => put entries
  | _ => pure entries

/-- Whether the slot mode is given as bytes, which name no mode. -/
def hasByteMode (entries : List (Yaml.Value × Yaml.Value)) : Bool :=
  match Yaml.Value.field? "slot_mode" entries with
  | some (.bytes _) => true
  | _ => false

/-- Reads a rule set from the entries of a document. -/
def ofEntries (label : Text) (entries : List (Yaml.Value × Yaml.Value)) :
    Except RuleSetError RuleSet := do
  let entries ← withMappingList label entries
  match (Yaml.Value.table entries).toJson? with
  | none => .error (.badSchema label)
  | some data =>
    if hasByteMode entries then .error (.badSchema label)
    else (RuleSet.check data).mapError fun _ => .badSchema label

/-- Reads a rule set; `label` names the source in messages. A text without a document is the rule
set that has nothing in it. -/
def ofYaml (label text : Text) : Except RuleSetError RuleSet :=
  match Yaml.read text with
  | .error (.malformed _) => .error (.notYaml label)
  | .error fault => .error (.badValue fault)
  | .ok .null => ofEntries label []
  | .ok (.table entries) => ofEntries label entries
  | .ok _ => .error (.notTable label)

/-- How messages name a text that comes from no file. -/
def inlineLabel : Text := "<inline>".toList

/-- Reads the rule set of a file. -/
def load (files : Files) (path : Path) : Except RuleSetError RuleSet :=
  match files.readText path with
  | .ok text => ofYaml path.text text
  | .error .notFound => .error (.notFound path)
  | .error e => .error (.unreadable path e)

/-! ## Writing -/

/-- The spaces before the later lines of a text in a list. -/
def textIndent : Nat := 4

/-- A line with a name and a text. -/
def textLine (front name : String) (text : Text) : Text :=
  let start := front.toList ++ name.toList ++ ": ".toList
  start ++ Yaml.writeText textIndent start.length text ++ ['\n']

/-- A list under a name. -/
def listLines {α : Type} (name : String) (item : α → Text) (items : List α) : Text :=
  if items.isEmpty then name.toList ++ ": []\n".toList
  else name.toList ++ ":\n".toList ++ items.flatMap item

def mappingLines (mapping : Mapping) : Text :=
  textLine "- " "key" mapping.key ++ textLine "  " "value" mapping.value

def ruleLines (rule : Rule) : Text :=
  textLine "- " "key" rule.key ++ textLine "  " "value" rule.value ++
    match rule.note with
    | some note => textLine "  " "note" note
    | none => []

/-- The document of a rule set. -/
def toYaml (ruleSet : RuleSet) : Text :=
  "version: ".toList ++ Text.ofInt ruleSet.version ++ "\nslot_mode: ".toList ++
    ruleSet.slotMode.text ++ '\n' :: listLines "name_mappings" mappingLines ruleSet.mappings ++
    listLines "rules" ruleLines ruleSet.rules

/-- Whether the version has few enough digits to be written. -/
def isWritable (ruleSet : RuleSet) : Bool :=
  Number.isWritable ruleSet.version

/-- Writes a rule set that can be written to a file as a whole, or leaves no trace of it. -/
def save {ε : Type} (wrap : FileError → ε) (path : Path) (ruleSet : RuleSet) : Action ε Unit :=
  Action.replaceFileOrNone wrap path ruleSet.toYaml

end RuleSet

end NameSlots
