import NameSlots.Files.Action
import NameSlots.Json.Reader
import NameSlots.Json.Writer
import NameSlots.Names.Store
import NameSlots.Rules.Data

/-! A store in a file of JSON text. Every action reads the file anew; one that changes the store
writes all of it beside the file and then moves it there. -/

namespace NameSlots

/-- Why a store cannot be read or written. -/
inductive StoreError where
  | file (why : FileError)
  | notJson (path : Path)
  | badEntry (path : Path)
  | tooManyDigits (count : Nat)
  /-- The mappings of a set are no list. -/
  | notList
  | badVersion (text : Text)
  /-- The version is a list, a table or null. -/
  | notVersion
  | noVersion
  | endlessVersion
  | invalid (issues : List Issue)

namespace StoreError

def message : StoreError → Text
  | .file why => why.reason
  | .notJson path => "Invalid name store JSON: ".toList ++ path.text
  | .badEntry path => "Invalid name store entry: ".toList ++ path.text
  | .tooManyDigits count => Number.tooManyDigitsMessage count
  | .badVersion t => Number.invalidMessage 10 t
  | .noVersion => "cannot convert float NaN to integer".toList
  | .endlessVersion => "cannot convert float infinity to integer".toList
  | _ => []

/-- Whether a store that cannot be read is reported in words. -/
def isReported : StoreError → Bool
  | .file (.undecodable _) => true
  | .file _ | .notList | .notVersion | .endlessVersion => false
  | _ => true

end StoreError

/-- A mapping with a key of one character or more. -/
def Mapping.ofTexts (key value : Text) : Checked Mapping :=
  Mapping.check (.record [("key", .string key), ("value", .string value)])

namespace NameSet

/-- Reads the set of a name. -/
def ofJson (path : Path) (name : Text) (item : Json) : Except StoreError NameSet :=
  match item with
  | .object fields =>
    match ((fields.lookup "mappings".toList).getD (.array [])).parts? with
    | none => .error .notList
    | some items =>
      match items.mapM Mapping.check with
      | .error _ => .error (.badEntry path)
      | .ok mappings =>
        .ok {
          name := (fields.lookup "name".toList).getD (.string name)
          mappings
          note := (fields.lookup "note".toList).getD .null }
  | _ => .error (.badEntry path)

def toJson (set : NameSet) : Json :=
  .record [("name", set.name), ("mappings", .array (set.mappings.map Mapping.toJson)),
    ("note", set.note)]

end NameSet

namespace Store

/-- Reads a version: any number or text of a whole number will do. -/
def readVersion : Json → Except StoreError Int
  | .int n => .ok n
  | .bool b => .ok b.toNat
  | .float .nan => .error .noVersion
  | .float x =>
    match x.truncate? with
    | some n => .ok n
    | none => .error .endlessVersion
  | .string t =>
    match Number.whole t with
    | .ok n => .ok n
    | .error .invalid => .error (.badVersion t)
    | .error (.tooManyDigits count) => .error (.tooManyDigits count)
  | _ => .error .notVersion

/-- Reads the sets of a store. -/
def readSets (path : Path) : Json → Except StoreError (List (Text × NameSet))
  | .object fields => fields.mapM fun (name, item) => do
    let set ← NameSet.ofJson path name item
    pure (name, set)
  | _ => .error (.badEntry path)

/-- Reads a store. -/
def ofJson (path : Path) (data : Json) : Except StoreError Store :=
  match data with
  | .object fields => do
    let sets ← readSets path ((fields.lookup "sets".toList).getD (.object []))
    let version ← readVersion ((fields.lookup "version".toList).getD (.int 1))
    pure { version, sets }
  | _ => .error (.notJson path)

/-- Reads the text of a store. -/
def ofText (path : Path) (content : Text) : Except StoreError Store :=
  match Json.read content with
  | .ok data => ofJson path data
  | .error (.malformed _ _) => .error (.notJson path)
  | .error (.tooManyDigits count) => .error (.tooManyDigits count)

def toJson (store : Store) : Json :=
  .record [("version", .int store.version),
    ("sets", .object (store.sets.map fun (name, set) => (name, set.toJson)))]

end Store

/-- A store that a file holds. -/
structure StoreFile where
  path : Path

namespace StoreFile

/-- The store, which is empty where there is no file. -/
def load (file : StoreFile) : Action StoreError Store := do
  let files ← Action.files
  if (files.look? file.path).isNone then pure {}
  else do
    let content ← Action.ask .file (·.readText file.path)
    Action.ofExcept id (Store.ofText file.path content)

/-- The path beside the file at which it is written. -/
def draft (file : StoreFile) : Path := file.path.sibling (file.path.name ++ ".tmp".toList)

def save (file : StoreFile) (store : Store) : Action StoreError Unit := do
  Action.change .file (·.makeDirectory file.path.parent)
  Action.change .file (·.write file.draft (Utf8.encode store.toJson.compact))
  Action.change .file (·.move file.draft file.path)

def get? (file : StoreFile) (name : Text) : Action StoreError (Option NameSet) := do
  let store ← file.load
  pure (store.get? name)

def list (file : StoreFile) : Action StoreError (List NameSet) := do
  let store ← file.load
  pure store.list

/-- Puts a mapping into a set and gives the set. -/
def putMapping (file : StoreFile) (name key value : Text) : Action StoreError NameSet := do
  let mapping ← Action.ofExcept .invalid (Mapping.ofTexts key value)
  let store ← file.load
  file.save (store.putMapping name mapping)
  pure (store.withMapping name mapping)

/-- Saves a store that there may be, and tells whether there is one. -/
def saveIfAny (file : StoreFile) : Option Store → Action StoreError Bool
  | some store => do
    file.save store
    pure true
  | none => pure false

/-- Drops the mappings of a key in a set, and tells whether there were any. -/
def dropMappings (file : StoreFile) (name key : Text) : Action StoreError Bool := do
  let store ← file.load
  file.saveIfAny (store.dropMappings? name key)

/-- Drops a set, and tells whether there was one. -/
def drop (file : StoreFile) (name : Text) : Action StoreError Bool := do
  let store ← file.load
  file.saveIfAny (store.drop? name)

/-- Puts a set in place of the one of its name. -/
def put (file : StoreFile) (name : Text) (mappings : List Mapping) (note : Json) :
    Action StoreError Unit := do
  let store ← file.load
  file.save (store.put name { name := .string name, mappings, note })

end StoreFile

end NameSlots
