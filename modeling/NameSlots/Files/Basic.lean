import NameSlots.Files.Path
import NameSlots.Table
import NameSlots.Text.Lines
import NameSlots.Text.Utf8

/-! Files and directories as a value, and what reading and writing does to them. -/

namespace NameSlots

/-- What a path leads to. -/
inductive Entry where
  | file (content : Bytes)
  | directory
deriving DecidableEq

/-- What is there, by path. -/
structure Files where
  entries : List (Path × Entry) := []
deriving DecidableEq

/-- Why a file cannot be read or written. -/
inductive FileError where
  | notFound
  | isDirectory
  | notDirectory
  | exists
  | undecodable (fault : Utf8.Fault)
deriving DecidableEq

/-- What is wrong with a file, with the number that systems give it. -/
def FileError.reason : FileError → Text
  | .notFound => numbered 2 "No such file or directory"
  | .exists => numbered 17 "File exists"
  | .notDirectory => numbered 20 "Not a directory"
  | .isDirectory => numbered 21 "Is a directory"
  | .undecodable fault => fault.message
where
  numbered (number : Nat) (what : String) : Text :=
    "[Errno ".toList ++ Text.ofNat number ++ "] ".toList ++ what.toList

/-- What is said of a file that cannot be read or written. -/
def FileError.message (path : Path) (why : FileError) : Text :=
  match why with
  | .undecodable fault => fault.message
  | _ => why.reason ++ ": ".toList ++ Text.quoted path.text

namespace Files

/-- What a path without names that lead up leads to. -/
def entryAt? (files : Files) (path : Path) : Option Entry :=
  match files.entries.lookup path with
  | some entry => some entry
  | none =>
    if path.names.isEmpty || files.entries.any fun (other, _) => path ∈ other.chain then
      some .directory
    else none

/-- Follows names from a path: a name leads into a directory, or up from it. -/
def follow (files : Files) (at_ : Path) : List Text → Except FileError Path
  | [] => .ok at_
  | name :: rest =>
    match files.entryAt? at_ with
    | none => .error .notFound
    | some (.file _) => .error .notDirectory
    | some .directory =>
      if name = Path.up then files.follow at_.parent rest
      else files.follow { at_ with names := at_.names ++ [name] } rest

/-- The place that a path leads to, without names that lead up. -/
def locate (files : Files) (path : Path) : Except FileError Path :=
  files.follow { path with names := [] } path.names

/-- What a path leads to. -/
def look? (files : Files) (path : Path) : Option Entry :=
  match files.locate path with
  | .ok place => files.entryAt? place
  | .error _ => none

def isFile (files : Files) (path : Path) : Bool :=
  match files.look? path with
  | some (.file _) => true
  | _ => false

def isDirectory (files : Files) (path : Path) : Bool := files.look? path = some .directory

/-- What a path as it is written leads to: after a slash at its end there must be a directory. -/
def stat? (files : Files) (written : Text) : Option Entry :=
  if written.isEmpty then none
  else match files.look? (Path.ofText written) with
    | some (.file content) =>
      let last := (Text.splitAll '/' written).getLastD []
      if last.isEmpty || last == Path.here then none else some (.file content)
    | entry => entry

/-- The bytes of a file. -/
def read (files : Files) (path : Path) : Except FileError Bytes := do
  match files.entryAt? (← files.locate path) with
  | none => .error .notFound
  | some .directory => .error .isDirectory
  | some (.file content) => .ok content

/-- The text of a file, with every line end as a line feed. -/
def readText (files : Files) (path : Path) : Except FileError Text := do
  match Utf8.decode (← files.read path) with
  | .ok t => .ok (Text.unifyLineEnds t)
  | .error fault => .error (.undecodable fault)

/-- The files with an entry at a place. -/
def put (files : Files) (place : Path) (entry : Entry) : Files :=
  { entries := Table.put place entry files.entries }

/-- The files without what is at a place. -/
def drop (files : Files) (place : Path) : Files := { entries := Table.drop place files.entries }

/-- Makes the directories on paths, the outermost first, where they are missing. -/
def makeAll (files : Files) : List Path → Except FileError Files
  | [] => .ok files
  | path :: rest => do
    let place ← files.locate path
    match files.entryAt? place with
    | some .directory => files.makeAll rest
    | some (.file _) => .error (if rest.isEmpty then .exists else .notDirectory)
    | none => (files.put place .directory).makeAll rest

/-- Makes a directory and those on the way to it. -/
def makeDirectory (files : Files) (path : Path) : Except FileError Files :=
  files.makeAll path.chain

/-- Writes a file whose directory is there. -/
def write (files : Files) (path : Path) (content : Bytes) : Except FileError Files := do
  let place ← files.locate path
  match files.entryAt? place with
  | some .directory => .error .isDirectory
  | _ => .ok (files.put place (.file content))

/-- Moves a file to another path; a file that is there is replaced. -/
def move (files : Files) (source target : Path) : Except FileError Files := do
  let content ← files.read source
  let start ← files.locate source
  let place ← files.locate target
  let moved ← files.write target content
  .ok (if start = place then moved else moved.drop start)

/-- The names of a new file beside a path: the path's name, a number and `.tmp`. -/
def temporaryName (path : Path) (n : Nat) : Path :=
  path.sibling (path.name ++ '.' :: Text.ofNat n ++ ".tmp".toList)

/-- A path beside another one at which there is nothing. -/
def temporary (files : Files) (path : Path) : Path :=
  let unused := (List.range files.entries.length).find? fun n =>
    (files.look? (temporaryName path n)).isNone
  temporaryName path (unused.getD files.entries.length)

/-- The files, without directories. -/
def contents (files : Files) : List (Path × Bytes) :=
  files.entries.filterMap fun (path, entry) =>
    match entry with
    | .file content => some (path, content)
    | .directory => none

/-- The paths of the files, in code-point order. -/
def paths (files : Files) : List Text := (files.contents.map (·.1.text)).mergeSort Text.le

/-- The files whose content is not what it was, with their content if they are there. -/
def changes (before after : Files) : List (Path × Option Bytes) :=
  let gone := before.contents.filter fun (path, _) => (after.contents.lookup path).isNone
  let new := after.contents.filter fun (path, content) =>
    before.contents.lookup path != some content
  gone.map (fun (path, _) => (path, none)) ++ new.map fun (path, content) => (path, some content)

end Files

end NameSlots
