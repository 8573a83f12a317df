import NameSlots.Cli.Run
import NameSlots.Logs.Command

/-! The program: reads the files that arguments name, runs the command and writes what it changed.
-/

namespace NameSlots.Program

/-- Reads what a path leads to: a directory is there but cannot be read as a file. -/
def readEntry (path : Path) : IO (Option Entry) := do
  let name := String.ofList path.text
  try
    let content ← IO.FS.readBinFile name
    pure (some (.file content.data.toList))
  catch
    | .noFileOrDirectory .. => pure none
    | _ => pure (some .directory)

/-- Reads what a path leads to, and the directories on the way. -/
def readPath (files : Files) (path : Path) : IO Files :=
  path.chain.foldlM (fun files path => do
    match files.locate path, ← readEntry path with
    | .ok place, some entry => pure (files.put place entry)
    | _, _ => pure files) files

/-- The texts in an argument that may be paths: the argument, and the value of an option in it. -/
def candidates (argument : Text) : List Text :=
  argument :: (Text.splitFirst '=' argument).2.toList

/-- Reads the files that arguments name. -/
def readFiles (arguments : List Text) : IO Files :=
  (arguments.flatMap candidates).foldlM (fun files t => readPath files (Path.ofText t)) {}

/-- Writes the files that have changed. -/
def writeChanges (before after : Files) : IO Unit :=
  (before.changes after).forM fun (path, content) =>
    match content with
    | some content => do
      IO.FS.createDirAll (String.ofList path.parent.text)
      IO.FS.writeBinFile (String.ofList path.text) ⟨content.toArray⟩
    | none => IO.FS.removeFile (String.ofList path.text)

/-- Prints what a command gives back. -/
def print (printed : Printed) : IO UInt32 := do
  IO.print (String.ofList printed.output)
  if printed.exit = 2 && printed.output.isEmpty then IO.eprintln "The arguments make no sense."
  pure (UInt32.ofNat printed.exit)

/-- Prints what is said of a command that failed. -/
def fail (message : Text) : IO UInt32 := do
  IO.eprintln (String.ofList message)
  pure 1

def runCommand (arguments : List Text) : IO UInt32 := do
  let before ← readFiles arguments
  let (result, after) := Action.perform (Cli.run arguments) before
  writeChanges before after
  match result with
  | .ok printed => print printed
  | .error why => fail why.message

def runLogs (arguments : List Text) : IO UInt32 := do
  match Logs.command (← readFiles arguments) arguments with
  | .ok printed => print printed
  | .error why => fail why.message

end NameSlots.Program

/-- Sums up logs if the first argument is `logs`, and runs a command on names otherwise. -/
def main (arguments : List String) : IO UInt32 :=
  match arguments with
  | "logs" :: rest => NameSlots.Program.runLogs (rest.map String.toList)
  | _ => NameSlots.Program.runCommand (arguments.map String.toList)
