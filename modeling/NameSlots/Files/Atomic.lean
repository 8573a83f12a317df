import NameSlots.Files.Action
import NameSlots.Json.Writer

/-! Writing a file as a whole: it is written beside its place first and then moved there. -/

namespace NameSlots.Action

variable {ε : Type}

/-- Writes a file at a path beside it and moves it to its place. -/
def writeBeside (wrap : FileError → ε) (draft path : Path) (content : Text) : Action ε Unit := do
  change wrap (·.write draft (Utf8.encode content))
  change wrap (·.move draft path)

/-- Writes a file as a whole. Where it cannot be moved to its place it stays beside it. -/
def replaceFile (wrap : FileError → ε) (path : Path) (content : Text) : Action ε Unit := do
  change wrap (·.makeDirectory path.parent)
  let files ← files
  writeBeside wrap (files.temporary path) path content

/-- Writes a file as a whole, or leaves no trace of it. -/
def replaceFileOrNone (wrap : FileError → ε) (path : Path) (content : Text) : Action ε Unit := do
  change wrap (·.makeDirectory path.parent)
  let files ← files
  let draft := files.temporary path
  tryCatch (writeBeside wrap draft path content) fun e => do
    change wrap fun files =>
      match files.locate draft with
      | .ok place => .ok (files.drop place)
      | .error _ => .ok files
    throw e

/-- Writes a value as JSON text on one line. -/
def writeJson (wrap : FileError → ε) (path : Path) (value : Json) : Action ε Unit :=
  replaceFile wrap path value.compact

end NameSlots.Action
