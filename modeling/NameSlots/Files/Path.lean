import NameSlots.Text.Basic

/-! Paths of files. -/

namespace NameSlots

/-- A path from the working directory or from the root: names, of which some may lead up. -/
structure Path where
  absolute : Bool := false
  names : List Text := []
deriving DecidableEq

namespace Path

/-- The name of a directory in itself. -/
def here : Text := ['.']

/-- The name of the directory above. -/
def up : Text := ['.', '.']

/-- The path that a text writes; names of the same directory are left out. -/
def ofText (t : Text) : Path where
  absolute := t.head? = some '/'
  names := (Text.splitAll '/' t).filter fun name => !name.isEmpty && name != here

def text (path : Path) : Text :=
  let joined := Text.join ['/'] path.names
  if path.absolute then '/' :: joined else if joined.isEmpty then here else joined

/-- The directory that holds what the path leads to. -/
def parent (path : Path) : Path := { path with names := path.names.dropLast }

/-- The path of something else in the same directory. -/
def sibling (path : Path) (name : Text) : Path :=
  { path with names := path.names.dropLast ++ [name] }

/-- The last name of the path. -/
def name (path : Path) : Text := path.names.getLast?.getD []

/-- The path and all that lead to it, the shortest first. -/
def chain (path : Path) : List Path :=
  (List.range (path.names.length + 1)).map fun n => { path with names := path.names.take n }

end Path

end NameSlots
