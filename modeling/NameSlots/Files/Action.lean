import NameSlots.Files.Basic

/-! Actions on files: an action that fails leaves the files as it has changed them so far. -/

namespace NameSlots

/-- Something that reads and changes files and may fail. -/
abbrev Action (ε : Type) := ExceptT ε (StateM Files)

namespace Action

variable {ε : Type}

/-- What an action gives, and the files after it. -/
def perform {α : Type} (action : Action ε α) (files : Files) : Except ε α × Files :=
  (ExceptT.run action).run files

/-- The files as they are. -/
def files : Action ε Files := get

/-- What files tell. -/
def ask {α : Type} (wrap : FileError → ε) (question : Files → Except FileError α) : Action ε α := do
  match question (← files) with
  | .ok x => pure x
  | .error e => throw (wrap e)

/-- Changes files. -/
def change (wrap : FileError → ε) (how : Files → Except FileError Files) : Action ε Unit := do
  let changed ← ask wrap how
  set changed

/-- A value, or an error. -/
def ofExcept {α δ : Type} (wrap : δ → ε) : Except δ α → Action ε α
  | .ok x => pure x
  | .error e => throw (wrap e)

end Action

end NameSlots
