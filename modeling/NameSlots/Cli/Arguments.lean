import NameSlots.Text.Basic

/-! Arguments of commands: options with and without values, and plain arguments, in any order. -/

namespace NameSlots.Cli

/-- The options that a command takes, by their names without hyphens. -/
structure OptionNames where
  flags : List String := []
  values : List String := []

/-- The options and plain arguments of a command line. -/
structure Given where
  flags : List Text := []
  values : List (Text × Text) := []
  plain : List Text := []

namespace Given

def has (given : Given) (flag : String) : Bool := given.flags.contains flag.toList

/-- The values of an option, in order. -/
def all (given : Given) (name : String) : List Text :=
  given.values.filterMap fun (other, value) => if other == name.toList then some value else none

/-- The value of an option, which is the last one given. -/
def value? (given : Given) (name : String) : Option Text := (given.all name).getLast?

end Given

/-- What ends the options. -/
def optionsEnd : Text := "--".toList

/-- Whether an argument is written like an option. -/
def isOption (argument : Text) : Bool := argument.head? == some '-' && 1 < argument.length

/-- Reads arguments after those that are given already; none if an option is not known, has a value
that it cannot have, or lacks one. -/
def readArguments (names : OptionNames) (given : Given) : List Text → Option Given
  | [] => some given
  | argument :: rest =>
    if argument == optionsEnd then some { given with plain := given.plain ++ rest }
    else if !isOption argument then
      readArguments names { given with plain := given.plain ++ [argument] } rest
    else
      let (written, value) := Text.splitFirst '=' argument
      match Text.dropFront? optionsEnd written with
      | none => none
      | some name =>
        if names.flags.any (·.toList == name) then
          if value.isSome then none
          else readArguments names { given with flags := given.flags ++ [name] } rest
        else if names.values.any (·.toList == name) then
          match value, rest with
          | some value, rest =>
            readArguments names { given with values := given.values ++ [(name, value)] } rest
          | none, value :: rest =>
            readArguments names { given with values := given.values ++ [(name, value)] } rest
          | none, [] => none
        else none

/-- The name of a command and its arguments; none if an option stands before the name. -/
def splitCommand : List Text → Option (Text × List Text)
  | [] => none
  | argument :: rest =>
    if argument == optionsEnd then
      match rest with
      | name :: rest => some (name, rest)
      | [] => none
    else if isOption argument then none
    else some (argument, rest)

end NameSlots.Cli
