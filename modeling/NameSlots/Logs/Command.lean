import NameSlots.Cli.Printed
import NameSlots.Logs.Report

/-! The command that prints the summary of logs. An option may be written by the start of its name,
and options and files may be mixed as long as the files stand together. -/

namespace NameSlots.Logs

/-- What the command is asked for. -/
structure Query where
  files : List Text := []
  operations : List Text := []
  json : Bool := false

/-- What an argument of the command is. -/
inductive Argument where
  | value
  | option (name : Text) (value : Option Text)
  | unknown

def operationOption : Text := "--operation".toList

def jsonOption : Text := "--json".toList

def optionNames : List Text := [operationOption, jsonOption, "--help".toList, "-h".toList]

/-- Whether a text is a number below zero. -/
def isNegativeNumber : Text → Bool
  | '-' :: rest =>
    match rest.dropWhile Char.isDigit with
    | [] => !rest.isEmpty
    | '.' :: places => !places.isEmpty && places.all Char.isDigit
    | _ => false
  | _ => false

/-- What an argument is; an option may be written by the start of its name if no other starts so. -/
def Argument.ofText (argument : Text) : Argument :=
  let (name, given) := Text.splitFirst '=' argument
  if argument ∈ optionNames then .option argument none
  else if !"-".toList.isPrefixOf argument || argument.length = 1 then .value
  else if name ∈ optionNames && given.isSome then .option name given
  else
    let fits (known : Text) : Bool := "--".toList.isPrefixOf name && name.isPrefixOf known
    match optionNames.filter fits with
    | [known] => .option known given
    | [] => if isNegativeNumber argument || ' ' ∈ argument then .value else .unknown
    | _ => .unknown

/-- Reads arguments. `closed` tells that an option came after the files, so that no more files may
follow. None if the arguments make no sense. -/
def readQuery? (query : Query) (closed : Bool) (arguments : List Text) : Option Query :=
  match arguments with
  | [] => if query.files.isEmpty then none else some query
  | argument :: rest =>
    let later := !query.files.isEmpty
    if argument = "--".toList then
      let files := query.files ++ rest
      if closed || files.isEmpty then none else some { query with files }
    else match Argument.ofText argument with
      | .value =>
        if closed then none
        else readQuery? { query with files := query.files ++ [argument] } false rest
      | .option name value =>
        if name = jsonOption && value.isNone then readQuery? { query with json := true } later rest
        else if name = operationOption then
          match value with
          | some operation =>
            readQuery? { query with operations := query.operations ++ [operation] } later rest
          | none =>
            match rest with
            | [] => none
            | operation :: rest =>
              match Argument.ofText operation with
              | .value =>
                readQuery? { query with operations := query.operations ++ [operation] } later rest
              | _ => none
        else none
      | .unknown => none
termination_by arguments.length

/-- Prints the summary of the files that arguments name. -/
def command (files : Files) (arguments : List Text) : Except LogError Printed :=
  match readQuery? {} false arguments with
  | none => .ok .usage
  | some query => do
    let operations := if query.operations.isEmpty then none else some query.operations
    let summary ← summarize files (query.files.map Path.ofText) operations
    let output := if query.json then summary.toJson.pretty else summary.text
    pure (.text 0 output)

end NameSlots.Logs
