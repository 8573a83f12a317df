import NameSlots.Cli.Run
import NameSlots.Proofs.Cli.Arguments
import NameSlots.Proofs.Files.Action
import NameSlots.Proofs.Files.Places
import NameSlots.Proofs.Service.Work

/-! What commands read and print for the values that their options write. -/
namespace NameSlots

namespace Cli

open NameSlots.Action

variable {files : Files} {choices : List Choice} {names : OptionNames} {name : String}

/-! ## Options -/

/-- Where an option cannot be, it has no values. -/
theorem valuesOf_eq_nil (h : ∀ choice ∈ choices, choice.IsKnown names) (hn : name ∉ names.values) :
    valuesOf name choices = [] := by
  unfold valuesOf
  rw [List.filterMap_eq_nil_iff]
  intro choice hm
  have hc := h choice hm
  cases choice with
  | flag other => rfl
  | value other t =>
    refine if_neg ?_
    rintro rfl
    exact hn hc
  | joined other t =>
    refine if_neg ?_
    rintro rfl
    exact hn hc

theorem isKnown_of_subset {more : OptionNames} {choice : Choice} (hf : names.flags ⊆ more.flags)
    (hv : names.values ⊆ more.values) (h : choice.IsKnown names) : choice.IsKnown more := by
  cases choice with
  | flag name => exact hf h
  | value name t => exact hv h
  | joined name t => exact hv h

theorem readOptions_commandLine {α : Type} {read : Given → Option α} (hnames : names.Proper)
    (h : ∀ choice ∈ choices, choice.IsKnown names) :
    Command.readOptions names read (commandLine choices) = read (.ofChoices choices) := by
  unfold Command.readOptions
  rw [readArguments_commandLine hnames h]
  simp [Given.ofChoices]

theorem value?_ofChoices (name : String) (choices : List Choice) :
    (Given.ofChoices choices).value? name = (valuesOf name choices).getLast? := by
  rw [Given.value?, all_ofChoices]

/-! ## Matching -/

theorem slotMode_text (mode : SlotMode) : Run.slotMode mode.text = pure mode := by
  cases mode <;> rfl

/-- A command that succeeds is run as it is. -/
theorem run_of_ok {arguments : List Text} {command : Command} {printed : Printed} {after : Files}
    (hcommand : Command.ofArguments? files arguments = some command)
    (h : command.perform.perform files = (.ok printed, after)) :
    (run arguments).perform files = (.ok printed, after) := by
  have hfiles : (Action.files : Run Files).perform files = (.ok files, files) := rfl
  unfold run
  rw [perform_bind_of_ok hfiles]
  simp only [hcommand]
  exact perform_tryCatch_of_ok h

def resolveOptions : OptionNames where
  flags := ["json"]
  values := ["ruleset", "input", "input-file", "slot-mode"]

/-- Options that write one input, or name a file with an input on each line. -/
inductive WritesInputs (files : Files) (choices : List Choice) : List Text → Prop where
  | one {input : Text} : valuesOf "input" choices = [input] →
      valuesOf "input-file" choices = [] → WritesInputs files choices [input]
  | file {inputs : List Text} {written text : Text} : valuesOf "input" choices = [] →
      valuesOf "input-file" choices = [written] →
      files.stat? written = some (.file (Utf8.encode text)) → Text.HasLines inputs text →
      (∀ input ∈ inputs, Text.IsInput input) → WritesInputs files choices inputs

/-- Options that name a file with a rule set, write inputs and a slot mode, and ask for JSON. -/
structure WritesResolve (files : Files) (ruleSet : RuleSet) (mode : Option SlotMode)
    (inputs : List Text) (choices : List Choice) : Prop where
  known : ∀ choice ∈ choices, choice.IsKnown resolveOptions
  ruleSet : ∃ written content, valuesOf "ruleset" choices = [written] ∧
    files.stat? written = some (.file content) ∧
      RuleSet.load files (Path.ofText written) = .ok ruleSet
  inputs : WritesInputs files choices inputs
  slotMode : valuesOf "slot-mode" choices = mode.toList.map SlotMode.text
  json : .flag "json" ∈ choices

theorem path_eq_none (rule : PathRule) (h : valuesOf name choices = []) :
    (Given.ofChoices choices).path files rule name = some none := by
  rw [Given.path, value?_ofChoices, h]
  rfl

theorem path_ofChoices {written : Text} (rule : PathRule) (h : valuesOf name choices = [written]) :
    (Given.ofChoices choices).path files rule name =
      if rule.holds (files.stat? written) then some (some (Path.ofText written)) else none := by
  rw [Given.path, value?_ofChoices, h]
  rfl

theorem path_eq_some {written : Text} {content : Bytes} (h : valuesOf name choices = [written])
    (hs : files.stat? written = some (.file content)) :
    (Given.ofChoices choices).path files .present name = some (some (Path.ofText written)) := by
  rw [path_ofChoices .present h, hs]
  rfl

/-- The inputs of a file are the lines of its text as it is written. -/
theorem perform_inputs_file {path : Path} {text : Text} {command : ResolveCommand}
    (h : files.look? path = some (.file (Utf8.encode text))) (hi : command.input = none)
    (hf : command.inputFile = some path) :
    (Run.inputs command).perform files = (.ok (Text.inputLines text), files) := by
  unfold Run.inputs
  rw [hi, hf]
  change (Text.inputLines <$> ask CommandError.file (·.readText path)).perform files = _
  rw [perform_map Text.inputLines (perform_ask ..), Files.readText_of_look? h]
  exact congrArg (fun lines => (Except.ok lines, files)) (Text.inputLines_unifyLineEnds text)

/-- The inputs that are read from a file are the lines that it holds, untrimmed and in order, and so are
those of a command that names the file. -/
theorem inputs_eq_written {path : Path} {text : Text} {lines : List Text}
    (hfile : files.look? path = some (.file (Utf8.encode text)))
    (hlines : ∀ line ∈ lines, Text.IsInput line) (h : Text.HoldsLines lines text) :
    Text.inputLines <$> files.readText path = .ok lines ∧
      ∀ command : ResolveCommand, command.input = none → command.inputFile = some path →
        (Run.inputs command).perform files = (.ok lines, files) := by
  have hread := Text.inputLines_holdsLines h hlines
  constructor
  · rw [Files.readText_of_look? hfile, ← hread, ← Text.inputLines_unifyLineEnds]
    rfl
  · intro command hi hf
    rw [perform_inputs_file hfile hi hf, hread]

/-- A line that ends with a carriage return stands before an empty one that ends with a line feed, and
blank lines hold line breaks themselves. -/
theorem inputs_eq_written_mixed :
    let text := "\x0b\t\r a \r\nb c\r\n\x1c\n\n\rd".toList
    let lines := [" a ".toList, "b c".toList, ['d']]
    let path := Path.ofText ['i']
    let files : Files := ⟨[(path, .file (Utf8.encode text))]⟩
    let command : ResolveCommand := ⟨Path.ofText ['r'], none, some path, ⟨none, none⟩, none, none, false⟩
    Text.inputLines <$> files.readText path = .ok lines ∧
      (Run.inputs command).perform files = (.ok lines, files) := by
  intro text lines path files command
  have hlines : ∀ line ∈ lines, Text.IsInput line := by
    simp only [lines, List.forall_mem_cons, List.not_mem_nil, false_implies, implies_true, and_true]
    exact ⟨⟨rfl, by simp [Text.isLineBreak]⟩, ⟨rfl, by simp [Text.isLineBreak]⟩,
      ⟨rfl, by simp [Text.isLineBreak]⟩⟩
  have hholds : Text.HoldsLines lines text :=
    .blank ['\x0b', '\t'] .carriageReturn (by decide) <|
      .line " a ".toList .carriageReturn <|
      .blank [] .lineFeed rfl <|
      .line "b c".toList .both <|
      .blank ['\x1c', '\n'] .lineFeed (by decide) <|
      .blank [] .carriageReturn rfl <|
      .last ['d']
  have hfile : files.look? path = some (.file (Utf8.encode text)) := rfl
  obtain ⟨hread, hcommand⟩ := inputs_eq_written hfile hlines hholds
  exact ⟨hread, hcommand command rfl rfl⟩

/-- One of the two options for inputs is there, and gives them. -/
theorem WritesInputs.perform {inputs : List Text} (h : WritesInputs files choices inputs) :
    ∃ input inputFile, (Given.ofChoices choices).value? "input" = input ∧
      (Given.ofChoices choices).path files .present "input-file" = some inputFile ∧
      (input.isSome == inputFile.isSome) = false ∧
      ∀ command : ResolveCommand, command.input = input → command.inputFile = inputFile →
        (Run.inputs command).perform files = (.ok inputs, files) := by
  cases h with
  | @one input hinput hfile =>
    refine ⟨some input, none, by rw [value?_ofChoices, hinput]; rfl, path_eq_none _ hfile, rfl, ?_⟩
    intro command hi _
    simp [Run.inputs, hi]
  | @file inputs written text hinput hfile hstat hlines hinputs =>
    refine ⟨none, some (Path.ofText written), by rw [value?_ofChoices, hinput]; rfl,
      path_eq_some hfile hstat, rfl, ?_⟩
    intro command hi hf
    rw [perform_inputs_file (Files.look?_of_stat? hstat) hi hf, Text.inputLines_eq hlines hinputs]

theorem perform_ruleSet {path : Path} {ruleSet : RuleSet} (h : RuleSet.load files path = .ok ruleSet) :
    (Run.ruleSet path).perform files = (.ok ruleSet, files) := by
  have hfiles : (Action.files : Run Files).perform files = (.ok files, files) := rfl
  unfold Run.ruleSet
  rw [perform_bind_of_ok hfiles]
  simp only [h]
  rfl

theorem run_resolve {ruleSet : RuleSet} {mode : Option SlotMode} {inputs : List Text}
    {outcomes : List Outcome} (h : WritesResolve files ruleSet mode inputs choices)
    (hresult : ruleSet.outcomes mode inputs = .ok outcomes) :
    (run ("resolve".toList :: commandLine choices)).perform files =
      (.ok (.text (if 0 < (summarize outcomes).matchedCount then 0 else 2)
        (resolutionJson outcomes (summarize outcomes)).pretty), files) := by
  obtain ⟨written, content, hwritten, hstat, hload⟩ := h.ruleSet
  obtain ⟨input, inputFile, hinput, hfile, hone, hinputs⟩ := h.inputs.perform
  have hmode : (Given.ofChoices choices).value? "slot-mode" = mode.map SlotMode.text := by
    rw [value?_ofChoices, h.slotMode]
    cases mode <;> rfl
  have hnone {name : String} (hn : name ∉ resolveOptions.values) : valuesOf name choices = [] :=
    valuesOf_eq_nil h.known hn
  let command : ResolveCommand := {
    ruleSet := Path.ofText written
    input
    inputFile
    set := ⟨none, none⟩
    slotMode := mode.map SlotMode.text
    out := none
    json := true }
  have hcommand : Command.ofArguments? files ("resolve".toList :: commandLine choices) =
      some (.resolve command) := by
    have hset : (Given.ofChoices choices).value? "set-name" = none := by
      rw [value?_ofChoices, hnone (by simp [resolveOptions])]
      rfl
    change Command.readOptions _ (Command.readResolve files) (commandLine choices) = _
    rw [readOptions_commandLine ⟨by simp, by simp, by simp⟩ fun choice hm =>
      isKnown_of_subset (by simp [resolveOptions]) (by simp [resolveOptions]) (h.known choice hm)]
    simp only [Command.readResolve, Command.setChoice, path_eq_some hwritten hstat, hfile,
      path_eq_none .noDirectory (hnone (show "store" ∉ resolveOptions.values by simp [resolveOptions])),
      path_eq_none .any (hnone (show "out" ∉ resolveOptions.values by simp [resolveOptions])),
      hset, hinput, hmode, has_ofChoices.2 h.json]
    rfl
  refine run_of_ok hcommand ?_
  have hread : (mode.map SlotMode.text).mapM Run.slotMode = pure mode := by
    cases mode with
    | none => rfl
    | some mode => simp [slotMode_text]
  change (Run.resolve command).perform files = _
  unfold Run.resolve
  simp only [command, hone, hread, pure_bind]
  rw [if_neg (by simp), perform_bind_of_ok (perform_ruleSet hload), if_neg (by simp),
    perform_bind_of_ok (hinputs command rfl rfl), ← RuleSet.outcomes_eq, hresult]
  have hcount : (decide ((summarize outcomes).matchedCount ≠ 0) = true) =
      (0 < (summarize outcomes).matchedCount) := by
    have hnonneg : 0 ≤ (summarize outcomes).matchedCount := Int.natCast_nonneg _
    simp only [decide_eq_true_eq, eq_iff_iff]
    omega
  simp only [Run.matched, Action.ofExcept, pure_bind, Option.forM, perform_pure, Run.matchExit, hcount]
  rfl

end Cli
end NameSlots
