import NameSlots.Cli.Arguments

/-! Options come back from a command line, in whatever order and form they are written. -/
namespace NameSlots

namespace Text

theorem splitFirst_append {mark : Char} {front : Text} (h : mark ∉ front) (value : Text) :
    splitFirst mark (front ++ mark :: value) = (front, some value) := by
  induction front with
  | nil => simp [splitFirst]
  | cons c front ih =>
    have hc : c ≠ mark := fun he => h (he ▸ List.mem_cons_self)
    have hfront := ih fun hm => h (List.mem_cons_of_mem _ hm)
    simp only [splitFirst, Prod.mk.injEq] at hfront
    simpa [splitFirst, hc] using hfront

theorem splitFirst_of_not_mem {mark : Char} {t : Text} (h : mark ∉ t) :
    splitFirst mark t = (t, none) := by
  induction t with
  | nil => rfl
  | cons c t ih =>
    have hc : c ≠ mark := fun he => h (he ▸ List.mem_cons_self)
    have ht := ih fun hm => h (List.mem_cons_of_mem _ hm)
    simp only [splitFirst, Prod.mk.injEq] at ht
    simpa [splitFirst, hc] using ht

theorem dropFront?_append (front rest : Text) : dropFront? front (front ++ rest) = some rest :=
  dropFront?_eq_some_iff.2 rfl

end Text

namespace Cli

/-- An option as it is written: alone, with its value after it, or with its value after an equals
sign. -/
inductive Choice where
  | flag (name : String)
  | value (name : String) (t : Text)
  | joined (name : String) (t : Text)

namespace Choice

def written : Choice → List Text
  | .flag name => [optionsEnd ++ name.toList]
  | .value name t => [optionsEnd ++ name.toList, t]
  | .joined name t => [optionsEnd ++ (name.toList ++ '=' :: t)]

/-- Whether a command takes the option. -/
def IsKnown (names : OptionNames) : Choice → Prop
  | .flag name => name ∈ names.flags
  | .value name _ => name ∈ names.values
  | .joined name _ => name ∈ names.values

def flag? : Choice → Option Text
  | .flag name => some name.toList
  | _ => none

def entry? : Choice → Option (Text × Text)
  | .flag _ => none
  | .value name t => some (name.toList, t)
  | .joined name t => some (name.toList, t)

/-- The value of the option if it has the given name. -/
def value? (name : String) : Choice → Option Text
  | .flag _ => none
  | .value other t => if other = name then some t else none
  | .joined other t => if other = name then some t else none

end Choice

/-- A command line of options. -/
def commandLine (choices : List Choice) : List Text := choices.flatMap Choice.written

/-- The values of an option, in order. -/
def valuesOf (name : String) (choices : List Choice) : List Text :=
  choices.filterMap (Choice.value? name)

/-- Names that command lines can tell apart from each other and from what follows them. -/
structure OptionNames.Proper (names : OptionNames) : Prop where
  nonempty : ∀ name ∈ names.flags ++ names.values, name ≠ ""
  plain : ∀ name ∈ names.flags ++ names.values, '=' ∉ name.toList
  apart : ∀ name ∈ names.values, name ∉ names.flags

/-- What options give. -/
def Given.ofChoices (choices : List Choice) : Given where
  flags := choices.filterMap Choice.flag?
  values := choices.filterMap Choice.entry?

variable {names : OptionNames} {given : Given} {choices : List Choice} {rest : List Text}
  {name : String}

/-- What has two hyphens before it, and something after them, is an option. -/
theorem isOption_append {t : Text} (h : t ≠ []) :
    (optionsEnd ++ t == optionsEnd) = false ∧ isOption (optionsEnd ++ t) = true :=
  ⟨by simpa using h, by simp [isOption, optionsEnd]⟩

/-- An option is read, and what follows it. -/
theorem readArguments_choice (hnames : names.Proper) {choice : Choice} (h : choice.IsKnown names) :
    readArguments names given (choice.written ++ rest) =
      readArguments names { given with
        flags := given.flags ++ choice.flag?.toList
        values := given.values ++ choice.entry?.toList } rest := by
  have hplain {name : String} (hm : name ∈ names.flags ++ names.values) :
      '=' ∉ optionsEnd ++ name.toList := by
    simpa [optionsEnd] using hnames.plain name hm
  have hvalue {name : String} (hm : name ∈ names.values) :
      name ∈ names.flags ++ names.values ∧ name ∉ names.flags :=
    ⟨List.mem_append_right _ hm, hnames.apart name hm⟩
  cases choice with
  | flag name =>
    have hm : name ∈ names.flags ++ names.values := List.mem_append_left _ h
    obtain ⟨hend, hoption⟩ := isOption_append fun he => hnames.nonempty name hm (String.toList_eq_nil_iff.1 he)
    simp only [Choice.written, List.singleton_append]
    rw [readArguments, Text.splitFirst_of_not_mem (hplain hm)]
    simp [hend, hoption, Text.dropFront?_append, String.toList_inj, show name ∈ names.flags from h,
      Choice.flag?, Choice.entry?]
  | value name t =>
    obtain ⟨hm, hflag⟩ := hvalue h
    obtain ⟨hend, hoption⟩ := isOption_append fun he => hnames.nonempty name hm (String.toList_eq_nil_iff.1 he)
    simp only [Choice.written, List.cons_append, List.nil_append]
    rw [readArguments, Text.splitFirst_of_not_mem (hplain hm)]
    simp [hend, hoption, Text.dropFront?_append, String.toList_inj, hflag, show name ∈ names.values from h,
      Choice.flag?, Choice.entry?]
  | joined name t =>
    obtain ⟨hm, hflag⟩ := hvalue h
    obtain ⟨hend, hoption⟩ := isOption_append (t := name.toList ++ '=' :: t) (by simp)
    simp only [Choice.written, List.singleton_append]
    rw [readArguments, ← List.append_assoc, Text.splitFirst_append (hplain hm)]
    simp [hend, hoption, Text.dropFront?_append, String.toList_inj, hflag, show name ∈ names.values from h,
      Choice.flag?, Choice.entry?]

theorem readArguments_commandLine (hnames : names.Proper)
    (h : ∀ choice ∈ choices, choice.IsKnown names) :
    readArguments names given (commandLine choices) =
      some { given with
        flags := given.flags ++ choices.filterMap Choice.flag?
        values := given.values ++ choices.filterMap Choice.entry? } := by
  induction choices generalizing given with
  | nil => simp [commandLine, readArguments]
  | cons choice choices ih =>
    obtain ⟨hc, hrest⟩ := List.forall_mem_cons.1 h
    rw [commandLine, List.flatMap_cons, readArguments_choice hnames hc]
    rw [← commandLine, ih hrest]
    cases choice <;> simp [Choice.flag?, Choice.entry?, List.filterMap_cons]

theorem all_ofChoices (name : String) (choices : List Choice) :
    (Given.ofChoices choices).all name = valuesOf name choices := by
  unfold Given.all Given.ofChoices valuesOf
  rw [List.filterMap_filterMap]
  congr 1
  funext choice
  cases choice <;> simp [Choice.entry?, Choice.value?, String.toList_inj]

theorem has_ofChoices : (Given.ofChoices choices).has name = true ↔ .flag name ∈ choices := by
  simp only [Given.has, Given.ofChoices, List.contains_iff_mem, List.mem_filterMap]
  constructor
  · rintro ⟨choice, hm, hc⟩
    cases choice with
    | flag other =>
      obtain rfl := String.toList_inj.1 (Option.some.inj hc)
      exact hm
    | _ => simp [Choice.flag?] at hc
  · intro hm
    exact ⟨_, hm, rfl⟩

end Cli
end NameSlots
