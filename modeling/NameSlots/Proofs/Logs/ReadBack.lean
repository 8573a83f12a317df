import NameSlots.Proofs.Files.Places
import NameSlots.Proofs.Json.Line
import NameSlots.Proofs.Logs.Objects

/-!
Objects that are written to a log, one on a line, and read again. JSON text escapes the line breaks among
the control characters and no others, so a log gives back its objects unless one of the others stands in a
name or a string: the line that it is in is read as two.
-/
namespace NameSlots

namespace Text

/-- The line breaks that are no ASCII control characters. -/
def lineMarks : List Char := [Char.ofNat 0x85, Char.ofNat 0x2028, Char.ofNat 0x2029]

/-- A text in braces, without carriage returns. -/
structure Braced (line : Text) : Prop where
  noReturn : '\r' ∉ line
  braces : ∃ middle, line = '\x7b' :: middle ++ ['\x7d']

/-- Whether a line is not blank. -/
def isSeen (line : Text) : Bool := !(trim line).isEmpty

variable {line middle before after : Text} {lines : List Text} {c : Char}

theorem lineMark_visible (h : c ∈ lineMarks) : ' ' ≤ c := by
  simp only [lineMarks, List.mem_cons, List.not_mem_nil, or_false] at h
  rcases h with rfl | rfl | rfl <;> decide

theorem isLineBreak_iff (h : ' ' ≤ c) : isLineBreak c = true ↔ c ∈ lineMarks := by
  simp only [isLineBreak, lineMarks, decide_eq_true_eq, List.mem_cons, List.not_mem_nil, or_false]
  constructor
  · rintro (rfl | rfl | rfl | rfl | rfl | rfl | rfl | hmark)
    iterate 7 exact absurd h (by decide)
    exact hmark
  · rintro (rfl | rfl | rfl) <;> simp

theorem isLineBreak_isBlank (h : isLineBreak c = true) : Unicode.isBlank c = true := by
  simp only [isLineBreak, decide_eq_true_eq, List.mem_cons, List.not_mem_nil, or_false] at h
  rcases h with rfl | rfl | rfl | rfl | rfl | rfl | rfl | rfl | rfl | rfl <;> decide

theorem isSeen_of_mem (hc : c ∈ line) (hb : Unicode.isBlank c = false) : isSeen line = true := by
  rw [isSeen, Bool.not_eq_true', List.isEmpty_eq_false_iff]
  exact List.ne_nil_of_mem (mem_trimWhere hc hb)

/-- Of lines that hold a visible character one is not blank. -/
theorem seen_pos (hc : c ∈ line) (hb : Unicode.isBlank c = false) (rest : Text) :
    0 < (splitLines (line ++ rest)).countP isSeen := by
  have hbreak : isLineBreak c = false := by
    rw [Bool.eq_false_iff]
    intro h
    exact Bool.noConfusion (hb.symm.trans (isLineBreak_isBlank h))
  obtain ⟨part, hpart, hm⟩ := exists_mem_splitFrom hbreak (.inr (List.mem_append_left rest hc))
  exact List.countP_pos_iff.2 ⟨part, hpart, isSeen_of_mem hm hb⟩

/-- A line break in a text in braces has a brace on either side. -/
theorem braces_around (h : '\x7b' :: middle ++ ['\x7d'] = before ++ c :: after)
    (hb : isLineBreak c = true) : '\x7b' ∈ before ∧ '\x7d' ∈ after := by
  constructor
  · cases before with
    | nil =>
      obtain ⟨rfl, -⟩ := List.cons.inj h
      exact absurd hb (by decide)
    | cons d before =>
      obtain ⟨rfl, -⟩ := List.cons.inj h
      exact List.mem_cons_self
  · rcases List.eq_nil_or_concat after with rfl | ⟨front, d, rfl⟩
    · obtain ⟨rfl, -⟩ := List.cons.inj (List.append_inj' h rfl).2
      exact absurd hb (by decide)
    · rw [List.concat_eq_append, ← List.cons_append, ← List.append_assoc] at h
      obtain ⟨rfl, -⟩ := List.cons.inj (List.append_inj' h rfl).2
      simp

/-- A text in braces is one line of a file at least, and two where a line ends in it. -/
theorem seen_braced (h : Braced line) :
    1 + (if line.any isLineBreak then 1 else 0) ≤ (splitLines (line ++ ['\n'])).countP isSeen := by
  obtain ⟨middle, hmiddle⟩ := h.braces
  split
  · next hany =>
    obtain ⟨c, hfind⟩ := Option.isSome_iff_exists.1 (List.find?_isSome.2 (List.any_eq_true.1 hany))
    obtain ⟨hb, before, after, hcut, hbefore⟩ := List.find?_eq_some_iff_append.1 hfind
    obtain ⟨hopen, hclose⟩ := braces_around (hmiddle.symm.trans hcut) hb
    have hreturn : c ≠ '\r' := fun he => h.noReturn (hcut ▸ he ▸ by simp)
    have hlines : splitLines (line ++ ['\n']) = before :: splitLines (after ++ ['\n']) := by
      rw [hcut, List.append_assoc, splitLines, splitFrom_append (by simpa using hbefore),
        List.cons_append, splitFrom_break hb hreturn]
      simp [splitLines]
    have hafter := seen_pos hclose (by decide) ['\n']
    rw [hlines, List.countP_cons_of_pos (isSeen_of_mem hopen (by decide))]
    omega
  · exact seen_pos (c := '\x7b') (by simp [hmiddle]) (by decide) ['\n']

theorem seen_ofLines (h : ∀ line ∈ lines, Braced line) :
    lines.length + lines.countP (·.any isLineBreak) ≤ (splitLines (ofLines lines)).countP isSeen := by
  induction lines with
  | nil => simp
  | cons line lines ih =>
    obtain ⟨hline, hlines⟩ := List.forall_mem_cons.1 h
    have hone := seen_braced hline
    have hrest := ih hlines
    have hcut : splitLines (ofLines (line :: lines)) =
        splitLines (line ++ ['\n']) ++ splitLines (ofLines lines) := by
      simpa [ofLines, splitLines] using splitFrom_append_lineFeed hline.noReturn [] (ofLines lines)
    rw [hcut, List.countP_append, List.length_cons, List.countP_cons]
    omega

end Text

namespace Json

variable {value : Json}

/-- The text of a value on one line has a line break in it where one of its names or strings has one that
is no control character. -/
theorem compact_unbroken : (∀ c ∈ value.compact, Text.isLineBreak c = false) ↔
    value.Strings fun s => ∀ c ∈ s, c ∉ Text.lineMarks := by
  have hvisible (c : Char) (hlow : ' ' ≤ c) (hhigh : c ≤ '~') : Text.isLineBreak c = false :=
    Text.isLineBreak_of_plain ⟨hlow, hhigh⟩
  refine (over_write hvisible value 0).trans (iff_of_eq ?_)
  congr 1
  funext s
  refine propext (forall₂_congr fun c hc => ?_)
  constructor
  · intro h hm
    have hlow := Text.lineMark_visible hm
    exact Bool.noConfusion ((h hlow).symm.trans ((Text.isLineBreak_iff hlow).2 hm))
  · exact fun h hlow => Bool.eq_false_iff.2 fun hb => h ((Text.isLineBreak_iff hlow).1 hb)

theorem braced_compact (fields : List (Text × Json)) : (Json.object fields).compact.Braced where
  noReturn := fun h => absurd (printable_compact _ _ h) (by decide)
  braces := compact_object fields

end Json

namespace Logs

variable {files : Files} {path : Path} {value : Json} {values : List Json}

/-- Objects that are written to a log, each on a line. -/
structure Logged (files : Files) (path : Path) (values : List Json) : Prop where
  content : files.look? path = some (.file (Utf8.encode (Text.ofLines (values.map Json.compact))))
  wellFormed : ∀ value ∈ values, value.WellFormed
  isObject : ∀ value ∈ values, ∃ fields, value = .object fields

/-- A log is read as values: its objects are these, in order, and no line is at fault. -/
structure ReadBack (files : Files) (path : Path) (values : List Json) : Prop where
  objects : objects files path = values.map Json.sorted
  faultless : (linesOf files path).countP isFaulty = 0
  digits : ∀ line ∈ linesOf files path, ∀ count,
    Json.read (Text.trim line) ≠ .error (.tooManyDigits count)

theorem object?_compact (hv : value.WellFormed) (ho : ∃ fields, value = .object fields) :
    object? value.compact = some value.sorted := by
  obtain ⟨fields, rfl⟩ := ho
  obtain ⟨middle, hmiddle⟩ := Json.compact_object fields
  have htrim : Text.trim (Json.object fields).compact = (Json.object fields).compact :=
    hmiddle ▸ Text.trimWhere_eq (by decide) (by decide) middle
  rw [object?, htrim, Json.compact, Json.read_write Json.compact_blank hv, Json.sorted_object]

theorem Logged.braced (h : Logged files path values) :
    ∀ line ∈ values.map Json.compact, line.Braced := by
  refine List.forall_mem_map.2 fun value hm => ?_
  obtain ⟨fields, rfl⟩ := h.isObject value hm
  exact Json.braced_compact fields

theorem linesOf_logged (h : Logged files path values) :
    linesOf files path = Text.splitLines (Text.ofLines (values.map Json.compact)) := by
  have hreturn : '\r' ∉ Text.ofLines (values.map Json.compact) := by
    simpa [Text.ofLines] using fun value hm => (List.forall_mem_map.1 h.braced value hm).noReturn
  rw [linesOf, Files.readText_of_look? h.content, Text.unifyLineEnds_eq hreturn]
  rfl

/-- Objects whose texts have no line breaks are the lines of a log. -/
theorem linesOf_unbroken (h : Logged files path values)
    (hunbroken : ∀ value ∈ values, ∀ c ∈ value.compact, Text.isLineBreak c = false) :
    linesOf files path = values.map Json.compact := by
  rw [linesOf, Files.readText_of_look? h.content]
  refine Text.splitLines_unify (Text.hasLines_ofLines _) (List.forall_mem_map.2 fun value hm => ?_)
  obtain ⟨middle, hmiddle⟩ := (List.forall_mem_map.1 h.braced value hm).braces
  have hopen : Unicode.isBlank '\x7b' = false := by decide
  exact ⟨by simp [hmiddle, hopen], hunbroken value hm⟩

/-- A file without faults has as many objects as lines that are not blank. -/
theorem ReadBack.countP_isSeen (h : ReadBack files path values) :
    (linesOf files path).countP Text.isSeen = values.length := by
  have hlength := congrArg List.length h.objects
  rw [List.length_map, Logs.objects, List.length_filterMap_eq_countP] at hlength
  rw [← hlength]
  refine List.countP_congr fun line hm => ?_
  have hfaulty : isFaulty line = false := by
    simpa using List.countP_eq_zero.1 h.faultless line hm
  rw [isSome_object?, Text.isSeen, Bool.not_eq_true', and_iff_left ⟨hfaulty, h.digits line hm⟩]

/-- A log gives back the objects that were written to it just where none of their names and strings has a
line break that is no control character. -/
theorem readBack_iff (h : Logged files path values) : ReadBack files path values ↔
    ∀ value ∈ values, value.Strings fun s => ∀ c ∈ s, c ∉ Text.lineMarks := by
  simp only [← Json.compact_unbroken]
  constructor
  · -- Each line that is broken would be one more than there are objects.
    intro hback value hm
    have hseen := Text.seen_ofLines h.braced
    rw [← linesOf_logged h, hback.countP_isSeen, List.length_map] at hseen
    have hzero : (values.map Json.compact).countP (·.any Text.isLineBreak) = 0 := by omega
    simpa using List.countP_eq_zero.1 hzero _ (List.mem_map_of_mem hm)
  · intro hunbroken
    have hlines := linesOf_unbroken h hunbroken
    have hobject : ∀ value ∈ values, object? value.compact = some value.sorted := fun value hm =>
      object?_compact (h.wellFormed value hm) (h.isObject value hm)
    have hsome : ∀ line ∈ linesOf files path, (object? line).isSome := by
      rw [hlines]
      exact List.forall_mem_map.2 fun value hm => hobject value hm ▸ rfl
    refine ⟨?_, List.countP_eq_zero.2 fun line hm => ?_, fun line hm => ?_⟩
    · rw [objects, hlines, List.filterMap_map]
      exact (List.filterMap_congr hobject).trans (congrFun List.filterMap_eq_map' values)
    · simp [(isSome_object?.1 (hsome line hm)).2.1]
    · exact (isSome_object?.1 (hsome line hm)).2.2

/-- An object with a line separator in a string is read as two lines that are no objects. -/
example : (Text.splitLines (Json.record [("event", Json.text "done"),
    ("outcome", .string ['a', Char.ofNat 0x2028, 'b'])]).compact).map isFaulty = [true, true] := by
  cbv

end Logs

end NameSlots
