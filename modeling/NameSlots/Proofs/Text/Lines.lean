import NameSlots.Text.Lines

/-! Lines that are written one after the other come back from the text, whatever ends each of them and
wherever blank lines stand among them. -/
namespace NameSlots.Text

/-- A text that holds lines: each ends in a line feed, with a carriage return before it or without
one, and the last one may also end with the text. -/
inductive HasLines : List Text → Text → Prop where
  | none : HasLines [] []
  | last (line : Text) : HasLines [line] line
  | line {rest : List Text} {text : Text} (line : Text) :
      HasLines rest text → HasLines (line :: rest) (line ++ '\n' :: text)
  | longLine {rest : List Text} {text : Text} (line : Text) :
      HasLines rest text → HasLines (line :: rest) (line ++ '\r' :: '\n' :: text)

/-- What ends a line of a file. -/
inductive LineEnd where
  | lineFeed
  | carriageReturn
  | both

/-- The characters of a line's end. -/
def LineEnd.text : LineEnd → Text
  | .lineFeed => ['\n']
  | .carriageReturn => ['\r']
  | .both => ['\r', '\n']

/-- A text that holds lines in order, with any blank ones before, between and after them. Each line has
an end of its own, and the last one may end with the text. -/
inductive HoldsLines : List Text → Text → Prop where
  | last (line : Text) : HoldsLines [line] line
  | lastBlank (blank : Text) : blank.all Unicode.isBlank = true → HoldsLines [] blank
  | line {lines : List Text} {rest : Text} (line : Text) (ending : LineEnd) :
      HoldsLines lines rest → HoldsLines (line :: lines) (line ++ (ending.text ++ rest))
  | blank {lines : List Text} {rest : Text} (blank : Text) (ending : LineEnd) :
      blank.all Unicode.isBlank = true → HoldsLines lines rest →
      HoldsLines lines (blank ++ (ending.text ++ rest))

/-- An input of a file: it has something but blanks in it, and no line ends inside it. -/
structure IsInput (line : Text) : Prop where
  visible : line.all Unicode.isBlank = false
  unbroken : ∀ c ∈ line, isLineBreak c = false

variable {line blank rest text acc : Text} {lines : List Text} {c first last : Char} {drop : Char → Bool}

/-- A text of lines that each end in a line feed. -/
def ofLines (lines : List Text) : Text := lines.flatMap (· ++ ['\n'])

theorem hasLines_ofLines (lines : List Text) : HasLines lines (ofLines lines) := by
  induction lines with
  | nil => exact .none
  | cons line lines ih =>
    have hline : ofLines (line :: lines) = line ++ '\n' :: ofLines lines := by simp [ofLines]
    rw [hline]
    exact .line line ih

theorem IsInput.ne_nil (h : IsInput line) : line ≠ [] := by
  rintro rfl
  simpa using h.visible

theorem isLineBreak_return : isLineBreak '\r' = true := by decide

theorem isLineBreak_of_plain (h : ' ' ≤ c ∧ c ≤ '~') : isLineBreak c = false := by
  refine Bool.eq_false_iff.2 fun hbreak => ?_
  simp only [isLineBreak, decide_eq_true_eq, List.mem_cons, List.not_mem_nil, or_false] at hbreak
  rcases hbreak with rfl | rfl | rfl | rfl | rfl | rfl | rfl | rfl | rfl | rfl <;>
    exact absurd h (by decide)

theorem trimWhere_eq (hf : drop first = false) (hl : drop last = false) (middle : Text) :
    trimWhere drop (first :: middle ++ [last]) = first :: middle ++ [last] := by
  have hfront : (first :: (middle ++ [last])).dropWhile drop = first :: (middle ++ [last]) :=
    List.dropWhile_cons_of_neg (by simp [hf])
  have hback : (last :: (middle.reverse ++ [first])).dropWhile drop =
      last :: (middle.reverse ++ [first]) := List.dropWhile_cons_of_neg (by simp [hl])
  have hreverse : (first :: (middle ++ [last])).reverse = last :: (middle.reverse ++ [first]) := by
    simp
  rw [trimWhere, List.cons_append, hfront, hreverse, hback]
  simp

theorem mem_trimWhere (hc : c ∈ text) (hd : drop c = false) : c ∈ trimWhere drop text := by
  have hdrop {t : Text} (hm : c ∈ t) : c ∈ t.dropWhile drop := by
    rw [← List.takeWhile_append_dropWhile (p := drop) (l := t), List.mem_append] at hm
    refine hm.resolve_left fun htake => ?_
    exact Bool.noConfusion (hd.symm.trans (List.all_eq_true.1 List.all_takeWhile c htake))
  rw [trimWhere, List.mem_reverse]
  exact hdrop (List.mem_reverse.2 (hdrop hc))

/-! ## Line ends -/

/-- A text without carriage returns has the line ends of files already. -/
theorem unifyLineEnds_eq (h : '\r' ∉ text) : unifyLineEnds text = text := by
  induction text with
  | nil => rfl
  | cons c text ih =>
    simp only [List.mem_cons, not_or] at h
    unfold unifyLineEnds
    split <;> simp_all

theorem return_not_mem_unifyLineEnds (text : Text) : '\r' ∉ unifyLineEnds text := by
  induction text using unifyLineEnds.induct with
  | case1 => simp [unifyLineEnds]
  | case2 rest ih => simp [unifyLineEnds, ih]
  | case3 rest hnot ih => simp [unifyLineEnds, ih]
  | case4 c rest hpair hnot ih => simp [unifyLineEnds, ih, Ne.symm hnot]

theorem unifyLineEnds_idem (text : Text) :
    unifyLineEnds (unifyLineEnds text) = unifyLineEnds text :=
  unifyLineEnds_eq (return_not_mem_unifyLineEnds text)

theorem splitFrom_append (h : ∀ c ∈ line, isLineBreak c = false) (acc rest : Text) :
    splitFrom acc (line ++ rest) = splitFrom (line.reverse ++ acc) rest := by
  induction line generalizing acc with
  | nil => rfl
  | cons c line ih =>
    obtain ⟨hc, hline⟩ := List.forall_mem_cons.1 h
    have hr : c ≠ '\r' := by
      rintro rfl
      simp [isLineBreak_return] at hc
    simp [splitFrom, hr, hc, ih hline]

theorem splitFrom_cons (hc : isLineBreak c = false) (acc rest : Text) :
    splitFrom acc (c :: rest) = splitFrom (c :: acc) rest :=
  splitFrom_append (List.forall_mem_singleton.2 hc) acc rest

theorem splitFrom_break (hc : isLineBreak c = true) (hr : c ≠ '\r') (acc rest : Text) :
    splitFrom acc (c :: rest) = acc.reverse :: splitFrom [] rest := by
  simp [splitFrom, hr, hc]

theorem splitFrom_lineFeed (acc rest : Text) :
    splitFrom acc ('\n' :: rest) = acc.reverse :: splitFrom [] rest :=
  splitFrom_break (by decide) (by decide) acc rest

/-- A text is cut into the same lines before and after its line ends are made line feeds. -/
theorem splitFrom_unifyLineEnds (acc text : Text) :
    splitFrom acc (unifyLineEnds text) = splitFrom acc text := by
  induction text using unifyLineEnds.induct generalizing acc with
  | case1 => rfl
  | case2 rest ih => rw [unifyLineEnds, splitFrom_lineFeed, ih, splitFrom]
  | case3 rest hnot ih =>
    have hreturn : splitFrom acc ('\r' :: rest) = acc.reverse :: splitFrom [] rest := by
      rw [splitFrom, if_pos isLineBreak_return]
      exact fun after _ he => hnot after he
    rw [unifyLineEnds, splitFrom_lineFeed, ih, hreturn]
    exact hnot
  | case4 c rest hpair hnot ih =>
    rw [unifyLineEnds]
    · cases hb : isLineBreak c with
      | true => rw [splitFrom_break hb hnot, splitFrom_break hb hnot, ih]
      | false => rw [splitFrom_cons hb, splitFrom_cons hb, ih]
    · exact hpair
    · exact hnot

/-- What stands up to a line feed is cut into lines for itself. -/
theorem splitFrom_append_lineFeed (h : '\r' ∉ line) (acc rest : Text) :
    splitFrom acc (line ++ '\n' :: rest) = splitFrom acc (line ++ ['\n']) ++ splitFrom [] rest := by
  induction line generalizing acc with
  | nil =>
    rw [List.nil_append, List.nil_append, splitFrom_lineFeed, splitFrom_lineFeed]
    rfl
  | cons c line ih =>
    obtain ⟨hc, hline⟩ := not_or.1 (fun h' => h (List.mem_cons.2 h'))
    rw [List.cons_append, List.cons_append]
    by_cases hb : isLineBreak c = true
    · rw [splitFrom_break hb (Ne.symm hc), splitFrom_break hb (Ne.symm hc), ih hline, List.cons_append]
    · simp [splitFrom, Ne.symm hc, hb, ih hline]

/-- A character that ends no line stands in one. -/
theorem exists_mem_splitFrom (hb : isLineBreak c = false) (hc : c ∈ acc ∨ c ∈ text) :
    ∃ line ∈ splitFrom acc text, c ∈ line := by
  have hne {d : Char} (hd : isLineBreak d = true) : c ≠ d := by
    rintro rfl
    exact Bool.noConfusion (hb.symm.trans hd)
  -- What has been read of a line is in it.
  have hread {acc : Text} {lines : List Text} (h : c ∈ acc ∨ ∃ line ∈ lines, c ∈ line) :
      ∃ line ∈ acc.reverse :: lines, c ∈ line := by simpa using h
  induction acc, text using splitFrom.induct with
  | case1 acc h => simp_all
  | case2 acc h => simp_all [splitFrom]
  | case3 acc rest ih =>
    have hreturn := hne isLineBreak_return
    have hfeed : c ≠ '\n' := hne (by decide)
    rw [splitFrom]
    exact hread (hc.imp_right fun hc => ih (.inr (by simpa [hreturn, hfeed] using hc)))
  | case4 acc d rest hnot hd ih =>
    rw [splitFrom, if_pos hd]
    · exact hread (hc.imp_right fun hc => ih (.inr (by simpa [hne hd] using hc)))
    · exact hnot
  | case5 acc d rest hnot hd ih =>
    rw [splitFrom, if_neg hd]
    · exact ih (by simpa [or_assoc, or_left_comm] using hc)
    · exact hnot

theorem splitLines_unify (h : HasLines lines text) (hlines : ∀ line ∈ lines, IsInput line) :
    splitLines (unifyLineEnds text) = lines := by
  rw [splitLines, splitFrom_unifyLineEnds]
  induction h with
  | none => rfl
  | last line =>
    have hl := hlines line List.mem_cons_self
    have hsplit := splitFrom_append hl.unbroken [] []
    rw [List.append_nil] at hsplit
    rw [hsplit, splitFrom]
    simp [hl.ne_nil]
  | line line _ ih =>
    obtain ⟨hl, hrest⟩ := List.forall_mem_cons.1 hlines
    rw [splitFrom_append hl.unbroken, splitFrom_lineFeed, ih hrest]
    simp
  | longLine line _ ih =>
    obtain ⟨hl, hrest⟩ := List.forall_mem_cons.1 hlines
    rw [splitFrom_append hl.unbroken, splitFrom, ih hrest]
    simp

theorem inputLines_unifyLineEnds (text : Text) : inputLines (unifyLineEnds text) = inputLines text := by
  rw [inputLines, unifyLineEnds_idem]
  rfl

/-- Inputs come back from a file that holds one on each line. -/
theorem inputLines_eq (h : HasLines lines text) (hlines : ∀ line ∈ lines, IsInput line) :
    inputLines text = lines := by
  unfold inputLines
  rw [splitLines_unify h hlines]
  exact List.filter_eq_self.2 fun line hm => by simp [(hlines line hm).visible]

/-! ## Lines among blank ones -/

/-- The lines that are not blank. -/
def shown (lines : List Text) : List Text := lines.filter fun line => !line.all Unicode.isBlank

theorem inputLines_eq_shown (text : Text) : inputLines text = shown (splitLines text) := by
  rw [inputLines, splitLines, splitFrom_unifyLineEnds]
  rfl

theorem shown_cons (line : Text) (lines : List Text) :
    shown (line :: lines) = shown [line] ++ shown lines :=
  List.filter_append [line] lines

theorem shown_blank (h : line.all Unicode.isBlank = true) : shown [line] = [] := by
  simp [shown, h]

theorem shown_input (h : IsInput line) : shown [line] = [line] := by
  simp [shown, h.visible]

/-- A carriage return and a line feed end one line, but would they end two, the second one would be
empty. -/
theorem shown_break (hc : isLineBreak c = true) (acc rest : Text) :
    shown (splitFrom acc (c :: rest)) = shown [acc.reverse] ++ shown (splitFrom [] rest) := by
  by_cases hpair : ∃ after, c = '\r' ∧ rest = '\n' :: after
  · obtain ⟨after, rfl, rfl⟩ := hpair
    have hempty : shown (splitFrom [] ('\n' :: after)) = shown (splitFrom [] after) := by
      rw [splitFrom_lineFeed, shown_cons, shown_blank rfl, List.nil_append]
    rw [splitFrom, shown_cons, hempty]
  · rw [splitFrom, if_pos hc, shown_cons]
    exact fun after hr he => hpair ⟨after, hr, he⟩

theorem shown_ending (ending : LineEnd) (acc rest : Text) :
    shown (splitFrom acc (ending.text ++ rest)) = shown [acc.reverse] ++ shown (splitFrom [] rest) := by
  cases ending with
  | lineFeed => exact shown_break (by decide) acc rest
  | carriageReturn => exact shown_break isLineBreak_return acc rest
  | both =>
    change shown (splitFrom acc ('\r' :: '\n' :: rest)) = _
    rw [splitFrom, shown_cons]

/-- Blanks show nothing, also where a line ends among them. -/
theorem shown_blanks (hacc : acc.all Unicode.isBlank = true) (hb : blank.all Unicode.isBlank = true)
    (hrest : ∀ acc : Text, acc.all Unicode.isBlank = true → shown (splitFrom acc rest) = lines) :
    shown (splitFrom acc (blank ++ rest)) = lines := by
  induction blank generalizing acc with
  | nil => exact hrest acc hacc
  | cons c blank ih =>
    obtain ⟨hc, hblank⟩ := Bool.and_eq_true_iff.1 hb
    rw [List.cons_append]
    cases hbreak : isLineBreak c with
    | true =>
      rw [shown_break hbreak, shown_blank (by rwa [List.all_reverse]), List.nil_append]
      exact ih rfl hblank
    | false =>
      rw [splitFrom_cons hbreak]
      exact ih (Bool.and_eq_true_iff.2 ⟨hc, hacc⟩) hblank

theorem inputLines_holdsLines (h : HoldsLines lines text) (hlines : ∀ line ∈ lines, IsInput line) :
    inputLines text = lines := by
  have hread {line : Text} (hl : IsInput line) (rest : Text) :
      splitFrom [] (line ++ rest) = splitFrom line.reverse rest := by
    rw [splitFrom_append hl.unbroken, List.append_nil]
  rw [inputLines_eq_shown, splitLines]
  induction h with
  | last line =>
    have hl := hlines line List.mem_cons_self
    have hsplit := hread hl []
    rw [List.append_nil] at hsplit
    rw [hsplit, splitFrom]
    simp [hl.ne_nil, shown_input hl]
  | lastBlank blank hb =>
    have hend (acc : Text) (hacc : acc.all Unicode.isBlank = true) : shown (splitFrom acc []) = [] := by
      rw [splitFrom]
      split
      · rfl
      · exact shown_blank (by rwa [List.all_reverse])
    rw [← List.append_nil blank]
    exact shown_blanks rfl hb hend
  | line line ending _ ih =>
    obtain ⟨hl, hrest⟩ := List.forall_mem_cons.1 hlines
    rw [hread hl, shown_ending, List.reverse_reverse, shown_input hl, ih hrest]
    rfl
  | blank blank ending hb _ ih =>
    refine shown_blanks rfl hb fun acc hacc => ?_
    rw [shown_ending, shown_blank (by rwa [List.all_reverse]), ih hlines]
    rfl

end NameSlots.Text
