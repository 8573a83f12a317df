import Mathlib.Data.List.SplitBy
import Mathlib.Data.List.TakeWhile
import NameSlots.Proofs.Results
import NameSlots.Proofs.Text.Numeral
import NameSlots.Proofs.Yaml.Cursor
import NameSlots.Yaml.Printer
import NameSlots.Yaml.Scalar

/-!
Texts in quotes. A text is cut into runs of blanks, of line ends and of other characters; what a printer
writes for each run is read back with anything behind it.
-/
namespace NameSlots.Yaml

variable {c : Char} {t w rest : Text} {fuel indent column depth : Nat} {cursor : Cursor}

/-! ## Runs -/

/-- Runs in which no space stands beside a line end. -/
inductive Runs : List Text → Prop
  | nil : Runs []
  | spaces {n : Nat} {rest : List Text} (hn : 0 < n) (h : Runs rest)
      (hnext : ∀ c ∈ rest.flatten.head?, c ≠ ' ' ∧ isBreak c = false) :
      Runs (List.replicate n ' ' :: rest)
  | breaks {c : Char} {run : Text} {rest : List Text} (hrun : ∀ d ∈ c :: run, isBreak d = true)
      (h : Runs rest) (hnext : ∀ c ∈ rest.flatten.head?, c ≠ ' ' ∧ isBreak c = false) :
      Runs ((c :: run) :: rest)
  | others {c : Char} {run : Text} {rest : List Text}
      (hrun : ∀ d ∈ c :: run, d ≠ ' ' ∧ isBreak d = false) (h : Runs rest)
      (hnext : ∀ c ∈ rest.flatten.head?, c = ' ' ∨ isBreak c = true) : Runs ((c :: run) :: rest)

theorem holdsSpaceAtBreak_eq_false_iff : holdsSpaceAtBreak t = false ↔
    t.IsChain fun a b => ¬(a = ' ' ∧ isBreak b = true) ∧ ¬(isBreak a = true ∧ b = ' ') := by
  unfold holdsSpaceAtBreak
  induction t with
  | nil => simp
  | cons a t ih =>
    cases t with
    | nil => simp
    | cons b t => simp_all

theorem flatten_runs (t : Text) : (runs t).flatten = t := List.flatten_splitBy _ t

/-- A run goes on as long as the characters are of one kind. -/
theorem runs_append {run : Text} (hne : run ≠ []) {space line : Bool}
    (hrun : ∀ c ∈ run, (c == ' ') = space ∧ isBreak c = line)
    (hrest : ∀ c ∈ rest.head?, ¬((c == ' ') = space ∧ isBreak c = line)) :
    runs (run ++ rest) = run :: runs rest := by
  have hone : runs run = [run] := by
    apply List.splitBy_of_isChain hne
    apply List.Pairwise.isChain
    apply List.pairwise_of_forall_mem_list
    intro a ha b hb
    simp [hrun a ha, hrun b hb]
  unfold runs at hone ⊢
  rw [List.splitBy_append, hone, List.singleton_append]
  intro a ha b hb
  have ha := hrun a (List.mem_of_mem_getLast? ha)
  have hb := hrest b hb
  rw [ha.1, ha.2]
  cases space <;> cases line <;> simp_all

/-- A text begins with a run of characters of one kind. -/
theorem exists_run (c : Char) (t : Text) : ∃ run rest, t = run ++ rest ∧
    (∀ d ∈ c :: run, (d == ' ') = (c == ' ') ∧ isBreak d = isBreak c) ∧
    ∀ d ∈ rest.head?, ¬((d == ' ') = (c == ' ') ∧ isBreak d = isBreak c) := by
  let same (d : Char) : Bool := (d == ' ') == (c == ' ') && isBreak d == isBreak c
  have hsame (d : Char) : same d = true ↔ (d == ' ') = (c == ' ') ∧ isBreak d = isBreak c := by
    simp [same]
  refine ⟨t.takeWhile same, t.dropWhile same, List.takeWhile_append_dropWhile.symm, ?_, ?_⟩
  · intro d hd
    rcases List.mem_cons.1 hd with rfl | hd
    · exact ⟨rfl, rfl⟩
    · exact (hsame d).1 (List.mem_takeWhile_imp hd)
  · intro d hd hs
    have := List.head?_dropWhile_not same t
    rw [hd] at this
    simp [(hsame d).2 hs] at this

/-- What follows a run has no space beside a line end either, and where it begins there is none. -/
theorem border_of_allowed {run : Text}
    (hin : ∀ d ∈ c :: run, (d == ' ') = (c == ' ') ∧ isBreak d = isBreak c)
    (h : holdsSpaceAtBreak (c :: run ++ rest) = false) : holdsSpaceAtBreak rest = false ∧
      ∀ d ∈ rest.head?, ¬(c = ' ' ∧ isBreak d = true) ∧ ¬(isBreak c = true ∧ d = ' ') := by
  rw [holdsSpaceAtBreak_eq_false_iff, List.isChain_append] at h
  obtain ⟨-, hchain, hborder⟩ := h
  refine ⟨holdsSpaceAtBreak_eq_false_iff.2 hchain, fun d hd => ?_⟩
  have hlast := List.getLast?_eq_some_getLast (List.cons_ne_nil c run)
  have := hborder _ hlast d hd
  obtain ⟨hspace, hbreak⟩ := hin _ (List.mem_of_mem_getLast? hlast)
  rwa [hbreak, ← beq_iff_eq, hspace, beq_iff_eq] at this

/-- The runs of a text stand alone where it has no space beside a line end. -/
theorem runs_of_allowed (h : holdsSpaceAtBreak t = false) : Runs (runs t) := by
  generalize hl : t.length = l
  induction l using Nat.strong_induction_on generalizing t with
  | _ l ih =>
    cases t with
    | nil => exact .nil
    | cons c t =>
      obtain ⟨run, rest, rfl, hin, hout⟩ := exists_run c t
      rw [← List.cons_append] at h hl ⊢
      obtain ⟨hrest, hborder⟩ := border_of_allowed hin h
      have hlen : rest.length < l := by
        simp only [List.length_append, List.length_cons] at hl
        omega
      have hruns := ih _ hlen hrest rfl
      rw [runs_append (List.cons_ne_nil c run) hin hout]
      by_cases hc : c = ' '
      · subst hc
        have heq : ' ' :: run = List.replicate (run.length + 1) ' ' :=
          List.eq_replicate_iff.2 ⟨rfl, fun d hd => by simpa using (hin d hd).1⟩
        rw [heq]
        refine .spaces (Nat.succ_pos _) hruns fun d hd => ?_
        rw [flatten_runs] at hd
        have := hborder d hd
        have := hout d hd
        simp_all [isBreak_space]
      · cases hb : isBreak c with
        | true =>
          refine .breaks (fun d hd => (hin d hd).2.trans hb) hruns fun d hd => ?_
          rw [flatten_runs] at hd
          have := hborder d hd
          have := hout d hd
          simp_all
        | false =>
          refine .others (fun d hd => ?_) hruns fun d hd => ?_
          · have := hin d hd
            simp_all
          · rw [flatten_runs] at hd
            have := hout d hd
            by_cases hd : d = ' ' <;> simp_all

section

variable {character : Char → Text} {n : Nat} {first : Bool} {run : Text} {rs : List Text}

theorem writeRuns_others (hrun : ∀ d ∈ c :: run, d ≠ ' ' ∧ isBreak d = false) :
    writeRuns character indent first column ((c :: run) :: rs) =
      (c :: run).flatMap character ++
        writeRuns character indent false (column + ((c :: run).flatMap character).length) rs := by
  have hone : ((c :: run) == [' ']) = false := by simp [(hrun c List.mem_cons_self).1]
  have hany : (c :: run).any isBreak = false := List.any_eq_false.2 fun d hd => by simp [(hrun d hd).2]
  rw [writeRuns, hone, hany]
  rfl

theorem writeRuns_breaks (hrun : ∀ d ∈ c :: run, isBreak d = true) :
    writeRuns character indent first column ((c :: run) :: rs) =
      [c].filter (· == '\n') ++ (c :: run) ++ List.replicate indent ' ' ++
        writeRuns character indent false indent rs := by
  have hc := hrun c List.mem_cons_self
  have hone : ((c :: run) == [' ']) = false := by
    rw [beq_eq_false_iff_ne]
    intro he
    rw [(List.cons.inj he).1] at hc
    exact absurd hc (by decide)
  have hany : (c :: run).any isBreak = true := List.any_eq_true.2 ⟨c, List.mem_cons_self, hc⟩
  rw [writeRuns, hone, hany]
  simp

/-- Spaces are written as they are, or a single one as a new line if more runs come after it. -/
theorem writeRuns_spaces (character : Char → Text) (hc : character ' ' = [' ']) (indent column n : Nat)
    (first : Bool) (rs : List Text) :
    writeRuns character indent first column (List.replicate n ' ' :: rs) =
        List.replicate n ' ' ++ writeRuns character indent false (column + n) rs ∨
      (n = 1 ∧ rs ≠ [] ∧ writeRuns character indent first column (List.replicate n ' ' :: rs) =
        newLine indent ++ writeRuns character indent false indent rs) := by
  have hshown : (List.replicate n ' ').flatMap character = List.replicate n ' ' := by
    induction n with
    | zero => rfl
    | succ n ih => simp [List.replicate_succ, hc, ih]
  have hany : (List.replicate n ' ').any isBreak = false :=
    List.any_eq_false.2 fun d hd => by simp [List.eq_of_mem_replicate hd, isBreak_space]
  rw [writeRuns]
  split
  · next hfold =>
    refine Or.inr ⟨?_, ?_, rfl⟩
    · simp only [Bool.and_eq_true, beq_iff_eq] at hfold
      simpa using congrArg List.length hfold.1.1.1
    · simp only [Bool.and_eq_true, Bool.not_eq_true', List.isEmpty_eq_false_iff] at hfold
      exact hfold.2
  · rw [hany, hshown]
    exact Or.inl (by simp)

end

/-! ## In quotes -/

theorem isBlank_of_isBreak (h : isBreak c = true) : isBlank c = false := by
  unfold isBlank
  rw [Bool.or_eq_false_iff, beq_eq_false_iff_ne, beq_eq_false_iff_ne]
  constructor <;> rintro rfl <;> exact absurd h (by decide)

/-- What comes after an opening quote is read as a text, and `rest` is left after the closing one. -/
def Quotes (double : Bool) (w t rest : Text) : Prop :=
  ∀ (fuel : Nat) (cursor : Cursor), cursor.rest = w → w.length < fuel →
    ∃ after, readQuoted double fuel cursor = .ok (t, after) ∧ after.rest = rest

/-- The mark around quoted text of a kind. -/
def quoteMark (double : Bool) : Char := if double then '"' else '\''

/-- What comes after spaces here is neither a line end nor the end. -/
def Solid (w : Text) : Prop := ∃ c, (w.dropWhile isBlank).head? = some c ∧ isGap c = false

theorem solid_cons (h : isGap c = false) : Solid (c :: w) := by
  obtain ⟨htab, hspace, -, -⟩ := isGap_eq_false_iff.1 h
  exact ⟨c, by simp [isBlank, htab, hspace], h⟩

theorem Solid.space (h : Solid w) : Solid (' ' :: w) := h

namespace Quotes

variable {double : Bool}

theorem close (h : rest.head? ≠ some '\'') : Quotes double (quoteMark double :: rest) [] rest
  | 0, _, _, hf => (Nat.not_lt_zero _ hf).elim
  | fuel + 1, cursor, hc, _ => by
    refine ⟨cursor.next, ?_, by simp [hc]⟩
    have hone : cursor.peekAt 1 ≠ '\'' := by
      rw [Cursor.peekAt_one hc]
      cases rest with
      | nil => decide
      | cons d rest => simpa using h
    rw [readQuoted, Cursor.peek_of_rest hc]
    cases double
    · simp [quoteMark, hone, show isGap '\'' = false by decide, pure, Except.pure]
    · simp [quoteMark, show isGap '"' = false by decide, pure, Except.pure]

theorem char (h : Quotes double w t rest) (hg : isGap c = false) (hm : c ≠ quoteMark double)
    (he : double = true → c ≠ '\\') : Quotes double (c :: w) (c :: t) rest
  | 0, _, _, hf => (Nat.not_lt_zero _ hf).elim
  | fuel + 1, cursor, hc, hf => by
    obtain ⟨after, hread, hrest⟩ := h fuel cursor.next (by simp [hc]) (Nat.lt_of_succ_lt_succ hf)
    refine ⟨after, ?_, hrest⟩
    have hm : (c == quoteMark double) = false := by simpa using hm
    have he : (double && c == '\\') = false := by simpa using he
    rw [readQuoted, Cursor.peek_of_rest hc, hread]
    change (if isGap c = true then _ else if (c == quoteMark double) = true then _ else
      if (double && c == '\\') = true then _ else _) = _
    rw [hg, hm, he]
    rfl

theorem doubled (h : Quotes false w t rest) : Quotes false ('\'' :: '\'' :: w) ('\'' :: t) rest
  | 0, _, _, hf => (Nat.not_lt_zero _ hf).elim
  | fuel + 1, cursor, hc, hf => by
    obtain ⟨after, hread, hrest⟩ := h fuel (cursor.advance 2) (by simp [hc])
      (Nat.lt_of_succ_lt (Nat.lt_of_succ_lt_succ hf))
    refine ⟨after, ?_, hrest⟩
    rw [readQuoted, Cursor.peek_of_rest hc, Cursor.peekAt_one hc, hread]
    rfl

/-! ### Blanks and line ends -/

/-- A gap on one line is what stands there. -/
theorem quotedGap_blanks (h : cursor.rest = t ++ rest) (ht : ∀ c ∈ t, isBlank c = true)
    (hr : ∃ c, rest.head? = some c ∧ isGap c = false) :
    quotedGap cursor = .ok (t, cursor.advance t.length) := by
  obtain ⟨c, hhead, hc⟩ := hr
  obtain ⟨rest, rfl⟩ := List.head?_eq_some_iff.1 hhead
  obtain ⟨htab, hspace, -, hbreak⟩ := isGap_eq_false_iff.1 hc
  have hafter : (cursor.advance t.length).rest = c :: rest := by simp [h]
  have htake : cursor.takeWhile (fun c => c == ' ' || c == '\t') = (t, cursor.advance t.length) :=
    Cursor.takeWhile_eq h ht (by simp [htab, hspace])
  unfold quotedGap
  rw [htake]
  change (if (cursor.advance t.length).rest.isEmpty = true then _ else
    if isBreak (cursor.advance t.length).peek = true then _ else _) = _
  rw [hafter, Cursor.peek_of_rest hafter, hbreak]
  rfl

/-- A space before others, if any, and what comes after them. -/
theorem space (h : Quotes double w t rest) (hw : Solid w) :
    Quotes double (' ' :: w) (' ' :: t) rest
  | 0, _, _, hf => (Nat.not_lt_zero _ hf).elim
  | fuel + 1, cursor, hc, hf => by
    have hf := Nat.lt_of_succ_lt_succ hf
    have hnext : cursor.next.rest = w := by simp [hc]
    have hblank : ∀ c ∈ w.takeWhile isBlank, isBlank c = true := fun c hm =>
      List.mem_takeWhile_imp hm
    have hgap : quotedGap cursor =
        .ok (' ' :: w.takeWhile isBlank, cursor.next.advance (w.takeWhile isBlank).length) := by
      have hcut : cursor.rest = (' ' :: w.takeWhile isBlank) ++ w.dropWhile isBlank := by
        rw [hc, List.cons_append, List.takeWhile_append_dropWhile]
      exact quotedGap_blanks hcut (List.forall_mem_cons.2 ⟨rfl, hblank⟩) hw
    rw [readQuoted, Cursor.peek_of_rest hc, if_pos isGap_space, hgap]
    by_cases hempty : w.takeWhile isBlank = []
    · -- Only this space: what comes next is no gap.
      obtain ⟨after, hread, hrest⟩ := h fuel cursor.next hnext hf
      refine ⟨after, ?_, hrest⟩
      simp [hempty, Cursor.advance, hread, bind, Except.bind, pure, Except.pure]
    · -- More blanks: the gap from the next place on is the same but for this space.
      obtain ⟨after, hread, hrest⟩ := h (fuel + 1) cursor.next hnext (Nat.lt_succ_of_lt hf)
      refine ⟨after, ?_, hrest⟩
      have hgap' : quotedGap cursor.next = .ok (w.takeWhile isBlank,
          cursor.next.advance (w.takeWhile isBlank).length) := by
        refine quotedGap_blanks ?_ hblank hw
        rw [hnext, List.takeWhile_append_dropWhile]
      have hpeek : isGap cursor.next.peek = true := by
        cases w with
        | nil => exact (hempty rfl).elim
        | cons c w =>
          rw [Cursor.peek_of_rest hnext]
          by_contra hc
          have := isGap_eq_false_iff.1 (Bool.eq_false_iff.2 hc)
          simp [isBlank, this] at hempty
      rw [readQuoted, if_pos hpeek, hgap'] at hread
      obtain ⟨_, hblanks, hread⟩ := bind_eq_ok.1 hread
      cases hblanks
      obtain ⟨_, hmore, hread⟩ := bind_eq_ok.1 hread
      cases hread
      exact bind_eq_ok.2 ⟨_, rfl, bind_eq_ok.2 ⟨_, hmore, rfl⟩⟩

/-- Line ends, up to the spaces of the next line with text. -/
theorem quotedBreaks_lines {breaks : Text} (hbreaks : ∀ c ∈ breaks, isBreak c = true ∧ c ≠ '\r') (hi : 0 < indent)
    (hw : ∃ c, w.head? = some c ∧ isGap c = false) (hf : breaks.length < fuel)
    (h : cursor.rest = breaks ++ List.replicate indent ' ' ++ w) :
    ∃ after, quotedBreaks fuel cursor = .ok (breaks.map Cursor.asRead, after) ∧ after.rest = w := by
  induction breaks generalizing fuel cursor with
  | nil =>
    obtain ⟨fuel, rfl⟩ := Nat.exists_eq_succ_of_ne_zero (Nat.ne_zero_of_lt hf)
    obtain ⟨c, hhead, hc⟩ := hw
    obtain ⟨w, rfl⟩ := List.head?_eq_some_iff.1 hhead
    obtain ⟨htab, hspace, -, hbreak⟩ := isGap_eq_false_iff.1 hc
    have hsep : cursor.atSeparator = false := by
      apply Cursor.atSeparator_eq_false
      obtain ⟨n, rfl⟩ := Nat.exists_eq_succ_of_ne_zero hi.ne'
      rw [h]
      simp [List.replicate_succ]
    have hskip : cursor.skipWhile (fun c => c == ' ' || c == '\t') = cursor.advance indent := by
      unfold Cursor.skipWhile
      rw [Cursor.takeWhile_eq (t := List.replicate indent ' ') (by simpa using h)
        (by simp) (by simp [htab, hspace]), List.length_replicate]
    have hafter : (cursor.advance indent).rest = c :: w := by simp [h]
    exact ⟨cursor.advance indent,
      by simp [quotedBreaks, hsep, hskip, Cursor.peek_of_rest hafter, hbreak], hafter⟩
  | cons b breaks ih =>
    obtain ⟨⟨hbreak, hreturn⟩, hbreaks⟩ := List.forall_mem_cons.1 hbreaks
    obtain ⟨fuel, rfl⟩ := Nat.exists_eq_succ_of_ne_zero (Nat.ne_zero_of_lt hf)
    obtain ⟨after, hread, hrest⟩ := @ih fuel cursor.next hbreaks (Nat.lt_of_succ_lt_succ hf)
      (by simp [h])
    have hsep : cursor.atSeparator = false := by
      apply Cursor.atSeparator_eq_false
      rw [h]
      rintro _ ⟨⟩
      constructor <;> rintro rfl <;> exact absurd hbreak (by decide)
    have hskip : cursor.skipWhile (fun c => c == ' ' || c == '\t') = cursor := by
      unfold Cursor.skipWhile
      rw [Cursor.takeWhile_nil]
      rw [h]
      rintro _ ⟨⟩
      exact isBlank_of_isBreak hbreak
    refine ⟨after, ?_, hrest⟩
    have hline := Cursor.takeBreak_of_isBreak h hbreak hreturn
    simp [quotedBreaks, hsep, hskip, Cursor.peek_of_rest h, hbreak, hline, hread]

/-- A gap with line ends is what they fold to. -/
theorem lines {breaks : Text} (h : Quotes double w t rest)
    (hbreaks : ∀ d ∈ c :: breaks, isBreak d = true ∧ d ≠ '\r') (hi : 0 < indent)
    (hw : ∃ c, w.head? = some c ∧ isGap c = false) :
    Quotes double (c :: breaks ++ List.replicate indent ' ' ++ w)
      (foldBreaks [Cursor.asRead c] (breaks.map Cursor.asRead) ++ t) rest
  | 0, _, _, hf => (Nat.not_lt_zero _ hf).elim
  | fuel + 1, cursor, hrest, hf => by
    obtain ⟨⟨hbreak, hreturn⟩, hbreaks⟩ := List.forall_mem_cons.1 hbreaks
    have hlen : breaks.length < cursor.next.rest.length + 1 ∧ w.length < fuel := by
      simp only [List.length_append, List.length_cons] at hf
      rw [Cursor.rest_next, hrest]
      simp only [List.cons_append, List.tail_cons, List.length_append]
      omega
    have hnext : cursor.next.rest = breaks ++ List.replicate indent ' ' ++ w := by simp [hrest]
    obtain ⟨mid, hmid, hw⟩ := quotedBreaks_lines hbreaks hi hw hlen.1 hnext
    obtain ⟨after, hread, hafter⟩ := h fuel mid hw hlen.2
    have hskip : cursor.takeWhile (fun c => c == ' ' || c == '\t') = ([], cursor) := by
      apply Cursor.takeWhile_nil
      rw [hrest]
      rintro _ ⟨⟩
      exact isBlank_of_isBreak hbreak
    have hline := Cursor.takeBreak_of_isBreak hrest hbreak hreturn
    have hgap : quotedGap cursor =
        .ok (foldBreaks [Cursor.asRead c] (breaks.map Cursor.asRead), mid) := by
      unfold quotedGap
      rw [hskip]
      change (if cursor.rest.isEmpty = true then _ else if isBreak cursor.peek = true then _ else _) = _
      rw [hrest, Cursor.peek_of_rest hrest, hbreak, hline]
      exact bind_eq_ok.2 ⟨_, hmid, rfl⟩
    refine ⟨after, ?_, hafter⟩
    rw [readQuoted, Cursor.peek_of_rest hrest, if_pos (isGap_of_isBreak hbreak), hgap]
    exact bind_eq_ok.2 ⟨_, rfl, bind_eq_ok.2 ⟨_, hread, rfl⟩⟩

end Quotes

/-! ### Single quotes -/

/-- A character that stands in single quotes and is no blank. -/
theorem isGap_of_plain (hspecial : isSpecial c = false) (hspace : c ≠ ' ') (hbreak : isBreak c = false) :
    isGap c = false := by
  rw [isGap_eq_false_iff]
  refine ⟨?_, hspace, ?_, hbreak⟩ <;> rintro rfl <;> exact absurd hspecial (by decide)

theorem ne_return_of_isSpecial (hspecial : isSpecial c = false) : c ≠ '\r' := by
  rintro rfl
  exact absurd hspecial (by decide)

/-- Characters other than blanks and line ends, with every single quote written twice. -/
theorem quotes_others {run : Text} (h : Quotes false w t rest)
    (hrun : ∀ c ∈ run, isGap c = false) :
    Quotes false (run.flatMap doubleQuote ++ w) (run ++ t) rest := by
  induction run with
  | nil => exact h
  | cons c run ih =>
    obtain ⟨hc, hall⟩ := List.forall_mem_cons.1 hrun
    rw [List.flatMap_cons, doubleQuote]
    by_cases hq : c = '\''
    · subst hq
      exact (ih hall).doubled
    · rw [if_neg (by simpa using hq)]
      exact (ih hall).char hc hq (by simp)

theorem quotes_spaces {double : Bool} (h : Quotes double w t rest) (hw : Solid w) (n : Nat) :
    Quotes double (List.replicate n ' ' ++ w) (List.replicate n ' ' ++ t) rest := by
  have hsolid (n : Nat) : Solid (List.replicate n ' ' ++ w) := by
    induction n with
    | zero => exact hw
    | succ n ih => exact ih.space
  induction n with
  | zero => exact h
  | succ n ih => exact ih.space (hsolid n)

/-- Where a run of other characters or the closing quote comes next, no gap does. -/
theorem head_quoted {rs : List Text} (hr : Runs rs) (hspecial : ∀ c ∈ rs.flatten, isSpecial c = false)
    (hhead : ∀ c ∈ rs.flatten.head?, c ≠ ' ' ∧ isBreak c = false) (first : Bool) :
    ∃ c, (writeRuns doubleQuote indent first column rs ++ '\'' :: rest).head? = some c ∧
      isGap c = false := by
  cases hr with
  | nil => exact ⟨'\'', rfl, by decide⟩
  | spaces hn hr hnext =>
    obtain ⟨n, rfl⟩ := Nat.exists_eq_succ_of_ne_zero hn.ne'
    exact ((hhead ' ' rfl).1 rfl).elim
  | @breaks c run rs hrun hr hnext =>
    have := hrun c List.mem_cons_self
    simp [(hhead c rfl).2] at this
  | @others c run rs hrun hr hnext =>
    obtain ⟨hspace, hbreak⟩ := hrun c List.mem_cons_self
    refine ⟨c, ?_, isGap_of_plain (hspecial c (by simp)) hspace hbreak⟩
    rw [writeRuns_others hrun, List.flatMap_cons, doubleQuote]
    split <;> rfl

/-- What a run is read as from single quotes. -/
def readRun : Text → Text
  | [] => []
  | c :: run =>
    if isBreak c && c != '\n' then foldBreaks [Cursor.asRead c] (run.map Cursor.asRead)
    else (c :: run).map Cursor.asRead

theorem asRead_of_ne (h : c ≠ nextLine) : Cursor.asRead c = c := by simp [Cursor.asRead, h]

theorem map_asRead (h : nextLine ∉ t) : t.map Cursor.asRead = t := by
  exact (List.map_congr_left fun c hc => asRead_of_ne fun he => h (he ▸ hc)).trans (List.map_id t)

theorem readRun_eq_self {run : Text} (h : nextLine ∉ run) : readRun run = run := by
  cases run with
  | nil => rfl
  | cons c run =>
    have hc : c ≠ nextLine := fun he => h (he ▸ List.mem_cons_self)
    have hrun : nextLine ∉ run := fun hm => h (List.mem_cons_of_mem _ hm)
    rw [readRun, map_asRead h, map_asRead hrun, asRead_of_ne hc]
    split
    · next hb =>
      have hfeed : c ≠ '\n' := by simpa using (Bool.and_eq_true_iff.1 hb).2
      simp [foldBreaks, hfeed]
    · rfl

theorem readRun_of_isBreak {run : Text} (h : ∀ c ∈ run, isBreak c = false) : readRun run = run := by
  refine readRun_eq_self fun hm => ?_
  exact absurd (h _ hm) (by decide)

/-- What is written for runs after which a quote closes is read run by run. -/
theorem quotes_runs {rs : List Text} (hr : Runs rs) (hspecial : ∀ c ∈ rs.flatten, isSpecial c = false)
    (hi : 0 < indent) (hrest : rest.head? ≠ some '\'') (first : Bool) (column : Nat) :
    Quotes false (writeRuns doubleQuote indent first column rs ++ '\'' :: rest) (rs.flatMap readRun)
      rest := by
  induction hr generalizing first column with
  | nil => exact .close hrest
  | @spaces n rs hn hr hhead ih =>
    rw [List.flatten_cons, List.forall_mem_append] at hspecial
    have hblank : ∀ c ∈ List.replicate n ' ', isBreak c = false := fun c hc => by
      rw [List.eq_of_mem_replicate hc, isBreak_space]
    rw [List.flatMap_cons, readRun_of_isBreak hblank]
    rcases writeRuns_spaces doubleQuote rfl indent column n first rs with hw | ⟨rfl, -, hw⟩
    · rw [hw, List.append_assoc]
      refine quotes_spaces (ih hspecial.2 _ _) ?_ n
      obtain ⟨c, hc, hg⟩ := head_quoted hr
        hspecial.2 hhead false
      obtain ⟨w, hw⟩ := List.head?_eq_some_iff.1 hc
      rw [hw]
      exact solid_cons hg
    · rw [hw, List.append_assoc]
      have hfeed : ∀ d ∈ ['\n'], isBreak d = true ∧ d ≠ '\r' := by
        rintro _ hd
        obtain rfl := List.mem_singleton.1 hd
        decide
      exact (ih hspecial.2 false indent).lines hfeed hi
        (head_quoted hr hspecial.2 hhead false)
  | @breaks c run rs hrun hr hhead ih =>
    rw [List.flatten_cons, List.forall_mem_append] at hspecial
    have hbreaks : ∀ d ∈ c :: run, isBreak d = true ∧ d ≠ '\r' := fun d hd =>
      ⟨hrun d hd, ne_return_of_isSpecial (hspecial.1 d hd)⟩
    have hread := ih hspecial.2 false indent
    have hhead : ∃ d, (writeRuns doubleQuote indent false indent rs ++ '\'' :: rest).head? = some d ∧
        isGap d = false := head_quoted hr hspecial.2 hhead false
    rw [writeRuns_breaks hrun, List.flatMap_cons, readRun, hrun c List.mem_cons_self]
    by_cases hfeed : c = '\n'
    · -- A line feed more is written, as the first one of several does not count.
      subst hfeed
      have := hread.lines (c := '\n')
        (List.forall_mem_cons.2 ⟨by decide, hbreaks⟩) hi hhead
      simpa [foldBreaks, Cursor.asRead, nextLine] using this
    · have := hread.lines hbreaks hi hhead
      simpa [hfeed] using this
  | @others c run rs hrun hr hhead ih =>
    rw [List.flatten_cons, List.forall_mem_append] at hspecial
    rw [List.flatMap_cons, readRun_of_isBreak fun d hd => (hrun d hd).2, writeRuns_others hrun,
      List.append_assoc]
    exact quotes_others (ih hspecial.2 _ _) fun d hd =>
      isGap_of_plain (hspecial.1 d hd) (hrun d hd).1 (hrun d hd).2

/-! ### Double quotes -/

/-- A backslash with what it is read with. -/
theorem Quotes.escape {shown text : Text} (h : Quotes true w t rest)
    (hread : ∀ cursor : Cursor, cursor.rest = shown ++ w →
      ∃ after, readEscape cursor = .ok (text, after) ∧ after.rest = w) :
    Quotes true ('\\' :: shown ++ w) (text ++ t) rest
  | 0, _, _, hf => (Nat.not_lt_zero _ hf).elim
  | fuel + 1, cursor, hc, hf => by
    obtain ⟨mid, hmid, hw⟩ := hread cursor.next (by simp [hc])
    have hlen : w.length < fuel := by
      simp only [List.cons_append, List.length_cons, List.length_append] at hf
      omega
    obtain ⟨after, hmore, hrest⟩ := h fuel mid hw hlen
    refine ⟨after, ?_, hrest⟩
    rw [readQuoted, Cursor.peek_of_rest hc, hmid]
    exact bind_eq_ok.2 ⟨_, rfl, bind_eq_ok.2 ⟨_, hmore, rfl⟩⟩

theorem escaped?_of_letter {letter : Char} (h : escapeLetter? c = some letter) :
    escaped? letter = some c := by
  unfold escapeLetter? at h
  split at h
  case h_12 =>
    split_ifs at h with hnext hline hparagraph <;> cases h
    · rw [eq_of_beq hnext]; rfl
    · rw [eq_of_beq hline]; rfl
    · rw [eq_of_beq hparagraph]; rfl
  all_goals cases h; rfl

theorem readEscape_letter {letter : Char} (h : escaped? letter = some c)
    (hrest : cursor.rest = letter :: w) : readEscape cursor = .ok ([c], cursor.next) := by
  simp [readEscape, Cursor.peek_of_rest hrest, h, hrest]

theorem readEscape_code {mark : Char} {digits : Text} (hmark : escaped? mark = none)
    (hcount : codeLength? mark = some digits.length) (hdigits : digits.all Text.isHex = true)
    (hchar : codeChar (Text.numeral 16 digits) = .ok c) (hrest : cursor.rest = mark :: digits ++ w) :
    readEscape cursor = .ok ([c], cursor.next.advance digits.length) := by
  simp [readEscape, Cursor.peek_of_rest hrest, hmark, hcount, hrest, hdigits, hchar]

theorem codeChar_toNat (c : Char) : codeChar c.toNat = .ok c := by
  have hvalid : c.toNat < 0xD800 ∨ (0xDFFF < c.toNat ∧ c.toNat < 0x110000) := c.valid
  rw [codeChar, if_neg (by omega), if_neg (by omega), Char.ofNat_toNat]

/-- The escape of a character is read as the character. -/
theorem quotes_escape {shown : Text} (h : Quotes true w t rest) (he : escape? c = some shown) :
    Quotes true (shown ++ w) (c :: t) rest := by
  have hcode (mark : Char) (count : Nat) (hmark : escaped? mark = none)
      (hcount : codeLength? mark = some count) (hc : c.toNat < 16 ^ count) :
      Quotes true ('\\' :: mark :: (Text.hexDigits count c.toNat).map Char.toUpper ++ w) (c :: t)
        rest := by
    refine h.escape fun cursor hrest => ⟨_, readEscape_code hmark ?_
      (Text.isHex_hexCapitals count c.toNat) ?_ hrest, by simp [hrest]⟩
    · rw [List.length_map, Text.length_hexDigits, hcount]
    · rw [Text.numeral_hexCapitals, Nat.mod_eq_of_lt hc, codeChar_toNat]
  unfold escape? at he
  split at he
  · next letter hl =>
    cases he
    exact h.escape fun cursor hrest =>
      ⟨_, readEscape_letter (escaped?_of_letter hl) hrest, by simp [hrest]⟩
  · dsimp only at he
    split_ifs at he with hplain hbyte hunit <;> cases he
    · exact hcode 'x' 2 rfl rfl hbyte
    · exact hcode 'u' 4 rfl rfl hunit
    · have hvalid : c.toNat < 0xD800 ∨ (0xDFFF < c.toNat ∧ c.toNat < 0x110000) := c.valid
      exact hcode 'U' 8 rfl rfl (by omega)

/-- A character without an escape stands for itself in double quotes. -/
theorem plain_of_escape?_none (h : escape? c = none) :
    c ≠ '"' ∧ c ≠ '\\' ∧ (c = ' ' ∨ isGap c = false) := by
  unfold escape? at h
  split at h
  · cases h
  · next hl =>
    have hletter {d : Char} (hd : (escapeLetter? d).isSome = true) : c ≠ d := by
      rintro rfl
      simp [hl] at hd
    dsimp only at h
    split_ifs at h with hplain
    refine ⟨hletter rfl, hletter rfl, ?_⟩
    by_cases hspace : c = ' '
    · exact Or.inl hspace
    · refine Or.inr (isGap_eq_false_iff.2 ⟨hletter rfl, hspace, hletter rfl, ?_⟩)
      have := hletter (d := '\n') rfl
      have := hletter (d := '\r') rfl
      have := hletter (d := nextLine) rfl
      have := hletter (d := lineSeparator) rfl
      have := hletter (d := paragraphSeparator) rfl
      simp [isBreak, *]

/-- A line that is broken inside double quotes goes on after the spaces of the next one. -/
theorem quotes_broken (h : Quotes true w t rest) (hi : 0 < indent)
    (hw : ∃ c, w.head? = some c ∧ isGap c = false) :
    Quotes true ('\\' :: newLine indent ++ w) t rest := by
  change Quotes true ('\\' :: newLine indent ++ w) ([] ++ t) rest
  refine h.escape fun cursor hrest => ?_
  have hrest : cursor.rest = '\n' :: (List.replicate indent ' ' ++ w) := hrest
  have hline := Cursor.takeBreak_of_isBreak hrest (by decide) (by decide)
  have hnext : cursor.next.rest = [] ++ List.replicate indent ' ' ++ w := by simp [hrest]
  obtain ⟨after, hread, hafter⟩ := Quotes.quotedBreaks_lines (by simp) hi hw (Nat.succ_pos _) hnext
  refine ⟨after, ?_, hafter⟩
  rw [readEscape, Cursor.peek_of_rest hrest, hline]
  exact hread

theorem head_of_escape {shown : Text} (h : escape? c = some shown) : ∃ s, shown = '\\' :: s := by
  unfold escape? at h
  split at h
  · exact ⟨_, (Option.some.inj h).symm⟩
  · dsimp only at h
    split_ifs at h <;> exact ⟨_, (Option.some.inj h).symm⟩

section

variable {first afterEscape : Bool}

/-- How one character is written: as it is, with a backslash, or either of them at the end or at the
start of a line. -/
theorem writeEscaped_cons (indent : Nat) (first afterEscape : Bool) (column : Nat) (c : Char) (t : Text) :
    (∃ shown, escape? c = some shown ∧
      ((∃ column', writeEscaped indent first afterEscape column (c :: t) =
          shown ++ writeEscaped indent false true column' t) ∨
        (∃ d t', t = d :: t' ∧ writeEscaped indent first afterEscape column (c :: t) =
          shown ++ breakQuoted indent t ++
            writeEscaped indent false true ((breakQuoted indent t).length - 2) t))) ∨
    (escape? c = none ∧
      ((∃ column', writeEscaped indent first afterEscape column (c :: t) =
          c :: writeEscaped indent false false column' t) ∨
        (∃ column', writeEscaped indent first afterEscape column (c :: t) =
          breakQuoted indent (c :: t) ++ c :: writeEscaped indent false false column' t))) := by
  rw [writeEscaped]
  cases he : escape? c with
  | some shown =>
    refine Or.inl ⟨shown, rfl, ?_⟩
    dsimp only
    split
    · next hfold =>
      cases t with
      | nil => simp at hfold
      | cons d t => exact Or.inr ⟨d, t, rfl, rfl⟩
    · exact Or.inl ⟨_, rfl⟩
  | none =>
    refine Or.inr ⟨rfl, ?_⟩
    dsimp only
    split
    · exact Or.inr ⟨_, rfl⟩
    · exact Or.inl ⟨_, rfl⟩

theorem head_escaped (ht : t.head? ≠ some ' ') :
    ∃ c, (writeEscaped indent first afterEscape column t ++ '"' :: rest).head? = some c ∧
      isGap c = false := by
  cases t with
  | nil => exact ⟨'"', rfl, by decide⟩
  | cons c t =>
    have hslash : isGap '\\' = false := by decide
    rcases writeEscaped_cons indent first afterEscape column c t with
      ⟨shown, he, ⟨_, hw⟩ | ⟨_, _, -, hw⟩⟩ | ⟨he, ⟨_, hw⟩ | ⟨_, hw⟩⟩
    · obtain ⟨s, rfl⟩ := head_of_escape he
      exact ⟨'\\', by rw [hw]; rfl, hslash⟩
    · obtain ⟨s, rfl⟩ := head_of_escape he
      exact ⟨'\\', by rw [hw]; rfl, hslash⟩
    · refine ⟨c, by rw [hw]; rfl, ?_⟩
      exact (plain_of_escape?_none he).2.2.resolve_left fun hc => ht (by simp [hc])
    · exact ⟨'\\', by rw [hw]; rfl, hslash⟩

theorem solid_escaped : Solid (writeEscaped indent first afterEscape column t ++ '"' :: rest) := by
  induction t generalizing first afterEscape column with
  | nil => exact solid_cons (by decide)
  | cons c t ih =>
    by_cases hc : c = ' '
    · subst hc
      rcases writeEscaped_cons indent first afterEscape column ' ' t with
        ⟨_, he, -⟩ | ⟨-, ⟨_, hw⟩ | ⟨_, hw⟩⟩
      · cases he
      · rw [hw]
        exact ih.space
      · rw [hw]
        exact solid_cons (by decide)
    · obtain ⟨d, hd, hg⟩ := head_escaped
        (t := c :: t) (by simpa using hc)
      obtain ⟨w, hw⟩ := List.head?_eq_some_iff.1 hd
      rw [hw]
      exact solid_cons hg

/-- After a line was broken before a space, the space stands behind its backslash. -/
theorem writeEscaped_afterBreak (hi : indent < foldColumn) : ∃ column',
    writeEscaped indent false true ((breakQuoted indent (' ' :: t)).length - 2) (' ' :: t) =
      ' ' :: writeEscaped indent false false column' t := by
  have hlen : (breakQuoted indent (' ' :: t)).length - 2 = indent + 1 := by
    simp [breakQuoted, newLine]
  have hfold : ¬foldColumn < indent + 1 := by omega
  rw [hlen, writeEscaped, show escape? ' ' = none by decide]
  exact ⟨indent + 1 + 1, by simp [hfold]⟩

/-- Where a line was broken, the text goes on. -/
theorem quotes_breakQuoted (h : Quotes true w t rest) (hi : 0 < indent)
    (hw : ∃ c, w.head? = some c ∧ isGap c = false) (ht : t.head? ≠ some ' ') :
    Quotes true (breakQuoted indent t ++ w) t rest := by
  have hnext : (t.head? == some ' ') = false := by simpa using ht
  rw [breakQuoted, hnext, if_neg Bool.false_ne_true, List.append_nil]
  exact quotes_broken h hi hw

theorem quotes_breakQuoted_space (h : Quotes true w t rest) (hi : 0 < indent) :
    Quotes true (breakQuoted indent (' ' :: t) ++ ' ' :: w) (' ' :: t) rest := by
  have hspace : Quotes true ('\\' :: [' '] ++ w) ([' '] ++ t) rest :=
    h.escape fun cursor hc =>
      ⟨_, readEscape_letter rfl hc, by simp [hc]⟩
  have := quotes_broken hspace hi ⟨'\\', rfl, by decide⟩
  simpa [breakQuoted] using this

/-- What is written in double quotes is read as the text. -/
theorem quotes_escaped (hi : 0 < indent) (hi' : indent < foldColumn) (hrest : rest.head? ≠ some '\'')
    (first afterEscape : Bool) (column : Nat) (t : Text) :
    Quotes true (writeEscaped indent first afterEscape column t ++ '"' :: rest) t rest := by
  generalize hl : t.length = l
  induction l using Nat.strong_induction_on generalizing first afterEscape column t with
  | _ l ih =>
    cases t with
    | nil => exact .close hrest
    | cons c t =>
      have hsmall (first afterEscape : Bool) (column : Nat) :
          Quotes true (writeEscaped indent first afterEscape column t ++ '"' :: rest) t rest :=
        ih t.length (by rw [← hl]; exact Nat.lt_succ_self _) first afterEscape column t rfl
      rcases writeEscaped_cons indent first afterEscape column c t with
        ⟨shown, he, ⟨column', hw⟩ | ⟨d, t, rfl, hw⟩⟩ | ⟨he, ⟨column', hw⟩ | ⟨column', hw⟩⟩
      · rw [hw, List.append_assoc]
        exact quotes_escape (hsmall _ _ _) he
      · rw [hw, List.append_assoc, List.append_assoc]
        refine quotes_escape ?_ he
        by_cases hd : d = ' '
        · -- The space that comes next has its backslash in the new line already.
          subst hd
          obtain ⟨column', hspace⟩ := writeEscaped_afterBreak (t := t) hi'
          rw [hspace]
          refine quotes_breakQuoted_space (ih t.length ?_ false false column' t rfl) hi
          rw [← hl]
          exact Nat.lt_succ_of_lt (Nat.lt_succ_self _)
        · have hd : (d :: t).head? ≠ some ' ' := by simpa using hd
          exact quotes_breakQuoted (hsmall _ _ _) hi (head_escaped hd) hd
      · rw [hw]
        obtain ⟨hquote, hslash, rfl | hgap⟩ := plain_of_escape?_none he
        · exact (hsmall _ _ _).space solid_escaped
        · exact (hsmall _ _ _).char hgap hquote fun _ => hslash
      · rw [hw, List.append_assoc]
        obtain ⟨hquote, hslash, rfl | hgap⟩ := plain_of_escape?_none he
        · exact quotes_breakQuoted_space (hsmall _ _ _) hi
        · refine quotes_breakQuoted ((hsmall _ _ _).char hgap hquote fun _ => hslash) hi
            ⟨c, rfl, hgap⟩ ?_
          simpa using (isGap_eq_false_iff.1 hgap).2.1

end

end NameSlots.Yaml
