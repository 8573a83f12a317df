import NameSlots.Proofs.Yaml.Quoted

/-!
Plain texts, and texts as they are written: each is read back, but for the characters for a next line
that stand in single quotes.
-/
namespace NameSlots.Yaml

variable {c : Char} {t w rest : Text} {fuel indent column depth : Nat} {cursor : Cursor}

/-! ## Plain -/

theorem holdsMark_append {before : Char} {s : Text} (h : holdsMark before (s ++ c :: t) = false) :
    holdsMark c t = false := by
  induction s generalizing before with
  | nil =>
    simp only [List.nil_append, holdsMark, Bool.or_eq_false_iff] at h
    exact h.2
  | cons d s ih =>
    simp only [List.cons_append, holdsMark, Bool.or_eq_false_iff] at h
    exact ih h.2

theorem holdsMark_eq_false {before : Char} (h : ∀ c ∈ t, c ≠ ':' ∧ c ≠ '#') :
    holdsMark before t = false := by
  induction t generalizing before with
  | nil => rfl
  | cons c t ih =>
    obtain ⟨hc, ht⟩ := List.forall_mem_cons.1 h
    simp [holdsMark, hc.1, hc.2, ih ht]

theorem plainPiece_gap (h : isGap c = true) : plainPiece false (c :: w) = [] := by
  simp [plainPiece, endsPlain, h]

/-- A piece goes on up to where none begins; the text tells which colons are in it. -/
theorem plainPiece_append (before : Char) {run : Text} (hrun : ∀ c ∈ run, isGap c = false)
    (hmark : holdsMark before (run ++ t) = false) (ht : isGap (t.headD endMark) = true)
    (hw : plainPiece false w = []) : plainPiece false (run ++ w) = run := by
  induction run generalizing before with
  | nil => exact hw
  | cons c run ih =>
    obtain ⟨hc, hrun⟩ := List.forall_mem_cons.1 hrun
    simp only [List.cons_append, holdsMark, Bool.or_eq_false_iff] at hmark
    obtain ⟨⟨hcolon, -⟩, hmark⟩ := hmark
    have hends : endsPlain false c ((run ++ w).headD endMark) = false := by
      cases run with
      | nil =>
        have : (c == ':') = false := by rwa [List.nil_append, ht, Bool.and_true] at hcolon
        simp [endsPlain, hc, this]
      | cons d run =>
        have : (c == ':' && isGap d) = false := hcolon
        simp [endsPlain, hc, this]
    rw [List.cons_append, plainPiece, hends, ih _ hrun hmark]
    rfl

/-- A line that begins at a column, and not with a mark between documents. -/
structure LineStart (column : Nat) (line : Text) : Prop where
  head : ∀ c ∈ line.head?, c ≠ ' ' ∧ c ≠ '#' ∧ isBreak c = false
  order : line.head? ≠ some (Char.ofNat 0xFEFF)
  mark : column = 0 → ∀ mark ∈ ['-', '.'], line.take 3 ≠ List.replicate 3 mark

theorem atSeparator_of_lineStart (h : LineStart column t)
    (hc : cursor.rest = List.replicate column ' ' ++ t) : cursor.atSeparator = false := by
  cases column with
  | zero =>
    have hhyphen := h.mark rfl '-' (by simp)
    have hpoint := h.mark rfl '.' (by simp)
    have hc : cursor.rest = t := hc
    unfold Cursor.atSeparator Cursor.atMark
    rw [hc, beq_eq_false_iff_ne.2 hhyphen, beq_eq_false_iff_ne.2 hpoint]
    rfl
  | succ n =>
    apply Cursor.atSeparator_eq_false
    rw [hc]
    rintro _ ⟨⟩
    decide

theorem plainBreaks_spaces {n : Nat} (hc : cursor.rest = List.replicate n ' ' ++ t)
    (ht : ∀ c ∈ t.head?, c ≠ ' ' ∧ isBreak c = false) (hf : n < fuel) :
    plainBreaks fuel cursor = ([], false, cursor.advance n) := by
  induction n generalizing fuel cursor with
  | zero =>
    obtain ⟨fuel, rfl⟩ := Nat.exists_eq_succ_of_ne_zero (Nat.ne_zero_of_lt hf)
    have hpeek : cursor.peek ≠ ' ' ∧ isBreak cursor.peek = false := by
      have hc : cursor.rest = t := hc
      cases t with
      | nil =>
        rw [Cursor.peek_of_nil hc]
        decide
      | cons c t =>
        rw [Cursor.peek_of_rest hc]
        exact ht c rfl
    simp [plainBreaks, hpeek, Cursor.advance]
  | succ n ih =>
    obtain ⟨fuel, rfl⟩ := Nat.exists_eq_succ_of_ne_zero (Nat.ne_zero_of_lt hf)
    have hnext := @ih fuel cursor.next (by simp [hc, List.replicate_succ]) (Nat.lt_of_succ_lt_succ hf)
    rw [plainBreaks, Cursor.peek_of_rest hc, hnext]
    rfl

/-- A line end with one line after it stands for a space. -/
theorem plainGap_line (h : LineStart column t)
    (hc : cursor.rest = '\n' :: List.replicate column ' ' ++ t) :
    ∃ after, plainGap cursor = ⟨some [' '], true, after⟩ ∧ after.rest = t ∧
      after.column = column := by
  have hskip : cursor.takeWhile (· == ' ') = ([], cursor) := by
    apply Cursor.takeWhile_nil
    rw [hc]
    rintro _ ⟨⟩
    rfl
  have hline := Cursor.takeBreak_of_isBreak hc (by decide) (by decide)
  have hnext := Cursor.next_of_lineFeed hc
  have hrest : cursor.next.rest = List.replicate column ' ' ++ t := by rw [hnext]; rfl
  have hspaces := Cursor.advance_spaces hrest
  have hlen : column < cursor.next.rest.length + 1 := by
    rw [hrest, List.length_append, List.length_replicate]
    omega
  have hbreaks := plainBreaks_spaces hrest (fun c hc => ⟨(h.head c hc).1, (h.head c hc).2.2⟩) hlen
  refine ⟨cursor.next.advance column, ?_, by rw [hspaces], by rw [hspaces, hnext]; simp⟩
  unfold plainGap
  rw [hskip]
  simp only [Cursor.peek_of_rest hc, hline, atSeparator_of_lineStart h hrest, hbreaks]
  rfl

theorem plainGap_spaces {n : Nat} (hn : 0 < n) (hc : cursor.rest = List.replicate n ' ' ++ c :: t)
    (hspace : c ≠ ' ') (hbreak : isBreak c = false) :
    plainGap cursor = ⟨some (List.replicate n ' '), false, cursor.advance n⟩ := by
  have hskip : cursor.takeWhile (· == ' ') = (List.replicate n ' ', cursor.advance n) := by
    rw [Cursor.takeWhile_eq hc (by simp) (by simpa using hspace), List.length_replicate]
  have hafter : (cursor.advance n).rest = c :: t := by simp [hc]
  unfold plainGap
  rw [hskip]
  simp [Cursor.peek_of_rest hafter, hbreak, hn.ne']

theorem plainGap_none (hc : cursor.rest = c :: t) (hspace : c ≠ ' ') (hbreak : isBreak c = false) :
    plainGap cursor = ⟨none, false, cursor⟩ := by
  have hskip : cursor.takeWhile (· == ' ') = ([], cursor) := by
    apply Cursor.takeWhile_nil
    rw [hc]
    rintro _ ⟨⟩
    simpa using hspace
  unfold plainGap
  rw [hskip]
  simp [Cursor.peek_of_rest hc, hbreak]

/-- A piece in a plain scalar, with other text after it. -/
structure Piece (run w : Text) : Prop where
  ne_nil : run ≠ []
  head : run.head? ≠ some '#'
  eq : plainPiece false (run ++ w) = run

theorem Piece.begins {run : Text} (h : Piece run w) (hc : cursor.rest = run ++ w) :
    (cursor.peek == '#' || (plainPiece false cursor.rest).isEmpty) = false := by
  rw [hc, h.eq]
  obtain ⟨c, run, rfl⟩ := List.exists_cons_of_ne_nil h.ne_nil
  have hhead := h.head
  rw [Cursor.peek_of_rest hc]
  simpa using hhead

/-- A piece at the end of its line is the last one if the next line is indented less. -/
theorem plainFrom_last {gap : Text} {broken : Bool} {run : Text} (h : Piece run w)
    (hc : cursor.rest = run ++ w) (hw : w = '\n' :: List.replicate column ' ' ++ t)
    (ht : LineStart column t) (hi : column < indent) :
    ∃ after, plainFrom false indent (fuel + 1) gap broken cursor = (gap ++ run, true, after) ∧
      after.rest = t ∧ after.column = column := by
  have hline : (cursor.advance run.length).rest = '\n' :: List.replicate column ' ' ++ t := by
    simp [hc, hw]
  obtain ⟨after, hgap, hrest, hcolumn⟩ := plainGap_line ht hline
  refine ⟨after, ?_, hrest, hcolumn⟩
  rw [plainFrom, h.begins hc, hc, h.eq, hgap]
  simp [hcolumn, hi]

/-- A piece before a gap that stands for nothing is the last one. -/
theorem plainFrom_mark {gap : Text} {broken : Bool} {run : Text} (h : Piece run w)
    (hc : cursor.rest = run ++ w) (hw : w.head? = some c) (hspace : c ≠ ' ') (hbreak : isBreak c = false) :
    plainFrom false indent (fuel + 1) gap broken cursor =
      (gap ++ run, false, cursor.advance run.length) := by
  obtain ⟨w, rfl⟩ := List.head?_eq_some_iff.1 hw
  have hrest : (cursor.advance run.length).rest = c :: w := by simp [hc]
  have hgap := plainGap_none hrest hspace hbreak
  rw [plainFrom, h.begins hc, hc, h.eq, hgap]
  rfl

/-- After a gap that stands for a text a plain scalar goes on. -/
theorem plainFrom_next {gap text more : Text} {broken broken' : Bool} {run : Text} {next after : Cursor}
    (h : Piece run w) (hc : cursor.rest = run ++ w)
    (hgap : plainGap (cursor.advance run.length) = ⟨some text, broken', next⟩)
    (hpeek : next.peek ≠ '#') (hi : indent ≤ next.column)
    (hmore : plainFrom false indent fuel text broken' next = (text ++ more, true, after)) :
    plainFrom false indent (fuel + 1) gap broken cursor = (gap ++ (run ++ (text ++ more)), true, after) := by
  have hin : ¬next.column < indent := Nat.not_lt.2 hi
  rw [plainFrom, h.begins hc, hc, h.eq, hgap]
  simp [hpeek, hin, hmore]

theorem isWide_of_isSpecial (hspecial : isSpecial c = false) (hbreak : isBreak c = false) :
    Cursor.isWide c = true := by
  have hmark : c ≠ Char.ofNat 0xFEFF := by
    rintro rfl
    exact absurd hspecial (by decide)
  simp [Cursor.isWide, hbreak, hmark]

/-- Runs that can be plain: words with spaces between them. -/
structure PlainRuns (rs : List Text) : Prop where
  runs : Runs rs
  first : ∀ c ∈ rs.flatten.head?, c ≠ ' '
  last : ∀ c ∈ rs.flatten.getLast?, c ≠ ' '
  shown : ∀ c ∈ rs.flatten, isBreak c = false ∧ isSpecial c = false
  mark : holdsMark ' ' rs.flatten = false

/-- The first word, and the others after spaces if there are others. -/
theorem PlainRuns.cases {rs : List Text} (h : PlainRuns rs) (hne : rs ≠ []) :
    ∃ c run more, rs = (c :: run) :: more ∧ (∀ d ∈ c :: run, d ≠ ' ' ∧ isBreak d = false) ∧
      (more = [] ∨ ∃ n rest, more = List.replicate n ' ' :: rest ∧ 0 < n ∧ rest ≠ [] ∧
        PlainRuns rest) := by
  obtain ⟨hruns, hfirst, hlast, hshown, hmark⟩ := h
  cases hruns with
  | nil => exact (hne rfl).elim
  | spaces hn =>
    obtain ⟨n, rfl⟩ := Nat.exists_eq_succ_of_ne_zero hn.ne'
    exact (hfirst ' ' rfl rfl).elim
  | @breaks c run rest hrun =>
    have := hrun c List.mem_cons_self
    simp [(hshown c (by simp)).1] at this
  | @others c run more hrun hmore hhead =>
    refine ⟨c, run, more, rfl, hrun, ?_⟩
    cases hmore with
    | nil => exact Or.inl rfl
    | @breaks d run' rest hrun' =>
      have := hrun' d List.mem_cons_self
      simp [(hshown d (by simp)).1] at this
    | @others d run' rest hrun' =>
      have := hrun' d List.mem_cons_self
      have := hhead d rfl
      simp_all
    | @spaces n rest hn hrest hnext =>
      obtain ⟨n, rfl⟩ := Nat.exists_eq_succ_of_ne_zero hn.ne'
      have hflat : ((c :: run) :: List.replicate (n + 1) ' ' :: rest).flatten =
          (c :: run ++ List.replicate n ' ') ++ ' ' :: rest.flatten := by
        simp [List.replicate_succ']
      rw [hflat] at hlast hshown hmark
      have hne : rest.flatten ≠ [] := by
        intro he
        rw [he] at hlast
        exact hlast ' ' List.getLast?_concat rfl
      refine Or.inr ⟨n + 1, rest, rfl, hn, ?_, hrest, fun d hd => (hnext d hd).1, ?_, ?_, ?_⟩
      · rintro rfl
        exact hne rfl
      · intro d hd
        refine hlast d ?_
        rw [List.append_cons]
        exact List.mem_getLast?_append_of_mem_getLast? hd
      · exact fun d hd => hshown d (by simp [hd])
      · exact holdsMark_append hmark

theorem PlainRuns.head {rs : List Text} (h : PlainRuns rs) (hne : rs ≠ []) (first : Bool) (place : Nat) :
    ∃ c w, writeRuns (fun c => [c]) depth first place rs = c :: w ∧ isSpecial c = false ∧ c ≠ ' ' ∧
      c ≠ '#' ∧ isBreak c = false := by
  obtain ⟨c, run, more, rfl, hrun, -⟩ := h.cases hne
  obtain ⟨hspace, hbreak⟩ := hrun c List.mem_cons_self
  refine ⟨c, _, by rw [writeRuns_others hrun]; rfl, (h.shown c List.mem_cons_self).2, hspace, ?_, hbreak⟩
  rintro rfl
  exact absurd h.mark (by simp [holdsMark, isGap_space])

/-- The spaces between words are a gap that stands for them, whether or not the line is folded. -/
theorem plainGap_runs {rs : List Text} {n place : Nat} (hn : 0 < n) (h : PlainRuns rs) (hne : rs ≠ [])
    (hd : 0 < depth) (hc : cursor.rest =
      writeRuns (fun c => [c]) depth false place (List.replicate n ' ' :: rs) ++ w) :
    plainPiece false cursor.rest = [] ∧
    ∃ broken next place', plainGap cursor = ⟨some (List.replicate n ' '), broken, next⟩ ∧
      next.rest = writeRuns (fun c => [c]) depth false place' rs ++ w ∧ next.peek ≠ '#' ∧
      (next.column = depth ∨ cursor.column ≤ next.column) := by
  rcases writeRuns_spaces (fun c => [c]) rfl depth place n false rs with hw | ⟨rfl, -, hw⟩
  · obtain ⟨c, shown, hshown, -, hspace, hhash, hbreak⟩ := h.head hne false (place + n)
    have hc' : cursor.rest = List.replicate n ' ' ++ c :: (shown ++ w) := by
      rw [hc, hw, hshown, List.append_assoc]
      rfl
    have hnext : (cursor.advance n).rest = c :: (shown ++ w) := by simp [hc']
    refine ⟨?_, _, _, place + n, plainGap_spaces hn hc' hspace hbreak, ?_, ?_, Or.inr ?_⟩
    · obtain ⟨n, rfl⟩ := Nat.exists_eq_succ_of_ne_zero hn.ne'
      rw [hc']
      exact plainPiece_gap isGap_space
    · rw [hnext, hshown]
      rfl
    · rwa [Cursor.peek_of_rest hnext]
    · rw [Cursor.advance_spaces hc']
      exact Nat.le_add_right _ _
  · obtain ⟨c, shown, hshown, hspecial, hspace, hhash, hbreak⟩ := h.head hne false depth
    rw [hw, newLine, List.append_assoc] at hc
    have hline : LineStart depth (writeRuns (fun c => [c]) depth false depth rs ++ w) := by
      refine ⟨?_, ?_, fun hzero => absurd hzero hd.ne'⟩ <;> rw [hshown]
      · rintro _ ⟨⟩
        exact ⟨hspace, hhash, hbreak⟩
      · rintro ⟨⟩
        exact absurd hspecial (by decide)
    obtain ⟨next, hgap, hrest, hcolumn⟩ := plainGap_line hline hc
    refine ⟨by rw [hc]; exact plainPiece_gap isGap_lineFeed, true, next, depth, hgap, hrest, ?_,
      Or.inl hcolumn⟩
    rw [hshown] at hrest
    rwa [Cursor.peek_of_rest hrest]

/-- What is written for runs that can be plain is read as their text. -/
theorem plainFrom_runs {rs : List Text} (h : PlainRuns rs) (hne : rs ≠ []) (hindent : indent ≤ depth)
    (hcolumn : column < indent) (ht : LineStart column t) {gap : Text} {broken first : Bool}
    {place : Nat} (hc : cursor.rest = writeRuns (fun c => [c]) depth first place rs ++
      ('\n' :: List.replicate column ' ' ++ t)) (hi : indent ≤ cursor.column) (hf : rs.length < fuel) :
    ∃ after, plainFrom false indent fuel gap broken cursor = (gap ++ rs.flatten, true, after) ∧
      after.rest = t ∧ after.column = column := by
  induction hl : rs.length using Nat.strong_induction_on generalizing rs fuel cursor gap broken first place with
  | _ l ih =>
    obtain ⟨c, run, more, rfl, hrun, hmore⟩ := h.cases hne
    obtain ⟨fuel, rfl⟩ := Nat.exists_eq_succ_of_ne_zero (Nat.ne_zero_of_lt hf)
    have hpiece {w : Text} (hw : plainPiece false w = []) : Piece (c :: run) w := by
      refine ⟨List.cons_ne_nil _ _, ?_, ?_⟩
      · rintro ⟨⟩
        exact absurd h.mark (by simp [holdsMark, isGap_space])
      · refine plainPiece_append _ (t := more.flatten) (fun d hd => ?_) h.mark ?_ hw
        · exact isGap_of_plain (h.shown d (List.mem_append_left _ hd)).2 (hrun d hd).1 (hrun d hd).2
        · rcases hmore with rfl | ⟨n, rest, rfl, hn, -⟩
          · decide
          · obtain ⟨n, rfl⟩ := Nat.exists_eq_succ_of_ne_zero hn.ne'
            exact isGap_space
    rw [writeRuns_others hrun, List.append_assoc, List.flatMap_singleton'] at hc
    rcases hmore with rfl | ⟨n, rest, rfl, hn, hrest, hplain⟩
    · have hlast : ∃ after, plainFrom false indent (fuel + 1) gap broken cursor =
          (gap ++ (c :: run), true, after) ∧ after.rest = t ∧ after.column = column :=
        plainFrom_last (hpiece (plainPiece_gap isGap_lineFeed)) hc rfl ht hcolumn
      simpa using hlast
    · have hmid : (cursor.advance (c :: run).length).rest = writeRuns (fun c => [c]) depth false
          (place + (c :: run).length) (List.replicate n ' ' :: rest) ++ ('\n' :: List.replicate column ' ' ++ t) := by
        rw [Cursor.rest_advance, hc, List.drop_left]
      have hon : cursor.column ≤ (cursor.advance (c :: run).length).column := by
        rw [Cursor.advance_of_isWide hc fun d hd => ?_]
        · exact Nat.le_add_right _ _
        · exact isWide_of_isSpecial (h.shown d (List.mem_append_left _ hd)).2 (hrun d hd).2
      obtain ⟨hend, broken', next, place', hgap, hnext, hpeek, hcolumn'⟩ :=
        plainGap_runs hn hplain hrest (by omega) hmid
      have hi' : indent ≤ next.column := by omega
      have hf' : rest.length < fuel := by
        simp only [List.length_cons] at hf
        omega
      obtain ⟨after, hread, hafter⟩ := ih rest.length (by simp only [List.length_cons] at hl; omega)
        hplain hrest hnext hi' hf' rfl
      refine ⟨after, ?_, hafter⟩
      rw [hmid] at hend
      rw [plainFrom_next (hpiece hend) hc hgap hpeek hi' hread]
      simp

/-! ## Whole scalars -/

theorem allowsPlain_iff : allowsPlain t = true ↔ Tag.ofForm t = .text ∧ t.head? ≠ some ' ' ∧
    t.getLast? ≠ some ' ' ∧ (∀ c ∈ t, isBreak c = false ∧ isSpecial c = false) ∧
    "---".toList.isPrefixOf t = false ∧ "...".toList.isPrefixOf t = false ∧
    startsWithMark t = false ∧ holdsMark ' ' t = false := by
  simp only [allowsPlain, Bool.and_eq_true, Bool.not_eq_true', beq_iff_eq, bne_iff_ne, ne_eq,
    List.any_eq_false, Bool.or_eq_true, not_or, Bool.not_eq_true, and_assoc]

theorem plainRuns_of_allowsPlain (h : allowsPlain t = true) : PlainRuns (runs t) := by
  obtain ⟨-, hhead, hlast, hshown, -, -, -, hmark⟩ := allowsPlain_iff.1 h
  refine ⟨runs_of_allowed ?_, ?_, ?_, ?_, ?_⟩
  · rw [holdsSpaceAtBreak, List.any_eq_false]
    rintro ⟨a, b⟩ hab
    obtain ⟨ha, hb⟩ := List.of_mem_zip hab
    simp [(hshown a ha).1, (hshown b (List.mem_of_mem_drop hb)).1]
  all_goals rw [flatten_runs]
  · rintro c hc rfl
    exact hhead hc
  · rintro c hc rfl
    exact hlast hc
  · exact hshown
  · exact hmark

theorem ne_nil_of_allowsPlain (h : allowsPlain t = true) : t ≠ [] := by
  rintro rfl
  exact absurd h (by decide)

theorem length_writeRuns {rs : List Text} (h : Runs rs) (first : Bool) (column : Nat) :
    rs.length ≤ (writeRuns (fun c => [c]) indent first column rs).length := by
  induction h generalizing first column with
  | nil => exact Nat.zero_le _
  | @spaces n rs hn hr hnext ih =>
    rcases writeRuns_spaces (fun c => [c]) rfl indent column n first rs with hw | ⟨-, -, hw⟩
    · have := ih false (column + n)
      simp only [hw, List.length_append, List.length_replicate, List.length_cons]
      omega
    · have := ih false indent
      simp only [hw, newLine, List.length_append, List.length_cons]
      omega
  | breaks hrun hr hnext ih =>
    have := ih false indent
    simp only [writeRuns_breaks hrun, List.length_append, List.length_cons]
    omega
  | @others c run rs hrun hr hnext ih =>
    have := ih false (column + ((c :: run).flatMap fun c => [c]).length)
    rw [writeRuns_others hrun, List.length_append, List.length_cons, List.flatMap_singleton',
      List.length_cons]
    rw [List.flatMap_singleton', List.length_cons] at this
    omega

/-- A text that can be plain is read back from a line that others follow. -/
theorem readPlain_writeText (h : allowsPlain t = true) (hindent : indent ≤ depth)
    (hcolumn : column < indent) (hrest : LineStart column rest) {place : Nat}
    (hc : cursor.rest = writeText depth place t ++ ('\n' :: List.replicate column ' ' ++ rest))
    (hi : indent ≤ cursor.column) :
    ∃ after, readPlain false indent cursor = (t, true, after) ∧ after.rest = rest ∧
      after.column = column := by
  have hplain := plainRuns_of_allowsPlain h
  rw [writeText, if_pos h] at hc
  have hlen : (runs t).length ≤ (writeRuns (fun c => [c]) depth true place (runs t)).length :=
    length_writeRuns hplain.runs true place
  have hne : runs t ≠ [] := fun hnil =>
    ne_nil_of_allowsPlain h (by rw [← flatten_runs t, hnil]; rfl)
  have hf : (runs t).length < cursor.rest.length + 1 := by
    rw [hc, List.length_append]
    omega
  have hread : ∃ after, plainFrom false indent (cursor.rest.length + 1) [] false cursor =
      ([] ++ (runs t).flatten, true, after) ∧ after.rest = rest ∧ after.column = column :=
    plainFrom_runs hplain hne hindent hcolumn hrest hc hi hf
  rwa [flatten_runs] at hread

/-- What a text is read back as. In single quotes a character for the next line is a line end like
others. -/
def readBack (t : Text) : Text :=
  if allowsPlain t || !allowsSingle t then t else (runs t).flatMap readRun

/-- A text that is not plain stands in quotes, and is read from them. -/
theorem writeText_quoted (h : allowsPlain t = false) (hd : 0 < depth) (hd' : depth < foldColumn)
    (column : Nat) (hrest : rest.head? ≠ some '\'') :
    ∃ double w, writeText depth column t = quoteMark double :: w ∧
      Quotes double (w ++ rest) (readBack t) rest := by
  have hnot : ¬allowsPlain t = true := by simp [h]
  cases hs : allowsSingle t with
  | true =>
    have hallowed : (∀ c ∈ t, isSpecial c = false) ∧ holdsSpaceAtBreak t = false := by
      simpa [allowsSingle] using hs
    refine ⟨false, writeRuns doubleQuote depth true (column + 1) (runs t) ++ ['\''],
      by rw [writeText, if_neg hnot, if_pos hs]; rfl, ?_⟩
    have hback : readBack t = (runs t).flatMap readRun := by simp [readBack, h, hs]
    rw [hback, List.append_assoc]
    exact quotes_runs (runs_of_allowed hallowed.2) (by rw [flatten_runs]; exact hallowed.1) hd hrest
      true (column + 1)
  | false =>
    refine ⟨true, writeEscaped depth true false (column + 1) t ++ ['"'],
      by rw [writeText, if_neg hnot, if_neg (by simp [hs])]; rfl, ?_⟩
    have hback : readBack t = t := by simp [readBack, hs]
    rw [hback, List.append_assoc]
    exact quotes_escaped hd hd' hrest true false (column + 1) t

theorem readRun_ne_nil {run : Text} (h : run ≠ []) : readRun run ≠ [] := by
  obtain ⟨c, run, rfl⟩ := List.exists_cons_of_ne_nil h
  rw [readRun]
  split
  · unfold foldBreaks
    split
    · simp
    · split
      · simp
      · next hmore => simpa using hmore
  · simp

theorem readBack_ne_nil (h : t ≠ []) : readBack t ≠ [] := by
  unfold readBack
  split
  · exact h
  · have hne : runs t ≠ [] := by
      intro hnil
      exact h (by rw [← flatten_runs t, hnil]; rfl)
    obtain ⟨run, rest, hruns⟩ := List.exists_cons_of_ne_nil hne
    rw [hruns, List.flatMap_cons]
    have hrun : run ≠ [] := by
      apply List.ne_nil_of_mem_splitBy
      change run ∈ runs t
      rw [hruns]
      exact List.mem_cons_self
    exact List.append_ne_nil_of_left_ne_nil (readRun_ne_nil hrun) _

end NameSlots.Yaml
