import NameSlots.Proofs.Yaml.Scalar
import NameSlots.Yaml.Lexer

/-!
The tokens of block documents. `Begins` and `Follows` say what comes of a text from the start of a
line or from behind a colon on, whatever came before; each lemma passes one thing in the text.
-/
namespace NameSlots.Yaml

namespace Lexing

variable {lexing after : Lexing} {cursor : Cursor} {c : Char} {name t w line : Text}
  {rest : Text} {tokens out : List Token} {column depth indent : Nat} {outer : List Nat}

/-! ## Runs -/

/-- All tokens that come of a state, without a fault. -/
def Gives (lexing : Lexing) (all : List Token) : Prop :=
  ∀ fuel, lexing.cursor.rest.length + 2 ≤ fuel → lexing.run fuel = (all, none)

theorem gives_of_step (hd : lexing.done = false) (hs : lexing.step = .ok after)
    (hl : after.cursor.rest.length < lexing.cursor.rest.length) (h : after.Gives tokens) :
    lexing.Gives tokens
  | 0, hf => absurd hf (by omega)
  | fuel + 1, hf => by
    rw [run, hd, hs]
    exact h fuel (by omega)

theorem gives_of_done (hd : lexing.done = false) (hs : lexing.step = .ok after)
    (ha : after.done = true) : lexing.Gives after.tokens.reverse
  | 0, hf => absurd hf (by omega)
  | 1, hf => absurd hf (by omega)
  | fuel + 2, _ => by
    rw [run, hd, hs]
    change run (fuel + 1) after = _
    rw [run, ha]
    rfl

/-- States that go on in the same way give the same tokens. -/
theorem gives_of_step_eq (hd : lexing.done = false) (ha : after.done = false)
    (hs : lexing.step = after.step) (hl : after.cursor.rest.length ≤ lexing.cursor.rest.length)
    (h : after.Gives tokens) : lexing.Gives tokens
  | 0, hf => absurd hf (by omega)
  | fuel + 1, hf => by
    have h := h (fuel + 1) (by omega)
    rw [run, ha] at h
    rw [run, hd, hs]
    cases hstep : after.step with
    | ok next => rwa [hstep] at h
    | error fault => simp [hstep, goOn] at h

/-! ## Steps -/

/-- Where a key may begin. -/
def atKey (cursor : Cursor) (tokens : List Token) (indent : Nat) (outer : List Nat) : Lexing :=
  { cursor, tokens, indent, outerIndents := outer }

/-- Where a value comes. -/
def atValue (cursor : Cursor) (tokens : List Token) (indent : Nat) (outer : List Nat) : Lexing :=
  { cursor, tokens, indent, outerIndents := outer, keyAllowed := false }

/-- The key that may begin at a place. -/
def keyAt (cursor : Cursor) (tokens : List Token) (indent : Nat) : PossibleKey where
  tokenNumber := tokens.length
  required := indent == cursor.column + 1
  index := cursor.index
  line := cursor.line
  column := cursor.column

/-- Where the colon of a key comes, with its name kept in mind. -/
def atColon (name : Text) (cursor : Cursor) (tokens : List Token) (indent : Nat) (outer : List Nat) :
    Lexing :=
  { cursor := cursor.advance name.length, tokens := .scalar name true :: tokens, indent
    outerIndents := outer, keyAllowed := false, possibleKeys := [(0, keyAt cursor tokens indent)] }

/-- What comes of a line from a column on. -/
def Begins (column : Nat) (line : Text) (indent : Nat) (outer : List Nat) (out : List Token) : Prop :=
  ∀ (cursor : Cursor) (tokens : List Token), cursor.rest = line → cursor.column = column →
    (atKey cursor tokens indent outer).Gives (tokens.reverse ++ out)

/-- What comes of a text behind a colon. -/
def Follows (column : Nat) (w : Text) (indent : Nat) (outer : List Nat) (out : List Token) : Prop :=
  ∀ (cursor : Cursor) (tokens : List Token), cursor.rest = w → cursor.column = column →
    (atValue cursor tokens indent outer).Gives (tokens.reverse ++ out)

theorem skipBlanks_spaces {n fuel : Nat} (hc : lexing.cursor.rest = List.replicate n ' ' ++ w)
    (hw : ∀ c ∈ w.head?, c ≠ ' ' ∧ c ≠ '#' ∧ isBreak c = false) :
    lexing.skipBlanks (fuel + 1) = { lexing with cursor := lexing.cursor.advance n } := by
  have hskip : lexing.cursor.skipWhile (· == ' ') = lexing.cursor.advance n := by
    unfold Cursor.skipWhile
    rw [Cursor.takeWhile_eq hc (by simp) fun c hc => by simpa using (hw c hc).1,
      List.length_replicate]
  have hafter : (lexing.cursor.advance n).rest = w := by simp [hc]
  have hpeek : ((lexing.cursor.advance n).peek == '#') = false ∧
      isBreak (lexing.cursor.advance n).peek = false := by
    cases w with
    | nil =>
      rw [Cursor.peek_of_nil hafter]
      decide
    | cons c w =>
      rw [Cursor.peek_of_rest hafter]
      have := hw c rfl
      simpa using this.2
  simp [skipBlanks, hskip, Cursor.skipComment, hpeek]

theorem skipOrderMark_eq (h : lexing.cursor.index ≠ 0 ∨ lexing.cursor.peek ≠ Char.ofNat 0xFEFF) :
    lexing.skipOrderMark = lexing := by
  rw [skipOrderMark, if_neg]
  rw [Bool.and_eq_true, beq_iff_eq, beq_iff_eq]
  exact fun hboth => h.elim (· hboth.1) (· hboth.2)

theorem dropStale_eq (h : ∀ entry ∈ lexing.possibleKeys, lexing.isStale entry.2 = false) :
    lexing.dropStale = .ok lexing := by
  have hany : (lexing.possibleKeys.any fun entry => lexing.isStale entry.2 && entry.2.required) = false :=
    List.any_eq_false.2 fun entry he => by simp [h entry he]
  have hall : (lexing.possibleKeys.filter fun entry => !lexing.isStale entry.2) = lexing.possibleKeys :=
    List.filter_eq_self.2 fun entry he => by simp [h entry he]
  unfold dropStale
  rw [hany, hall]
  rfl

theorem unwindTo_eq (h : lexing.indent ≤ indent) : lexing.unwindTo indent outer = lexing := by
  cases outer with
  | nil => rfl
  | cons level outer => rw [unwindTo, if_neg (Nat.not_lt.2 h)]

theorem unwind_eq (h : lexing.indent ≤ indent) : lexing.unwind indent = lexing := by
  rw [unwind, unwindTo_eq h, ite_self]

/-- A step after the blanks before it. -/
theorem step_of_skipBlanks
    (h : lexing.skipOrderMark.skipBlanks (lexing.cursor.rest.length + 1) = after)
    (hkeys : ∀ entry ∈ after.possibleKeys, after.isStale entry.2 = false) :
    lexing.step = (after.unwind after.depth).token := by
  unfold step
  rw [h]
  change (after.dropStale >>= fun lexing => (lexing.unwind lexing.depth).token) = _
  rw [dropStale_eq hkeys]
  rfl

/-- A step where something other than a blank or a comment stands, and no block ends. -/
theorem step_eq_token (hc : lexing.cursor.rest = c :: w)
    (hfirst : c ≠ ' ' ∧ c ≠ '#' ∧ isBreak c = false) (hmark : c ≠ Char.ofNat 0xFEFF)
    (hkeys : ∀ entry ∈ lexing.possibleKeys, lexing.isStale entry.2 = false)
    (hi : lexing.indent ≤ lexing.depth) : lexing.step = lexing.token := by
  have horder : lexing.skipOrderMark = lexing :=
    skipOrderMark_eq (Or.inr (by rwa [Cursor.peek_of_rest hc]))
  have hblanks : lexing.skipBlanks (lexing.cursor.rest.length + 1) = lexing := by
    refine skipBlanks_spaces (n := 0) (w := c :: w) hc ?_
    rintro _ ⟨⟩
    exact hfirst
  rw [step_of_skipBlanks (by rw [horder, hblanks]) hkeys, unwind_eq hi]

/-- Spaces before something are passed first. -/
theorem step_spaces {n : Nat} (hc : lexing.cursor.rest = List.replicate n ' ' ++ c :: w) (hn : 0 < n)
    (hfirst : c ≠ ' ' ∧ c ≠ '#' ∧ isBreak c = false) (hkeys : lexing.possibleKeys = [])
    (hi : lexing.indent ≤ lexing.cursor.column + n + 1) :
    lexing.step = { lexing with cursor := lexing.cursor.advance n }.token := by
  have horder : lexing.skipOrderMark = lexing := by
    obtain ⟨n, rfl⟩ := Nat.exists_eq_succ_of_ne_zero hn.ne'
    refine skipOrderMark_eq (Or.inr ?_)
    rw [Cursor.peek_of_rest hc]
    decide
  have hblanks : lexing.skipBlanks (lexing.cursor.rest.length + 1) =
      { lexing with cursor := lexing.cursor.advance n } := by
    refine skipBlanks_spaces hc ?_
    rintro _ ⟨⟩
    exact hfirst
  rw [step_of_skipBlanks (by rw [horder, hblanks]) (by simp [hkeys]), unwind_eq]
  rw [depth, Cursor.advance_spaces hc]
  exact hi

/-- At the end of a line a state goes on as one at the start of the next line does. -/
theorem step_lineEnd {n : Nat} (hc : lexing.cursor.rest = '\n' :: List.replicate n ' ' ++ w)
    (hw : LineStart n w) (hflow : lexing.flowLevel = 0) (hkeys : lexing.possibleKeys = []) :
    lexing.step =
      { lexing with cursor := lexing.cursor.next.advance n, keyAllowed := true }.step := by
  have hnext := Cursor.next_of_lineFeed hc
  have hspaces : lexing.cursor.next.rest = List.replicate n ' ' ++ w := by rw [hnext]; rfl
  have hline := Cursor.takeBreak_of_isBreak hc (by decide) (by decide)
  have horder : lexing.skipOrderMark = lexing := by
    refine skipOrderMark_eq (Or.inr ?_)
    rw [Cursor.peek_of_rest hc]
    decide
  have hskip : lexing.cursor.skipWhile (· == ' ') = lexing.cursor := by
    unfold Cursor.skipWhile
    rw [Cursor.takeWhile_nil]
    rw [hc]
    rintro _ ⟨⟩
    rfl
  have hblanks : lexing.skipBlanks (lexing.cursor.rest.length + 1) =
      { lexing with cursor := lexing.cursor.next.advance n, keyAllowed := true } := by
    have hlen : ∃ fuel, lexing.cursor.rest.length = fuel + 1 := ⟨_, by rw [hc]; rfl⟩
    obtain ⟨fuel, hlen⟩ := hlen
    have hcomment : lexing.cursor.skipComment = lexing.cursor := by
      rw [Cursor.skipComment, Cursor.peek_of_rest hc]
      rfl
    have hallowed : (lexing.keyAllowed || !lexing.inFlow) = true := by simp [inFlow, hflow]
    rw [hlen, skipBlanks, hskip, hcomment, Cursor.peek_of_rest hc, if_pos (by decide), hline, hallowed]
    exact skipBlanks_spaces
      hspaces hw.head
  have hstart : ({ lexing with cursor := lexing.cursor.next.advance n, keyAllowed := true } :
      Lexing).skipOrderMark.skipBlanks ((lexing.cursor.next.advance n).rest.length + 1) =
      { lexing with cursor := lexing.cursor.next.advance n, keyAllowed := true } := by
    have hplace := Cursor.advance_spaces hspaces
    rw [skipOrderMark_eq (Or.inl (by rw [hplace, hnext]; simp))]
    exact skipBlanks_spaces (n := 0) (by rw [hplace]; rfl) hw.head
  rw [step_of_skipBlanks (by rw [horder, hblanks]) (by simp [hkeys]),
    step_of_skipBlanks hstart (by simp [hkeys])]

/-! ## Tokens -/

/-- Whether a character that others come after begins a plain scalar in a block. -/
structure Opens (c next : Char) : Prop where
  gap : isGap c = false
  opener : c ∉ openers
  mark : c ∈ ['-', '?', ':'] → isGap next = false

theorem Opens.first {next : Char} (h : Opens c next) : c ≠ ' ' ∧ c ≠ '#' ∧ isBreak c = false := by
  obtain ⟨-, hspace, -, hbreak⟩ := isGap_eq_false_iff.1 h.gap
  refine ⟨hspace, ?_, hbreak⟩
  rintro rfl
  exact h.opener (by decide)

theorem token_eq_plain {next : Char} (hc : lexing.cursor.rest = c :: w) (hn : w.headD endMark = next)
    (ho : Opens c next) (hstart : lexing.cursor.column = 0 → c ∉ ['%', '-', '.'])
    (hflow : lexing.flowLevel = 0) : lexing.token = lexing.plain := by
  have hpeek := Cursor.peek_of_rest hc
  have hone := (Cursor.peekAt_one hc).trans hn
  have hempty : lexing.cursor.rest.isEmpty = false := by rw [hc]; rfl
  have hplace (mark : Char) (hm : mark ∈ ['%', '-', '.']) :
      (lexing.cursor.column == 0 && c == mark) = false := by
    rw [Bool.and_eq_false_iff, beq_eq_false_iff_ne, beq_eq_false_iff_ne]
    by_cases hzero : lexing.cursor.column = 0
    · refine Or.inr ?_
      rintro rfl
      exact hstart hzero hm
    · exact Or.inl hzero
  have hatMark (mark : Char) (hm : mark ∈ ['%', '-', '.']) :
      (lexing.cursor.column == 0 && lexing.cursor.atMark mark) = false := by
    rw [Bool.and_eq_false_iff]
    exact (Bool.and_eq_false_iff.1 (hplace mark hm)).imp_right fun hne =>
      Cursor.atMark_eq_false _ hc (beq_eq_false_iff_ne.1 hne)
  have hmark (mark : Char) (hm : mark ∈ ['-', '?', ':']) : (c == mark && isGap next) = false := by
    by_cases he : c = mark
    · simp [ho.mark (he ▸ hm)]
    · simp [he]
  have hopener (mark : Char) (hm : mark ∈ openers) : (c == mark) = false := by
    rw [beq_eq_false_iff_ne]
    rintro rfl
    exact ho.opener hm
  have hstarts : lexing.startsPlain = true := by
    have hkinds : ∀ d ∈ indicators, d ∈ openers ∨ d ∈ ['-', '?', ':'] := fun d hd => by
      have hall : indicators.all (fun d => openers.elem d || ['-', '?', ':'].elem d) = true := by decide
      simpa using List.all_eq_true.1 hall d hd
    rw [startsPlain, hpeek, hone, inFlow, hflow]
    by_cases hm : c ∈ indicators
    · have hkind := (hkinds c hm).resolve_left ho.opener
      have hnext := ho.mark hkind
      simp only [List.mem_cons, List.not_mem_nil, or_false] at hkind
      rcases hkind with rfl | rfl | rfl <;> simp [hnext]
    · simp [ho.gap, hm]
  have hdirective : (c == '%' && lexing.cursor.column == 0) = false := by
    rw [Bool.and_comm]
    exact hplace '%' (by simp)
  unfold token
  simp only [hempty, hpeek, hone, hdirective, hatMark '-' (by simp), hatMark '.' (by simp),
    Bool.false_eq_true, if_false]
  split
  case h_11 =>
    simp [isMark, inFlow, hflow, hone, hmark, hopener '|' (by decide), hopener '>' (by decide), hstarts]
  all_goals exact absurd ho.opener (by decide)

theorem token_eq_quoted {double : Bool} (hc : lexing.cursor.rest = quoteMark double :: w) :
    lexing.token = lexing.quoted double := by
  have hempty : lexing.cursor.rest.isEmpty = false := by rw [hc]; rfl
  have hhyphen := Cursor.atMark_eq_false '-' hc (by cases double <;> decide)
  have hpoint := Cursor.atMark_eq_false '.' hc (by cases double <;> decide)
  unfold token
  simp only [hempty, hhyphen, hpoint, Cursor.peek_of_rest hc, Bool.and_false, Bool.false_eq_true,
    if_false]
  cases double <;> rfl

/-! ## Behind a colon -/

theorem follows_lineEnd {place : Nat} (hline : LineStart column line)
    (h : Begins column line indent outer out) :
    Follows place ('\n' :: List.replicate column ' ' ++ line) indent outer out := by
  intro cursor tokens hc _
  have hspaces : cursor.next.rest = List.replicate column ' ' ++ line := by
    rw [Cursor.rest_next, hc]
    rfl
  have hplace := Cursor.advance_spaces hspaces
  have hcolumn : (cursor.next.advance column).column = column := by
    rw [hplace, Cursor.next_of_lineFeed hc]
    exact Nat.zero_add _
  refine gives_of_step_eq rfl rfl (step_lineEnd hc hline
    rfl rfl) ?_ (h (cursor.next.advance column) tokens (by rw [hplace]) hcolumn)
  simp [atValue]

theorem saveKey_eq (h : lexing.keyAllowed = false) : lexing.saveKey = .ok lexing := by
  rw [saveKey, h]
  rfl

theorem plain_eq {broken : Bool} {cursor : Cursor} (hk : lexing.saveKey = .ok after)
    (hflow : after.flowLevel = 0)
    (hread : readPlain false after.indent after.cursor = (t, broken, cursor)) :
    lexing.plain =
      .ok ({ after with keyAllowed := broken, cursor }.push (.scalar t true)) := by
  have hin : after.inFlow = false := by simp [inFlow, hflow]
  refine bind_eq_ok.2 ⟨after, hk, ?_⟩
  rw [hin, hread]
  rfl

/-- A plain scalar behind a colon, up to the next line. -/
theorem follows_plain {place : Nat} {next : Char} (hn : w.headD endMark = next) (ho : Opens c next)
    (hi : indent ≤ place + 2) (hl : line.length ≤ w.length)
    (hread : ∀ cursor : Cursor, cursor.rest = c :: w → cursor.column = place + 1 →
      ∃ after, readPlain false indent cursor = (t, true, after) ∧ after.rest = line ∧
        after.column = column)
    (h : Begins column line indent outer out) :
    Follows place (' ' :: c :: w) indent outer (.scalar t true :: out) := by
  intro cursor tokens hc hplace
  have hspace : cursor.rest = List.replicate 1 ' ' ++ c :: w := hc
  have hrest : (cursor.advance 1).rest = c :: w := by simp [hc]
  have hcolumn : (cursor.advance 1).column = place + 1 := by
    rw [Cursor.advance_spaces hspace, hplace]
  obtain ⟨after, hread, hafter, hcolumn'⟩ := hread _ hrest hcolumn
  have hstep : (atValue cursor tokens indent outer).step =
      .ok (atKey after (.scalar t true :: tokens) indent outer) := by
    rw [step_spaces hspace Nat.one_pos ho.first rfl (by rw [← hplace] at hi; exact hi)]
    rw [token_eq_plain hrest hn ho (by simp [atValue, hcolumn]) rfl]
    exact plain_eq (saveKey_eq rfl) rfl hread
  have hgives := h after (.scalar t true :: tokens) hafter hcolumn'
  rw [List.reverse_cons, List.append_assoc] at hgives
  refine gives_of_step rfl hstep ?_ hgives
  change after.rest.length < cursor.rest.length
  rw [hafter, hc, List.length_cons, List.length_cons]
  omega

/-- A scalar in quotes behind a colon. -/
theorem follows_quotes {double : Bool} {place : Nat} (hq : Quotes double w t rest)
    (hi : indent ≤ place + 2) (hl : rest.length ≤ w.length)
    (h : ∀ place, Follows place rest indent outer out) :
    Follows place (' ' :: quoteMark double :: w) indent outer (.scalar t false :: out) := by
  intro cursor tokens hc hplace
  have hspace : cursor.rest = List.replicate 1 ' ' ++ quoteMark double :: w := hc
  have hrest : (cursor.advance 1).rest = quoteMark double :: w := by simp [hc]
  obtain ⟨after, hread, hafter⟩ := hq ((cursor.advance 1).rest.length + 1) (cursor.advance 1).next
    (by simp [hc]) (by rw [hrest, List.length_cons]; omega)
  have hstep : (atValue cursor tokens indent outer).step =
      .ok (atValue after (.scalar t false :: tokens) indent outer) := by
    rw [step_spaces hspace Nat.one_pos (by cases double <;> decide) rfl
      (by rw [← hplace] at hi; exact hi)]
    rw [token_eq_quoted hrest]
    refine bind_eq_ok.2 ⟨_, saveKey_eq rfl, bind_eq_ok.2 ⟨_, hread, rfl⟩⟩
  have hgives := h after.column after (.scalar t false :: tokens) hafter rfl
  rw [List.reverse_cons, List.append_assoc] at hgives
  refine gives_of_step rfl hstep ?_ hgives
  change after.rest.length < cursor.rest.length
  rw [hafter, hc, List.length_cons, List.length_cons]
  omega

theorem opens_writeText {place : Nat} (h : allowsPlain t = true) : ∃ c more next,
    writeText depth place t ++ '\n' :: rest = c :: more ∧ more.headD endMark = next ∧ Opens c next := by
  obtain ⟨-, -, -, hshown, -, -, hstart, hmark⟩ := allowsPlain_iff.1 h
  have hplain := plainRuns_of_allowsPlain h
  have hne : runs t ≠ [] := fun hnil => ne_nil_of_allowsPlain h (by rw [← flatten_runs t, hnil]; rfl)
  obtain ⟨c, run, more, hruns, hrun, hmore⟩ := hplain.cases hne
  have ht : t = c :: (run ++ more.flatten) := by rw [← flatten_runs t, hruns]; rfl
  rw [ht] at hstart hmark hshown
  simp only [startsWithMark, Bool.or_eq_false_iff] at hstart
  simp only [holdsMark, Bool.or_eq_false_iff] at hmark
  have hgap (d : Char) (hd : d ∈ c :: run) : isGap d = false :=
    isGap_of_plain (hshown d (List.mem_append_left more.flatten hd)).2 (hrun d hd).1 (hrun d hd).2
  refine ⟨c, _, _, by rw [writeText, if_pos h, hruns, writeRuns_others hrun, List.flatMap_singleton']; rfl,
    rfl, hgap c List.mem_cons_self, by simpa using hstart.1, fun hm => ?_⟩
  cases run with
  | cons d run => exact hgap d (by simp)
  | nil =>
    -- A word of one character has a gap or nothing after it, so that it is none of these marks.
    have hend : isGap (([] ++ more.flatten).headD endMark) = true := by
      rcases hmore with rfl | ⟨n, rest, rfl, hn, -⟩
      · decide
      · obtain ⟨n, rfl⟩ := Nat.exists_eq_succ_of_ne_zero hn.ne'
        exact isGap_space
    rw [hend] at hstart hmark
    simp only [List.mem_cons, List.not_mem_nil, or_false] at hm
    simp_all

/-- A text behind a colon, whichever way it is written. -/
theorem follows_text (t : Text) (start : Nat) {place : Nat} (hline : LineStart column line) (hcolumn : column < indent)
    (hdepth : indent ≤ depth) (hfold : depth < foldColumn) (hi : indent ≤ place + 1)
    (h : Begins column line indent outer out) :
    Follows place (' ' :: writeText depth start t ++ ('\n' :: List.replicate column ' ' ++ line)) indent
      outer (.scalar (readBack t) (allowsPlain t) :: out) := by
  cases hplain : allowsPlain t with
  | true =>
    have hback : readBack t = t := by simp [readBack, hplain]
    obtain ⟨c, more, next, hw, hnext, ho⟩ := opens_writeText hplain
    rw [hback, List.cons_append, List.cons_append, hw]
    refine follows_plain hnext ho (by omega) ?_ (fun cursor hc hplace => ?_) h
    · have := congrArg List.length hw
      simp only [List.length_append, List.length_cons] at this
      omega
    · rw [← hw] at hc
      exact readPlain_writeText hplain hdepth hcolumn hline hc (by omega)
  | false =>
    have hfeed : ('\n' :: List.replicate column ' ' ++ line).head? ≠ some '\'' := by simp
    obtain ⟨double, w, hw, hq⟩ := writeText_quoted hplain (by omega) hfold start hfeed
    rw [hw]
    exact follows_quotes hq (by omega) (by simp) fun place => follows_lineEnd hline h

/-! ## Keys -/

/-- Whether a text is a name that can be a key as it is. -/
def isName (name : Text) : Bool :=
  !name.isEmpty && name.all (fun c => c.isLower || c == '_') && name.length ≤ keyLimit

/-- The characters that can mean something outside of quotes. -/
def marks : Text :=
  ['\t', ' ', endMark, '\n', '\r', nextLine, lineSeparator, paragraphSeparator, Char.ofNat 0xFEFF] ++
    openers ++ ['-', '?', ':', '#', '%', '.']

/-- A character of a kind that no mark is of means nothing but itself. -/
theorem of_marks {p : Char → Bool} (hp : marks.all (fun d => !p d) = true) (h : p c = true) :
    isGap c = false ∧ Cursor.isWide c = true ∧ c ∉ openers ∧ c ∉ ['-', '?', ':', '#', '%', '.'] := by
  have hmark : c ∉ marks := fun hm => by simpa [h] using List.all_eq_true.1 hp c hm
  simp only [marks, List.mem_append, List.mem_cons, List.not_mem_nil, or_false, not_or] at hmark
  obtain ⟨⟨⟨htab, hspace, hend, hfeed, hreturn, hnext, hline, hpara, horder⟩, hopener⟩, hmarks⟩ := hmark
  have hbreak : isBreak c = false := by simp [isBreak, hfeed, hreturn, hnext, hline, hpara]
  refine ⟨isGap_eq_false_iff.2 ⟨htab, hspace, hend, hbreak⟩, ?_, hopener, by simpa using hmarks⟩
  simp [Cursor.isWide, hbreak, horder]

theorem nameChar (h : (c.isLower || c == '_') = true) : isGap c = false ∧ Cursor.isWide c = true ∧
    c ∉ openers ∧ c ∉ ['-', '?', ':', '#', '%', '.'] :=
  of_marks (p := fun c => c.isLower || c == '_') (by decide) h

theorem digit (h : c.isDigit = true) : isGap c = false ∧ Cursor.isWide c = true ∧
    c ∉ openers ∧ c ∉ ['-', '?', ':', '#', '%', '.'] :=
  of_marks (by decide) h

theorem isName_iff : isName name = true ↔ (∃ c more, name = c :: more) ∧
    (∀ c ∈ name, (c.isLower || c == '_') = true) ∧ name.length ≤ keyLimit := by
  rw [isName, Bool.and_eq_true, Bool.and_eq_true, List.all_eq_true, decide_eq_true_eq, and_assoc,
    Bool.not_eq_true', List.isEmpty_eq_false_iff, List.ne_nil_iff_exists_cons]

theorem piece_name (hn : isName name = true) (hw : isGap (w.headD endMark) = true) :
    Piece name (':' :: w) := by
  obtain ⟨⟨c, more, rfl⟩, hchars, -⟩ := isName_iff.1 hn
  refine ⟨List.cons_ne_nil _ _, ?_, ?_⟩
  · rintro ⟨⟩
    exact absurd (hchars '#' List.mem_cons_self) (by decide)
  · refine plainPiece_append ' ' (t := []) (fun d hd => (nameChar (hchars d hd)).1) ?_ rfl ?_
    · refine holdsMark_eq_false fun d hd => ?_
      rw [List.append_nil] at hd
      have := (nameChar (hchars d hd)).2.2.2
      simp only [List.mem_cons, not_or] at this
      exact ⟨this.2.2.1, this.2.2.2.1⟩
    · simp only [plainPiece, endsPlain, hw]
      rfl

theorem token_eq_value (hc : lexing.cursor.rest = ':' :: w) (hw : isGap (w.headD endMark) = true) :
    lexing.token = lexing.value := by
  have hempty : lexing.cursor.rest.isEmpty = false := by rw [hc]; rfl
  have hhyphen := Cursor.atMark_eq_false '-' hc (by decide)
  have hpoint := Cursor.atMark_eq_false '.' hc (by decide)
  have hone : isGap (lexing.cursor.peekAt 1) = true := by rwa [Cursor.peekAt_one hc]
  unfold token
  simp only [hempty, hhyphen, hpoint, Cursor.peek_of_rest hc, Bool.and_false, Bool.false_eq_true,
    if_false, isMark, hone, Bool.or_true]
  rfl

theorem insert_eq (front : List Token) (h : lexing.tokens = front ++ tokens) (new : List Token) :
    lexing.insert tokens.length new = { lexing with tokens := front ++ new.reverse ++ tokens } := by
  have hafter : lexing.tokens.length - tokens.length = front.length := by
    rw [h, List.length_append, Nat.add_sub_cancel]
  rw [insert, hafter, h, List.take_left, List.drop_left]

/-- The tokens that go before a key, and the blocks around what comes of it. -/
inductive Enters (column : Nat) : (indent : Nat) → (outer : List Nat) → List Token → List Nat → Prop
  | inside (outer : List Nat) : Enters column (column + 1) outer [] outer
  | opens {indent : Nat} (outer : List Nat) (h : indent < column + 1) :
      Enters column indent outer [.blockMapping] (indent :: outer)

/-- The colon of a key that has been kept in mind. -/
theorem value_eq (key : PossibleKey) (front : List Token) {inner : List Nat} {block : List Token}
    (hkeys : lexing.possibleKeys = [(0, key)]) (hflow : lexing.flowLevel = 0)
    (ht : lexing.tokens = front ++ tokens) (hnumber : key.tokenNumber = tokens.length)
    (he : Enters key.column lexing.indent lexing.outerIndents block inner) :
    lexing.value = .ok { lexing with
      cursor := lexing.cursor.advance 1, tokens := .value :: front ++ .key :: block ++ tokens
      indent := key.column + 1, outerIndents := inner, keyAllowed := false, possibleKeys := [] } := by
  obtain ⟨cursor, all, flowLevel, indent, outer, keyAllowed, possibleKeys, done⟩ := lexing
  obtain rfl : flowLevel = 0 := hflow
  obtain rfl : possibleKeys = [(0, key)] := hkeys
  obtain rfl : all = front ++ tokens := ht
  have hlookup : [(0, key)].lookup 0 = some key := rfl
  unfold value
  rw [hlookup]
  dsimp only
  rw [hnumber, insert_eq front rfl]
  cases he with
  | inside =>
    rw [openBlock, if_neg (by simp [inFlow])]
    simp [push, advance]
  | opens _ hi =>
    rw [openBlock, if_pos (by simpa [inFlow] using hi), insert_eq (front ++ [.key]) (by simp)]
    simp [push, advance]

theorem wide_name (hn : isName name = true) : ∀ c ∈ name, Cursor.isWide c = true :=
  fun c hc => (nameChar ((isName_iff.1 hn).2.1 c hc)).2.1

/-- The name at the start of a line is kept in mind. -/
theorem step_name (hn : isName name = true) (hw : isGap (w.headD endMark) = true)
    (hc : cursor.rest = name ++ ':' :: w) (hi : indent ≤ cursor.column + 1) :
    (atKey cursor tokens indent outer).step = .ok (atColon name cursor tokens indent outer) := by
  obtain ⟨⟨c, more, hname⟩, hchars, -⟩ := isName_iff.1 hn
  have hc' : cursor.rest = c :: (more ++ ':' :: w) := by rw [hc, hname]; rfl
  obtain ⟨hgap, hone, hopener, hmarks⟩ := nameChar (hchars c (by simp [hname]))
  have ho : Opens c ((more ++ ':' :: w).headD endMark) :=
    ⟨hgap, hopener, fun hm => absurd hm fun hm => hmarks (by simp_all)⟩
  have hread : readPlain false indent cursor = (name, false, cursor.advance name.length) :=
    plainFrom_mark (piece_name hn hw) hc rfl (by decide) (by decide)
  have hkey : (atKey cursor tokens indent outer).saveKey = .ok { atKey cursor tokens indent outer with
      possibleKeys := [(0, keyAt cursor tokens indent)] } := rfl
  rw [step_eq_token hc' ho.first ?_ (by simp [atKey]) hi,
    token_eq_plain hc' rfl ho (fun _ hm => hmarks (by simp_all)) rfl]
  · exact plain_eq hkey rfl hread
  · rintro rfl
    exact absurd hone (by decide)

/-- The colon makes a key of the name before it. -/
theorem step_colon {inner : List Nat} {block : List Token} (hn : isName name = true)
    (hw : isGap (w.headD endMark) = true) (hc : cursor.rest = name ++ ':' :: w)
    (he : Enters cursor.column indent outer block inner) :
    (atColon name cursor tokens indent outer).step =
      .ok (atValue ((atColon name cursor tokens indent outer).cursor.advance 1)
        (.value :: .scalar name true :: .key :: block ++ tokens) (cursor.column + 1) inner) := by
  have hi : indent ≤ cursor.column + 1 := by cases he <;> omega
  have hplace := Cursor.advance_of_isWide hc (wide_name hn)
  have hcolon : (atColon name cursor tokens indent outer).cursor.rest = ':' :: w := by
    change (cursor.advance name.length).rest = _
    rw [hplace]
  rw [step_eq_token hcolon (by decide) (by decide) ?_ ?_, token_eq_value hcolon hw]
  · exact value_eq (keyAt cursor tokens indent) [.scalar name true] rfl rfl rfl rfl he
  · rintro _ hm
    obtain rfl := List.mem_singleton.1 hm
    simp only [isStale, atColon, keyAt, hplace]
    simpa using (isName_iff.1 hn).2.2
  · simp only [depth, atColon, hplace]
    omega

/-- A key with its colon. -/
theorem begins_name {inner : List Nat} {block : List Token} (hn : isName name = true)
    (hw : isGap (w.headD endMark) = true) (he : Enters column indent outer block inner)
    (h : Follows (column + name.length + 1) w (column + 1) inner out) :
    Begins column (name ++ ':' :: w) indent outer
      (block ++ .key :: .scalar name true :: .value :: out) := by
  rintro cursor tokens hc rfl
  have hi : indent ≤ cursor.column + 1 := by cases he <;> omega
  have hplace : (atColon name cursor tokens indent outer).cursor = cursor.advance name.length := rfl
  rw [Cursor.advance_of_isWide hc (wide_name hn)] at hplace
  have hcolon : (atColon name cursor tokens indent outer).cursor.rest = ':' :: w := by rw [hplace]
  generalize hnext : (atColon name cursor tokens indent outer).cursor.advance 1 = next
  have hrest : next.rest = w := by rw [← hnext, Cursor.rest_advance, hcolon]; rfl
  have hcolumn : next.column = cursor.column + name.length + 1 := by
    rw [← hnext]
    change (Cursor.next _).column = _
    rw [Cursor.next_of_isWide hcolon (by decide), hplace]
  have hgives := h next (.value :: .scalar name true :: .key :: block ++ tokens) hrest hcolumn
  have hlist : (Token.value :: .scalar name true :: .key :: block ++ tokens).reverse ++ out =
      tokens.reverse ++ (block ++ .key :: .scalar name true :: .value :: out) := by
    cases he <;> simp
  rw [hlist] at hgives
  refine gives_of_step rfl (step_name hn hw hc hi) ?_
    (gives_of_step rfl (hnext ▸ step_colon hn hw hc he) ?_ hgives)
  · obtain ⟨⟨c, more, hname⟩, -, -⟩ := isName_iff.1 hn
    change (atColon name cursor tokens indent outer).cursor.rest.length < cursor.rest.length
    rw [hcolon, hc, hname]
    simp only [List.length_append, List.length_cons]
    omega
  · change next.rest.length < (atColon name cursor tokens indent outer).cursor.rest.length
    rw [hrest, hcolon]
    exact Nat.lt_succ_self _

/-! ## Blocks -/

/-- The step at the start of a line, where blocks may end. -/
theorem step_lineStart (hc : lexing.cursor.rest = line) (hline : LineStart column line)
    (hkeys : lexing.possibleKeys = []) :
    lexing.step = (lexing.unwind lexing.depth).token := by
  have hpeek : lexing.cursor.peek ≠ Char.ofNat 0xFEFF := by
    have horder := hline.order
    cases line with
    | nil =>
      rw [Cursor.peek_of_nil hc]
      decide
    | cons c line =>
      rw [Cursor.peek_of_rest hc]
      simpa using horder
  refine step_of_skipBlanks ?_ (by simp [hkeys])
  rw [skipOrderMark_eq (Or.inr hpeek)]
  exact skipBlanks_spaces (n := 0) hc hline.head

/-- A line that is indented less ends a block. -/
theorem begins_unwind (hline : LineStart column line) (hi : column + 1 < indent)
    (h : Begins column line (column + 1) outer out) :
    Begins column line indent ((column + 1) :: outer) (.blockEnd :: out) := by
  intro cursor tokens hc hcolumn
  have hgives := h cursor (.blockEnd :: tokens) hc hcolumn
  rw [List.reverse_cons, List.append_assoc] at hgives
  have hdepth : (atKey cursor tokens indent ((column + 1) :: outer)).depth = column + 1 := by
    simp [depth, atKey, hcolumn]
  have hended : (atKey cursor tokens indent ((column + 1) :: outer)).unwind (column + 1) =
      atKey cursor (.blockEnd :: tokens) (column + 1) outer := by
    rw [unwind, if_neg (by simp [inFlow, atKey])]
    change unwindTo _ (column + 1) ((column + 1) :: outer) = _
    have hi' : column + 1 < (atKey cursor tokens indent ((column + 1) :: outer)).indent := hi
    rw [unwindTo, if_pos hi']
    exact unwindTo_eq le_rfl
  have hstart : (atKey cursor tokens indent ((column + 1) :: outer)).step =
      (atKey cursor (.blockEnd :: tokens) (column + 1) outer).token := by
    rw [step_lineStart hc hline rfl, hdepth, hended]
  have hstep : (atKey cursor (.blockEnd :: tokens) (column + 1) outer).step =
      (atKey cursor (.blockEnd :: tokens) (column + 1) outer).token := by
    rw [step_lineStart hc hline rfl, unwind_eq (by simp [depth, atKey, hcolumn])]
  have hsame := hstart.trans hstep.symm
  exact gives_of_step_eq rfl rfl hsame le_rfl hgives

theorem token_eq_blockEntry (hc : lexing.cursor.rest = '-' :: ' ' :: w) :
    lexing.token = lexing.blockEntry := by
  have hempty : lexing.cursor.rest.isEmpty = false := by rw [hc]; rfl
  have hhyphen : lexing.cursor.atMark '-' = false := by simp [Cursor.atMark, hc, List.replicate]
  have hpoint := Cursor.atMark_eq_false '.' hc (by decide)
  unfold token
  simp only [hempty, hhyphen, hpoint, Cursor.peek_of_rest hc, Cursor.peekAt_one hc, Bool.and_false,
    Bool.false_eq_true, if_false]
  rfl

/-- A hyphen before the first key of an item. -/
theorem begins_entry (ho : c ≠ ' ' ∧ c ≠ '#' ∧ isBreak c = false) (hmark : c ≠ Char.ofNat 0xFEFF)
    (h : Begins (column + 2) (c :: w) (column + 1) outer out) :
    Begins column ('-' :: ' ' :: c :: w) (column + 1) outer (.blockEntry :: out) := by
  intro cursor tokens hc hcolumn
  have hnext := Cursor.next_of_isWide hc (by decide)
  have hspace : cursor.next.rest = List.replicate 1 ' ' ++ c :: w := by rw [hnext]; rfl
  have hplace := Cursor.advance_spaces hspace
  have hopen : (atKey cursor tokens (column + 1) outer).openBlockHere .blockSequence =
      atKey cursor tokens (column + 1) outer := by
    rw [openBlockHere, openBlock, if_neg (by simp [depth, atKey, hcolumn])]
  have hstep : (atKey cursor tokens (column + 1) outer).step =
      .ok (atKey cursor.next (.blockEntry :: tokens) (column + 1) outer) := by
    rw [step_eq_token hc (by decide) (by decide) (by simp [atKey]) (by simp [depth, atKey, hcolumn]),
      token_eq_blockEntry hc]
    unfold blockEntry
    rw [hopen]
    rfl
  have hgives := h (cursor.next.advance 1) (.blockEntry :: tokens) (by rw [hplace])
    (by rw [hplace, hnext, hcolumn])
  rw [List.reverse_cons, List.append_assoc] at hgives
  refine gives_of_step rfl hstep ?_ (gives_of_step_eq rfl rfl ?_ ?_ hgives)
  · change cursor.next.rest.length < cursor.rest.length
    rw [hnext, hc]
    simp
  · rw [step_spaces hspace
      Nat.one_pos ho rfl ?_, step_eq_token
      (by change (cursor.next.advance 1).rest = _; rw [hplace]) ho hmark (by simp [atKey]) ?_]
    · rfl
    · change column + 1 ≤ (cursor.next.advance 1).column + 1
      rw [hplace, hnext, hcolumn]
      dsimp only
      omega
    · change column + 1 ≤ cursor.next.column + 1 + 1
      simp only [hnext, hcolumn]
      omega
  · change (cursor.next.advance 1).rest.length ≤ cursor.next.rest.length
    rw [Cursor.rest_advance, List.length_drop]
    omega

/-- The end of the text ends the outermost block. -/
theorem begins_end : Begins 0 [] 1 [0] [.blockEnd, .streamEnd] := by
  intro cursor tokens hc hcolumn
  have hline : LineStart 0 [] := ⟨by simp, by simp, by simp⟩
  have hstep : (atKey cursor tokens 1 [0]).step = .ok { atKey cursor (.streamEnd :: .blockEnd :: tokens)
      0 [] with done := true } := by
    rw [step_lineStart hc hline rfl,
      unwind_eq (by simp [depth, atKey])]
    have hempty : (atKey cursor tokens 1 [0]).cursor.rest.isEmpty = true := by
      change cursor.rest.isEmpty = true
      rw [hc]
      rfl
    rw [token, if_pos hempty]
    rfl
  have hlist : tokens.reverse ++ [.blockEnd, .streamEnd] =
      (Token.streamEnd :: .blockEnd :: tokens).reverse := by simp
  rw [hlist]
  exact gives_of_done rfl hstep rfl

theorem token_eq_openFlow (hc : lexing.cursor.rest = '[' :: w) :
    lexing.token = lexing.openFlow .flowSequence := by
  have hempty : lexing.cursor.rest.isEmpty = false := by rw [hc]; rfl
  have hhyphen := Cursor.atMark_eq_false '-' hc (by decide)
  have hpoint := Cursor.atMark_eq_false '.' hc (by decide)
  unfold token
  simp only [hempty, hhyphen, hpoint, Cursor.peek_of_rest hc, Bool.and_false, Bool.false_eq_true,
    if_false]
  rfl

theorem token_eq_closeFlow (hc : lexing.cursor.rest = ']' :: w) :
    lexing.token = lexing.closeFlow .flowSequenceEnd := by
  have hempty : lexing.cursor.rest.isEmpty = false := by rw [hc]; rfl
  have hhyphen := Cursor.atMark_eq_false '-' hc (by decide)
  have hpoint := Cursor.atMark_eq_false '.' hc (by decide)
  unfold token
  simp only [hempty, hhyphen, hpoint, Cursor.peek_of_rest hc, Bool.and_false, Bool.false_eq_true,
    if_false]
  rfl

/-- Brackets without items behind a colon. -/
theorem follows_brackets {place : Nat} (hi : indent ≤ place + 2)
    (h : ∀ place, Follows place w indent outer out) :
    Follows place (' ' :: '[' :: ']' :: w) indent outer (.flowSequence :: .flowSequenceEnd :: out) := by
  intro cursor tokens hc hcolumn
  have hspace : cursor.rest = List.replicate 1 ' ' ++ '[' :: ']' :: w := hc
  have hplace := Cursor.advance_spaces hspace
  have hopen : (cursor.advance 1).rest = '[' :: ']' :: w := by rw [hplace]
  have hclose := Cursor.next_of_isWide hopen (by decide)
  let inner : Lexing := { atValue (cursor.advance 1).next (.flowSequence :: tokens) indent outer with
    flowLevel := 1, keyAllowed := true }
  have hfirst : (atValue cursor tokens indent outer).step = .ok inner := by
    rw [step_spaces hspace Nat.one_pos (by decide) rfl (by rw [← hcolumn] at hi; exact hi),
      token_eq_openFlow hopen]
    exact bind_eq_ok.2 ⟨_, saveKey_eq rfl, rfl⟩
  have hsecond : inner.step = .ok (atValue (cursor.advance 1).next.next
      (.flowSequenceEnd :: .flowSequence :: tokens) indent outer) := by
    have hbracket : inner.cursor.rest = ']' :: w := by
      change (cursor.advance 1).next.rest = _
      rw [hclose]
    rw [step_eq_token hbracket (by decide) (by decide) (by simp [inner, atValue]) ?_,
      token_eq_closeFlow hbracket]
    · rfl
    · change indent ≤ (cursor.advance 1).next.column + 1
      rw [hclose, hplace, hcolumn]
      dsimp only
      omega
  have hgives := h (cursor.advance 1).next.next.column (cursor.advance 1).next.next
    (.flowSequenceEnd :: .flowSequence :: tokens) (by rw [Cursor.rest_next, hclose]; rfl) rfl
  have hlist : (Token.flowSequenceEnd :: .flowSequence :: tokens).reverse ++ out =
      tokens.reverse ++ (.flowSequence :: .flowSequenceEnd :: out) := by simp
  rw [hlist] at hgives
  refine gives_of_step rfl hfirst ?_ (gives_of_step rfl hsecond ?_ hgives)
  · change (cursor.advance 1).next.rest.length < cursor.rest.length
    rw [Cursor.rest_next, hopen, hc]
    simp
  · change (cursor.advance 1).next.next.rest.length < (cursor.advance 1).next.rest.length
    rw [Cursor.rest_next, Cursor.rest_next, hopen]
    simp

/-- A word behind a colon. -/
theorem follows_word {run : Text} {place : Nat} (ho : Opens c (run.headD '\n'))
    (hword : ∀ d ∈ c :: run, isGap d = false ∧ d ≠ ':' ∧ d ≠ '#') (hline : LineStart column line)
    (hcolumn : column < indent) (hi : indent ≤ place + 2) (h : Begins column line indent outer out) :
    Follows place (' ' :: c :: run ++ ('\n' :: List.replicate column ' ' ++ line)) indent outer
      (.scalar (c :: run) true :: out) := by
  have hpiece : Piece (c :: run) ('\n' :: List.replicate column ' ' ++ line) := by
    refine ⟨List.cons_ne_nil _ _, ?_, ?_⟩
    · simpa using (hword c List.mem_cons_self).2.2
    · refine plainPiece_append ' ' (t := []) (fun d hd => (hword d hd).1) ?_ rfl
        (plainPiece_gap isGap_lineFeed)
      rw [List.append_nil]
      exact holdsMark_eq_false fun d hd => (hword d hd).2
  refine follows_plain (t := c :: run) (w := run ++ ('\n' :: List.replicate column ' ' ++ line)) ?_ ho hi
    ?_ (fun cursor hc _ => ?_) h
  · cases run <;> rfl
  · simp only [List.length_append, List.length_cons]
    omega
  · exact plainFrom_last hpiece hc rfl hline hcolumn

end Lexing

end NameSlots.Yaml
