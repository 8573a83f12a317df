import NameSlots.Proofs.Regex.Reading
import NameSlots.Regex.Quoted

/-! Quoted text is read as a pattern of just this text, and quoted texts with bars between them as a
choice of these. -/
namespace NameSlots.Regex

/-- The token that a quoted character is. -/
def quotedToken (c : Char) : Token := if c ∈ special then .escaped c else .plain c

namespace Node

/-- A character as a pattern. -/
def char (c : Char) : Node := .one {} (.code false c.toNat)

/-- A text as a pattern. -/
def word (text : Text) : Node := .sequence (text.map char)

end Node

/-- A character that has been read. -/
def Piece.char (c : Char) : Piece := ⟨.char c, .single⟩

/-- The patterns of a frame since the last bar. -/
def Frame.nodes (frame : Frame) : List Node := frame.pieces.reverse.map Piece.node

/-- The width of a text. -/
def Width.ofText (text : Text) : Width := ⟨min text.length limit, min text.length limit⟩

/-- A width that reaches from the least to the most of others. -/
structure Width.Covers (width : Width) (widths : List Width) : Prop where
  least : ∀ n, n ≤ width.least ↔ ∀ other ∈ widths, n ≤ other.least
  most : ∀ n, width.most ≤ n ↔ ∀ other ∈ widths, other.most ≤ n

/-- Pieces that are read one after the other. -/
def Reading.pushAll (reading : Reading) (pieces : List Piece) : Reading :=
  { reading with top := { reading.top with pieces := pieces.reverse ++ reading.top.pieces } }

variable {reading next : Reading} {token : Token} {rest left : List Token} {item : Item}
  {frame : Frame} {below : List Frame} {group : Nat}

/-! ## Tokens -/

theorem ofText_quoteChar (c : Char) (more : Text) :
    Token.ofText (quoteChar c ++ more) = quotedToken c :: Token.ofText more := by
  unfold quoteChar quotedToken
  split
  · simp [Token.ofText]
  · next hc =>
    have hb : c ≠ '\\' := by
      rintro rfl
      exact hc (by decide)
    exact ofText_plain hb more

/-- A character after a backslash that is no letter or digit stands for itself. -/
theorem readEscape_of_not_alphanum {c : Char} (hc : c.isAlphanum = false) (rest : List Token) :
    readEscape c rest = .ok (.code c.toNat, rest) := by
  have hk : charKind? c = none := by
    unfold charKind?
    split
    all_goals first
      | exact absurd hc (by decide)
      | rfl
  have hcode : controlCode? c = none := by
    unfold controlCode?
    split
    all_goals first
      | exact absurd hc (by decide)
      | rfl
  have hchar : readCharEscape c rest = .ok (c.toNat, rest) := by
    unfold readCharEscape
    rw [hcode]
    simp only
    split
    all_goals first
      | exact absurd hc (by decide)
      | simp [hc, pure, Except.pure]
  have hd : c.isDigit = false := by
    rw [Char.isAlphanum, Bool.or_eq_false_iff] at hc
    exact hc.2
  unfold readEscape
  rw [hk]
  simp only
  split
  all_goals first
    | exact absurd hc (by decide)
    | simp [hd, hchar, bind, Except.bind, pure, Except.pure]

theorem special_not_alphanum {c : Char} (hc : c ∈ special) : c.isAlphanum = false := by
  have hall : special.all (!·.isAlphanum) = true := by decide
  simpa using List.all_eq_true.1 hall c hc

theorem readPlain_of_not_special {c : Char} (hc : c ∉ special) (rest : List Token) :
    Item.readPlain c rest = .ok (.code c.toNat, rest) := by
  unfold Item.readPlain
  split
  all_goals first
    | exact (hc (by decide)).elim
    | rfl

theorem read_quotedToken (c : Char) (rest : List Token) :
    Item.read false (quotedToken c) rest = .ok (.code c.toNat, rest) := by
  unfold quotedToken
  split
  · next hc => exact readEscape_of_not_alphanum (special_not_alphanum hc) rest
  · next hc => exact readPlain_of_not_special hc rest

/-! ## Reading -/

theorem readAll_item (item : Item)
    (hr : Item.read reading.top.flags.verbose token rest = .ok (item, left))
    (ht : reading.take item = .ok next) :
    reading.readAll (token :: rest) = next.readAll left := by
  rw [readAll_cons, step_eq_ok.2 ⟨item, hr, ht⟩]
  rfl

theorem readAll_quote (hf : reading.top.flags = {}) (text more : Text) :
    reading.readAll (Token.ofText (quote text ++ more)) =
      (reading.pushAll (text.map .char)).readAll (Token.ofText more) := by
  induction text generalizing reading with
  | nil => rfl
  | cons c text ih =>
    have hq : quote (c :: text) ++ more = quoteChar c ++ (quote text ++ more) := by simp [quote]
    have hr : Item.read reading.top.flags.verbose (quotedToken c)
        (Token.ofText (quote text ++ more)) =
          .ok (.code c.toNat, Token.ofText (quote text ++ more)) := by
      rw [hf]
      exact read_quotedToken c _
    have ht : reading.take (.code c.toNat) = .ok (reading.pushAll [.char c]) := by
      simp [Item.code, Reading.take, Reading.pushChar, Reading.pushNode, Reading.push, Frame.push,
        Reading.pushAll, Piece.char, Node.char, hf]
      rfl
    rw [hq, ofText_quoteChar, readAll_item _ hr ht, @ih (reading.pushAll [.char c]) hf]
    simp [Reading.pushAll]

theorem branch_node (frame : Frame) : frame.branch.node = .sequence frame.nodes := rfl

theorem body_node (frame : Frame) :
    frame.body.node = .choice ((frame.branch :: frame.branches).reverse.map Piece.node) := by
  unfold Frame.body
  split
  · next hb => simp [hb, Node.choice]
  · rfl

theorem covers_congr {width : Width} {widths widths' : List Width}
    (h : ∀ other, other ∈ widths ↔ other ∈ widths') (hc : width.Covers widths) :
    width.Covers widths' := by
  constructor <;> intro n
  · simp only [hc.least, h]
  · simp only [hc.most, h]

/-- Only one width reaches just as far as others. -/
theorem covers_unique {a b : Width} {widths : List Width} (ha : a.Covers widths)
    (hb : b.Covers widths) : a = b := by
  have hleast : a.least = b.least :=
    Nat.le_antisymm ((hb.least _).2 ((ha.least _).1 (Nat.le_refl _)))
      ((ha.least _).2 ((hb.least _).1 (Nat.le_refl _)))
  have hmost : a.most = b.most :=
    Nat.le_antisymm ((ha.most _).2 ((hb.most _).1 (Nat.le_refl _)))
      ((hb.most _).2 ((ha.most _).1 (Nat.le_refl _)))
  cases a
  cases b
  simp_all

theorem body_width (frame : Frame) : frame.body.width =
    frame.branches.foldl (fun width piece => width.either piece.width) frame.branch.width := by
  unfold Frame.body
  split
  · next hb => simp [hb]
  · rfl

/-- A frame is as wide as its alternatives. -/
theorem body_covers (frame : Frame) :
    frame.body.width.Covers ((frame.branch :: frame.branches).map Piece.width) := by
  have hfold (pieces : List Piece) (width : Width) :
      (pieces.foldl (fun width piece => width.either piece.width) width).Covers
        (width :: pieces.map Piece.width) := by
    induction pieces generalizing width with
    | nil => constructor <;> simp
    | cons piece pieces ih =>
      have h := ih (width.either piece.width)
      constructor <;> intro n
      · rw [List.foldl_cons, h.least]
        simp only [Width.either, List.map_cons, List.forall_mem_cons, Nat.le_min, and_assoc]
      · rw [List.foldl_cons, h.most]
        simp only [Width.either, List.map_cons, List.forall_mem_cons, Nat.max_le, and_assoc]
  rw [body_width]
  exact hfold _ _

/-- Characters are as wide as their text. -/
theorem branch_width (frame : Frame) (text : Text) (hp : frame.pieces = (text.map .char).reverse) :
    frame.branch.width = .ofText text := by
  have hfold (pieces : List Piece) (hs : ∀ piece ∈ pieces, piece.width = .single) :
      pieces.foldr (fun piece width => width.add piece.width) Width.zero =
        ⟨min pieces.length Width.limit, min pieces.length Width.limit⟩ := by
    induction pieces with
    | nil => rfl
    | cons piece pieces ih =>
      obtain ⟨hs, hall⟩ := List.forall_mem_cons.1 hs
      have hlimit : 1 ≤ Width.limit := by decide
      rw [List.foldr_cons, ih hall, hs]
      simp only [Width.add, Width.single, List.length_cons, Width.mk.injEq]
      omega
  have hsingle : ∀ piece ∈ frame.pieces, piece.width = .single := by
    intro piece hm
    rw [hp, List.mem_reverse] at hm
    obtain ⟨c, -, rfl⟩ := List.mem_map.1 hm
    rfl
  change frame.pieces.foldr _ _ = _
  rw [hfold _ hsingle, hp]
  simp [Width.ofText]

/-- Between parentheses a bar starts the next alternative. -/
theorem bar_inside
    (ho : (∃ group, reading.top.opener = .capture group) ∨ reading.top.opener = .bracket) :
    reading.bar = .ok { reading with top := { reading.top with
      branches := reading.top.branch :: reading.top.branches, pieces := [] } } := by
  unfold Reading.bar
  obtain ⟨group, ho⟩ | ho := ho <;> simp [ho] <;> rfl

theorem readAll_alternatives {words : List Text} (hw : words ≠ []) (reading : Reading)
    (hf : reading.top.flags = {}) (hp : reading.top.pieces = [])
    (ho : (∃ group, reading.top.opener = .capture group) ∨ reading.top.opener = .bracket)
    (more : Text) :
    ∃ top : Frame, top.opener = reading.top.opener ∧ top.flags = {} ∧
      top.body.node =
        .choice (reading.top.branches.reverse.map Piece.node ++ words.map Node.word) ∧
      top.body.width.Covers (reading.top.branches.map Piece.width ++ words.map .ofText) ∧
      reading.readAll (Token.ofText (Text.join ['|'] (words.map quote) ++ more)) =
        ({ reading with top } : Reading).readAll (Token.ofText more) := by
  induction words generalizing reading with
  | nil => exact (hw rfl).elim
  | cons word words ih =>
    have hword : (reading.pushAll (word.map .char)).top.branch.node = .word word := by
      simp [branch_node, Frame.nodes, Reading.pushAll, hp, Node.word, Function.comp_def, Piece.char]
    have hwidth : (reading.pushAll (word.map .char)).top.branch.width = .ofText word :=
      branch_width _ word (by simp [Reading.pushAll, hp])
    cases words with
    | nil =>
      refine ⟨(reading.pushAll (word.map .char)).top, rfl, hf, ?_, ?_, readAll_quote hf word more⟩
      · rw [body_node, List.reverse_cons, List.map_append, List.map_singleton, hword]
        rfl
      · refine covers_congr ?_ (body_covers _)
        intro other
        rw [List.map_cons, hwidth]
        simp [Reading.pushAll, or_comm]
    | cons word' words =>
      let top : Frame := { (reading.pushAll (word.map .char)).top with
        branches := (reading.pushAll (word.map .char)).top.branch :: reading.top.branches
        pieces := [] }
      obtain ⟨last, hlo, hlf, hln, hlw, hlr⟩ :=
        ih (by simp) { reading with top } hf rfl ho
      refine ⟨last, hlo, hlf, ?_, ?_, ?_⟩
      · simp [hln, top, hword]
      · refine covers_congr ?_ hlw
        intro other
        simp only [top, List.map_cons, hwidth, List.mem_append, List.mem_cons]
        grind
      · have hj : Text.join ['|'] ((word :: word' :: words).map quote) ++ more =
            quote word ++ '|' :: (Text.join ['|'] ((word' :: words).map quote) ++ more) := by
          simp [Text.join]
        have hr (rest : List Token) : Item.read (reading.pushAll (word.map .char)).top.flags.verbose
            (.plain '|') rest = .ok (.bar, rest) := by
          have hv : (reading.pushAll (word.map .char)).top.flags = {} := hf
          rw [hv]
          rfl
        rw [hj, readAll_quote hf, ofText_plain (by decide), readAll_item _ (hr _) (bar_inside ho)]
        exact hlr

/-! ## Parentheses around words -/

/-- Opens parentheses that capture under the next number. -/
def Reading.openNext (reading : Reading) : Reading :=
  ({ reading with groups := { reading.groups with count := reading.groups.count + 1 } } :
    Reading).openFrame (.capture (reading.groups.count + 1)) {}

/-- Takes in a group that is open and closed again. -/
def Reading.pushCapture (reading : Reading) (group : Nat) (node : Node) (width : Width) : Reading :=
  { reading with
    top := reading.top.push ⟨.capture group node, width⟩
    groups := { reading.groups with
      count := group, closed := (group, width) :: reading.groups.closed } }

theorem take_capture (hf : reading.top.flags = {}) :
    reading.take (.capture none) = .ok reading.openNext := by
  unfold Reading.openNext
  rw [← hf]
  rfl

/-- Parentheses without an extension capture. -/
theorem readAll_open {tokens : List Token} (hf : reading.top.flags = {})
    (ht : ∀ rest, tokens ≠ .plain '?' :: rest) :
    reading.readAll (.plain '(' :: tokens) = reading.openNext.readAll tokens := by
  refine readAll_item _ ?_ (take_capture hf)
  rw [hf]
  change readParenthesis tokens = _
  unfold readParenthesis
  split
  · next rest => exact (ht rest rfl).elim
  · rfl

theorem readAll_bracket (hf : reading.top.flags = {}) (tokens : List Token) :
    reading.readAll (.plain '(' :: .plain '?' :: .plain ':' :: tokens) =
      (reading.openFrame .bracket {}).readAll tokens := by
  refine readAll_item .bracket ?_ ?_
  · rw [hf]
    rfl
  · rw [← hf]
    rfl

theorem readAll_close (hc : reading.close = .ok next) (tokens : List Token) :
    reading.readAll (.plain ')' :: tokens) = next.readAll tokens := by
  refine readAll_item .close ?_ hc
  cases reading.top.flags.verbose <;> rfl

theorem close_capture (reading : Reading) (ho : reading.top.opener = .capture group)
    (hb : reading.below = frame :: below) :
    reading.close = .ok { reading with
      top := frame.push ⟨.capture group reading.top.body.node, reading.top.body.width⟩
      below := below
      groups := { reading.groups with
        closed := (group, reading.top.body.width) :: reading.groups.closed } } := by
  simp only [Reading.close, hb, Reading.closing, ho]
  rfl

theorem close_bracket (reading : Reading) (ho : reading.top.opener = .bracket)
    (hb : reading.below = frame :: below) :
    reading.close = .ok { reading with
      top := frame.push ⟨.bracket reading.top.body.node, reading.top.body.width⟩
      below := below } := by
  simp only [Reading.close, hb, Reading.closing, ho]
  rfl

/-- The first token of quoted alternatives does not make an extension of a parenthesis. -/
theorem alternatives_plain {words : List Text} (hw : words ≠ [])
    (hn : ∀ word ∈ words, word ≠ []) (more : Text) (rest : List Token) :
    Token.ofText (Text.join ['|'] (words.map quote) ++ more) ≠ .plain '?' :: rest := by
  obtain ⟨word, words, rfl⟩ := List.exists_cons_of_ne_nil hw
  obtain ⟨c, text, rfl⟩ := List.exists_cons_of_ne_nil (hn word (by simp))
  have hj : ∃ tail, Text.join ['|'] (((c :: text) :: words).map quote) ++ more =
      quoteChar c ++ tail := by
    cases words with
    | nil => exact ⟨quote text ++ more, by simp [Text.join, quote]⟩
    | cons word' words =>
      exact ⟨quote text ++ '|' :: (Text.join ['|'] ((word' :: words).map quote) ++ more), by
        simp [Text.join, quote]⟩
  obtain ⟨tail, hj⟩ := hj
  rw [hj, ofText_quoteChar]
  intro h
  have hq : quotedToken c = .plain '?' := (List.cons.inj h).1
  unfold quotedToken at hq
  split at hq
  · simp at hq
  · next hc =>
    obtain rfl : c = '?' := Token.plain.inj hq
    exact hc (by decide)

theorem readAll_captured_words {words : List Text} (hw : words ≠ [])
    (hn : ∀ word ∈ words, word ≠ []) (hf : reading.top.flags = {}) (more : Text) :
    ∃ width : Width, width.Covers (words.map .ofText) ∧ reading.readAll (Token.ofText
        ('(' :: (Text.join ['|'] (words.map quote) ++ ')' :: more))) =
      (reading.pushCapture (reading.groups.count + 1) (.choice (words.map .word)) width).readAll
        (Token.ofText more) := by
  obtain ⟨top, ho, -, htn, hwidth, hr⟩ := readAll_alternatives hw reading.openNext rfl rfl
    (Or.inl ⟨_, rfl⟩) (')' :: more)
  have hc := close_capture { reading.openNext with top } ho rfl
  refine ⟨top.body.width, hwidth, ?_⟩
  rw [ofText_plain (by decide), readAll_open hf (alternatives_plain hw hn _), hr,
    ofText_plain (by decide), readAll_close hc, htn]
  rfl

/-- Brackets that are repeated in parentheses that capture, from the end of what the brackets hold.
-/
theorem readAll_rounds_close {top : Frame} (ho : top.opener = .bracket) (hg : reading.global = {})
    (tokens : List Token) :
    ({ reading.openNext.openFrame .bracket {} with top } : Reading).readAll
        (.plain ')' :: .plain '+' :: .plain ')' :: tokens) =
      (reading.pushCapture (reading.groups.count + 1)
        (.sequence [.times .greedy 1 none (.bracket top.body.node)])
          (Width.zero.add (top.body.width.times 1 none))).readAll tokens := by
  have hc := close_bracket { reading.openNext.openFrame .bracket {} with top } ho rfl
  let piece : Piece := ⟨.bracket top.body.node, top.body.width⟩
  let rounds : Piece := ⟨.times .greedy 1 none piece.node, piece.width.times 1 none⟩
  have hrounds : (reading.openNext.push piece).take (.times .greedy 1 none) =
      .ok (reading.openNext.push rounds) := by
    simp only [Reading.take, Reading.repeatLatest, Reading.push, Frame.push, piece, Node.isAnchor,
      Node.isTimes, Reading.openNext, Reading.openFrame, hg, rounds]
    rfl
  have hc' := close_capture (reading.openNext.push rounds) rfl rfl
  rw [readAll_close hc]
  calc
    _ = (reading.openNext.push piece).readAll _ := rfl
    _ = (reading.openNext.push rounds).readAll (.plain ')' :: tokens) :=
      readAll_item (.times .greedy 1 none) rfl hrounds
    _ = _ := readAll_close hc' _

/-- Rounds of bracketed words in parentheses that capture. -/
theorem readAll_captured_rounds {words : List Text} (hw : words ≠ [])
    (hf : reading.top.flags = {}) (hg : reading.global = {}) (more : Text) :
    ∃ width : Width, width.Covers (words.map .ofText) ∧ reading.readAll (Token.ofText
        ('(' :: '(' :: '?' :: ':' :: (Text.join ['|'] (words.map quote) ++ ')' :: '+' :: ')' ::
          more))) =
      (reading.pushCapture (reading.groups.count + 1)
        (.sequence [.times .greedy 1 none (.bracket (.choice (words.map .word)))])
          (Width.zero.add (width.times 1 none))).readAll (Token.ofText more) := by
  obtain ⟨top, ho, -, htn, hwidth, hr⟩ := readAll_alternatives hw
    (reading.openNext.openFrame .bracket {}) rfl rfl (Or.inr rfl)
    (')' :: '+' :: ')' :: more)
  have hnode : top.body.node = .choice (words.map .word) := by
    rw [htn]
    rfl
  refine ⟨top.body.width, hwidth, ?_⟩
  rw [ofText_plain (by decide), ofText_plain (by decide), ofText_plain (by decide),
    ofText_plain (by decide), readAll_open hf (by simp), readAll_bracket rfl, hr,
    ofText_plain (by decide), ofText_plain (by decide), ofText_plain (by decide),
    readAll_rounds_close ho hg, hnode]

/-! ## Parentheses around nothing -/

theorem readAll_captured_nothing (hf : reading.top.flags = {}) (more : Text) :
    reading.readAll (Token.ofText ('(' :: ')' :: more)) =
      (reading.pushCapture (reading.groups.count + 1) .empty .zero).readAll (Token.ofText more) := by
  have hc := close_capture reading.openNext rfl rfl
  rw [ofText_plain (by decide), ofText_plain (by decide), readAll_open hf (by simp),
    readAll_close hc]
  rfl

theorem readAll_captured_no_rounds (hf : reading.top.flags = {}) (hg : reading.global = {})
    (more : Text) :
    reading.readAll (Token.ofText ('(' :: '(' :: '?' :: ':' :: ')' :: '+' :: ')' :: more)) =
      (reading.pushCapture (reading.groups.count + 1)
        (.sequence [.times .greedy 1 none (.bracket .empty)])
          (Width.zero.add (Width.zero.times 1 none))).readAll (Token.ofText more) := by
  have hclose := @readAll_rounds_close reading (reading.openNext.openFrame .bracket {}).top rfl hg
    (Token.ofText more)
  rw [ofText_plain (by decide), ofText_plain (by decide), ofText_plain (by decide),
    ofText_plain (by decide), ofText_plain (by decide), ofText_plain (by decide),
    ofText_plain (by decide), readAll_open hf (by simp), readAll_bracket rfl]
  exact hclose

end NameSlots.Regex
