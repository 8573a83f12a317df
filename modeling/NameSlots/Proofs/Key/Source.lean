import NameSlots.Key.Joined
import NameSlots.Proofs.Regex.Nested
import NameSlots.Proofs.Regex.Quoted

/-! The joined pattern of a key, segment by segment: what nodes each becomes, and under which group
number. -/
namespace NameSlots.Key

open Regex

/-- The mapped keys in the order in which a slot tries them. -/
def ordered (keys : List Text) : List Text := longestFirst id keys

/-- What stands between the parentheses of a slot. -/
def slotNode (keys : List Text) : Slot → Node
  | .single => .choice ((ordered keys).map .word)
  | .several =>
    .sequence [.times .greedy 1 none (.bracket (.choice ((ordered keys).map .word)))]

/-- The width of a slot that takes keys of a width. -/
def slotWidth (width : Width) : Slot → Width
  | .single => width
  | .several => Width.zero.add (width.times 1 none)

/-- A segment in the joined pattern: its nodes, and the number of the parentheses around them. -/
structure Part where
  segment : Segment
  nodes : List Node
  group : Option Nat

/-- What a segment becomes. An embedded pattern has as many groups inside its parentheses as it has
by itself, and an empty one is left out. -/
inductive Emits (keys : List Text) : Part → Prop where
  | literal (text : Text) : Emits keys ⟨.literal text, text.map .char, none⟩
  | empty (flags : Text) : Emits keys ⟨.regex [] flags, [], none⟩
  | regex (body flags : Text) (alone : Pattern) (group : Nat) (inner : Node) :
      body ≠ [] → compile {} body = .ok alone →
      inner.captures = List.range' (group + 1) alone.groups →
      Emits keys ⟨.regex body flags, [.capture group inner], some group⟩
  | slot (which : Slot) (group : Nat) :
      Emits keys ⟨.slot which, [.capture group (slotNode keys which)], some group⟩

/-- The groups of the slots among parts. -/
def slotGroups (parts : List Part) : List Nat :=
  (parts.filter (·.segment.isSlot)).filterMap Part.group

/-- The pattern as a whole is being read, with nothing open and no flags set. -/
structure AtRoot (reading : Reading) : Prop where
  opener : reading.top.opener = .whole
  flags : reading.top.flags = {}
  branches : reading.top.branches = []
  below : reading.below = []
  global : reading.global = {}
  numbered : Numbered reading

variable {reading next last : Reading} {keys : List Text} {body more : Text} {alone : Pattern}
  {segments : List Segment} {made : Draft} {group : Nat} {text : Text}

/-! ## Slots -/

theorem mem_ordered {key : Text} : key ∈ ordered keys ↔ key ∈ keys ∧ key ≠ [] := by
  simp [ordered, longestFirst]

theorem ordered_ne_nil (hk : ∃ key ∈ keys, key ≠ []) : ordered keys ≠ [] := by
  obtain ⟨key, hk⟩ := hk
  exact List.ne_nil_of_mem (mem_ordered.2 hk)

theorem readAll_slot (hf : reading.top.flags = {}) (hg : reading.global = {})
    (hk : ∃ key ∈ keys, key ≠ []) (which : Slot) (more : Text) :
    ∃ width : Width, width.Covers ((ordered keys).map .ofText) ∧
      reading.readAll (Token.ofText (slotSource (alternation keys) which ++ more)) =
        (reading.pushCapture (reading.groups.count + 1) (slotNode keys which)
          (slotWidth width which)).readAll (Token.ofText more) := by
  have hw := ordered_ne_nil hk
  have hn : ∀ word ∈ ordered keys, word ≠ [] := fun word h => (mem_ordered.1 h).2
  cases which with
  | single =>
    have hs : slotSource (alternation keys) .single ++ more =
        '(' :: (Text.join ['|'] ((ordered keys).map quote) ++ ')' :: more) := by
      simp [slotSource, alternation, ordered]
    rw [hs]
    exact readAll_captured_words hw hn hf more
  | several =>
    have hs : slotSource (alternation keys) .several ++ more =
        '(' :: '(' :: '?' :: ':' :: (Text.join ['|'] ((ordered keys).map quote) ++
          ')' :: '+' :: ')' :: more) := by
      simp [slotSource, alternation, ordered]
    rw [hs]
    exact readAll_captured_rounds hw hf hg more

/-- A slot is a group also where there is no key that it could take. -/
theorem readAll_anySlot (keys : List Text) (hf : reading.top.flags = {}) (hg : reading.global = {})
    (which : Slot) (more : Text) :
    ∃ width : Width, reading.readAll (Token.ofText (slotSource (alternation keys) which ++ more)) =
      (reading.pushCapture (reading.groups.count + 1) (slotNode keys which) width).readAll
        (Token.ofText more) := by
  by_cases hk : ordered keys = []
  · have ha : alternation keys = [] := by
      change Text.join ['|'] ((ordered keys).map quote) = []
      rw [hk]
      rfl
    have hnode : Node.choice ((ordered keys).map .word) = .empty := by
      rw [hk]
      rfl
    cases which with
    | single =>
      have hs : slotSource (alternation keys) .single ++ more = '(' :: ')' :: more := by
        simp [slotSource, ha]
      rw [hs, slotNode, hnode]
      exact ⟨_, readAll_captured_nothing hf more⟩
    | several =>
      have hs : slotSource (alternation keys) .several ++ more =
          '(' :: '(' :: '?' :: ':' :: ')' :: '+' :: ')' :: more := by
        simp [slotSource, ha]
      rw [hs, slotNode, hnode]
      exact ⟨_, readAll_captured_no_rounds hf hg more⟩
  · obtain ⟨key, hm⟩ := List.exists_mem_of_ne_nil _ hk
    obtain ⟨width, -, hr⟩ := readAll_slot hf hg ⟨key, mem_ordered.1 hm⟩ which more
    exact ⟨_, hr⟩

/-! ## Embedded patterns -/

theorem inside_start (hg : reading.global = {}) :
    Inside (reading.groups.count + 1) (reading.top :: reading.below) (.start {})
      reading.openNext := by
  refine ⟨(Nat.zero_add _).symm, ⟨[], rfl, ?_⟩, rfl, hg⟩
  exact .cons ⟨rfl, fun _ => ⟨rfl, rfl⟩, by simp [Reading.openNext, Reading.openFrame]⟩ .nil

/-- A pattern that compiles by itself does not make an extension of the parenthesis before it. -/
theorem body_plain (hc : compile {} body = .ok alone) (tokens rest : List Token) :
    Token.ofText body ++ .plain ')' :: tokens ≠ .plain '?' :: rest := by
  intro h
  obtain ⟨whole, hr, -⟩ := compile_eq_ok.1 hc
  cases hb : Token.ofText body with
  | nil => simp [hb] at h
  | cons token left =>
    rw [hb, List.cons_append] at h
    obtain ⟨rfl, -⟩ := List.cons.inj h
    rw [hb] at hr
    cases hr with
    | cons hread ht _ =>
      obtain ⟨⟨greed, left'⟩, -, hread⟩ := bind_eq_ok.1 hread
      obtain ⟨rfl, -⟩ := Prod.mk.inj (Except.ok.inj hread)
      simp [Reading.take, Reading.repeatLatest, Reading.start, malformed] at ht

/-- The groups inside parentheses that are still open follow the group of these. -/
theorem captures_inside {joined : Reading} {count : Nat} (hn : Numbered reading)
    (hj : Numbered joined) (hb : joined.below = reading.top :: reading.below)
    (ho : joined.top.opener = .capture (reading.groups.count + 1))
    (hc : joined.groups.count = reading.groups.count + (count + 1)) :
    joined.top.body.node.captures = List.range' (reading.groups.count + 2) count := by
  have hsplit : joined.captures = reading.captures ++ joined.top.captures := by
    simp [Reading.captures, hb]
  have htop : joined.top.captures = (reading.groups.count + 1) :: joined.top.body.captures := by
    rw [captures_body, Frame.captures, ho]
    simp [Opener.captures]
  have hrange : List.range' 1 joined.groups.count = List.range' 1 reading.groups.count ++
      (reading.groups.count + 1) :: List.range' (reading.groups.count + 2) count := by
    rw [hc, ← List.range'_append_1, List.range'_succ, Nat.add_comm 1]
  have hcap := hj.captures
  rw [hsplit, hn.captures, htop, hrange] at hcap
  exact (List.cons.inj (List.append_cancel_left hcap)).2

/-- At the end of a body the parentheses around it are the innermost that are open. -/
theorem inside_end {alone joined : Reading} {outer : List Frame}
    (hw : Reads (.start {}) (Token.ofText body) alone) (hb : alone.below = [])
    (h : Inside group outer alone joined) :
    joined.top.opener = .capture group ∧ joined.below = outer := by
  obtain ⟨inner, hbelow, hframes⟩ := h.frames
  rw [hb] at hframes
  obtain ⟨ht, hnil⟩ := List.forall₂_cons.1 hframes
  obtain rfl : inner = [] := by
    cases hnil
    rfl
  have hwhole := numbered_reads hw (numbered_start {})
  exact ⟨(ht.whole (hwhole.rooted alone.top (by simp [hb]))).2, hbelow⟩

/-- The parentheses of an embedded pattern take its body to the end, and then the one that closes
them. -/
theorem readAll_body (hc : compile {} body = .ok alone) (root : AtRoot reading) (more : Text) :
    reading.readAll (Token.ofText ('(' :: body ++ ')' :: more)) =
      reading.openNext.readAll (Token.ofText body) >>= fun joined =>
        joined.readAll (.plain ')' :: Token.ofText more) := by
  obtain ⟨whole, hw, hfin⟩ := compile_eq_ok.1 hc
  obtain ⟨hb, -⟩ := finish_eq_ok hfin
  rw [List.cons_append, ofText_plain (by decide), ofText_append (reads_not_dangling hw),
    ofText_plain (by decide), readAll_open root.flags (body_plain hc _),
    readAll_inside hw hb (numbered_start {}) (inside_start root.global) (by simp)]

/-- After its body the parentheses of an embedded pattern are closed: they are a group of the
pattern as a whole, and what the body captures is numbered from the group on. -/
theorem close_body (hc : compile {} body = .ok alone) (root : AtRoot reading) {joined : Reading}
    (hj : reading.openNext.readAll (Token.ofText body) = .ok joined) :
    ∃ width next, joined.close = .ok next ∧ AtRoot next ∧
      next.top =
        reading.top.push ⟨.capture (reading.groups.count + 1) joined.top.body.node, width⟩ ∧
      next.groups.count = reading.groups.count + 1 + alone.groups ∧
      joined.top.body.node.captures = List.range' (reading.groups.count + 2) alone.groups := by
  obtain ⟨whole, hw, hfin⟩ := compile_eq_ok.1 hc
  obtain ⟨hb, hp⟩ := finish_eq_ok hfin
  have hcount : alone.groups = whole.groups.count := (Prod.mk.inj hp).2
  have hj := readAll_eq_ok.1 hj
  have hin := inside_reads hw (inside_start root.global) (by simp) hj
  obtain ⟨hopener, hbelow⟩ := inside_end hw hb hin
  have hclose := close_capture joined hopener hbelow
  have hnum : Numbered joined :=
    numbered_reads hj (numbered_take (take_capture root.flags) root.numbered)
  have hnext := @numbered_take joined _ .close hclose hnum
  refine ⟨_, _, hclose, ?_, rfl, ?_, ?_⟩
  · exact ⟨root.opener, root.flags, root.branches, root.below, hin.joined_global, hnext⟩
  · rw [hcount]
    exact hin.count.trans (Nat.add_comm _ _)
  · refine captures_inside root.numbered hnum hbelow hopener ?_
    rw [hin.count, hcount]
    omega

/-- An embedded pattern is read as a group of the pattern as a whole; what it captures is numbered
from the group on. -/
theorem reads_body (hc : compile {} body = .ok alone) (root : AtRoot reading)
    (hr : Reads reading (Token.ofText ('(' :: body ++ ')' :: more)) last) :
    ∃ joined width next, Reads reading.openNext (Token.ofText body) joined ∧
      Reads next (Token.ofText more) last ∧ AtRoot next ∧
      next.top =
        reading.top.push ⟨.capture (reading.groups.count + 1) joined.top.body.node, width⟩ ∧
      next.groups.count = reading.groups.count + 1 + alone.groups ∧
      joined.top.body.node.captures = List.range' (reading.groups.count + 2) alone.groups := by
  rw [← readAll_eq_ok, readAll_body hc root] at hr
  obtain ⟨joined, hj, hr⟩ := bind_eq_ok.1 hr
  obtain ⟨width, next, hclose, hnext⟩ := close_body hc root hj
  rw [readAll_close hclose] at hr
  exact ⟨joined, width, next, readAll_eq_ok.1 hj, readAll_eq_ok.1 hr, hnext⟩

/-! ## Segments -/

theorem keeps_pushAll {pieces : List Piece} (hc : ∀ piece ∈ pieces, piece.captures = []) :
    Keeps reading (reading.pushAll pieces) := by
  refine ⟨rfl, rfl, rfl, ?_, rfl, rfl, rfl⟩
  have : pieces.flatMap Piece.captures = [] := by simpa using hc
  simp [Reading.pushAll, capturesOf, this]

theorem atRoot_pushAll {pieces : List Piece} (hc : ∀ piece ∈ pieces, piece.captures = [])
    (root : AtRoot reading) : AtRoot (reading.pushAll pieces) :=
  ⟨root.opener, root.flags, root.branches, root.below, root.global,
    numbered_keeps (keeps_pushAll hc) root.numbered⟩

theorem captures_char : ∀ piece ∈ text.map Piece.char, piece.captures = [] := by
  intro piece hp
  obtain ⟨c, -, rfl⟩ := List.mem_map.1 hp
  rfl

theorem captures_words (words : List Text) :
    (Node.choice (words.map .word)).captures = [] := by
  simp only [captures_choice, Node.word, captures_sequence, List.flatMap_map, Node.char,
    Node.captures, List.flatMap_eq_nil_iff]
  simp

theorem captures_slotNode (keys : List Text) (which : Slot) :
    (slotNode keys which).captures = [] := by
  cases which with
  | single => exact captures_words _
  | several => simp [slotNode, Node.sequence, Node.captures, captures_words]

theorem atRoot_pushSlot (width : Width) (which : Slot) (root : AtRoot reading) :
    AtRoot (reading.pushCapture (reading.groups.count + 1) (slotNode keys which) width) := by
  refine ⟨root.opener, root.flags, root.branches, root.below, root.global, ⟨?_, ?_, ?_⟩⟩
  · have hr : List.flatMap Frame.captures reading.below.reverse ++ reading.top.captures =
        List.range' 1 reading.groups.count := root.numbered.captures
    simp [Reading.captures, Reading.pushCapture, captures_push, Piece.captures, Node.captures,
      captures_slotNode, ← List.append_assoc, hr, List.range'_1_concat, Nat.add_comm 1]
  · intro frame hf
    obtain rfl | hf := List.mem_cons.1 hf
    · exact root.numbered.barless reading.top (List.mem_cons_self ..)
    · exact root.numbered.barless frame (by simp [show frame ∈ reading.below from hf])
  · exact rooted_of_top root.numbered.rooted id

theorem slotGroups_cons (part : Part) (parts : List Part) :
    slotGroups (part :: parts) = slotGroups [part] ++ slotGroups parts := by
  rw [slotGroups, slotGroups, slotGroups, ← List.filterMap_append, ← List.filter_append]
  rfl

theorem nodes_push (frame : Frame) (piece : Piece) :
    (frame.push piece).nodes = frame.nodes ++ [piece.node] := by
  simp [Frame.push, Frame.nodes]

theorem nodes_pushAll (reading : Reading) (text : Text) :
    (reading.pushAll (text.map .char)).top.nodes = reading.top.nodes ++ text.map .char := by
  simp [Reading.pushAll, Frame.nodes, Function.comp_def, Piece.char]

/-- The source of segments starts with that of the first one, which is read as the part that this
becomes; `next` is where the others start. -/
theorem reads_segment {segment : Segment}
    (h : draft (alternation keys) group (segment :: segments) = .ok made) (root : AtRoot reading)
    (hg : group = reading.groups.count + 1)
    (hr : Reads reading (Token.ofText (made.source ++ more)) last) :
    ∃ part tail next, Emits keys part ∧ part.segment = segment ∧
      draft (alternation keys) (next.groups.count + 1) segments = .ok tail ∧
      made.slots = slotGroups [part] ++ tail.slots ∧
      next.top.nodes = reading.top.nodes ++ part.nodes ∧ AtRoot next ∧
      Reads next (Token.ofText (tail.source ++ more)) last := by
  subst hg
  cases segment with
  | literal text =>
    obtain ⟨tail, ht, h⟩ := bind_eq_ok.1 h
    obtain rfl := Except.ok.inj h
    rw [← readAll_eq_ok, List.append_assoc, readAll_quote root.flags, readAll_eq_ok] at hr
    exact ⟨⟨.literal text, text.map .char, none⟩, tail, reading.pushAll (text.map .char),
      .literal text, rfl, ht, rfl, nodes_pushAll _ _, atRoot_pushAll captures_char root, hr⟩
  | regex body flags =>
    unfold draft at h
    cases hb : body.isEmpty with
    | true =>
      obtain rfl := List.isEmpty_iff.1 hb
      exact ⟨⟨.regex [] flags, [], none⟩, made, reading, .empty flags, rfl, h, rfl, by simp, root,
        hr⟩
    | false =>
      rw [hb] at h
      obtain ⟨alone, hc, h⟩ := bind_eq_ok.1 h
      obtain ⟨tail, ht, h⟩ := bind_eq_ok.1 h
      obtain rfl := Except.ok.inj h
      have hsource : '(' :: body ++ ')' :: tail.source ++ more =
          '(' :: body ++ ')' :: (tail.source ++ more) := by simp
      rw [hsource] at hr
      obtain ⟨joined, width, next, -, hr, hroot, htop, hcount, hcap⟩ := reads_body hc root hr
      refine ⟨⟨.regex body flags, [.capture _ joined.top.body.node], some _⟩, tail, next,
        .regex body flags alone _ _ (by simpa using hb) hc hcap, rfl, ?_, rfl, ?_, hroot, hr⟩
      · have hgroup : next.groups.count + 1 = reading.groups.count + 1 + 1 + alone.groups := by
          omega
        rw [hgroup]
        exact ht
      · rw [htop, nodes_push]
  | slot which =>
    obtain ⟨tail, ht, h⟩ := bind_eq_ok.1 h
    obtain rfl := Except.ok.inj h
    obtain ⟨width, hread⟩ :=
      readAll_anySlot keys root.flags root.global which (tail.source ++ more)
    rw [← readAll_eq_ok, List.append_assoc, hread, readAll_eq_ok] at hr
    refine ⟨⟨.slot which, [.capture _ (slotNode keys which)], some _⟩, tail, _, .slot which _, rfl,
      ht, rfl, ?_, atRoot_pushSlot width which root, hr⟩
    simp [Reading.pushCapture, nodes_push]

/-- Reading the source of segments makes the parts of the ones `before`, and comes to the source of
the others. -/
theorem reads_before {before after : List Segment}
    (h : draft (alternation keys) group (before ++ after) = .ok made)
    (root : AtRoot reading) (hg : group = reading.groups.count + 1)
    (hr : Reads reading (Token.ofText (made.source ++ more)) last) :
    ∃ parts tail next, (∀ part ∈ parts, Emits keys part) ∧ parts.map Part.segment = before ∧
      draft (alternation keys) (next.groups.count + 1) after = .ok tail ∧
      made.slots = slotGroups parts ++ tail.slots ∧
      next.top.nodes = reading.top.nodes ++ parts.flatMap Part.nodes ∧
      AtRoot next ∧ Reads next (Token.ofText (tail.source ++ more)) last := by
  induction before generalizing reading group made with
  | nil =>
    subst hg
    exact ⟨[], made, reading, by simp, rfl, h, rfl, by simp, root, hr⟩
  | cons segment before ih =>
    obtain ⟨part, mid, next, hpart, rfl, ht, hmade, hnodes, hroot, hr⟩ := reads_segment h root hg hr
    obtain ⟨parts, tail, last, he, hs, ht, hslots, hn, hroot, hr⟩ := ih ht hroot rfl hr
    refine ⟨part :: parts, tail, last, List.forall_mem_cons.2 ⟨hpart, he⟩, by simp [hs], ht, ?_, ?_,
      hroot, hr⟩
    · rw [hmade, hslots, slotGroups_cons part parts, List.append_assoc]
    · rw [hn, hnodes, List.flatMap_cons, List.append_assoc]

/-- Reading the source of segments makes the parts of these. -/
theorem reads_draft (h : draft (alternation keys) group segments = .ok made)
    (root : AtRoot reading) (hg : group = reading.groups.count + 1)
    (hr : Reads reading (Token.ofText (made.source ++ more)) last) :
    ∃ parts next, (∀ part ∈ parts, Emits keys part) ∧ parts.map Part.segment = segments ∧
      made.slots = slotGroups parts ∧
      next.top.nodes = reading.top.nodes ++ parts.flatMap Part.nodes ∧
      AtRoot next ∧ Reads next (Token.ofText more) last := by
  rw [← List.append_nil segments] at h
  obtain ⟨parts, tail, next, he, hs, ht, hslots, hn, hroot, hr⟩ := reads_before h root hg hr
  obtain rfl := Except.ok.inj ht
  exact ⟨parts, next, he, hs, by rw [hslots, List.append_nil], hn, hroot, hr⟩

/-- The joined pattern is made of the parts of its segments between two anchors. -/
structure Layout (segments : List Segment) (keys : List Text) (joined : Joined)
    (parts : List Part) : Prop where
  emits : ∀ part ∈ parts, Emits keys part
  segments : parts.map Part.segment = segments
  slots : joined.slots = slotGroups parts
  node : joined.pattern.node =
    .sequence (.anchor .textStart :: (parts.flatMap Part.nodes ++ [.anchor .lastLineEnd]))
  captures : joined.pattern.node.captures = List.range' 1 joined.pattern.groups

/-- The reading of a joined pattern after its first anchor. -/
def started : Reading := (Reading.start {}).pushAnchor .textStart

theorem atRoot_started : AtRoot started :=
  ⟨rfl, rfl, rfl, rfl, rfl, numbered_keeps (keeps_push _ _ rfl) (numbered_start {})⟩

theorem readAll_started (source : Text) :
    (Reading.start {}).readAll (Token.ofText ('^' :: source)) =
      started.readAll (Token.ofText source) := by
  rw [ofText_plain (by decide)]
  exact readAll_item .lineStart rfl rfl

theorem readAll_end (root : AtRoot reading) :
    reading.readAll (Token.ofText ['$']) = .ok (reading.pushAnchor .lastLineEnd) := by
  rw [ofText_plain (by decide)]
  refine (readAll_item .lineEnd ?_ ?_).trans (readAll_nil _)
  · rw [root.flags]
    rfl
  · simp [Reading.take, root.flags]
    rfl

/-- The pattern of a key is read from its first anchor to its last one. -/
theorem join_reads {joined : Joined} (h : join segments keys = .ok joined) :
    ∃ made last, draft (alternation keys) 1 segments = .ok made ∧ joined.slots = made.slots ∧
      Reads started (Token.ofText (made.source ++ ['$'])) last ∧
      joined.pattern.node = last.top.body.node ∧
      joined.pattern.node.captures = List.range' 1 joined.pattern.groups := by
  obtain ⟨made, hd, h⟩ := bind_eq_ok.1 h
  obtain ⟨pattern, hc, h⟩ := bind_eq_ok.1 h
  obtain rfl := Except.ok.inj h
  obtain ⟨last, hr, hf⟩ := compile_eq_ok.1 hc
  obtain ⟨-, hp⟩ := finish_eq_ok hf
  rw [← readAll_eq_ok, List.cons_append, readAll_started, readAll_eq_ok] at hr
  exact ⟨made, last, hd, rfl, hr, (Prod.mk.inj hp).1, compile_captures hc⟩

/-- What has been read before the last anchor is all that stands before it. -/
theorem body_end (root : AtRoot next) (hr : Reads next (Token.ofText ['$']) last) :
    last.top.body.node = .sequence (next.top.nodes ++ [.anchor .lastLineEnd]) := by
  rw [← readAll_eq_ok, readAll_end root] at hr
  obtain rfl := Except.ok.inj hr
  have hbranches : (next.pushAnchor .lastLineEnd).top.branches = [] := root.branches
  rw [body_node, hbranches]
  simp [Node.choice, branch_node, Reading.pushAnchor, Reading.pushNode, Reading.push, nodes_push]

theorem join_layout {joined : Joined} (h : join segments keys = .ok joined) :
    ∃ parts, Layout segments keys joined parts := by
  obtain ⟨made, last, hd, hslots, hr, hnode, hcap⟩ := join_reads h
  obtain ⟨parts, next, he, hs, hparts, hn, root, hr⟩ := reads_draft hd atRoot_started rfl hr
  refine ⟨parts, he, hs, hslots.trans hparts, ?_, hcap⟩
  rw [hnode, body_end root hr, hn]
  rfl

end NameSlots.Key
