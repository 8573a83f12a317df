import NameSlots.Key.Match
import NameSlots.Proofs.Key.Joined
import NameSlots.Proofs.Names.Decode

/-! A key without embedded patterns matches the inputs that can be cut into what its segments stand
for. -/
namespace NameSlots.Key

open Regex

/-- What a segment of such a key stands for. -/
def Segment.Takes (keys : List Text) : Segment → Text → Prop
  | .literal content, text => text = content
  | .regex .., text => text = []
  | .slot which, text => which.Takes keys text

/-- An input in pieces, one for each segment. -/
structure Cut (keys : List Text) (parsed : List Segment) (input : Text) (pieces : List Text) :
    Prop where
  takes : List.Forall₂ (Segment.Takes keys) parsed pieces
  input : pieces.flatten = input

/-- All embedded patterns are empty. -/
def Bodiless (parsed : List Segment) : Prop :=
  ∀ body flags, .regex body flags ∈ parsed → body = []

/-- The pieces of the slots. -/
def slotPieces (parsed : List Segment) (pieces : List Text) : List Text :=
  ((parsed.zip pieces).filter (·.1.isSlot)).map Prod.snd

variable {parsed : List Segment} {keys pieces : List Text} {joined : Joined} {part : Part}
  {parts : List Part} {input text : Text} {spot last : Spot} {which : Slot} {reading : Reading}
  {table : List Mapping}

theorem bodiless_cons {segment : Segment} (h : Bodiless (segment :: parsed)) : Bodiless parsed :=
  fun body flags hm => h body flags (List.mem_cons_of_mem _ hm)

/-! ## Joining -/

theorem draft_bodiless (alternatives : Text) (hb : Bodiless parsed) (group : Nat) :
    ∃ made, draft alternatives group parsed = .ok made := by
  induction parsed generalizing group with
  | nil => exact ⟨⟨[], []⟩, rfl⟩
  | cons segment parsed ih =>
    have hb' := bodiless_cons hb
    cases segment with
    | literal text =>
      obtain ⟨tail, ht⟩ := ih hb' group
      exact ⟨_, bind_eq_ok.2 ⟨tail, ht, rfl⟩⟩
    | regex body flags =>
      obtain rfl := hb body flags (List.mem_cons_self ..)
      exact ih hb' group
    | slot which =>
      obtain ⟨tail, ht⟩ := ih hb' (group + 1)
      exact ⟨_, bind_eq_ok.2 ⟨tail, ht, rfl⟩⟩

/-- Without embedded patterns the source is read to its end. -/
theorem readAll_draft (hk : ∃ key ∈ keys, key ≠ []) (hb : Bodiless parsed) {group : Nat}
    {made : Draft} (h : draft (alternation keys) group parsed = .ok made) (root : AtRoot reading)
    (more : Text) :
    ∃ next, reading.readAll (Token.ofText (made.source ++ more)) =
        next.readAll (Token.ofText more) ∧
      AtRoot next ∧ next.late = reading.late ∧ next.groups.tested = reading.groups.tested := by
  induction parsed generalizing reading group made with
  | nil =>
    obtain rfl := Except.ok.inj h
    exact ⟨reading, rfl, root, rfl, rfl⟩
  | cons segment parsed ih =>
    have hb' := bodiless_cons hb
    cases segment with
    | literal text =>
      obtain ⟨tail, ht, h⟩ := bind_eq_ok.1 h
      obtain rfl := Except.ok.inj h
      rw [List.append_assoc, readAll_quote root.flags]
      exact ih hb' ht (atRoot_pushAll captures_char root)
    | regex body flags =>
      obtain rfl := hb body flags (List.mem_cons_self ..)
      exact ih hb' h root
    | slot which =>
      obtain ⟨tail, ht, h⟩ := bind_eq_ok.1 h
      obtain rfl := Except.ok.inj h
      obtain ⟨width, -, hr⟩ := readAll_slot root.flags root.global hk which (tail.source ++ more)
      rw [List.append_assoc, hr]
      exact ih hb' ht (atRoot_pushSlot _ which root)

theorem join_bodiless (hk : ∃ key ∈ keys, key ≠ []) (hb : Bodiless parsed) :
    ∃ joined, join parsed keys = .ok joined := by
  obtain ⟨made, hd⟩ := draft_bodiless (alternation keys) hb 1
  obtain ⟨next, hr, root, hl, ht⟩ := readAll_draft hk hb hd atRoot_started ['$']
  rw [readAll_end root] at hr
  have hf : (next.pushAnchor .lastLineEnd).finish =
      .ok ((next.pushAnchor .lastLineEnd).top.body.node, next.groups.count) := by
    have hl : (next.pushAnchor .lastLineEnd).late = none := hl
    have ht : (next.pushAnchor .lastLineEnd).groups.tested = [] := ht
    have hb : (next.pushAnchor .lastLineEnd).below = [] := root.below
    have hg : (next.pushAnchor .lastLineEnd).global = {} := root.global
    simp only [Reading.finish, hl, ht, hb, hg]
    rfl
  have hc : compile {} ('^' :: made.source ++ ['$']) = .ok ⟨_, _⟩ :=
    compile_eq_ok.2 ⟨_, readAll_eq_ok.1 ((readAll_started _).trans hr), hf⟩
  exact ⟨_, bind_eq_ok.2 ⟨made, hd, bind_eq_ok.2 ⟨_, hc, rfl⟩⟩⟩

/-! ## Pieces -/

theorem took_takes (hb : ∀ body flags, part.segment = .regex body flags → body = [])
    (he : Emits keys part) (h : Took keys input last part text) :
    Segment.Takes keys part.segment text := by
  cases he with
  | literal content => exact h
  | empty flags => exact h
  | regex body flags alone group inner hne => exact (hne (hb body flags rfl)).elim
  | slot which group => exact h.2

theorem all_took_takes (hb : Bodiless (parts.map Part.segment))
    (he : ∀ part ∈ parts, Emits keys part)
    (ht : List.Forall₂ (Took keys input last) parts pieces) :
    List.Forall₂ (Segment.Takes keys) (parts.map Part.segment) pieces := by
  induction ht with
  | nil => exact .nil
  | cons htook _ ih =>
    obtain ⟨hpart, hparts⟩ := List.forall_mem_cons.1 he
    refine .cons (took_takes ?_ hpart htook) (ih (bodiless_cons hb) hparts)
    exact fun body flags hs => hb body flags (hs ▸ List.mem_cons_self ..)

/-- Every way to cut an input is one of the ways of the joined pattern. -/
theorem takes_match (hk : ∃ key ∈ keys, key ≠ []) (hb : Bodiless (parts.map Part.segment))
    (he : ∀ part ∈ parts, Emits keys part)
    (ht : List.Forall₂ (Segment.Takes keys) (parts.map Part.segment) pieces)
    (hp : pieces.flatten <+: input.drop spot.pos) :
    ∃ next ∈ (Node.sequence (parts.flatMap Part.nodes)).ways input.toArray spot,
      next.pos = spot.pos + pieces.flatten.length := by
  induction parts generalizing spot pieces with
  | nil =>
    obtain rfl := List.forall₂_nil_left_iff.1 ht
    exact ⟨spot, List.mem_singleton_self _, rfl⟩
  | cons part parts ih =>
    obtain ⟨piece, pieces, hpiece, ht', rfl⟩ := List.forall₂_cons_left_iff.1 ht
    obtain ⟨hpart, hparts⟩ := List.forall_mem_cons.1 he
    rw [List.flatten_cons, append_prefix_iff, List.drop_drop] at hp
    obtain ⟨hp, hrest⟩ := hp
    have hfirst : ∃ mid ∈ (Node.sequence part.nodes).ways input.toArray spot,
        mid.pos = spot.pos + piece.length := by
      cases hpart with
      | literal content =>
        obtain rfl : piece = content := hpiece
        exact ⟨_, mem_ways_word.2 ⟨hp, rfl⟩, rfl⟩
      | empty flags =>
        obtain rfl : piece = [] := hpiece
        exact ⟨spot, List.mem_singleton_self _, rfl⟩
      | regex body flags alone group inner hne =>
        exact (hne (hb body flags (List.mem_cons_self ..))).elim
      | slot which group =>
        rw [ways_single]
        let inner : Spot := { spot with opened := (group, spot.pos) :: spot.opened }
        have hm : inner.advance piece.length ∈ (slotNode keys which).ways input.toArray inner :=
          (mem_ways_slot hk).2 ⟨piece, hpiece, hp, rfl⟩
        exact ⟨_, List.mem_map_of_mem hm, rfl⟩
    obtain ⟨mid, hm, hpos⟩ := hfirst
    obtain ⟨next, hn, hend⟩ := ih (bodiless_cons hb) hparts ht' (hpos ▸ hrest)
    refine ⟨next, ?_, ?_⟩
    · rw [List.flatMap_cons, ways_append, List.mem_flatMap]
      exact ⟨mid, hm, hn⟩
    · rw [hend, hpos, List.flatten_cons, List.length_append]
      omega

/-- The groups of the slots hold the pieces of the slots. -/
theorem slotGroups_text (he : ∀ part ∈ parts, Emits keys part)
    (ht : List.Forall₂ (Took keys input last) parts pieces) :
    (slotGroups parts).map (groupText? input.toArray last) =
      (slotPieces (parts.map Part.segment) pieces).map some := by
  induction ht with
  | nil => rfl
  | @cons part piece parts pieces htook _ ih =>
    obtain ⟨hpart, hparts⟩ := List.forall_mem_cons.1 he
    have hrest := ih hparts
    cases hpart with
    | slot which group => exact List.cons_eq_cons.2 ⟨htook.1, hrest⟩
    | literal | empty | regex => exact hrest

theorem takes_start (h : which.Takes keys text) :
    ∃ key ∈ keys, key ≠ [] ∧ key <+: text := by
  cases which with
  | single => exact ⟨text, h.1, h.2, List.prefix_rfl⟩
  | several =>
    obtain ⟨chain, hne, hall, rfl⟩ := h
    obtain ⟨key, chain, rfl⟩ := List.exists_cons_of_ne_nil hne
    obtain ⟨hk, hn⟩ := hall key (List.mem_cons_self ..)
    exact ⟨key, hk, hn, List.prefix_append key chain.flatten⟩

/-- Every slot has a piece, and each of them starts with a key. -/
theorem slotPieces_start (h : List.Forall₂ (Segment.Takes keys) parsed pieces) :
    (slotPieces parsed pieces).length = (parsed.filter Segment.isSlot).length ∧
      ∀ text ∈ slotPieces parsed pieces, ∃ key ∈ keys, key ≠ [] ∧ key <+: text := by
  induction h with
  | nil => exact ⟨rfl, by simp [slotPieces]⟩
  | @cons segment piece parsed pieces htakes _ ih =>
    obtain ⟨hl, hall⟩ := ih
    cases segment with
    | slot which =>
      exact ⟨congrArg (· + 1) hl, List.forall_mem_cons.2 ⟨takes_start htakes, hall⟩⟩
    | literal | regex => exact ⟨hl, hall⟩

/-! ## Matching -/

theorem slotTakes_nonEmpty (keys : List Text) :
    Slot.Takes (keys.filter (!·.isEmpty)) = Slot.Takes keys := by
  funext which text
  cases which <;> simp [Slot.Takes]

/-- Empty keys make no difference to what can be cut. -/
theorem cut_nonEmpty : Cut (keys.filter (!·.isEmpty)) parsed input pieces ↔
    Cut keys parsed input pieces := by
  have ht : Segment.Takes (keys.filter (!·.isEmpty)) = Segment.Takes keys := by
    funext segment text
    cases segment with
    | literal | regex => rfl
    | slot which => exact congrFun (congrFun (slotTakes_nonEmpty keys) which) text
  constructor
  · intro h
    exact ⟨ht ▸ h.takes, h.input⟩
  · intro h
    exact ⟨ht.symm ▸ h.takes, h.input⟩

theorem exists_nonEmpty (hk : ∃ key ∈ keys, key ≠ []) :
    ∃ key ∈ keys.filter (!·.isEmpty), key ≠ [] := by
  obtain ⟨key, hk, hne⟩ := hk
  exact ⟨key, List.mem_filter.2 ⟨hk, by simpa using hne⟩, hne⟩

theorem fullMatch?_of_cut (hk : ∃ key ∈ keys, key ≠ []) (hb : Bodiless parsed)
    (hl : Layout parsed keys joined parts) (hc : Cut keys parsed input pieces) :
    ∃ last, fullMatch? joined.pattern.node input.toArray = some last := by
  obtain ⟨ht, rfl⟩ := hc
  rw [← hl.segments] at hb ht
  obtain ⟨next, hn, hpos⟩ : ∃ next ∈ (Node.sequence (parts.flatMap Part.nodes)).ways
      pieces.flatten.toArray { pos := 0 }, next.pos = 0 + pieces.flatten.length :=
    takes_match hk hb hl.emits ht List.prefix_rfl
  rw [Nat.zero_add] at hpos
  obtain ⟨hn, hpos⟩ := (mem_ways_layout hl).2 ⟨hn, hpos⟩
  rw [fullMatch?_eq]
  exact Option.isSome_iff_exists.1 (List.find?_isSome.2 ⟨next, hn, by simpa using hpos⟩)

/-- An input that matches is made of what its segments took, and the slots hold theirs. -/
theorem took_of_fullMatch? (hk : ∃ key ∈ keys, key ≠ []) (hl : Layout parsed keys joined parts)
    (hm : fullMatch? joined.pattern.node input.toArray = some last) :
    ∃ texts, List.Forall₂ (Took keys input last) parts texts ∧ texts.flatten = input ∧
      joined.slotTexts? input = some ((slotPieces parsed texts).map some) := by
  obtain ⟨hw, hp⟩ := mem_of_fullMatch? hl hm
  obtain ⟨texts, ht, hflat⟩ := parts_take hk hl.emits (layout_nodup hl) hw fun _ _ => rfl
  refine ⟨texts, ht, hflat.trans (by simp [between, hp]), ?_⟩
  simp only [Joined.slotTexts?, hm, Option.map_some, hl.slots, slotGroups_text hl.emits ht,
    hl.segments]

/-- Without embedded patterns it is cut into what the segments stand for. -/
theorem cut_of_fullMatch? (hk : ∃ key ∈ keys, key ≠ []) (hb : Bodiless parsed)
    (hl : Layout parsed keys joined parts)
    (hm : fullMatch? joined.pattern.node input.toArray = some last) :
    ∃ pieces, Cut keys parsed input pieces ∧
      joined.slotTexts? input = some ((slotPieces parsed pieces).map some) := by
  obtain ⟨texts, ht, hflat, htexts⟩ := took_of_fullMatch? hk hl hm
  refine ⟨texts, ⟨?_, hflat⟩, htexts⟩
  rw [← hl.segments] at hb ⊢
  exact all_took_takes hb hl.emits ht

/-- The texts of slots from which names come. -/
def named (mode : SlotMode) (texts : List Text) : List Text :=
  match mode with
  | .all => texts
  | .first => texts.take 1

theorem slotNames_eq (table : List Mapping) (mode : SlotMode) (texts : List Text) :
    slotNames table mode (texts.map some) = (named mode texts).flatMap (decode table) := by
  cases mode <;> simp [slotNames, named, List.flatMap_map, ← List.map_take]

/-- A slot that took something that starts with a key has a name. -/
theorem slotNames_ne_nil (mode : SlotMode) {texts : List Text} (hne : texts ≠ [])
    (hs : ∀ text ∈ texts, ∃ key ∈ table.map Mapping.key, key ≠ [] ∧ key <+: text) :
    slotNames table mode (texts.map some) ≠ [] := by
  obtain ⟨text, texts, rfl⟩ := List.exists_cons_of_ne_nil hne
  obtain ⟨key, hk, hn, hp⟩ := hs text (List.mem_cons_self ..)
  have hd := decode_ne_nil hk hn hp
  rw [slotNames_eq]
  cases mode <;> simp [named, hd]

theorem slotPieces_ne_nil (hs : ∃ segment ∈ parsed, segment.isSlot = true)
    (ht : List.Forall₂ (Segment.Takes keys) parsed pieces) : slotPieces parsed pieces ≠ [] := by
  obtain ⟨segment, hm, hslot⟩ := hs
  rw [← List.length_pos_iff, (slotPieces_start ht).1, List.length_pos_iff]
  exact List.ne_nil_of_mem (List.mem_filter.2 ⟨hm, hslot⟩)

theorem matchJoined_unmatched {mode : SlotMode}
    (hm : fullMatch? joined.pattern.node input.toArray = none) :
    matchJoined joined table mode input = .unmatched := by
  simp only [matchJoined, Joined.slotTexts?, hm, Option.map_none]

theorem matchJoined_matched {mode : SlotMode} {texts : List Text}
    (ht : joined.slotTexts? input = some (texts.map some)) (hne : texts ≠ [])
    (hs : ∀ text ∈ texts, ∃ key ∈ table.map Mapping.key, key ≠ [] ∧ key <+: text) :
    matchJoined joined table mode input =
      .matched ((named mode texts).flatMap (decode table)) := by
  rw [← slotNames_eq]
  simp [matchJoined, ht, slotNames_ne_nil mode hne hs]

theorem matchInput_join {key : Text} {mode : SlotMode} (hp : segments key = .ok parsed)
    (hs : ∃ segment ∈ parsed, segment.isSlot = true)
    (hk : ∃ key ∈ table.map Mapping.key, key ≠ [])
    (hj : join parsed ((table.map Mapping.key).filter (!·.isEmpty)) = .ok joined) :
    matchInput key table mode input = .ok (matchJoined joined table mode input) := by
  have hany : parsed.any (·.isSlot) = true := List.any_eq_true.2 hs
  have hkeys : ((table.map Mapping.key).filter (!·.isEmpty)).isEmpty = false := by
    obtain ⟨k, hk, -⟩ := exists_nonEmpty hk
    rw [List.isEmpty_eq_false_iff]
    exact List.ne_nil_of_mem hk
  have ht : target parsed table = .ok (.pattern joined) := by
    simp only [target, hany, hkeys, hj]
    rfl
  simp only [matchInput, hp, matchSegments, ht]

/-- A key with slots and without embedded patterns matches just the inputs that can be cut into what
its segments stand for, and the names are decoded from the slots of such a cut. -/
theorem matchInput_iff_cut {key : Text} {mode : SlotMode} (hp : segments key = .ok parsed)
    (hs : ∃ segment ∈ parsed, segment.isSlot = true) (hb : Bodiless parsed)
    (hk : ∃ key ∈ table.map Mapping.key, key ≠ []) :
    ((∃ names, matchInput key table mode input = .ok (.matched names)) ↔
        ∃ pieces, Cut (table.map Mapping.key) parsed input pieces) ∧
      ((¬ ∃ pieces, Cut (table.map Mapping.key) parsed input pieces) →
        matchInput key table mode input = .ok .unmatched) ∧
      ∀ names, matchInput key table mode input = .ok (.matched names) →
        ∃ pieces, Cut (table.map Mapping.key) parsed input pieces ∧
          names = (named mode (slotPieces parsed pieces)).flatMap (decode table) := by
  obtain ⟨joined, hj⟩ := join_bodiless (exists_nonEmpty hk) hb
  obtain ⟨parts, hl⟩ := join_layout hj
  rw [matchInput_join hp hs hk hj]
  cases hm : fullMatch? joined.pattern.node input.toArray with
  | none =>
    have hno : ¬ ∃ pieces, Cut (table.map Mapping.key) parsed input pieces := by
      rintro ⟨pieces, hc⟩
      obtain ⟨last, hlast⟩ := fullMatch?_of_cut (exists_nonEmpty hk) hb hl (cut_nonEmpty.2 hc)
      rw [hm] at hlast
      contradiction
    rw [matchJoined_unmatched hm]
    refine ⟨⟨?_, fun h => (hno h).elim⟩, fun _ => rfl, ?_⟩
    · rintro ⟨names, h⟩
      simp at h
    · intro names h
      simp at h
  | some last =>
    obtain ⟨pieces, hc, htexts⟩ := cut_of_fullMatch? (exists_nonEmpty hk) hb hl hm
    have hc := cut_nonEmpty.1 hc
    rw [matchJoined_matched htexts (slotPieces_ne_nil hs hc.takes) (slotPieces_start hc.takes).2]
    refine ⟨⟨fun _ => ⟨pieces, hc⟩, fun _ => ⟨_, rfl⟩⟩, fun hno => (hno ⟨pieces, hc⟩).elim, ?_⟩
    intro names h
    obtain rfl := MatchResult.matched.inj (Except.ok.inj h)
    exact ⟨pieces, hc, rfl⟩

/-- A key that continues another, and an empty one. -/
def overlapping : List Mapping := [⟨['x'], ['X']⟩, ⟨['x', 'y'], ['Y']⟩, ⟨[], ['Z']⟩]

theorem matchInput_iff_cut_special :
    segments "a.<p>$//<p,>".toList = .ok [.literal ['a', '.'], .slot .single, .literal ['$'],
      .regex [] [], .slot .several] ∧
    ∃ names, matchInput "a.<p>$//<p,>".toList overlapping .all "a.x$xyx".toList =
      .ok (.matched names) := by
  have hp : segments "a.<p>$//<p,>".toList = .ok [.literal ['a', '.'], .slot .single,
      .literal ['$'], .regex [] [], .slot .several] := toOption_eq_some.1 (by decide +kernel)
  have hb : Bodiless [.literal ['a', '.'], .slot .single, .literal ['$'], .regex [] [],
      .slot .several] := by
    intro body flags hr
    have hr : body = [] ∧ flags = [] := by simpa using hr
    exact hr.1
  have hk : ∃ key ∈ overlapping.map Mapping.key, key ≠ [] :=
    ⟨['x'], by simp [overlapping], by simp⟩
  have hx : Slot.single.Takes (overlapping.map Mapping.key) ['x'] :=
    ⟨by simp [overlapping], by simp⟩
  have hxyx : Slot.several.Takes (overlapping.map Mapping.key) "xyx".toList :=
    ⟨[['x', 'y'], ['x']], by simp, by simp [overlapping], rfl⟩
  have hc : Cut (overlapping.map Mapping.key) [.literal ['a', '.'], .slot .single, .literal ['$'],
      .regex [] [], .slot .several] "a.x$xyx".toList
      [['a', '.'], ['x'], ['$'], [], "xyx".toList] :=
    ⟨.cons rfl (.cons hx (.cons rfl (.cons rfl (.cons hxyx .nil)))), rfl⟩
  exact ⟨hp, (matchInput_iff_cut hp ⟨.slot .single, by simp, rfl⟩ hb hk).1.2 ⟨_, hc⟩⟩

end NameSlots.Key
