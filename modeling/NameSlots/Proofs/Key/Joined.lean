import NameSlots.Proofs.Key.Source
import NameSlots.Proofs.Regex.Spans
import NameSlots.Proofs.Regex.Words

/-! The groups of slots are those that the joined pattern gives their parentheses, and an input that
matches is cut into what its segments take. -/
namespace NameSlots.Key

open Regex

/-- What a slot may take: a mapped key, or mapped keys one after another. -/
def Slot.Takes (keys : List Text) : Slot → Text → Prop
  | .single, text => text ∈ keys ∧ text ≠ []
  | .several, text =>
    ∃ chain, chain ≠ [] ∧ (∀ key ∈ chain, key ∈ keys ∧ key ≠ []) ∧ chain.flatten = text

/-- What a segment took of an input, as the groups of the last spot tell it. -/
def Took (keys : List Text) (input : Text) (last : Spot) (part : Part) (text : Text) : Prop :=
  match part.segment, part.group with
  | .literal content, _ => text = content
  | .regex .., none => text = []
  | .regex .., some group => groupText? input.toArray last group = some text
  | .slot which, some group =>
    groupText? input.toArray last group = some text ∧ which.Takes keys text
  | .slot _, none => False

variable {segments : List Segment} {keys : List Text} {joined : Joined} {part : Part}
  {parts : List Part} {input text : Text} {spot next last : Spot} {which : Slot} {group : Nat}

/-! ## Parts -/

theorem mem_ways_slot (hk : ∃ key ∈ keys, key ≠ []) :
    next ∈ (slotNode keys which).ways input.toArray spot ↔
      ∃ text, which.Takes keys text ∧ text <+: input.drop spot.pos ∧
        next = spot.advance text.length := by
  have hw := ordered_ne_nil hk
  cases which with
  | single =>
    rw [slotNode, mem_ways_words hw]
    simp only [mem_ordered, Slot.Takes]
  | several =>
    rw [slotNode, ways_single]
    have hn : ∀ word ∈ ordered keys, word ≠ [] := fun word h => (mem_ordered.1 h).2
    change next ∈ Ways.greedy ((Node.choice ((ordered keys).map .word)).ways input.toArray) 1 none
      (1 + (input.length - spot.pos) + 2) 0 none spot ↔ _
    rw [mem_ways_rounds hn (fun _ _ => mem_ways_words hw) (by simp) (by omega)]
    simp only [Chain, mem_ordered, Slot.Takes, forall_const]
    constructor
    · rintro ⟨chain, hne, hall, hp, rfl⟩
      exact ⟨_, ⟨chain, hne, hall, rfl⟩, hp, rfl⟩
    · rintro ⟨_, ⟨chain, hne, hall, rfl⟩, hp, rfl⟩
      exact ⟨chain, hne, hall, hp, rfl⟩

/-- The text between two spots. -/
def between (input : Text) (spot next : Spot) : Text :=
  (input.drop spot.pos).take (next.pos - spot.pos)

theorem between_advance (h : text <+: input.drop spot.pos) :
    between input spot (spot.advance text.length) = text := by
  rw [between, Spot.advance, Nat.add_sub_cancel_left]
  exact (List.prefix_iff_eq_take.1 h).symm

theorem between_append (h : spot.pos ≤ next.pos) (h' : next.pos ≤ last.pos) :
    between input spot next ++ between input next last = between input spot last := by
  have hl : last.pos - spot.pos = (next.pos - spot.pos) + (last.pos - next.pos) := by omega
  have hn : next.pos = spot.pos + (next.pos - spot.pos) := by omega
  rw [between, between, between, hl, List.take_add, List.drop_drop, ← hn]

theorem groupText?_of_span? (h : last.span? group = some (spot.pos, next.pos)) :
    groupText? input.toArray last group = some (between input spot next) := by
  simp [groupText?, h, between, List.extract_eq_take_drop]

/-- The groups of a part. -/
def Part.captures (part : Part) : List Nat := part.nodes.flatMap Node.captures

theorem emits_group (h : Emits keys part) : ∀ group ∈ part.group, group ∈ part.captures := by
  intro group hg
  cases h with
  | literal | empty => simp at hg
  | regex body flags alone own inner =>
    obtain rfl := Option.some.inj hg
    simp [Part.captures, Node.captures]
  | slot which own =>
    obtain rfl := Option.some.inj hg
    simp [Part.captures, Node.captures]

theorem emits_takes (hk : ∃ key ∈ keys, key ≠ []) (he : Emits keys part)
    (h : next ∈ (Node.sequence part.nodes).ways input.toArray spot)
    (hl : ∀ group ∈ part.group, last.span? group = next.span? group) :
    Took keys input last part (between input spot next) := by
  cases he with
  | literal content =>
    obtain ⟨hp, rfl⟩ := mem_ways_word.1 h
    exact between_advance hp
  | empty flags =>
    obtain rfl := List.mem_singleton.1 h
    simp [Took, between]
  | regex body flags alone own inner _ _ hc =>
    rw [ways_single] at h
    have hs := capture_span? h (by rw [hc, List.mem_range'_1]; omega)
    exact groupText?_of_span? ((hl own rfl).trans hs)
  | slot which own =>
    rw [ways_single] at h
    have hs := capture_span? h (by simp [captures_slotNode])
    refine ⟨groupText?_of_span? ((hl own rfl).trans hs), ?_⟩
    obtain ⟨inner, hi, rfl⟩ := List.mem_map.1 h
    obtain ⟨text, ht, hp, rfl⟩ := (mem_ways_slot hk).1 hi
    exact (between_advance hp).symm ▸ ht

/-- What parts take one after the other: a later one leaves alone what the groups of an earlier one
hold. -/
theorem parts_take (hk : ∃ key ∈ keys, key ≠ []) (he : ∀ part ∈ parts, Emits keys part)
    (hd : (parts.flatMap Part.captures).Nodup)
    (h : next ∈ (Node.sequence (parts.flatMap Part.nodes)).ways input.toArray spot)
    (hl : ∀ group ∈ parts.flatMap Part.captures, last.span? group = next.span? group) :
    ∃ texts, List.Forall₂ (Took keys input last) parts texts ∧
      texts.flatten = between input spot next := by
  induction parts generalizing spot with
  | nil =>
    obtain rfl := List.mem_singleton.1 h
    exact ⟨[], .nil, by simp [between]⟩
  | cons part parts ih =>
    rw [List.flatMap_cons, ways_append, List.mem_flatMap] at h
    obtain ⟨mid, hm, hn⟩ := h
    obtain ⟨hpart, hparts⟩ := List.forall_mem_cons.1 he
    rw [List.flatMap_cons, List.nodup_append] at hd
    obtain ⟨-, hd, hne⟩ := hd
    have hext := ways_extends hn
    rw [captures_sequence, List.flatMap_assoc] at hext
    obtain ⟨texts, ht, hflat⟩ := ih hparts hd hn fun group hg => hl group (by simp [hg])
    refine ⟨between input spot mid :: texts, .cons ?_ ht, ?_⟩
    · refine emits_takes hk hpart hm fun group hg => ?_
      have hg := emits_group hpart group hg
      rw [hl group (by simp [hg])]
      exact extends_span? (fun hc => hne group hg group hc rfl) hext
    · rw [List.flatten_cons, hflat, between_append (ways_extends hm).pos hext.pos]

/-! ## The joined pattern -/

theorem layout_captures (h : Layout segments keys joined parts) :
    parts.flatMap Part.captures = List.range' 1 joined.pattern.groups := by
  have hc := h.captures
  rw [h.node, captures_sequence, List.flatMap_cons, List.flatMap_append, List.flatMap_assoc] at hc
  simp only [List.flatMap_singleton, Node.captures, List.nil_append, List.append_nil] at hc
  exact hc

theorem layout_nodup (h : Layout segments keys joined parts) :
    (parts.flatMap Part.captures).Nodup := by
  rw [layout_captures h]
  exact List.nodup_range'

theorem mem_ways_layout (h : Layout segments keys joined parts) :
    next ∈ joined.pattern.node.ways input.toArray { pos := 0 } ∧ next.pos = input.length ↔
      next ∈ (Node.sequence (parts.flatMap Part.nodes)).ways input.toArray { pos := 0 } ∧
        next.pos = input.length := by
  have hstart : next ∈ joined.pattern.node.ways input.toArray { pos := 0 } ↔
      next ∈ (Node.sequence (parts.flatMap Part.nodes ++ [.anchor .lastLineEnd])).ways
        input.toArray { pos := 0 } := by
    rw [h.node]
    simp [Node.sequence, Node.ways, Anchor.holds]
  rw [hstart, ways_append, List.mem_flatMap]
  simp only [ways_single, Node.ways]
  constructor
  · rintro ⟨⟨mid, hm, hn⟩, hp⟩
    split at hn
    · obtain rfl := List.mem_singleton.1 hn
      exact ⟨hm, hp⟩
    · simp at hn
  · rintro ⟨hm, hp⟩
    exact ⟨⟨next, hm, by simp [Anchor.holds, hp]⟩, hp⟩

theorem mem_of_fullMatch? (h : Layout segments keys joined parts)
    (hm : fullMatch? joined.pattern.node input.toArray = some last) :
    last ∈ (Node.sequence (parts.flatMap Part.nodes)).ways input.toArray { pos := 0 } ∧
      last.pos = input.length := by
  rw [fullMatch?_eq] at hm
  refine (mem_ways_layout h).1 ⟨List.mem_of_find?_eq_some hm, ?_⟩
  simpa using List.find?_some hm

theorem slotGroups_sublist (he : ∀ part ∈ parts, Emits keys part) :
    (slotGroups parts).Sublist (parts.flatMap Part.captures) := by
  induction parts with
  | nil => exact List.Sublist.slnil
  | cons part parts ih =>
    obtain ⟨hpart, hparts⟩ := List.forall_mem_cons.1 he
    have hrest := ih hparts
    cases hpart with
    | slot which group =>
      simpa [slotGroups, Segment.isSlot, Part.captures, Node.captures, captures_slotNode]
        using hrest
    | literal | empty | regex =>
      exact List.Sublist.trans hrest (List.sublist_append_right ..)

theorem slotGroups_length (he : ∀ part ∈ parts, Emits keys part) :
    (slotGroups parts).length = ((parts.map Part.segment).filter Segment.isSlot).length := by
  induction parts with
  | nil => rfl
  | cons part parts ih =>
    obtain ⟨hpart, hparts⟩ := List.forall_mem_cons.1 he
    have hrest := ih hparts
    cases hpart with
    | slot which group => exact congrArg (· + 1) hrest
    | literal | empty | regex => exact hrest

/-- Each slot has one group number, that of its own parentheses in the joined pattern, whatever the
embedded patterns capture; and the texts that the segments take of an input that matches make up the
input. -/
theorem join_slots (hk : ∃ key ∈ keys, key ≠ []) (h : join segments keys = .ok joined) :
    ∃ parts, Layout segments keys joined parts ∧
      joined.slots.length = (segments.filter Segment.isSlot).length ∧
      joined.slots.Pairwise (· < ·) ∧
      ∀ input last, fullMatch? joined.pattern.node input.toArray = some last →
        ∃ texts, List.Forall₂ (Took keys input last) parts texts ∧ texts.flatten = input := by
  obtain ⟨parts, hlayout⟩ := join_layout h
  refine ⟨parts, hlayout, ?_, ?_, ?_⟩
  · rw [hlayout.slots, slotGroups_length hlayout.emits, hlayout.segments]
  · rw [hlayout.slots]
    have hs := slotGroups_sublist hlayout.emits
    rw [layout_captures hlayout] at hs
    exact List.Pairwise.sublist hs List.pairwise_lt_range'
  · intro input last hm
    obtain ⟨hm, hp⟩ := mem_of_fullMatch? hlayout hm
    obtain ⟨texts, ht, hflat⟩ :=
      parts_take hk hlayout.emits (layout_nodup hlayout) hm fun _ _ => rfl
    refine ⟨texts, ht, hflat.trans ?_⟩
    simp [between, hp]

/-- Slots around an embedded pattern that captures and looks ahead. -/
def aroundGroups : List Segment :=
  [.slot .single, .regex "(a)|(?=b)b".toList [], .slot .several]

theorem join_slots_around_groups : ∃ joined last parts texts,
    join aroundGroups [['x']] = .ok joined ∧ joined.slots = [1, 4] ∧
      fullMatch? joined.pattern.node "xaxx".toList.toArray = some last ∧
      Layout aroundGroups [['x']] joined parts ∧
      List.Forall₂ (Took [['x']] "xaxx".toList last) parts texts ∧
      texts.flatten = "xaxx".toList := by
  have hslots : (join aroundGroups [['x']]).toOption.map Joined.slots = some [1, 4] := by
    decide +kernel
  have hmatch : ((join aroundGroups [['x']]).toOption.bind fun joined =>
      fullMatch? joined.pattern.node "xaxx".toList.toArray).isSome = true := by decide +kernel
  obtain ⟨joined, hj, hslots⟩ := Option.map_eq_some_iff.1 hslots
  rw [hj] at hmatch
  obtain ⟨last, hm⟩ := Option.isSome_iff_exists.1 hmatch
  have hj := toOption_eq_some.1 hj
  obtain ⟨parts, hl, -, -, ht⟩ := join_slots ⟨['x'], by simp, by simp⟩ hj
  obtain ⟨texts, ht, hflat⟩ := ht _ last hm
  exact ⟨joined, last, parts, texts, hj, hslots, hm, hl, ht, hflat⟩

end NameSlots.Key
