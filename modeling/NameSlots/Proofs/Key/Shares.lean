import Mathlib
import NameSlots.Proofs.Key.Decoding
import NameSlots.Proofs.Key.Refusal
import NameSlots.Proofs.Names.Lookup

/-! What each slot adds to the names of a match: a slot for one name adds one, any other slot adds
one at least. The first slot alone decides as well as all of them whether there is a match. -/
namespace NameSlots.Key

open Regex

/-- What a slot adds to the names by the text that it took: the value of the first mapping whose key
is that text, or what the text is decoded to, which is not nothing. -/
structure Adds (table : List Mapping) (which : Slot) (text : Text) : Prop where
  takes : which.Takes (table.map Mapping.key) text
  single : which = .single → ∃ value, lookup? table text = some value ∧ decode table text = [value]
  names : decode table text ≠ []

variable {parsed : List Segment} {joined : Joined} {parts : List Part} {input text key : Text}
  {last : Spot} {which : Slot} {table : List Mapping} {mode : SlotMode}

/-- A key is decoded to the value of its first mapping, whatever other keys it starts with. -/
theorem decode_key (hk : key ∈ table.map Mapping.key) (hne : key ≠ []) :
    ∃ value, lookup? table key = some value ∧ decode table key = [value] := by
  obtain ⟨picked, dropped, hd⟩ := decodes_total table key
  have hlookup := decodes_lookup hd
  obtain ⟨mapping, rfl, rfl⟩ := List.map_eq_singleton_iff.1 (single_picked hd ⟨hk, hne⟩)
  exact ⟨mapping.value, hlookup _ (List.mem_singleton_self _), decode_eq hd⟩

theorem adds_of_takes (ht : which.Takes (table.map Mapping.key) text) : Adds table which text := by
  obtain ⟨key, hk, hne, hp⟩ := takes_start ht
  refine ⟨ht, ?_, decode_ne_nil hk hne hp⟩
  rintro rfl
  exact decode_key ht.1 ht.2

/-- What the slots of an input that matches took: every slot took part. -/
theorem slots_add (hk : ∃ key ∈ table.map Mapping.key, key ≠ [])
    (hj : join parsed ((table.map Mapping.key).filter (!·.isEmpty)) = .ok joined)
    (hm : fullMatch? joined.pattern.node input.toArray = some last) :
    ∃ texts, joined.slotTexts? input = some (texts.map some) ∧
      List.Forall₂ (Adds table) (parsed.filterMap Segment.which?) texts := by
  obtain ⟨parts, hl⟩ := join_layout hj
  obtain ⟨texts, ht, -, htexts⟩ := took_of_fullMatch? (exists_nonEmpty hk) hl hm
  refine ⟨slotPieces parsed texts, htexts, ?_⟩
  have htakes := slots_take hl.emits ht
  rw [slotTakes_nonEmpty, hl.segments] at htakes
  exact htakes.imp fun _ _ => adds_of_takes

theorem exists_slot (hs : ∃ segment ∈ parsed, segment.isSlot = true) :
    ∃ which slots, parsed.filterMap Segment.which? = which :: slots := by
  obtain ⟨segment, hm, hslot⟩ := hs
  cases segment with
  | slot which =>
    have hw : which ∈ parsed.filterMap Segment.which? := List.mem_filterMap.2 ⟨_, hm, rfl⟩
    exact List.exists_cons_of_ne_nil (List.ne_nil_of_mem hw)
  | literal | regex => cases hslot

theorem adds_start {slots : List Slot} {texts : List Text}
    (h : List.Forall₂ (Adds table) slots texts) :
    ∀ text ∈ texts, ∃ key ∈ table.map Mapping.key, key ≠ [] ∧ key <+: text := by
  induction h with
  | nil => simp
  | cons hadds _ ih => exact List.forall_mem_cons.2 ⟨takes_start hadds.takes, ih⟩

/-- The names of a match are those that its slots add, in their order, or those of the first one. -/
theorem matchJoined_added {slots : List Slot} {texts : List Text}
    (htexts : joined.slotTexts? input = some ((text :: texts).map some))
    (hadds : List.Forall₂ (Adds table) slots (text :: texts)) :
    matchJoined joined table .all input = .matched ((text :: texts).flatMap (decode table)) ∧
      matchJoined joined table .first input = .matched (decode table text) := by
  have hall : matchJoined joined table .all input = _ :=
    matchJoined_matched htexts (by simp) (adds_start hadds)
  have hfirst : matchJoined joined table .first input = _ :=
    matchJoined_matched htexts (by simp) (adds_start hadds)
  refine ⟨hall, hfirst.trans ?_⟩
  exact congrArg MatchResult.matched (List.flatMap_singleton ..)

/-- Results in both slot modes: the first slot has a name where there is a match, and its names come
first. -/
structure Agree (all first : MatchResult) : Prop where
  isMatched : first.isMatched = all.isMatched
  names : first.names <+: all.names
  named : all.isMatched = true → first.names ≠ []

theorem agree_joined (hk : ∃ key ∈ table.map Mapping.key, key ≠ [])
    (hs : ∃ segment ∈ parsed, segment.isSlot = true)
    (hj : join parsed ((table.map Mapping.key).filter (!·.isEmpty)) = .ok joined) :
    Agree (matchJoined joined table .all input) (matchJoined joined table .first input) := by
  cases hm : fullMatch? joined.pattern.node input.toArray with
  | none =>
    rw [matchJoined_unmatched hm, matchJoined_unmatched hm]
    exact ⟨rfl, List.prefix_rfl, by simp [MatchResult.isMatched]⟩
  | some last =>
    obtain ⟨texts, htexts, hadds⟩ := slots_add hk hj hm
    obtain ⟨which, slots, hslots⟩ := exists_slot hs
    rw [hslots] at hadds
    obtain ⟨text, texts, hfirst, -, rfl⟩ := List.forall₂_cons_left_iff.1 hadds
    obtain ⟨hall, hone⟩ := matchJoined_added htexts hadds
    rw [hall, hone]
    exact ⟨rfl, List.prefix_append .., fun _ => hfirst.names⟩

/-- Whether a key matches does not depend on the slot mode. -/
theorem agree_matchInput (hp : segments key = .ok parsed)
    (hs : ∃ segment ∈ parsed, segment.isSlot = true)
    (hk : ∃ key ∈ table.map Mapping.key, key ≠ []) :
    ∃ all first, matchInput key table .all input = .ok all ∧
      matchInput key table .first input = .ok first ∧ Agree all first := by
  have hinput (mode : SlotMode) :
      matchInput key table mode input = matchSegments parsed table mode input := by
    rw [matchInput, hp]
  obtain ⟨aim, haim⟩ := target_isOk hp table
  rw [hinput, hinput, matchSegments, matchSegments, haim]
  cases aim with
  | pattern joined => exact ⟨_, _, rfl, rfl, agree_joined hk hs (target_eq_pattern haim).1⟩
  | nothing => exact ⟨_, _, rfl, rfl, rfl, List.prefix_rfl, by simp [MatchResult.isMatched]⟩
  | uncompilable => exact ⟨_, _, rfl, rfl, rfl, List.prefix_rfl, by simp [MatchResult.isMatched]⟩

/-- If the segments of a key with slots join to a pattern that matches an input as a whole, there is
a match in both slot modes: the names are what the slots add, one after the other, or what the first
one adds. Whatever the pattern does, both modes agree on whether there is a match. -/
theorem matchInput_slots (hp : segments key = .ok parsed)
    (hs : ∃ segment ∈ parsed, segment.isSlot = true)
    (hk : ∃ key ∈ table.map Mapping.key, key ≠ []) :
    (∀ joined last, join parsed ((table.map Mapping.key).filter (!·.isEmpty)) = .ok joined →
      fullMatch? joined.pattern.node input.toArray = some last →
      ∃ text texts, joined.slotTexts? input = some ((text :: texts).map some) ∧
        List.Forall₂ (Adds table) (parsed.filterMap Segment.which?) (text :: texts) ∧
        matchInput key table .all input =
          .ok (.matched ((text :: texts).flatMap (decode table))) ∧
        matchInput key table .first input = .ok (.matched (decode table text))) ∧
    ∃ all first, matchInput key table .all input = .ok all ∧
      matchInput key table .first input = .ok first ∧ Agree all first := by
  refine ⟨?_, agree_matchInput hp hs hk⟩
  intro joined last hj hm
  obtain ⟨texts, htexts, hadds⟩ := slots_add hk hj hm
  obtain ⟨which, slots, hslots⟩ := exists_slot hs
  obtain ⟨text, texts, -, -, rfl⟩ := List.forall₂_cons_left_iff.1 (hslots ▸ hadds)
  obtain ⟨hall, hfirst⟩ := matchJoined_added htexts hadds
  refine ⟨text, texts, htexts, hadds, ?_, ?_⟩
  · rw [matchInput_join hp hs hk hj, hall]
  · rw [matchInput_join hp hs hk hj, hfirst]

/-- A key that a later one continues, and a key that stands there twice. -/
def repeated : List Mapping :=
  [⟨['a'], ['1']⟩, ⟨['a', 'b'], ['2']⟩, ⟨['a'], ['3']⟩]

theorem matchInput_slots_repeated :
    matchInput "<p>/(x)+/<p,>".toList repeated .all "axxaba".toList =
        .ok (.matched [['1'], ['2'], ['1']]) ∧
      matchInput "<p>/(x)+/<p,>".toList repeated .first "axxaba".toList =
        .ok (.matched [['1']]) := by
  have hp : (segments "<p>/(x)+/<p,>".toList).toOption =
      some [.slot .single, .regex "(x)+".toList [], .slot .several] := by decide +kernel
  have hmatch : ((join [.slot .single, .regex "(x)+".toList [], .slot .several]
      ((repeated.map Mapping.key).filter (!·.isEmpty))).toOption.bind fun joined =>
        (fullMatch? joined.pattern.node "axxaba".toList.toArray).bind fun _ =>
          joined.slotTexts? "axxaba".toList) = some [some ['a'], some "aba".toList] := by
    cbv
  obtain ⟨joined, hj, hmatch⟩ := Option.bind_eq_some_iff.1 hmatch
  obtain ⟨last, hm, htaken⟩ := Option.bind_eq_some_iff.1 hmatch
  have hkey : ∃ key ∈ repeated.map Mapping.key, key ≠ [] := ⟨['a'], by decide, by decide⟩
  obtain ⟨text, texts, htexts, -, hall, hfirst⟩ :=
    (matchInput_slots (toOption_eq_some.1 hp) ⟨.slot .single, by simp, rfl⟩ hkey).1
      joined last (toOption_eq_some.1 hj) hm
  obtain ⟨rfl, rfl⟩ : text = ['a'] ∧ texts = ["aba".toList] := by
    rw [htaken] at htexts
    simpa using htexts.symm
  have hnames : [['a'], "aba".toList].flatMap (decode repeated) = [['1'], ['2'], ['1']] := by cbv
  have hname : decode repeated ['a'] = [['1']] := by cbv
  exact ⟨hnames ▸ hall, hname ▸ hfirst⟩

end NameSlots.Key
