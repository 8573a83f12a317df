import Mathlib
import NameSlots.Proofs.Key.Match

/-! What a slot took was cut into keys by backtracking, and is decoded by the longest key at every
place. The two agree where the longest keys cut it too. -/
namespace NameSlots.Key

open Regex

/-- The slot of a segment. -/
def Segment.which? : Segment → Option Slot
  | .slot which => some which
  | _ => none

/-- How decoding treats a text that a slot took: by the mappings that it picks and the characters
that it drops. -/
structure Treats (table : List Mapping) (which : Slot) (text : Text) (picked : List Mapping)
    (dropped : Text) : Prop where
  takes : which.Takes (table.map Mapping.key) text
  decodes : Decodes table text picked dropped
  names : decode table text = picked.map Mapping.value
  picks : picked ≠ []
  single : which = .single → picked.map Mapping.key = [text]
  tiles : (picked.map Mapping.key).flatten = text ↔
    ∃ chain, Longest (table.map Mapping.key) chain ∧ chain.flatten = text
  prefixFree : PrefixFree (table.map Mapping.key) → (picked.map Mapping.key).flatten = text

variable {parsed : List Segment} {keys texts : List Text} {joined : Joined} {parts : List Part}
  {input text dropped : Text} {last : Spot} {which : Slot} {table : List Mapping}
  {picked : List Mapping} {key : Text} {mode : SlotMode} {names : List Text}

theorem slots_take (he : ∀ part ∈ parts, Emits keys part)
    (ht : List.Forall₂ (Took keys input last) parts texts) :
    List.Forall₂ (Slot.Takes keys) ((parts.map Part.segment).filterMap Segment.which?)
      (slotPieces (parts.map Part.segment) texts) := by
  induction ht with
  | nil => exact .nil
  | cons htook _ ih =>
    obtain ⟨hpart, hparts⟩ := List.forall_mem_cons.1 he
    have hrest := ih hparts
    cases hpart with
    | slot which group => exact .cons htook.2 hrest
    | literal | empty | regex => exact hrest

/-- A text that is one key is picked as a whole. -/
theorem single_picked (hd : Decodes table text picked dropped)
    (ht : Slot.single.Takes (table.map Mapping.key) text) : picked.map Mapping.key = [text] := by
  have hl : Longest (table.map Mapping.key) [text] := by
    refine ⟨ht, fun other _ hp => ?_, trivial⟩
    simpa using hp.length_le
  exact (longest_decodes hd hl (by simp)).1

theorem treats_of_takes (ht : which.Takes (table.map Mapping.key) text) :
    ∃ picked dropped, Treats table which text picked dropped := by
  obtain ⟨picked, dropped, hd⟩ := decodes_total table text
  have htile := decodes_tile_iff hd
  refine ⟨picked, dropped, ht, hd, decode_eq hd, ?_, ?_, htile, fun hf => htile.2 ?_⟩
  · obtain ⟨key, hk, hne, hp⟩ := takes_start ht
    have hn := decode_ne_nil hk hne hp
    rw [decode_eq hd] at hn
    exact fun he => hn (by rw [he]; rfl)
  · rintro rfl
    exact single_picked hd ht
  · cases which with
    | single =>
      refine ⟨[text], longest_of_prefixFree hf ?_, by simp⟩
      exact List.forall_mem_singleton.2 ht
    | several =>
      obtain ⟨chain, -, hall, hflat⟩ := ht
      exact ⟨chain, longest_of_prefixFree hf hall, hflat⟩

theorem target_eq_pattern (h : target parsed table = .ok (.pattern joined)) :
    join parsed ((table.map Mapping.key).filter (!·.isEmpty)) = .ok joined ∧
      ∃ key ∈ (table.map Mapping.key).filter (!·.isEmpty), key ≠ [] := by
  simp only [target] at h
  split at h
  · simp at h
  · next hc =>
    split at h
    · simp at h
    · simp at h
    · next joined' hj =>
      obtain rfl := Target.pattern.inj (Except.ok.inj h)
      refine ⟨hj, ?_⟩
      rw [Bool.or_eq_true, not_or, List.isEmpty_iff] at hc
      obtain ⟨key, hk⟩ := List.exists_mem_of_ne_nil _ hc.2
      exact ⟨key, hk, by simpa using (List.mem_filter.1 hk).2⟩

theorem matchJoined_eq_matched (h : matchJoined joined table mode input = .matched names) :
    ∃ taken, joined.slotTexts? input = some taken ∧ names = slotNames table mode taken := by
  simp only [matchJoined] at h
  split at h
  · simp at h
  · next taken ht =>
    split at h
    · simp at h
    · exact ⟨taken, ht, (MatchResult.matched.inj h).symm⟩

theorem matchJoined_named (h : matchJoined joined table mode input = .matched names) :
    names ≠ [] := by
  simp only [matchJoined] at h
  split at h
  · cases h
  · split at h
    · cases h
    · next hne =>
      obtain rfl := MatchResult.matched.inj h
      simpa using hne

/-- A match is one of the pattern that the segments of the key join to. -/
theorem matchInput_joined (h : matchInput key table mode input = .ok (.matched names)) :
    ∃ parsed joined, segments key = .ok parsed ∧ target parsed table = .ok (.pattern joined) ∧
      matchJoined joined table mode input = .matched names := by
  unfold matchInput at h
  split at h
  · simp at h
  · next parsed hp =>
    unfold matchSegments at h
    split at h
    · simp at h
    · simp at h
    · simp at h
    · next joined ht => exact ⟨parsed, joined, hp, ht, Except.ok.inj h⟩

/-- What a match says about the pattern and the slots. -/
theorem matchInput_eq_matched (h : matchInput key table mode input = .ok (.matched names)) :
    ∃ parsed joined taken, segments key = .ok parsed ∧
      target parsed table = .ok (.pattern joined) ∧
      joined.slotTexts? input = some taken ∧ names = slotNames table mode taken := by
  obtain ⟨parsed, joined, hp, ht, hm⟩ := matchInput_joined h
  obtain ⟨taken, hs, hn⟩ := matchJoined_eq_matched hm
  exact ⟨parsed, joined, taken, hp, ht, hs, hn⟩

/-- Every slot of a key that matches took part, and the names are those of the mappings that
decoding picks in what the slots took. They tile what a single slot took; what a slot for several
names took they tile just where the longest keys cut it, and so always if no key continues another.
-/
theorem matched_slots_decode (h : matchInput key table mode input = .ok (.matched names)) :
    ∃ parsed joined texts, segments key = .ok parsed ∧
      join parsed ((table.map Mapping.key).filter (!·.isEmpty)) = .ok joined ∧
      joined.slotTexts? input = some (texts.map some) ∧
      names = (named mode texts).flatMap (decode table) ∧
      List.Forall₂ (fun which text => ∃ picked dropped, Treats table which text picked dropped)
        (parsed.filterMap Segment.which?) texts := by
  obtain ⟨parsed, joined, taken, hp, ht, hs, hn⟩ := matchInput_eq_matched h
  obtain ⟨hj, hk⟩ := target_eq_pattern ht
  obtain ⟨parts, hl⟩ := join_layout hj
  obtain ⟨last, hm, -⟩ := Option.map_eq_some_iff.1 hs
  obtain ⟨texts, ht, -, htexts⟩ := took_of_fullMatch? hk hl hm
  rw [htexts] at hs
  obtain rfl := Option.some.inj hs
  refine ⟨parsed, joined, slotPieces parsed texts, hp, hj, htexts,
    hn.trans (slotNames_eq table mode _), ?_⟩
  · have htakes := slots_take hl.emits ht
    rw [slotTakes_nonEmpty, hl.segments] at htakes
    exact htakes.imp fun _ _ => treats_of_takes

/-- Keys that overlap: backtracking gives up the longest one to take a text as a whole. -/
def entangled : List Mapping :=
  [⟨['a'], ['1']⟩, ⟨['a', 'b'], ['2']⟩, ⟨['b', 'c'], ['3']⟩]

theorem matched_slots_decode_entangled :
    ∃ texts, matchInput "<p>-<p,>".toList entangled .all "ab-abc".toList =
        .ok (.matched [['2'], ['2']]) ∧
      [['2'], ['2']] = texts.flatMap (decode entangled) ∧
      List.Forall₂ (fun which text => ∃ picked dropped, Treats entangled which text picked dropped)
        [.single, .several] texts := by
  have hp : segments "<p>-<p,>".toList =
      .ok [.slot .single, .literal ['-'], .slot .several] := by
    simp [segments, parse, next, slot?, Slot.text, Text.dropFront?, literal, untilMark, isMark]
  have hm : matchInput "<p>-<p,>".toList entangled .all "ab-abc".toList =
      .ok (.matched [['2'], ['2']]) := by
    rw [matchInput, hp]
    cbv
  obtain ⟨parsed, joined, texts, hp', -, -, hn, ht⟩ := matched_slots_decode hm
  obtain rfl := Except.ok.inj (hp.symm.trans hp')
  exact ⟨texts, hm, hn, ht⟩

/-- The tokens that are picked need not tile what a slot took: the last character is dropped. -/
theorem entangled_not_tiled :
    (join [.slot .several] (entangled.map Mapping.key)).toOption.bind
        (·.slotTexts? "abc".toList) = some [some "abc".toList] ∧
      matchInput "<p,>".toList entangled .all "abc".toList = .ok (.matched [['2']]) ∧
      ∀ picked dropped, Decodes entangled "abc".toList picked dropped →
        (picked.map Mapping.key).flatten ≠ "abc".toList := by
  have hp : segments "<p,>".toList = .ok [.slot .several] := by
    simp [segments, parse, next, slot?, Slot.text, Text.dropFront?]
  have hm : matchInput "<p,>".toList entangled .all "abc".toList = .ok (.matched [['2']]) := by
    rw [matchInput, hp]
    cbv
  refine ⟨by cbv, hm, fun picked dropped hd ht => ?_⟩
  have hv : picked.map Mapping.value = [['2']] := (decode_eq hd).symm.trans (by cbv)
  obtain ⟨mapping, rfl, -⟩ := List.map_eq_singleton_iff.1 hv
  obtain rfl := (decodes_tile hd).1 ht
  obtain ⟨⟨hmem, -⟩, -⟩ := decodes_longest hd
  have hkey : mapping.key = ['a', 'b', 'c'] := by simpa using ht
  rw [hkey] at hmem
  exact absurd hmem (by decide)

end NameSlots.Key
