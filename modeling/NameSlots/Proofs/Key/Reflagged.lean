import NameSlots.Proofs.Key.Runs
import NameSlots.Proofs.Regex.Outline

/-!
The flags of embedded patterns decide nothing: a key with other flags after its embedded patterns is cut
at the same places, and matches the same inputs with the same names.
-/
namespace NameSlots.Key

open Regex

variable {ε : Type} {judge : Judge ε} {why : ε} {key text body letters letters' rest front : Text}
  {c : Char} {flags flags' : Flags} {segment other : Segment} {segments others : List Segment}
  {found : Segment × Text}

/-- Segments that are the same but for the flags of an embedded pattern, which are flags in both. -/
inductive Reflagged : Segment → Segment → Prop where
  | refl (segment : Segment) : Reflagged segment segment
  | regex (body : Text) {letters letters' : Text} : (readFlags? letters).isSome →
      (readFlags? letters').isSome → Reflagged (.regex body letters) (.regex body letters')

/-- A judge whose answers do not depend on the flags that may follow an embedded pattern. -/
def FlagFree (judge : Judge ε) : Prop :=
  ∀ letters letters' flags flags' body, readFlags? letters = some flags →
    readFlags? letters' = some flags' → judge flags body = judge flags' body

/-! ## Flags -/

theorem letterFlag?_outline (h : letterFlag? c = some flags) : flags.outline = {} := by
  unfold letterFlag? at h
  split at h <;> cases h <;> rfl

theorem unionFlags?_outline (h : unionFlags? letters = some flags) : flags.outline = {} := by
  induction letters generalizing flags with
  | nil =>
    obtain rfl := Option.some.inj h
    rfl
  | cons c letters ih =>
    obtain ⟨flag, hflag, h⟩ := Option.bind_eq_some_iff.1 h
    obtain ⟨others, hothers, h⟩ := Option.bind_eq_some_iff.1 h
    obtain rfl := Option.some.inj h
    rw [union_outline, letterFlag?_outline hflag, ih hothers]
    rfl

theorem readFlags?_eq_some (h : readFlags? letters = some flags) : unionFlags? letters = some flags := by
  unfold readFlags? at h
  split at h
  · exact h
  · cases h

theorem isSome_letterFlag? (h : unionFlags? letters = some flags) (hm : c ∈ letters) :
    (letterFlag? c).isSome := by
  induction letters generalizing flags with
  | nil => cases hm
  | cons d letters ih =>
    obtain ⟨flag, hflag, h⟩ := Option.bind_eq_some_iff.1 h
    obtain ⟨others, hothers, -⟩ := Option.bind_eq_some_iff.1 h
    rcases List.mem_cons.1 hm with rfl | hm
    · rw [hflag]
      rfl
    · exact ih hothers hm

/-- No mark is among flags. -/
theorem not_mem_of_readFlags? (h : readFlags? letters = some flags) : '/' ∉ letters ∧ '<' ∉ letters := by
  have hletter {c : Char} (hm : c ∈ letters) := isSome_letterFlag? (readFlags?_eq_some h) hm
  constructor <;> intro hm <;> exact absurd (hletter hm) (by decide)

/-- Whether a body compiles is the same under all flags that may follow it. -/
theorem flagFree_compiles : FlagFree compiles := by
  intro letters letters' flags flags' body h h'
  have houtline : flags.outline = flags'.outline := by
    rw [unionFlags?_outline (readFlags?_eq_some h), unionFlags?_outline (readFlags?_eq_some h')]
  have hsame := compile_sameOutline houtline body
  unfold compiles
  generalize compile flags' body = other at hsame ⊢
  cases hc : compile flags body with
  | ok pattern =>
    rw [hc] at hsame
    cases hsame
    rfl
  | error why =>
    rw [hc] at hsame
    cases hsame
    rfl

/-! ## Candidates -/

/-- The body and the letters of a candidate for an embedded pattern whose opening slash stands before
the text. -/
def candidate? (text : Text) : Option (Text × Text) :=
  (untilSlash? text).map fun (body, after) => (body, (untilMark after).1)

theorem candidate?_eq_some_iff : candidate? text = some (body, letters) ↔
    ∃ rest, text = body ++ '/' :: (letters ++ rest) ∧ '/' ∉ body ∧ ('/' ∉ letters ∧ '<' ∉ letters) ∧
      AtMark rest := by
  unfold candidate?
  rw [Option.map_eq_some_iff]
  constructor
  · rintro ⟨⟨body, after⟩, hslash, h⟩
    obtain ⟨rfl, rfl⟩ := Prod.mk.inj h
    obtain ⟨rfl, hbody⟩ := untilSlash?_eq_some_iff.1 hslash
    obtain ⟨hafter, hletters, hstop⟩ := untilMark_stops after
    exact ⟨_, by rw [← hafter], hbody, hletters, hstop⟩
  · rintro ⟨rest, rfl, hbody, hletters, hstop⟩
    have hmark : untilMark (letters ++ rest) = (letters, rest) := untilMark_eq_iff.2 ⟨rfl, hletters, hstop⟩
    exact ⟨(body, letters ++ rest), untilSlash?_eq_some_iff.2 ⟨rfl, hbody⟩,
      congrArg (fun found : Text × Text => (body, found.1)) hmark⟩

theorem embeds_iff_candidate : (∃ rest, text = body ++ '/' :: (letters ++ rest) ∧
      Embeds judge body letters rest) ↔ candidate? text = some (body, letters) ∧
        ∃ flags, readFlags? letters = some flags ∧ judge flags body = .ok true := by
  rw [candidate?_eq_some_iff]
  constructor
  · rintro ⟨rest, htext, h⟩
    exact ⟨⟨rest, htext, h.body_slash, ⟨h.letters_slash, h.letters_angle⟩, h.stop⟩, h.accepted⟩
  · rintro ⟨⟨rest, htext, hbody, ⟨hslash, hangle⟩, hstop⟩, haccepted⟩
    exact ⟨rest, htext, hbody, hslash, hangle, hstop, haccepted⟩

theorem unjudged_iff_candidate : (∃ rest, text = body ++ '/' :: (letters ++ rest) ∧
      Unjudged judge why body letters rest) ↔ candidate? text = some (body, letters) ∧
        ∃ flags, readFlags? letters = some flags ∧ judge flags body = .error why := by
  rw [candidate?_eq_some_iff]
  constructor
  · rintro ⟨rest, htext, h⟩
    exact ⟨⟨rest, htext, h.body_slash, ⟨h.letters_slash, h.letters_angle⟩, h.stop⟩, h.judged⟩
  · rintro ⟨⟨rest, htext, hbody, ⟨hslash, hangle⟩, hstop⟩, hjudged⟩
    exact ⟨rest, htext, hbody, hslash, hangle, hstop, hjudged⟩

theorem candidate?_of_slash (hfront : '/' ∉ front) (after : Text) :
    candidate? (front ++ '/' :: after) = some (front, (untilMark after).1) := by
  rw [candidate?, untilSlash?_eq_some_iff.2 ⟨rfl, hfront⟩]
  rfl

theorem not_mem_slot_text (which : Slot) : '/' ∉ which.text := by
  cases which <;> decide

/-- Flags end before a mark in both of two keys that differ in flags only. -/
theorem atMark_reflagged (ht : Tiling judge key segments) (h : List.Forall₂ Reflagged segments others)
    (hstop : AtMark (segments.flatMap Segment.content)) : AtMark (others.flatMap Segment.content) := by
  cases h with
  | nil => exact hstop
  | cons hone hall =>
    cases hone with
    | regex body hletters hletters' =>
      intro c hc
      obtain rfl : '/' = c := by simpa [Segment.content] using hc
      rfl
    | refl =>
      obtain ⟨d, tail, hcontent⟩ := List.exists_cons_of_ne_nil (ht.nonempty _ List.mem_cons_self)
      rw [List.flatMap_cons, hcontent] at hstop ⊢
      exact hstop

/-- What follows the body of an embedded pattern is not part of the candidate that its slash ends. -/
theorem candidate?_of_regex (hfront : '/' ∉ front) (body letters letters' rest rest' : Text) :
    candidate? (front ++ ((Segment.regex body letters).content ++ rest)) =
      candidate? (front ++ ((Segment.regex body letters').content ++ rest')) := by
  have hbody (after : Text) : (untilMark (body ++ '/' :: after)).1 = (untilMark (body ++ ['/'])).1 := by
    simp [untilMark, List.takeWhile_append, isMark]
  simp only [Segment.content, List.cons_append, List.append_assoc, candidate?_of_slash hfront]
  rw [hbody (letters ++ rest), hbody (letters' ++ rest')]

/-- Texts that go on with segments which differ in flags only hold the same candidate. -/
theorem candidate?_reflagged (ht : Tiling judge key segments) (h : List.Forall₂ Reflagged segments others)
    (hfront : '/' ∉ front) : candidate? (front ++ segments.flatMap Segment.content) =
      candidate? (front ++ others.flatMap Segment.content) := by
  induction h generalizing key front with
  | nil => rfl
  | @cons segment other segments others hone hall ih =>
    obtain ⟨rest, -, hne, hstands, htail⟩ := tiling_cons_iff.1 ht
    obtain rfl := htail.contents
    have hgoes (hslash : '/' ∉ segment.content) :
        candidate? (front ++ (segment.content ++ segments.flatMap Segment.content)) =
          candidate? (front ++ (segment.content ++ others.flatMap Segment.content)) := by
      rw [← List.append_assoc, ← List.append_assoc]
      exact ih htail (by simp [hfront, hslash])
    rw [List.flatMap_cons, List.flatMap_cons]
    cases hone with
    | regex body hletters hletters' => exact candidate?_of_regex hfront ..
    | refl segment =>
      cases segment with
      | slot which => exact hgoes (not_mem_slot_text which)
      | regex body letters => exact candidate?_of_regex hfront ..
      | literal text =>
        by_cases hslash : '/' ∈ text
        · obtain ⟨d, tail, rfl⟩ := List.exists_cons_of_ne_nil hne
          have hplain : Plain judge (d :: tail) (segments.flatMap Segment.content) := hstands
          obtain rfl : '/' = d := (List.mem_cons.1 hslash).resolve_right hplain.tail_slash
          have hletters {rest : Text} (hstop : AtMark rest) : (untilMark (tail ++ rest)).1 = tail :=
            congrArg Prod.fst (untilMark_eq_iff.2 ⟨rfl, ⟨hplain.tail_slash, hplain.tail_angle⟩, hstop⟩)
          simp only [Segment.content, List.cons_append, candidate?_of_slash hfront]
          rw [hletters hplain.stop, hletters (atMark_reflagged htail hall hplain.stop)]
        · exact hgoes hslash

/-! ## Segments -/

theorem embeds_reflagged (hj : FlagFree judge) (h : Embeds judge body letters rest)
    (hletters : (readFlags? letters').isSome) {rest' : Text} (hstop : AtMark rest') :
    Embeds judge body letters' rest' := by
  obtain ⟨flags, hflags, hjudge⟩ := h.accepted
  obtain ⟨flags', hflags'⟩ := Option.isSome_iff_exists.1 hletters
  obtain ⟨hslash, hangle⟩ := not_mem_of_readFlags? hflags'
  exact ⟨h.body_slash, hslash, hangle, hstop, flags', hflags',
    (hj letters' letters flags' flags body hflags' hflags).trans hjudge⟩

/-- What a segment has to be it is with other flags too. -/
theorem stands_reflagged (hj : FlagFree judge) (ht : Tiling judge key (segment :: segments))
    (hone : Reflagged segment other) (hall : List.Forall₂ Reflagged segments others) :
    Stands judge other (others.flatMap Segment.content) := by
  obtain ⟨rest, -, hne, hstands, htail⟩ := tiling_cons_iff.1 ht
  obtain rfl := htail.contents
  cases hone with
  | regex body hletters hletters' =>
    exact embeds_reflagged hj hstands hletters' (atMark_reflagged htail hall hstands.stop)
  | refl segment =>
    cases segment with
    | slot which => trivial
    | regex body letters =>
      obtain ⟨flags, hflags, -⟩ := hstands.accepted
      exact embeds_reflagged hj hstands (Option.isSome_iff_exists.2 ⟨flags, hflags⟩)
        (atMark_reflagged htail hall hstands.stop)
    | literal text =>
      have hplain : Plain judge text (segments.flatMap Segment.content) := hstands
      obtain ⟨d, tail, rfl⟩ := List.exists_cons_of_ne_nil hne
      refine { hplain with stop := atMark_reflagged htail hall hplain.stop, no_regex := ?_ }
      intro body letters after he hembeds
      simp only [Segment.content, List.cons_append, List.append_assoc, List.cons.injEq] at he
      obtain ⟨rfl, he⟩ := he
      have hslash : '/' ∉ tail := hplain.tail_slash
      have hcandidate := embeds_iff_candidate.1 ⟨after, he, hembeds⟩
      rw [← candidate?_reflagged htail hall hslash] at hcandidate
      obtain ⟨after, he, hembeds⟩ := embeds_iff_candidate.2 hcandidate
      exact hplain.no_regex body letters after (by simp [Segment.content, he]) hembeds

/-- A candidate on which the judge has an answer has one with other flags too. -/
theorem next_reflagged_ne_error (hj : FlagFree judge) (ht : Tiling judge key (segment :: segments))
    (hone : Reflagged segment other) (hall : List.Forall₂ Reflagged segments others) {text' : Text}
    (he : c :: text = segment.content ++ segments.flatMap Segment.content)
    (he' : c :: text' = other.content ++ others.flatMap Segment.content)
    (hn : next judge c text = .ok found) : next judge c text' ≠ .error why := by
  intro herror
  obtain ⟨rfl, hregex⟩ := next_eq_error_iff.1 herror
  have hstands := stands_reflagged hj ht hone hall
  cases other with
  | slot which => cases which <;> simp [Segment.content] at he'
  | regex body letters =>
    obtain rfl : text' = body ++ '/' :: (letters ++ others.flatMap Segment.content) := by
      simpa [Segment.content] using he'
    rw [regex?_eq_some_iff.2 ⟨body, letters, rfl, rfl, hstands⟩] at hregex
    cases hregex
  | literal literal =>
    cases hone
    obtain ⟨rest, -, hne, hplain, htail⟩ := tiling_cons_iff.1 ht
    obtain ⟨d, tail, rfl⟩ := List.exists_cons_of_ne_nil hne
    simp only [Segment.content, List.cons_append, List.cons.injEq] at he he'
    obtain ⟨rfl, rfl⟩ := he
    obtain ⟨-, rfl⟩ := he'
    obtain ⟨body, letters, rest, htext, hun⟩ := regex?_eq_error_iff.1 hregex
    have hslash : '/' ∉ tail := hplain.tail_slash
    have hcandidate := unjudged_iff_candidate.1 ⟨rest, htext, hun⟩
    rw [← candidate?_reflagged htail hall hslash] at hcandidate
    obtain ⟨rest, htext, hun⟩ := unjudged_iff_candidate.2 hcandidate
    rw [next_eq_error_iff.2 ⟨rfl, regex?_eq_error_iff.2 ⟨body, letters, rest, htext, hun⟩⟩] at hn
    cases hn

theorem head?_reflagged (hone : Reflagged segment other) : segment.content.head? = other.content.head? := by
  cases hone <;> rfl

/-- A key is cut into the same segments with other flags. -/
theorem parse_reflagged (hj : FlagFree judge) (h : parse judge key = .ok segments)
    (hall : List.Forall₂ Reflagged segments others) :
    parse judge (others.flatMap Segment.content) = .ok others := by
  induction hall generalizing key with
  | nil => exact parse_eq_nil_iff.2 rfl
  | @cons segment other segments others hone hall ih =>
    have ht := parse_tiles h
    obtain ⟨c, text, rest, rfl, hn, hp⟩ := parse_eq_cons h
    obtain ⟨he, hne, -⟩ := next_tiles hn
    obtain rfl := (parse_tiles hp).contents
    obtain ⟨d, tail, hcontent⟩ := List.exists_cons_of_ne_nil hne
    obtain rfl : c = d := by
      rw [hcontent, List.cons_append] at he
      exact (List.cons.inj he).1
    obtain ⟨tail', hcontent'⟩ : ∃ tail', other.content = c :: tail' := by
      have hhead := head?_reflagged hone
      rw [hcontent] at hhead
      exact List.head?_eq_some_iff.1 hhead.symm
    have he' : c :: (tail' ++ others.flatMap Segment.content) =
        other.content ++ others.flatMap Segment.content := by rw [hcontent', List.cons_append]
    rw [List.flatMap_cons, ← he']
    cases hn' : next judge c (tail' ++ others.flatMap Segment.content) with
    | error why => exact (next_reflagged_ne_error hj ht hone hall he he' hn hn').elim
    | ok found =>
      have hstands := stands_reflagged hj ht hone hall
      obtain ⟨rfl, hrest⟩ := next_unique hn' he' (by simp [hcontent']) hstands
      exact parse_of_next hn' (hrest ▸ ih hp)

/-! ## Matching -/

theorem draft_reflagged (h : List.Forall₂ Reflagged segments others) (alternatives : Text) (group : Nat) :
    draft alternatives group others = draft alternatives group segments := by
  induction h generalizing group with
  | nil => rfl
  | @cons segment other segments others hone _ ih =>
    cases hone with
    | regex body => simp only [draft, ih]
    | refl segment => cases segment <;> simp only [draft, ih]

theorem isSlot_reflagged (h : List.Forall₂ Reflagged segments others) :
    others.any (·.isSlot) = segments.any (·.isSlot) := by
  induction h with
  | nil => rfl
  | @cons segment other segments others hone _ ih =>
    have hslot : other.isSlot = segment.isSlot := by cases hone <;> rfl
    rw [List.any_cons, List.any_cons, ih, hslot]

theorem matchSegments_reflagged (h : List.Forall₂ Reflagged segments others) (table : List Mapping)
    (mode : SlotMode) (input : Text) :
    matchSegments others table mode input = matchSegments segments table mode input := by
  simp only [matchSegments, target, join, isSlot_reflagged h, draft_reflagged h]

/-- The segments of a key with other flags after its embedded patterns are its own with these flags, and
every input is matched alike. -/
theorem matchInput_reflagged (h : Key.segments key = .ok segments)
    (hall : List.Forall₂ Reflagged segments others) :
    Key.segments (others.flatMap Segment.content) = .ok others ∧
      ∀ table mode input, matchInput (others.flatMap Segment.content) table mode input =
        matchInput key table mode input := by
  have hothers := parse_reflagged flagFree_compiles h hall
  refine ⟨hothers, fun table mode input => ?_⟩
  unfold matchInput
  rw [show Key.segments (others.flatMap Segment.content) = .ok others from hothers, h]
  exact matchSegments_reflagged hall table mode input

/-- Between slashes that start no embedded pattern. -/
theorem matchInput_reflagged_stray :
    Key.segments "x/(<p>/b/smg<p,>/[".toList = .ok [.literal ['x'], .literal "/(".toList, .slot .single,
      .regex ['b'] "smg".toList, .slot .several, .literal "/[".toList] ∧
    ∀ table mode input, matchInput "x/(<p>/b/smg<p,>/[".toList table mode input =
      matchInput "x/(<p>/b/i<p,>/[".toList table mode input := by
  have h : Key.segments "x/(<p>/b/i<p,>/[".toList = .ok [.literal ['x'], .literal "/(".toList,
      .slot .single, .regex ['b'] ['i'], .slot .several, .literal "/[".toList] :=
    toOption_eq_some.1 (by decide +kernel)
  have hflags : Reflagged (.regex ['b'] ['i']) (.regex ['b'] "smg".toList) :=
    .regex ['b'] (by decide) (by decide)
  exact matchInput_reflagged h (.cons (.refl _) (.cons (.refl _) (.cons (.refl _) (.cons hflags
    (.cons (.refl _) (.cons (.refl _) .nil))))))

end NameSlots.Key
