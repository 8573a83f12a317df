import Mathlib.Data.List.TakeWhile
import NameSlots.Key.Parser
import NameSlots.Proofs.Results

/-! The segments of a key are the one list that tiles it: embedded patterns where a candidate is
accepted, slots where they are written outside embedded patterns, literal text everywhere else. -/
namespace NameSlots.Key

variable {ε : Type} {judge : Judge ε} {key text front rest rest' back body letters : Text}
  {c : Char} {which other : Slot} {segment segment' : Segment} {segments : List Segment}

/-- A text that is empty or starts with a mark: flags and literal text end before it. -/
def AtMark (text : Text) : Prop := ∀ c ∈ text.head?, isMark c = true

/-- A body and flag letters between slashes that count as an embedded pattern before `rest`. -/
structure Embeds (judge : Judge ε) (body letters rest : Text) : Prop where
  body_slash : '/' ∉ body
  letters_slash : '/' ∉ letters
  letters_angle : '<' ∉ letters
  stop : AtMark rest
  accepted : ∃ flags, readFlags? letters = some flags ∧ judge flags body = .ok true

/-- Literal text before `rest`: it runs up to a mark, no slot starts it, and neither does an
embedded pattern. -/
structure Plain (judge : Judge ε) (text rest : Text) : Prop where
  tail_slash : '/' ∉ text.tail
  tail_angle : '<' ∉ text.tail
  stop : AtMark rest
  no_slot : ∀ which : Slot, ¬ which.text <+: text
  no_regex : ∀ body letters after,
    text ++ rest = (Segment.regex body letters).content ++ after → ¬ Embeds judge body letters after

/-- What a segment has to be where `rest` follows it in the key. -/
def Stands (judge : Judge ε) : Segment → Text → Prop
  | .literal text, rest => Plain judge text rest
  | .regex body letters, rest => Embeds judge body letters rest
  | .slot _, _ => True

/-- Segments that make up a key, each as it has to be before what follows it. -/
structure Tiling (judge : Judge ε) (key : Text) (segments : List Segment) : Prop where
  contents : segments.flatMap Segment.content = key
  nonempty : ∀ segment ∈ segments, segment.content ≠ []
  stands : ∀ before segment after, segments = before ++ segment :: after →
    Stands judge segment (after.flatMap Segment.content)

/-- A segment stands in a list of segments with a text before it. -/
def SegmentAt (segments : List Segment) (front : Text) (segment : Segment) : Prop :=
  ∃ before after, segments = before ++ segment :: after ∧ before.flatMap Segment.content = front

/-- The characters from `first` up to `last` lie outside all embedded patterns. -/
def OutsideRegexes (segments : List Segment) (first last : Nat) : Prop :=
  ∀ front body letters, SegmentAt segments front (.regex body letters) →
    last ≤ front.length ∨ front.length + (Segment.regex body letters).content.length ≤ first

@[simp] theorem slot_single_text : Slot.single.text = ['<', 'p', '>'] := by decide

@[simp] theorem slot_several_text : Slot.several.text = ['<', 'p', ',', '>'] := by decide

theorem tiling_nil_iff : Tiling judge key [] ↔ key = [] := by
  constructor
  · intro h
    simpa using h.contents.symm
  · rintro rfl
    exact ⟨rfl, by simp, by simp⟩

theorem tiling_cons_iff : Tiling judge key (segment :: segments) ↔
    ∃ rest, key = segment.content ++ rest ∧ segment.content ≠ [] ∧ Stands judge segment rest ∧
      Tiling judge rest segments := by
  constructor
  · intro h
    refine ⟨_, by simpa using h.contents.symm, h.nonempty _ (by simp), h.stands [] _ _ rfl, rfl,
      fun s hs => h.nonempty s (by simp [hs]), ?_⟩
    intro before s after he
    exact h.stands (segment :: before) s after (by simp [he])
  · rintro ⟨rest, rfl, hne, hs, ht⟩
    refine ⟨by simp [ht.contents], ?_, ?_⟩
    · simpa [hne] using ht.nonempty
    · intro before s after he
      cases before with
      | nil =>
        obtain ⟨rfl, rfl⟩ := List.cons.inj he
        rw [ht.contents]
        exact hs
      | cons b before =>
        obtain ⟨-, hb⟩ := List.cons.inj he
        exact ht.stands before s after hb

theorem untilSlash?_eq_some_iff :
    untilSlash? text = some (body, rest) ↔ text = body ++ '/' :: rest ∧ '/' ∉ body := by
  induction text generalizing body with
  | nil => simp [untilSlash?]
  | cons c text ih =>
    by_cases hc : c = '/'
    · cases body <;> simp_all [untilSlash?, eq_comm]
    · cases body with
      | nil => simp_all [untilSlash?]
      | cons b body =>
        have hstep : untilSlash? (c :: text) = some (b :: body, rest) ↔
            c = b ∧ untilSlash? text = some (body, rest) := by
          cases hu : untilSlash? text <;> simp [untilSlash?, hc, hu, Prod.ext_iff, and_assoc]
        rw [hstep, ih]
        constructor
        · rintro ⟨rfl, rfl, hb⟩
          simp [hb, Ne.symm hc]
        · rintro ⟨he, hb⟩
          simp_all

/-- Flags and literal text run up to the first mark and no further. -/
theorem untilMark_eq_iff : untilMark text = (letters, rest) ↔
    text = letters ++ rest ∧ ('/' ∉ letters ∧ '<' ∉ letters) ∧ AtMark rest := by
  constructor
  · intro h
    obtain ⟨rfl, rfl⟩ := Prod.mk.inj h
    refine ⟨List.takeWhile_append_dropWhile.symm, ?_, ?_⟩
    · constructor <;> intro hm <;> simpa [isMark] using List.mem_takeWhile_imp hm
    · intro c hc
      have := List.head?_dropWhile_not (!isMark ·) text
      rw [Option.mem_def.1 hc] at this
      simpa using this
  · rintro ⟨rfl, ⟨hs, ha⟩, hr⟩
    have hl : ∀ c ∈ letters, (!isMark c) = true := by
      intro c hc
      have : c ≠ '/' := fun he => hs (he ▸ hc)
      have : c ≠ '<' := fun he => ha (he ▸ hc)
      simp_all [isMark]
    have hd : rest.takeWhile (!isMark ·) = [] := by
      cases rest with
      | nil => rfl
      | cons c rest => simp [hr c (by simp)]
    have hd' : rest.dropWhile (!isMark ·) = rest := by
      cases rest with
      | nil => rfl
      | cons c rest => simp [hr c (by simp)]
    simp only [untilMark, List.takeWhile_append_of_pos hl, List.dropWhile_append_of_pos hl, hd,
      hd', List.append_nil]

theorem untilMark_stops (text : Text) : text = (untilMark text).1 ++ (untilMark text).2 ∧
    ('/' ∉ (untilMark text).1 ∧ '<' ∉ (untilMark text).1) ∧ AtMark (untilMark text).2 :=
  untilMark_eq_iff.1 rfl

/-- An embedded pattern counts where it embeds, and the first slash and the first mark leave no
choice of its body and flags. -/
theorem regex?_eq_some_iff : regex? judge text = .ok (some (segment, rest)) ↔
    ∃ body letters, segment = .regex body letters ∧ text = body ++ '/' :: (letters ++ rest) ∧
      Embeds judge body letters rest := by
  constructor
  · intro h
    unfold regex? at h
    split at h
    · simp at h
    · next body after hs =>
      obtain ⟨rfl, hb⟩ := untilSlash?_eq_some_iff.1 hs
      obtain ⟨hl, ⟨hls, hla⟩, hr⟩ := untilMark_stops after
      simp only at h
      split at h
      · simp at h
      · next flags hf =>
        split at h
        · simp at h
        · next accepted hj =>
          cases accepted with
          | false => simp at h
          | true =>
            simp only [if_true, Except.ok.injEq, Option.some.injEq, Prod.mk.injEq] at h
            obtain ⟨rfl, rfl⟩ := h
            exact ⟨body, _, rfl, by rw [← hl], hb, hls, hla, hr, flags, hf, hj⟩
  · rintro ⟨body, letters, rfl, rfl, he⟩
    obtain ⟨flags, hf, hj⟩ := he.accepted
    have hs := untilSlash?_eq_some_iff.2
      ⟨(rfl : body ++ '/' :: (letters ++ rest) = _), he.body_slash⟩
    have hm := untilMark_eq_iff.2
      ⟨(rfl : letters ++ rest = _), ⟨he.letters_slash, he.letters_angle⟩, he.stop⟩
    simp [regex?, hs, hm, hf, hj]

theorem slot?_eq_some_iff : slot? text = some (segment, rest) ↔
    ∃ which : Slot, segment = .slot which ∧ text = which.text ++ rest := by
  cases hs : Text.dropFront? Slot.several.text text with
  | some after =>
    have ht := Text.dropFront?_eq_some_iff.1 hs
    simp only [slot?, hs, Option.some.injEq, Prod.mk.injEq]
    constructor
    · rintro ⟨rfl, rfl⟩
      exact ⟨_, rfl, ht⟩
    · rintro ⟨which, rfl, he⟩
      cases which <;> simp_all
  | none =>
    simp only [slot?, hs, Option.map_eq_some_iff, Text.dropFront?_eq_some_iff, Prod.mk.injEq]
    constructor
    · rintro ⟨after, rfl, rfl, rfl⟩
      exact ⟨.single, rfl, rfl⟩
    · rintro ⟨which, rfl, rfl⟩
      cases which with
      | single => exact ⟨rest, rfl, rfl, rfl⟩
      | several =>
        rw [Text.dropFront?_eq_some_iff.2 rfl] at hs
        simp at hs

/-- The characters of a slot after its first are no marks, so literal text that runs up to a mark
holds a slot that starts with it as a whole. -/
theorem slot_prefix_of_append (hne : text ≠ []) (hstop : AtMark rest)
    (h : which.text <+: text ++ rest) : which.text <+: text := by
  obtain hp | ⟨u, hu⟩ := List.prefix_or_prefix_of_prefix h (List.prefix_append text rest)
  · exact hp
  · cases u with
    | nil => exact ⟨[], by simpa using hu.symm⟩
    | cons d u =>
      exfalso
      obtain ⟨v, hv⟩ := h
      rw [← hu, List.append_assoc, List.append_cancel_left_eq] at hv
      have hd : isMark d = true := hstop d (by simp [← hv])
      obtain ⟨e, t, rfl⟩ := List.exists_cons_of_ne_nil hne
      have hmem : d ∈ which.text.tail := by simp [← hu]
      cases which <;> simp at hmem <;> rcases hmem with rfl | rfl | rfl <;> simp [isMark] at hd

theorem literal_tiles (hslot : ∀ which : Slot, ¬ which.text <+: c :: text)
    (hregex : ∀ body letters after, c :: text = (Segment.regex body letters).content ++ after →
      ¬ Embeds judge body letters after) :
    c :: text = (literal c text).1.content ++ (literal c text).2 ∧
      (literal c text).1.content ≠ [] ∧ Stands judge (literal c text).1 (literal c text).2 := by
  obtain ⟨hl, ⟨hls, hla⟩, hr⟩ := untilMark_stops text
  have hc : c :: (untilMark text).1 ++ (untilMark text).2 = c :: text := by
    rw [List.cons_append, ← hl]
  refine ⟨hc.symm, by simp [literal, Segment.content], hls, hla, hr, ?_, ?_⟩
  · intro which hp
    exact hslot which (hp.trans ⟨_, hc⟩)
  · intro body letters after he
    exact hregex body letters after (hc.symm.trans he)

theorem slot?_eq_none (h : slot? text = none) (which : Slot) : ¬ which.text <+: text := by
  rintro ⟨after, ha⟩
  have hs := slot?_eq_some_iff.2 ⟨which, rfl, ha.symm⟩
  simp [h] at hs

/-- What one step of parsing takes is the front of the key and stands before the rest. -/
theorem next_tiles (h : next judge c text = .ok (segment, rest)) :
    c :: text = segment.content ++ rest ∧ segment.content ≠ [] ∧ Stands judge segment rest := by
  unfold next at h
  split at h
  · next hc =>
    subst hc
    split at h
    · simp at h
    · next found hr =>
      obtain rfl := Except.ok.inj h
      obtain ⟨body, letters, rfl, rfl, he⟩ := regex?_eq_some_iff.1 hr
      exact ⟨by simp [Segment.content], by simp [Segment.content], he⟩
    · next hr =>
      have hregex : ∀ body letters after,
          '/' :: text = (Segment.regex body letters).content ++ after →
            ¬ Embeds judge body letters after := by
        intro body letters after he hb
        have := regex?_eq_some_iff.2 ⟨body, letters, rfl, by simpa [Segment.content] using he, hb⟩
        simp [this] at hr
      have ht := literal_tiles (by intro which; cases which <;> simp) hregex
      rwa [Except.ok.inj h] at ht
  · next hc =>
    cases hs : slot? (c :: text) with
    | some found =>
      rw [hs, Option.getD_some, Except.ok.injEq] at h
      subst h
      obtain ⟨which, rfl, he⟩ := slot?_eq_some_iff.1 hs
      exact ⟨he, by cases which <;> simp [Segment.content], trivial⟩
    | none =>
      rw [hs, Option.getD_none, Except.ok.injEq] at h
      have hregex : ∀ body letters after,
          c :: text = (Segment.regex body letters).content ++ after →
            ¬ Embeds judge body letters after := by simp [Segment.content, hc]
      have ht := literal_tiles (slot?_eq_none hs) hregex
      rwa [h] at ht

/-- Nothing else than what a step of parsing takes can stand at the front of the key. -/
theorem next_unique (h : next judge c text = .ok (segment, rest))
    (he : c :: text = segment'.content ++ rest') (hne : segment'.content ≠ [])
    (hs : Stands judge segment' rest') : segment' = segment ∧ rest' = rest := by
  cases segment' with
  | regex body letters =>
    simp only [Segment.content, List.cons_append, List.append_assoc, List.cons.injEq] at he
    obtain ⟨rfl, ht⟩ := he
    have hr := regex?_eq_some_iff.2 ⟨body, letters, rfl, ht, hs⟩
    simpa [next, hr] using h
  | slot which =>
    have hc : c ≠ '/' := by
      rintro rfl
      cases which <;> simp [Segment.content] at he
    have hw := slot?_eq_some_iff.2 ⟨which, rfl, he⟩
    simpa [next, hc, hw] using h
  | literal t =>
    obtain ⟨d, t, rfl⟩ := List.exists_cons_of_ne_nil hne
    obtain ⟨rfl, ht⟩ := List.cons.inj he
    have hm := untilMark_eq_iff.2 ⟨ht, ⟨hs.tail_slash, hs.tail_angle⟩, hs.stop⟩
    have hl : literal c text = (.literal (c :: t), rest') := by simp [literal, hm]
    by_cases hc : c = '/'
    · subst hc
      cases hr : regex? judge text with
      | error e => simp [next, hr] at h
      | ok found =>
        cases found with
        | none => simpa [next, hr, hl] using h
        | some found =>
          obtain ⟨body, letters, -, htext, hb⟩ := regex?_eq_some_iff.1 hr
          exact (hs.no_regex body letters _ (by simp [← htext, ht, Segment.content]) hb).elim
    · have hw : slot? (c :: text) = none := by
        cases hw : slot? (c :: text) with
        | none => rfl
        | some found =>
          obtain ⟨which, -, hf⟩ := slot?_eq_some_iff.1 hw
          have hp : which.text <+: c :: t ++ rest' := ⟨_, hf.symm.trans he⟩
          exact (hs.no_slot which (slot_prefix_of_append (by simp) hs.stop hp)).elim
      simpa [next, hc, hw, hl] using h

theorem parse_eq_nil_iff : parse judge key = .ok [] ↔ key = [] := by
  cases key with
  | nil => simp [parse]
  | cons c text =>
    rw [parse]
    split
    · simp
    · split <;> simp

theorem parse_eq_cons (h : parse judge key = .ok (segment :: segments)) :
    ∃ c text rest, key = c :: text ∧ next judge c text = .ok (segment, rest) ∧
      parse judge rest = .ok segments := by
  cases key with
  | nil => simp [parse] at h
  | cons c text =>
    rw [parse] at h
    split at h
    · simp at h
    · next s rest hn =>
      split at h
      · simp at h
      · next tail hp =>
        obtain ⟨rfl, rfl⟩ := List.cons.inj (Except.ok.inj h)
        exact ⟨c, text, rest, rfl, hn, hp⟩

theorem parse_tiles (h : parse judge key = .ok segments) : Tiling judge key segments := by
  induction segments generalizing key with
  | nil => exact tiling_nil_iff.2 (parse_eq_nil_iff.1 h)
  | cons segment segments ih =>
    obtain ⟨c, text, rest, rfl, hn, hp⟩ := parse_eq_cons h
    obtain ⟨he, hne, hs⟩ := next_tiles hn
    exact tiling_cons_iff.2 ⟨rest, he, hne, hs, ih hp⟩

theorem tiling_unique {others : List Segment} (h : parse judge key = .ok segments)
    (ht : Tiling judge key others) : others = segments := by
  induction segments generalizing key others with
  | nil =>
    obtain rfl := parse_eq_nil_iff.1 h
    cases others with
    | nil => rfl
    | cons other others =>
      obtain ⟨rest, he, hne, -, -⟩ := tiling_cons_iff.1 ht
      exact (hne (List.append_eq_nil_iff.1 he.symm).1).elim
  | cons segment segments ih =>
    obtain ⟨c, text, rest, rfl, hn, hp⟩ := parse_eq_cons h
    cases others with
    | nil => simp [tiling_nil_iff] at ht
    | cons other others =>
      obtain ⟨rest', he, hne, hs, ht⟩ := tiling_cons_iff.1 ht
      obtain ⟨rfl, rfl⟩ := next_unique hn he hne hs
      rw [ih hp ht]

theorem segmentAt_cons : SegmentAt (segment :: segments) front segment' ↔
    (front = [] ∧ segment' = segment) ∨
      ∃ more, front = segment.content ++ more ∧ SegmentAt segments more segment' := by
  constructor
  · rintro ⟨before, after, he, rfl⟩
    cases before with
    | nil => exact Or.inl ⟨rfl, (List.cons.inj he).1.symm⟩
    | cons b before =>
      obtain ⟨rfl, rfl⟩ := List.cons.inj he
      exact Or.inr ⟨_, by simp, before, after, rfl, rfl⟩
  · rintro (⟨rfl, rfl⟩ | ⟨more, rfl, before, after, rfl, rfl⟩)
    · exact ⟨[], segments, rfl, rfl⟩
    · exact ⟨segment :: before, after, rfl, by simp⟩

theorem outsideRegexes_of_cons (segment : Segment) {first last : Nat}
    (h : OutsideRegexes (segment :: segments) (segment.content.length + first)
      (segment.content.length + last)) : OutsideRegexes segments first last := by
  intro front body letters hr
  have := h (segment.content ++ front) body letters (segmentAt_cons.2 (Or.inr ⟨_, rfl, hr⟩))
  simp only [List.length_append] at this
  omega

/-- Of two different segments one ends before the other starts. -/
theorem segmentAt_disjoint {front' : Text} (h : SegmentAt segments front segment)
    (h' : SegmentAt segments front' segment') (hne : segment ≠ segment') :
    front.length + segment.content.length ≤ front'.length ∨
      front'.length + segment'.content.length ≤ front.length := by
  induction segments generalizing front front' with
  | nil =>
    obtain ⟨before, after, he, -⟩ := h
    simp at he
  | cons s segments ih =>
    obtain ⟨rfl, rfl⟩ | ⟨more, rfl, hm⟩ := segmentAt_cons.1 h <;>
      obtain ⟨rfl, rfl⟩ | ⟨more', rfl, hm'⟩ := segmentAt_cons.1 h'
    · exact (hne rfl).elim
    · left; simp
    · right; simp
    · have := ih hm hm'
      simp only [List.length_append]
      omega

/-- A slot that starts inside a piece of the key starts that piece, unless the piece is an embedded
pattern: neither slots nor literal text hold an opening angle after their first character. -/
theorem slot_of_inside {u : Text} (hs : Stands judge segment rest)
    (hr : ∀ body letters, segment ≠ .regex body letters) (hc : segment.content = front ++ '<' :: u)
    (hp : which.text <+: '<' :: u ++ rest) : front = [] ∧ segment = .slot which := by
  cases segment with
  | regex body letters => exact (hr body letters rfl).elim
  | slot other =>
    cases front with
    | nil =>
      obtain ⟨v, hv⟩ := hp
      simp only [Segment.content, List.nil_append] at hc
      rw [← hc] at hv
      clear hc
      cases which <;> cases other <;> simp_all
    | cons d front =>
      have hm : '<' ∈ other.text.tail := by
        simp only [Segment.content] at hc
        simp [hc]
      cases other <;> simp at hm
  | literal t =>
    cases front with
    | nil =>
      obtain rfl : t = '<' :: u := hc
      exact (hs.no_slot which (slot_prefix_of_append (by simp) hs.stop hp)).elim
    | cons d front =>
      obtain rfl : t = d :: front ++ '<' :: u := hc
      exact (hs.tail_angle (by simp)).elim

theorem slot_text_eq (which : Slot) : ∃ w, which.text = '<' :: w := by
  cases which <;> simp

theorem slotAt_of_outside (ht : Tiling judge key segments) (hk : key = front ++ which.text ++ back)
    (ho : OutsideRegexes segments front.length (front.length + which.text.length)) :
    SegmentAt segments front (.slot which) := by
  obtain ⟨w, hw⟩ := slot_text_eq which
  induction segments generalizing key front with
  | nil => simp [tiling_nil_iff.1 ht, hw] at hk
  | cons segment segments ih =>
    obtain ⟨rest, he, -, hs, htail⟩ := tiling_cons_iff.1 ht
    rw [hk, List.append_assoc, List.append_eq_append_iff] at he
    rw [segmentAt_cons]
    obtain ⟨u, hc, hu⟩ | ⟨more, hf, hm⟩ := he
    · cases u with
      | nil =>
        refine Or.inr ⟨[], by simpa using hc.symm, ?_⟩
        have hlen : segment.content.length = front.length := by simp [hc]
        refine ih htail (by simpa using hu.symm) (outsideRegexes_of_cons segment ?_)
        simpa [hlen] using ho
      | cons d u =>
        obtain rfl : d = '<' := by rw [hw] at hu; exact (List.cons.inj hu).1.symm
        have hr : ∀ body letters, segment ≠ .regex body letters := by
          rintro body letters rfl
          have := ho [] body letters (segmentAt_cons.2 (Or.inl ⟨rfl, rfl⟩))
          simp only [hc, hw, List.length_append, List.length_cons, List.length_nil] at this
          omega
        obtain ⟨rfl, rfl⟩ := slot_of_inside hs hr hc ⟨back, hu⟩
        exact Or.inl ⟨rfl, rfl⟩
    · refine Or.inr ⟨more, hf, ih htail (by simpa using hm) ?_⟩
      exact outsideRegexes_of_cons segment (by simpa [hf, Nat.add_assoc] using ho)

/-- The slots of a key are what is written as a slot outside the embedded patterns. -/
theorem slotAt_iff_outside (ht : Tiling judge key segments)
    (hk : key = front ++ which.text ++ back) : SegmentAt segments front (.slot which) ↔
      OutsideRegexes segments front.length (front.length + which.text.length) := by
  constructor
  · intro h f body letters hr
    have := segmentAt_disjoint h hr (by simp)
    simp only [Segment.content] at this ⊢
    omega
  · exact slotAt_of_outside ht hk

/-- Parsing gives the one list of segments that tiles the key, whatever bodies the judge accepts,
and so the slots are just what is written as a slot outside the embedded patterns. -/
theorem parse_unique_tiling {judge : Judge ε} {key : Text} {segments : List Segment}
    (h : parse judge key = .ok segments) :
    Tiling judge key segments ∧ (∀ others, Tiling judge key others → others = segments) ∧
      ∀ (which : Slot) (front back : Text), key = front ++ which.text ++ back →
        (SegmentAt segments front (.slot which) ↔
          OutsideRegexes segments front.length (front.length + which.text.length)) :=
  ⟨parse_tiles h, fun _ => tiling_unique h, fun _ _ _ => slotAt_iff_outside (parse_tiles h)⟩

/-- A slot in an embedded pattern is none, and the closing slash of a candidate that fails opens the
next literal. -/
theorem parse_unique_tiling_unclosed_class :
    parse compiles "/<p>/i<p>/[/<p,>".toList = .ok [.regex "<p>".toList ['i'], .slot .single,
      .literal "/[".toList, .literal ['/'], .slot .several] ∧
    Tiling compiles "/<p>/i<p>/[/<p,>".toList [.regex "<p>".toList ['i'], .slot .single,
      .literal "/[".toList, .literal ['/'], .slot .several] ∧
    ¬ OutsideRegexes [.regex "<p>".toList ['i'], .slot .single, .literal "/[".toList,
      .literal ['/'], .slot .several] 1 4 := by
  have h : parse compiles "/<p>/i<p>/[/<p,>".toList = .ok [.regex "<p>".toList ['i'],
      .slot .single, .literal "/[".toList, .literal ['/'], .slot .several] :=
    toOption_eq_some.1 (by decide +kernel)
  obtain ⟨ht, -, hs⟩ := parse_unique_tiling h
  refine ⟨h, ht, fun ho => ?_⟩
  obtain ⟨before, after, he, hf⟩ := (hs .single ['/'] "/i<p>/[/<p,>".toList (by decide)).2 ho
  cases before with
  | nil => simp at he
  | cons b before =>
    obtain ⟨rfl, -⟩ := List.cons.inj he
    simp [Segment.content] at hf

end NameSlots.Key
