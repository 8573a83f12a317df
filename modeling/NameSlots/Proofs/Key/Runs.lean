import NameSlots.Proofs.Key.Refusal

/-! A run of segments is what its own text is cut into: what stood before and after it in the key
decides nothing about it. -/
namespace NameSlots.Key

variable {ε : Type} {judge : Judge ε} {key text rest more : Text} {c : Char} {segment : Segment}
  {segments run before after : List Segment}

/-- Where nothing but flag letters follows the last slash of a text, a mark stops them before what
comes next. -/
def Sealed (text more : Text) : Prop :=
  ∀ front letters, text = front ++ '/' :: letters → '/' ∉ letters → '<' ∉ letters → AtMark more

theorem atMark_of_append (h : AtMark (rest ++ more)) : AtMark rest := by
  cases rest with
  | nil => simp [AtMark]
  | cons c rest => exact h

theorem atMark_append (h : AtMark rest) (hm : rest = [] → AtMark more) : AtMark (rest ++ more) := by
  cases rest with
  | nil => exact hm rfl
  | cons c rest => exact h

/-- Flags that end in a sealed text end there with more text after it too. -/
theorem atMark_of_sealed {front letters : Text} (hs : Sealed text more)
    (ht : text = front ++ '/' :: (letters ++ rest)) (hslash : '/' ∉ letters)
    (hangle : '<' ∉ letters) (hstop : AtMark rest) : AtMark (rest ++ more) := by
  apply atMark_append hstop
  rintro rfl
  exact hs front letters (by simpa using ht) hslash hangle

/-! ## A text that ends where a segment ends -/

theorem stands_of_append (hs : Sealed (segment.content ++ rest) more)
    (h : Stands judge segment (rest ++ more)) : Stands judge segment rest := by
  cases segment with
  | slot which => trivial
  | regex body letters => exact { h with stop := atMark_of_append h.stop }
  | literal text =>
    refine { h with stop := atMark_of_append h.stop, no_regex := ?_ }
    intro body letters after he hembeds
    have htext : text ++ rest = ('/' :: body) ++ '/' :: (letters ++ after) := by
      simpa [Segment.content] using he
    have hstop := atMark_of_sealed hs htext hembeds.letters_slash hembeds.letters_angle hembeds.stop
    refine h.no_regex body letters (after ++ more) ?_ { hembeds with stop := hstop }
    rw [← List.append_assoc, he, List.append_assoc]

/-- A candidate on which the judge has no answer is there with more text after it too. -/
theorem next_error_append {why : ε} (hs : Sealed (c :: text) more)
    (h : next judge c text = .error why) : next judge c (text ++ more) = .error why := by
  obtain ⟨rfl, hr⟩ := next_eq_error_iff.1 h
  obtain ⟨body, letters, rest, rfl, hun⟩ := regex?_eq_error_iff.1 hr
  have htext : '/' :: (body ++ '/' :: (letters ++ rest)) =
      ('/' :: body) ++ '/' :: (letters ++ rest) := rfl
  have hstop := atMark_of_sealed hs htext hun.letters_slash hun.letters_angle hun.stop
  have hfull := regex?_eq_error_iff.2 ⟨body, letters, rest ++ more, rfl, { hun with stop := hstop }⟩
  exact next_eq_error_iff.2 ⟨rfl, by simpa using hfull⟩

theorem next_of_append (hs : Sealed (c :: text) more) (he : c :: text = segment.content ++ rest)
    (h : next judge c (text ++ more) = .ok (segment, rest ++ more)) :
    next judge c text = .ok (segment, rest) := by
  obtain ⟨-, hne, hstands⟩ := next_tiles h
  cases hn : next judge c text with
  | error why =>
    rw [next_error_append hs hn] at h
    cases h
  | ok found =>
    obtain ⟨rfl, rfl⟩ := next_unique hn he hne (stands_of_append (he ▸ hs) hstands)
    rfl

/-! ## Runs -/

theorem stop_of_slash (h : Stands judge segment rest) (hslash : '/' ∈ segment.content) :
    AtMark rest := by
  cases segment with
  | literal text => exact h.stop
  | regex body letters => exact h.stop
  | slot which => cases which <;> simp [Segment.content] at hslash

/-- The text of first segments is sealed: its last slash is in a segment before a mark, so flag
letters run to the end of the text only if that segment is the last one. -/
theorem sealed_run (h : Tiling judge key (run ++ after)) :
    Sealed (run.flatMap Segment.content) (after.flatMap Segment.content) := by
  induction run generalizing key with
  | nil =>
    intro front letters he
    simp at he
  | cons segment run ih =>
    rw [List.cons_append] at h
    obtain ⟨rest, -, -, hstands, htail⟩ := tiling_cons_iff.1 h
    have ih := ih htail
    intro front letters he hslash hangle
    rw [List.flatMap_cons, List.append_eq_append_iff] at he
    obtain ⟨u, -, hu⟩ | ⟨u, hcontent, hu⟩ := he
    · exact ih u letters hu hslash hangle
    · cases u with
      | nil => exact ih [] letters hu.symm hslash hangle
      | cons d u =>
        rw [List.cons_append, List.cons.injEq] at hu
        obtain ⟨rfl, rfl⟩ := hu
        have hstop := stop_of_slash hstands (by simp [hcontent])
        rw [← htail.contents, List.flatMap_append] at hstop
        cases hrun : run.flatMap Segment.content with
        | nil => simpa [hrun] using hstop
        | cons d tail =>
          have hd : isMark d = true := hstop d (by simp [hrun])
          rw [hrun] at hslash hangle
          obtain rfl | rfl : d = '/' ∨ d = '<' := by simpa [isMark] using hd
          · exact (hslash (by simp)).elim
          · exact (hangle (by simp)).elim

theorem parse_of_next (hn : next judge c text = .ok (segment, rest))
    (hp : parse judge rest = .ok segments) :
    parse judge (c :: text) = .ok (segment :: segments) := by
  rw [parse]
  split
  · next hn' => simp [hn] at hn'
  · next hn' =>
    rw [hn] at hn'
    obtain ⟨rfl, rfl⟩ := Prod.mk.inj (Except.ok.inj hn')
    rw [hp]

theorem parse_of_prefix (h : parse judge key = .ok (run ++ after)) :
    parse judge (run.flatMap Segment.content) = .ok run := by
  induction run generalizing key with
  | nil => exact parse_eq_nil_iff.2 rfl
  | cons segment run ih =>
    have hs := sealed_run (parse_tiles h)
    obtain ⟨c, text, rest, rfl, hn, hp⟩ := parse_eq_cons h
    obtain ⟨he, hne, -⟩ := next_tiles hn
    obtain ⟨d, tail, hcontent⟩ := List.exists_cons_of_ne_nil hne
    obtain rfl : (run ++ after).flatMap Segment.content = rest := (parse_tiles hp).contents
    rw [hcontent, List.cons_append, List.cons.injEq] at he
    obtain ⟨rfl, rfl⟩ := he
    rw [List.flatMap_cons, hcontent, List.cons_append] at hs ⊢
    refine parse_of_next (next_of_append hs ?_ ?_) (ih hp)
    · rw [hcontent, List.cons_append]
    · rwa [List.flatMap_append, ← List.append_assoc] at hn

theorem parse_of_suffix (h : parse judge key = .ok (before ++ run)) :
    parse judge (run.flatMap Segment.content) = .ok run := by
  induction before generalizing key with
  | nil =>
    obtain rfl := (parse_tiles h).contents
    exact h
  | cons segment before ih =>
    obtain ⟨c, text, rest, -, -, hp⟩ := parse_eq_cons h
    exact ih hp

/-- The text of any run of segments of a key is cut into that run, and so the text of each segment
is that segment and nothing else. -/
theorem parse_runs (h : parse judge key = .ok segments) :
    (∀ run, run <:+: segments → parse judge (run.flatMap Segment.content) = .ok run) ∧
      ∀ segment ∈ segments, parse judge segment.content = .ok [segment] := by
  have hrun : ∀ run, run <:+: segments →
      parse judge (run.flatMap Segment.content) = .ok run := by
    rintro run ⟨before, after, rfl⟩
    rw [List.append_assoc] at h
    exact parse_of_prefix (parse_of_suffix h)
  refine ⟨hrun, fun segment hm => ?_⟩
  obtain ⟨before, after, hsplit⟩ := List.append_of_mem hm
  have hone := hrun [segment] ⟨before, after, by rw [hsplit, List.append_assoc]; rfl⟩
  rwa [List.flatMap_singleton] at hone

/-- Between rejected candidates: the slash after the first slot starts one with the flag `b`, which
is none, and where the run ends it starts none at all. -/
theorem parse_runs_rejected :
    parse compiles "x/[<p>/q<p,>/b/g<p>".toList = .ok [.literal ['x'], .literal "/[".toList,
      .slot .single, .literal "/q".toList, .slot .several, .regex ['b'] ['g'], .slot .single] ∧
    parse compiles "/[<p>/q<p,>".toList = .ok [.literal "/[".toList, .slot .single,
      .literal "/q".toList, .slot .several] ∧
    parse compiles "/b/g".toList = .ok [.regex ['b'] ['g']] := by
  have h : parse compiles "x/[<p>/q<p,>/b/g<p>".toList = .ok [.literal ['x'],
      .literal "/[".toList, .slot .single, .literal "/q".toList, .slot .several,
      .regex ['b'] ['g'], .slot .single] :=
    toOption_eq_some.1 (by decide +kernel)
  obtain ⟨hruns, hsegments⟩ := parse_runs h
  refine ⟨h, ?_, hsegments (.regex ['b'] ['g']) (by simp)⟩
  exact hruns [.literal "/[".toList, .slot .single, .literal "/q".toList, .slot .several]
    ⟨[.literal ['x']], [.regex ['b'] ['g'], .slot .single], rfl⟩

end NameSlots.Key
