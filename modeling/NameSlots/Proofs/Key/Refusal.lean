import NameSlots.Key.Match
import NameSlots.Proofs.Key.Source
import NameSlots.Proofs.Key.Tiling
import NameSlots.Proofs.Regex.Refusal

/-! Where there is no answer. A key has segments unless one of its candidates for an embedded pattern
is refused outright, and where a key has segments every input has an answer. -/
namespace NameSlots.Key

open Regex

variable {ε : Type} {judge : Judge ε} {why : ε} {key text body letters rest left more : Text} {c : Char}
  {segment : Segment} {found : List Segment} {keys : List Text} {made : Draft} {group : Nat}
  {reading : Reading} {flags : Flags}

/-! ## Segments -/

/-- A body and flag letters between slashes before `rest`, on which the judge has no answer. -/
structure Unjudged (judge : Judge ε) (why : ε) (body letters rest : Text) : Prop where
  body_slash : '/' ∉ body
  letters_slash : '/' ∉ letters
  letters_angle : '<' ∉ letters
  stop : AtMark rest
  judged : ∃ flags, readFlags? letters = some flags ∧ judge flags body = .error why

/-- Segments are cut off a key until `left` is left of it. -/
inductive Cuts (judge : Judge ε) : Text → List Segment → Text → Prop where
  | nil (key : Text) : Cuts judge key [] key
  | cons {c : Char} {text rest left : Text} {segment : Segment} {segments : List Segment} :
      next judge c text = .ok (segment, rest) → Cuts judge rest segments left →
      Cuts judge (c :: text) (segment :: segments) left

theorem regex?_eq_error_iff : regex? judge text = .error why ↔
    ∃ body letters rest, text = body ++ '/' :: (letters ++ rest) ∧
      Unjudged judge why body letters rest := by
  constructor
  · intro h
    unfold regex? at h
    split at h
    · cases h
    · next body after hs =>
      obtain ⟨rfl, hbody⟩ := untilSlash?_eq_some_iff.1 hs
      obtain ⟨hafter, ⟨hslash, hangle⟩, hstop⟩ := untilMark_stops after
      simp only at h
      split at h
      · cases h
      · next flags hflags =>
        split at h
        · next hjudge =>
          obtain rfl := Except.error.inj h
          refine ⟨body, _, _, ?_, hbody, hslash, hangle, hstop, flags, hflags, hjudge⟩
          rw [← hafter]
        · cases h
  · rintro ⟨body, letters, rest, rfl, hun⟩
    obtain ⟨flags, hflags, hjudge⟩ := hun.judged
    have hslash := untilSlash?_eq_some_iff.2
      ⟨(rfl : body ++ '/' :: (letters ++ rest) = _), hun.body_slash⟩
    have hmark := untilMark_eq_iff.2
      ⟨(rfl : letters ++ rest = _), ⟨hun.letters_slash, hun.letters_angle⟩, hun.stop⟩
    simp [regex?, hslash, hmark, hflags, hjudge]

theorem next_eq_error_iff : next judge c text = .error why ↔
    c = '/' ∧ regex? judge text = .error why := by
  unfold next
  split
  · next hc =>
    cases hr : regex? judge text with
    | error why' => simp [hc]
    | ok found => cases found <;> simp
  · next hc => simp [hc]

theorem parse_cons_error (h : parse judge (c :: text) = .error why) :
    next judge c text = .error why ∨
      ∃ segment rest, next judge c text = .ok (segment, rest) ∧ parse judge rest = .error why := by
  rw [parse] at h
  split at h
  · next hn =>
    obtain rfl := Except.error.inj h
    exact .inl hn
  · next segment rest hn =>
    split at h
    · next hp =>
      obtain rfl := Except.error.inj h
      exact .inr ⟨segment, rest, hn, hp⟩
    · cases h

theorem parse_of_cuts (h : Cuts judge key found left) (hl : parse judge left = .error why) :
    parse judge key = .error why := by
  induction h with
  | nil => exact hl
  | cons hn _ ih =>
    rw [parse]
    split
    · next hn' => simp [hn] at hn'
    · next hn' =>
      rw [hn] at hn'
      obtain ⟨rfl, rfl⟩ := Prod.mk.inj (Except.ok.inj hn')
      rw [ih hl]

/-- A key has no segments just where a candidate at the end of some first segments has no answer. -/
theorem parse_eq_error_iff : parse judge key = .error why ↔
    ∃ segments body letters rest,
      Cuts judge key segments ((Segment.regex body letters).content ++ rest) ∧
        Unjudged judge why body letters rest := by
  constructor
  · intro h
    induction hn : key.length using Nat.strongRecOn generalizing key with
    | _ n ih =>
      subst hn
      cases key with
      | nil => simp [parse] at h
      | cons c text =>
        rcases parse_cons_error h with hnext | ⟨segment, rest, hnext, hrest⟩
        · obtain ⟨rfl, hr⟩ := next_eq_error_iff.1 hnext
          obtain ⟨body, letters, rest, rfl, hun⟩ := regex?_eq_error_iff.1 hr
          refine ⟨[], body, letters, rest, ?_, hun⟩
          simpa [Segment.content] using @Cuts.nil ε judge _
        · have hlength : rest.length < (c :: text).length := Nat.lt_succ_of_le (length_next hnext)
          obtain ⟨segments, body, letters, left, hcuts, hun⟩ := ih _ hlength hrest rfl
          exact ⟨segment :: segments, body, letters, left, .cons hnext hcuts, hun⟩
  · rintro ⟨segments, body, letters, rest, hcuts, hun⟩
    apply parse_of_cuts hcuts
    have hnext : next judge '/' (body ++ '/' :: (letters ++ rest)) = .error why :=
      next_eq_error_iff.2 ⟨rfl, regex?_eq_error_iff.2 ⟨body, letters, rest, rfl, hun⟩⟩
    have hcontent : (Segment.regex body letters).content ++ rest =
        '/' :: (body ++ '/' :: (letters ++ rest)) := by
      simp [Segment.content]
    rw [hcontent, parse]
    split
    · next hn =>
      rw [hnext] at hn
      obtain rfl := Except.error.inj hn
      rfl
    · next hn =>
      rw [hnext] at hn
      cases hn

theorem compiles_eq_error_iff {why : Refusal} :
    compiles flags body = .error why ↔ compile flags body = .error (.refused why) := by
  unfold compiles
  split
  · next hc => simp [hc]
  · next hc => simp [hc]
  · next why' hne hc =>
    rw [hc]
    constructor
    · intro h
      cases h
    · intro h
      exact (hne why (Except.error.inj h)).elim

theorem cuts_suffix (h : Cuts judge key found left) : left <:+ key := by
  induction h with
  | nil => exact List.suffix_refl _
  | cons hn _ ih =>
    obtain ⟨hcontent, -⟩ := next_tiles hn
    exact ih.trans ⟨_, hcontent.symm⟩

/-- A key without segments holds a candidate that is refused. -/
theorem refused_of_segments {why : Refusal} (h : segments key = .error why) :
    ∃ body letters flags, (Segment.regex body letters).content <:+: key ∧
      readFlags? letters = some flags ∧ compile flags body = .error (.refused why) := by
  obtain ⟨found, body, letters, rest, hcuts, hun⟩ := parse_eq_error_iff.1 h
  obtain ⟨flags, hflags, hjudge⟩ := hun.judged
  have hinfix : (Segment.regex body letters).content <:+: key :=
    (List.prefix_append _ rest).isInfix.trans (cuts_suffix hcuts).isInfix
  exact ⟨body, letters, flags, hinfix, hflags, compiles_eq_error_iff.1 hjudge⟩

theorem letterFlag?_level (h : letterFlag? c = some flags) : flags.Level {} := by
  unfold letterFlag? at h
  split at h <;> cases h <;> exact ⟨rfl, rfl, rfl⟩

/-- The flags after an embedded pattern say nothing of how it is read. -/
theorem unionFlags?_level (h : unionFlags? letters = some flags) : flags.Level {} := by
  induction letters generalizing flags with
  | nil =>
    obtain rfl := Option.some.inj h
    exact ⟨rfl, rfl, rfl⟩
  | cons c letters ih =>
    obtain ⟨flag, hflag, h⟩ := Option.bind_eq_some_iff.1 h
    obtain ⟨others, hothers, h⟩ := Option.bind_eq_some_iff.1 h
    obtain rfl := Option.some.inj h
    have hfirst := letterFlag?_level hflag
    have hrest := ih hothers
    constructor
    · simp [Flags.union, ← hfirst.verbose, ← hrest.verbose]
    · simp [Flags.union, ← hfirst.ascii, ← hrest.ascii]
    · simp [Flags.union, ← hfirst.unicode, ← hrest.unicode]

/-- Where a key has segments, their embedded patterns are not refused. -/
theorem segments_not_refused (h : segments key = .ok found) (hm : .regex body letters ∈ found) :
    ¬ Refused (compile {} body) := by
  obtain ⟨before, after, hsplit⟩ := List.append_of_mem hm
  have hstands : Embeds compiles body letters (after.flatMap Segment.content) :=
    (parse_tiles h).stands before _ after hsplit
  obtain ⟨flags, hflags, hjudge⟩ := hstands.accepted
  have hlevel : flags.Level {} := by
    unfold readFlags? at hflags
    split at hflags
    · exact unionFlags?_level hflags
    · cases hflags
  unfold compiles at hjudge
  split at hjudge
  · next pattern hcompile => exact compile_not_refused hlevel hcompile
  · cases hjudge
  · cases hjudge

/-! ## The joined pattern -/

theorem draft_not_refused {alternatives : Text}
    (h : ∀ body letters, .regex body letters ∈ found → ¬ Refused (compile {} body)) :
    ¬ Refused (draft alternatives group found) := by
  induction found generalizing group with
  | nil => exact not_refused_ok _
  | cons segment found ih =>
    have htail (group : Nat) : ¬ Refused (draft alternatives group found) :=
      ih fun body letters hm => h body letters (List.mem_cons_of_mem _ hm)
    cases segment with
    | literal text => exact not_refused_bind (htail _) fun _ => not_refused_ok _
    | regex body letters =>
      unfold draft
      split
      · exact htail _
      · have hbody := h body letters (List.mem_cons_self ..)
        exact not_refused_bind hbody fun _ => not_refused_bind (htail _) fun _ => not_refused_ok _
    | slot which => exact not_refused_bind (htail _) fun _ => not_refused_ok _

/-- A body that is not refused by itself is not refused between parentheses. -/
theorem readAll_body_not_refused {alone : Pattern} (hc : compile {} body = .ok alone)
    (root : AtRoot reading) :
    ¬ Refused (reading.openNext.readAll (Token.ofText body)) := by
  obtain ⟨whole, hw, -⟩ := compile_eq_ok.1 hc
  exact ((inside_inStep (by simp)).readAll hw (inside_start root.global)).1

theorem readAll_draft_not_refused (h : draft (alternation keys) group found = .ok made)
    (root : AtRoot reading) (hg : group = reading.groups.count + 1)
    (hmore : ∀ next : Reading, AtRoot next → ¬ Refused (next.readAll (Token.ofText more))) :
    ¬ Refused (reading.readAll (Token.ofText (made.source ++ more))) := by
  induction found generalizing reading group made with
  | nil =>
    obtain rfl := Except.ok.inj h
    exact hmore reading root
  | cons segment found ih =>
    subst hg
    cases segment with
    | literal text =>
      obtain ⟨tail, ht, h⟩ := bind_eq_ok.1 h
      obtain rfl := Except.ok.inj h
      rw [List.append_assoc, readAll_quote root.flags]
      exact ih ht (atRoot_pushAll captures_char root) rfl
    | regex body letters =>
      unfold draft at h
      split at h
      · exact ih h root rfl
      · obtain ⟨alone, hc, h⟩ := bind_eq_ok.1 h
        obtain ⟨tail, ht, h⟩ := bind_eq_ok.1 h
        obtain rfl := Except.ok.inj h
        have hsource : '(' :: body ++ ')' :: tail.source ++ more =
            '(' :: body ++ ')' :: (tail.source ++ more) := by simp
        rw [hsource, readAll_body hc root]
        intro hrefused
        rcases refused_bind.1 hrefused with hrefused | ⟨joined, hj, hrefused⟩
        · exact readAll_body_not_refused hc root hrefused
        · obtain ⟨width, next, hclose, hnext, -, hcount, -⟩ := close_body hc root hj
          rw [readAll_close hclose] at hrefused
          exact ih ht hnext (by omega) hrefused
    | slot which =>
      obtain ⟨tail, ht, h⟩ := bind_eq_ok.1 h
      obtain rfl := Except.ok.inj h
      obtain ⟨width, hread⟩ :=
        readAll_anySlot keys root.flags root.global which (tail.source ++ more)
      rw [List.append_assoc, hread]
      exact ih ht (atRoot_pushSlot width which root) rfl

/-- Segments whose embedded patterns are not refused join to a pattern that is not refused. -/
theorem join_not_refused
    (h : ∀ body letters, .regex body letters ∈ found → ¬ Refused (compile {} body)) :
    ¬ Refused (join found keys) := by
  intro hrefused
  rcases refused_bind.1 hrefused with hrefused | ⟨made, hd, hrefused⟩
  · exact draft_not_refused h hrefused
  rcases refused_bind.1 hrefused with hrefused | ⟨pattern, -, hrefused⟩
  · have hend (next : Reading) (root : AtRoot next) :
        ¬ Refused (next.readAll (Token.ofText ['$'])) := by
      rw [readAll_end root]
      exact not_refused_ok _
    rw [List.cons_append] at hrefused
    rcases refused_bind.1 hrefused with hrefused | ⟨last, hlast, hrefused⟩
    · rw [readAll_started] at hrefused
      exact readAll_draft_not_refused hd atRoot_started rfl hend hrefused
    · rcases refused_bind.1 hrefused with hrefused | ⟨result, -, hrefused⟩
      · -- The pattern as a whole sets no flags, as its first anchor stands before all that could.
        rw [readAll_started, readAll_eq_ok] at hlast
        obtain ⟨parts, next, -, -, -, -, root, hr⟩ := reads_draft hd atRoot_started rfl hlast
        rw [← readAll_eq_ok, readAll_end root] at hr
        obtain rfl := Except.ok.inj hr
        obtain ⟨-, hascii, -⟩ := finish_refused_iff.1 hrefused
        have hglobal : (next.pushAnchor .lastLineEnd).global = {} := root.global
        rw [hglobal] at hascii
        cases hascii
      · exact not_refused_ok _ hrefused
  · exact not_refused_ok _ hrefused

/-! ## Matching -/

theorem target_isOk (h : segments key = .ok found) (table : List Mapping) :
    ∃ aim, target found table = .ok aim := by
  have hbodies : ∀ body letters, .regex body letters ∈ found → ¬ Refused (compile {} body) :=
    fun body letters => segments_not_refused h
  simp only [target]
  split
  · exact ⟨_, rfl⟩
  · split
    · next why hjoin => exact (join_not_refused hbodies ⟨why, hjoin⟩).elim
    · exact ⟨_, rfl⟩
    · exact ⟨_, rfl⟩

/-- Where a key has segments, every input has an answer. -/
theorem matchSegments_isOk (h : segments key = .ok found) (table : List Mapping) (mode : SlotMode)
    (input : Text) : ∃ result, matchSegments found table mode input = .ok result := by
  obtain ⟨aim, haim⟩ := target_isOk h table
  unfold matchSegments
  rw [haim]
  cases aim with
  | pattern joined => exact ⟨_, rfl⟩
  | nothing => exact ⟨_, rfl⟩
  | uncompilable => exact ⟨_, rfl⟩

/-- There is no answer to whether an input matches just where a key has no segments. -/
theorem matchInput_eq_error_iff {table : List Mapping} {mode : SlotMode} {input : Text}
    {e : MatchError} : matchInput key table mode input = .error e ↔
      ∃ why, segments key = .error why ∧ e = .refused why := by
  unfold matchInput
  cases hs : segments key with
  | error why =>
    constructor
    · intro h
      exact ⟨why, rfl, (Except.error.inj h).symm⟩
    · rintro ⟨why', hwhy, rfl⟩
      obtain rfl := Except.error.inj hwhy
      rfl
  | ok found =>
    obtain ⟨result, hresult⟩ := matchSegments_isOk hs table mode input
    simp only [hresult]
    constructor
    · intro h
      cases h
    · rintro ⟨why, h, -⟩
      cases h

/-- A candidate whose groups at its start ask for ASCII and for Unicode. -/
example : segments "x/(?a)(?u)b/".toList = .error .asciiAndUnicode := by
  rw [segments, parse_eq_error_iff]
  refine ⟨[.literal ['x']], "(?a)(?u)b".toList, [], [], ?_, ?_⟩
  · exact .cons (by decide +kernel) (.nil _)
  · exact ⟨by decide, by decide, by decide, by simp [AtMark], {}, rfl, by decide +kernel⟩

end NameSlots.Key
