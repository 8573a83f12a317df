import Mathlib.Data.List.Forall2
import NameSlots.Proofs.Regex.Numbering

/-! A pattern that compiles by itself is read in the same items inside the parentheses of a group,
and its own groups get the numbers that follow. -/
namespace NameSlots.Regex

/-- An open parenthesis of a pattern by itself, and what it is inside the parentheses of a group:
these take the place of the whole. -/
structure Twin (group : Nat) (alone joined : Frame) : Prop where
  flags : joined.flags = alone.flags
  whole : alone.opener = .whole → alone.flags.verbose = false ∧ joined.opener = .capture group
  inside : joined.opener ≠ .whole

/-- The states of reading a pattern by itself and inside the parentheses of a group around which
`outer` is open. -/
structure Inside (group : Nat) (outer : List Frame) (alone joined : Reading) : Prop where
  count : joined.groups.count = alone.groups.count + group
  frames : ∃ inner, joined.below = inner ++ outer ∧
    List.Forall₂ (Twin group) (alone.top :: alone.below) (joined.top :: inner)
  alone_global : alone.global.verbose = false
  joined_global : joined.global = {}

variable {alone alone' joined joined' last : Reading} {group : Nat} {outer : List Frame}
  {tokens : List Token} {item : Item}

theorem inside_keeps (h : Inside group outer alone joined) (ha : Keeps alone alone')
    (hj : Keeps joined joined') : Inside group outer alone' joined' := by
  obtain ⟨inner, hb, hf⟩ := h.frames
  obtain ⟨ht, hf⟩ := List.forall₂_cons.1 hf
  refine ⟨by rw [ha.groups, hj.groups, h.count], ⟨inner, hj.below.trans hb, ?_⟩,
    by rw [ha.global, h.alone_global], hj.global.trans h.joined_global⟩
  rw [ha.below]
  refine .cons ⟨by rw [hj.flags, ha.flags, ht.flags], ?_, ?_⟩ hf
  · rw [ha.opener, ha.flags, hj.opener]
    exact ht.whole
  · rw [hj.opener]
    exact ht.inside

theorem inside_opens (h : Inside group outer alone joined) (ho : item.isOpening = true)
    (ha : alone.take item = .ok alone') (hj : joined.take item = .ok joined') :
    Inside group outer alone' joined' := by
  obtain ⟨oa, ga, hwa, -, hca, rfl⟩ := take_opens ho ha
  obtain ⟨oj, gj, hwj, -, hcj, rfl⟩ := take_opens ho hj
  obtain ⟨inner, hb, hf⟩ := h.frames
  have ht := (List.forall₂_cons.1 hf).1
  refine ⟨?_, ⟨joined.top :: inner, by simp [Reading.openFrame, hb], ?_⟩, h.alone_global,
    h.joined_global⟩
  · have hl (n m : Nat) : (item.opens n).length = (item.opens m).length := by
      cases item <;> rfl
    have := h.count
    have := hl joined.groups.count alone.groups.count
    simp only [Reading.openFrame, hca, hcj]
    omega
  · refine .cons ⟨?_, fun he => (hwa he).elim, hwj⟩ hf
    simp only [Reading.openFrame, ht.flags]

theorem inside_bars (h : Inside group outer alone joined) (ha : Bars alone alone')
    (hj : Bars joined joined') : Inside group outer alone' joined' := by
  obtain ⟨inner, hb, hf⟩ := h.frames
  obtain ⟨ht, hf⟩ := List.forall₂_cons.1 hf
  refine ⟨by rw [ha.groups, hj.groups, h.count], ⟨inner, hj.below.trans hb, ?_⟩,
    by rw [ha.global, h.alone_global], hj.global.trans h.joined_global⟩
  rw [ha.below]
  have hflags : alone'.top.flags = alone.top.flags := by
    by_cases hw : alone.top.opener = .whole
    · rw [ha.whole hw, h.alone_global, ← (ht.whole hw).1]
    · exact ha.flags hw
  refine .cons ⟨by rw [hj.flags ht.inside, hflags, ht.flags], ?_, ?_⟩ hf
  · intro hw
    obtain ho | ⟨g, yes, -, ho⟩ := ha.opener
    · obtain ⟨hv, hc⟩ := ht.whole (ho.symm.trans hw)
      refine ⟨hflags ▸ hv, ?_⟩
      obtain hj | ⟨g, yes, hj, -⟩ := hj.opener
      · exact hj.trans hc
      · simp [hc] at hj
    · simp [hw] at ho
  · obtain hj | ⟨g, yes, -, hj⟩ := hj.opener
    · exact hj ▸ ht.inside
    · simp [hj]

theorem inside_closes (h : Inside group outer alone joined) {fa fj : Frame} {pa pj : Piece}
    (ha : Closes alone alone' fa pa) (hj : Closes joined joined' fj pj) :
    Inside group outer alone' joined' := by
  obtain ⟨inner, hb, hf⟩ := h.frames
  obtain ⟨-, hf⟩ := List.forall₂_cons.1 hf
  rw [ha.below] at hf
  obtain ⟨f, inner', ht, hf', rfl⟩ := List.forall₂_cons_left_iff.1 hf
  rw [hj.below, List.cons_append, List.cons.injEq] at hb
  obtain ⟨rfl, hb⟩ := hb
  refine ⟨by rw [ha.count, hj.count, h.count], ⟨inner', hb, ?_⟩,
    by rw [ha.global, h.alone_global], hj.global.trans h.joined_global⟩
  rw [ha.top, hj.top]
  exact .cons ⟨ht.flags, ht.whole, ht.inside⟩ hf'

/-- An item does the same inside the parentheses as in the pattern by itself. -/
theorem inside_take (h : Inside group outer alone joined) (hne : outer ≠ [])
    (ha : alone.take item = .ok alone') (hj : joined.take item = .ok joined') :
    Inside group outer alone' joined' := by
  obtain hi | ho | rfl | rfl | ⟨add, rfl⟩ := item.kinds
  · exact inside_keeps h (take_keeps hi ha) (take_keeps hi hj)
  · exact inside_opens h ho ha hj
  · exact inside_bars h (bar_bars ha) (bar_bars hj)
  · obtain ⟨fa, pa, hca⟩ := close_closes ha
    obtain ⟨fj, pj, hcj⟩ := close_closes hj
    exact inside_closes h hca hcj
  · -- Flags for the pattern as a whole may stand at its start only.
    obtain ⟨inner, hb, -⟩ := h.frames
    simp only [Reading.take, Reading.setGlobal, hb] at hj
    split at hj
    · next hs => simp [hne] at hs
    · simp [malformed] at hj

theorem inside_verbose (h : Inside group outer alone joined) :
    joined.top.flags.verbose = alone.top.flags.verbose := by
  obtain ⟨inner, -, hf⟩ := h.frames
  rw [(List.forall₂_cons.1 hf).1.flags]

theorem inside_reads (ha : Reads alone tokens last) (h : Inside group outer alone joined)
    (hne : outer ≠ []) (hj : Reads joined tokens joined') : Inside group outer last joined' := by
  induction ha generalizing joined with
  | nil =>
    cases hj
    exact h
  | cons hr ht _ ih =>
    cases hj with
    | cons hr' ht' hj =>
      rw [inside_verbose h, hr] at hr'
      obtain ⟨rfl, rfl⟩ := Prod.mk.inj (Except.ok.inj hr')
      exact ih (inside_take h hne ht ht') hj

/-- Inside the parentheses the pattern is read to its end, and then what follows is read. -/
theorem readAll_inside (ha : Reads alone tokens last) (hb : last.below = []) (hn : Numbered alone)
    (h : Inside group outer alone joined) (hne : outer ≠ []) (more : List Token) :
    joined.readAll (tokens ++ .plain ')' :: more) =
      joined.readAll tokens >>= fun last => last.readAll (.plain ')' :: more) := by
  induction ha generalizing joined with
  | nil => rfl
  | @cons alone next last token rest left item hr ht htail ih =>
    have hv := inside_verbose h
    have hs (more : List Token) (he : Item.read alone.top.flags.verbose token (rest ++ more) =
        .ok (item, left ++ more)) : joined.step token (rest ++ more) =
          (joined.take item).map fun next => (next, left ++ more) := by
      unfold Reading.step
      rw [hv, he]
      change (joined.take item >>= fun next => pure (next, left ++ more)) = _
      cases joined.take item <;> rfl
    have hs' := hs [] (by simpa using hr)
    simp only [List.append_nil] at hs'
    obtain ⟨-, -, ⟨hverb, rfl, rfl⟩ | he⟩ := read_local hr
    · -- A comment to the end leaves its parenthesis open: only the whole has no blanks to skip.
      exfalso
      obtain rfl := Except.ok.inj ht
      cases htail
      obtain ⟨inner, -, hf⟩ := h.frames
      have hw := hn.rooted alone.top (by simp [hb])
      have hp := ((List.forall₂_cons.1 hf).1.whole hw).1
      simp [hp] at hverb
    · rw [List.cons_append, readAll_cons, readAll_cons, hs _ (he more), hs']
      cases hj : joined.take item with
      | error why => rfl
      | ok joined' => exact ih hb (numbered_take ht hn) (inside_take h hne ht hj)

end NameSlots.Regex
