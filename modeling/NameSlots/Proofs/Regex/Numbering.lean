import NameSlots.Proofs.Regex.Reading

/-! Groups get their numbers in the order in which their parentheses open. -/
namespace NameSlots.Regex

variable {reading next last : Reading} {tokens : List Token} {item : Item}

/-- The groups that have been opened so far, in the order of their parentheses. -/
def Reading.captures (reading : Reading) : List Nat :=
  reading.below.reverse.flatMap Frame.captures ++ reading.top.captures

/-- The groups that have been opened are numbered without gaps, and only the pattern as a whole is
open below all parentheses. -/
structure Numbered (reading : Reading) : Prop where
  captures : reading.captures = List.range' 1 reading.groups.count
  barless : ∀ frame ∈ reading.top :: reading.below, frame.Barless
  rooted : ∀ root ∈ (reading.top :: reading.below).getLast?, root.opener = .whole

theorem numbered_start (flags : Flags) : Numbered (.start flags) := by
  refine ⟨rfl, ?_, by simp [Reading.start]⟩
  intro frame hf group yes ho
  obtain rfl : frame = _ := by simpa [Reading.start] using hf
  rfl

/-- Only the frame at the bottom of all has to stay the whole. -/
theorem rooted_of_top {top top' : Frame} {below : List Frame}
    (h : ∀ root ∈ (top :: below).getLast?, root.opener = .whole)
    (ht : top.opener = .whole → top'.opener = .whole) :
    ∀ root ∈ (top' :: below).getLast?, root.opener = .whole := by
  cases below with
  | nil => simpa using ht (h top (by simp))
  | cons frame below => simpa using h

theorem numbered_keeps (h : Keeps reading next) (hn : Numbered reading) : Numbered next := by
  have ht : next.top.captures = reading.top.captures := by
    simp [Frame.captures, h.opener, h.branches, h.captures]
  refine ⟨by simpa [Reading.captures, ht, h.below, h.groups] using hn.captures, ?_, ?_⟩
  · intro frame hf
    rw [h.below] at hf
    obtain rfl | hf := List.mem_cons.1 hf
    · intro group yes ho
      rw [h.branches]
      exact hn.barless _ (by simp) group yes (h.opener ▸ ho)
    · exact hn.barless frame (by simp [hf])
  · exact h.below ▸ rooted_of_top hn.rooted fun he => h.opener.trans he

theorem opens_eq_range (item : Item) (count : Nat) :
    item.opens count = List.range' (1 + count) (item.opens count).length := by
  cases item <;> simp [Item.opens, Nat.add_comm]

theorem captures_openFrame (reading : Reading) (opener : Opener) (flags : Flags) :
    (reading.openFrame opener flags).captures = reading.captures ++ opener.captures := by
  simp [Reading.captures, Reading.openFrame, Frame.captures, capturesOf]

theorem numbered_opens (ho : item.isOpening = true) (h : reading.take item = .ok next)
    (hn : Numbered reading) : Numbered next := by
  obtain ⟨opener, groups, -, hc, hg, rfl⟩ := take_opens ho h
  constructor
  · rw [captures_openFrame, hc, opens_eq_range]
    have hr : (List.flatMap Frame.captures reading.below.reverse ++ reading.top.captures) =
        List.range' 1 reading.groups.count := hn.captures
    simp only [Reading.captures, hr, List.range'_append_1, Reading.openFrame, hg]
  · intro frame hf
    obtain rfl | hf := List.mem_cons.1 hf
    · intro group yes _
      rfl
    · exact hn.barless frame hf
  · simpa [Reading.openFrame] using hn.rooted

theorem numbered_bars (h : Bars reading next) (hn : Numbered reading) : Numbered next := by
  have hb := hn.barless _ (List.mem_cons_self ..)
  refine ⟨by simpa [Reading.captures, h.captures hb, h.below, h.groups] using hn.captures, ?_, ?_⟩
  · intro frame hf
    rw [h.below] at hf
    obtain rfl | hf := List.mem_cons.1 hf
    · exact h.barless hb
    · exact hn.barless frame (by simp [hf])
  · refine h.below ▸ rooted_of_top hn.rooted fun he => ?_
    obtain ho | ⟨group, yes, ho, -⟩ := h.opener
    · exact ho.trans he
    · simp [he] at ho

theorem captures_push (frame : Frame) (piece : Piece) :
    (frame.push piece).captures = frame.captures ++ piece.captures := by
  simp [Frame.captures, Frame.push, capturesOf]

theorem numbered_closes {frame : Frame} {piece : Piece} (h : Closes reading next frame piece)
    (hn : Numbered reading) : Numbered next := by
  constructor
  · have hr := hn.captures
    simp only [Reading.captures, h.below, List.reverse_cons, List.flatMap_append] at hr
    simp only [Reading.captures, h.top, captures_push, h.captures, h.count, ← hr]
    simp
  · intro f hf
    obtain rfl | hf := List.mem_cons.1 hf
    · rw [h.top]
      exact hn.barless frame (by simp [h.below])
    · exact hn.barless f (by simp [h.below, hf])
  · have hr := hn.rooted
    rw [h.below, List.getLast?_cons_cons] at hr
    exact rooted_of_top hr fun he => by rw [h.top]; exact he

theorem numbered_global {add : Flags} (h : reading.setGlobal add = .ok next)
    (hn : Numbered reading) : Numbered next := by
  simp only [Reading.setGlobal] at h
  split at h
  · obtain rfl := Except.ok.inj h
    refine ⟨hn.captures, fun frame hf => ?_, rooted_of_top hn.rooted id⟩
    obtain rfl | hf := List.mem_cons.1 hf
    · exact hn.barless reading.top (List.mem_cons_self ..)
    · exact hn.barless frame (by simp [hf])
  · simp [malformed] at h

theorem numbered_take (h : reading.take item = .ok next) (hn : Numbered reading) :
    Numbered next := by
  obtain hi | ho | rfl | rfl | ⟨add, rfl⟩ := item.kinds
  · exact numbered_keeps (take_keeps hi h) hn
  · exact numbered_opens ho h hn
  · exact numbered_bars (bar_bars h) hn
  · obtain ⟨frame, piece, hc⟩ := close_closes h
    exact numbered_closes hc hn
  · exact numbered_global h hn

theorem numbered_reads (h : Reads reading tokens last) (hn : Numbered reading) : Numbered last := by
  induction h with
  | nil => exact hn
  | cons _ ht _ ih => exact ih (numbered_take ht hn)

theorem compile_eq_ok {flags : Flags} {source : Text} {pattern : Pattern} :
    compile flags source = .ok pattern ↔ ∃ last, Reads (.start flags) (Token.ofText source) last ∧
      last.finish = .ok (pattern.node, pattern.groups) := by
  constructor
  · intro h
    obtain ⟨last, hr, h⟩ := bind_eq_ok.1 h
    obtain ⟨⟨node, groups⟩, hf, h⟩ := bind_eq_ok.1 h
    obtain rfl := Except.ok.inj h
    exact ⟨last, readAll_eq_ok.1 hr, hf⟩
  · rintro ⟨last, hr, hf⟩
    exact bind_eq_ok.2 ⟨last, readAll_eq_ok.2 hr, bind_eq_ok.2 ⟨_, hf, rfl⟩⟩

theorem finish_eq_ok {found : Node × Nat} (h : reading.finish = .ok found) :
    reading.below = [] ∧ found = (reading.top.body.node, reading.groups.count) := by
  unfold Reading.finish at h
  split at h
  · simp [malformed] at h
  · next hb =>
    refine ⟨by simpa using hb, ?_⟩
    split at h
    · simp at h
    · split at h
      · simp [malformed] at h
      · split at h
        · simp [malformed] at h
        · exact (Except.ok.inj h).symm

/-- The parentheses of a pattern that compiles capture the groups from 1 on, in their order. -/
theorem compile_captures {flags : Flags} {source : Text} {pattern : Pattern}
    (h : compile flags source = .ok pattern) :
    pattern.node.captures = List.range' 1 pattern.groups := by
  obtain ⟨last, hr, hf⟩ := compile_eq_ok.1 h
  obtain ⟨hb, hp⟩ := finish_eq_ok hf
  obtain ⟨hn, hg⟩ := Prod.mk.inj hp
  have hl := numbered_reads hr (numbered_start flags)
  have hw : last.top.opener = .whole := hl.rooted last.top (by simp [hb])
  have hc := hl.captures
  simp only [Reading.captures, hb, Frame.captures, hw, Opener.captures, List.reverse_nil,
    List.flatMap_nil, List.nil_append] at hc
  rw [hn, hg, ← hc]
  exact captures_body last.top

end NameSlots.Regex
