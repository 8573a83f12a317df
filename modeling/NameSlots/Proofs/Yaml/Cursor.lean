import Mathlib.Tactic.Common
import NameSlots.Yaml.Cursor

/-! What a place in a text sees, and where the places after it are. -/
namespace NameSlots.Yaml

/-- A space is neither a line end nor the end of the text. -/
theorem isBreak_space : isBreak ' ' = false := by decide

theorem isGap_space : isGap ' ' = true := by decide

theorem isGap_lineFeed : isGap '\n' = true := by decide

theorem isGap_of_isBreak {c : Char} (h : isBreak c = true) : isGap c = true := by
  simp [isGap, isSpaceOrEnd, isLineEnd, h]

theorem isGap_eq_false_iff {c : Char} : isGap c = false ↔
    c ≠ '\t' ∧ c ≠ ' ' ∧ c ≠ endMark ∧ isBreak c = false := by
  simp [isGap, isSpaceOrEnd, isLineEnd]

namespace Cursor

variable {cursor : Cursor} {c d : Char} {t rest : Text} {accept : Char → Bool}

@[simp] theorem rest_next (cursor : Cursor) : cursor.next.rest = cursor.rest.tail := by
  unfold next
  split
  · next h => simp [h]
  · next h =>
    rw [h]
    split
    · rfl
    · split <;> rfl

@[simp] theorem rest_advance (cursor : Cursor) (n : Nat) :
    (cursor.advance n).rest = cursor.rest.drop n := by
  induction n generalizing cursor with
  | zero => rfl
  | succ n ih => simp [advance, ih]

theorem peek_of_rest (h : cursor.rest = c :: rest) : cursor.peek = c := by simp [peek, h]

theorem peek_of_nil (h : cursor.rest = []) : cursor.peek = endMark := by simp [peek, h]

theorem peekAt_one (h : cursor.rest = c :: rest) : cursor.peekAt 1 = rest.headD endMark := by
  cases rest <;> simp [peekAt, h]

/-! ## Lines and columns -/

/-- Whether a character takes one column. -/
def isWide (c : Char) : Bool := !isBreak c && c != Char.ofNat 0xFEFF

theorem next_of_isWide (h : cursor.rest = c :: rest) (hc : isWide c = true) :
    cursor.next = { cursor with rest, index := cursor.index + 1, column := cursor.column + 1 } := by
  simp only [isWide, isBreak, Bool.and_eq_true, Bool.not_eq_true', Bool.or_eq_false_iff,
    bne_iff_ne, ne_eq] at hc
  obtain ⟨⟨⟨⟨⟨hfeed, hreturn⟩, hnext⟩, hline⟩, hparagraph⟩, hmark⟩ := hc
  unfold next
  rw [h]
  simp [hfeed, hreturn, hnext, hline, hparagraph, hmark]

theorem next_of_lineFeed (h : cursor.rest = '\n' :: rest) : cursor.next =
    { rest, index := cursor.index + 1, line := cursor.line + 1, column := 0 } := by
  simp [next, h]

/-- Characters of one column each are passed on the line that they stand on. -/
theorem advance_of_isWide (h : cursor.rest = t ++ rest) (ht : ∀ c ∈ t, isWide c = true) :
    cursor.advance t.length = { cursor with
      rest, index := cursor.index + t.length, column := cursor.column + t.length } := by
  induction t generalizing cursor with
  | nil =>
    obtain ⟨_, index, line, column⟩ := cursor
    simp_all [advance]
  | cons c t ih =>
    obtain ⟨hc, ht⟩ := List.forall_mem_cons.1 ht
    have hnext := next_of_isWide h hc
    rw [List.length_cons, advance, ih (by rw [hnext]; rfl) ht, hnext]
    simp [Nat.add_assoc, Nat.add_comm 1]

theorem advance_spaces {n : Nat} (h : cursor.rest = List.replicate n ' ' ++ rest) :
    cursor.advance n = { cursor with
      rest, index := cursor.index + n, column := cursor.column + n } := by
  have hwide : ∀ c ∈ List.replicate n ' ', isWide c = true := fun c hc => by
    rw [List.eq_of_mem_replicate hc]
    decide
  simpa using advance_of_isWide h hwide

/-! ## Runs of characters -/

theorem takeWhile_eq (h : cursor.rest = t ++ rest) (ht : ∀ c ∈ t, accept c = true)
    (hr : ∀ c ∈ rest.head?, accept c = false) :
    cursor.takeWhile accept = (t, cursor.advance t.length) := by
  have htaken : cursor.rest.takeWhile accept = t := by
    rw [h, List.takeWhile_append_of_pos ht]
    cases rest with
    | nil => simp
    | cons c rest => simp [hr c rfl]
  simp [takeWhile, htaken]

/-- Where nothing of a kind comes next, nothing is passed. -/
theorem takeWhile_nil (h : ∀ c ∈ cursor.rest.head?, accept c = false) :
    cursor.takeWhile accept = ([], cursor) :=
  takeWhile_eq (t := []) rfl (by simp) h

/-- What a line end of one character counts as in text. -/
def asRead (c : Char) : Char := if c == nextLine then '\n' else c

theorem takeBreak_of_isBreak (h : cursor.rest = c :: rest) (hb : isBreak c = true) (hr : c ≠ '\r') :
    cursor.takeBreak = ([asRead c], cursor.next) := by
  unfold takeBreak
  rw [h]
  split
  · next he => exact (hr (List.cons.inj he).1).elim
  · next he =>
    obtain ⟨rfl, rfl⟩ := List.cons.inj he
    by_cases hn : c = nextLine
    · simp [hn, asRead]
    · by_cases hfeed : c = '\n'
      · simp [hfeed, asRead]
      · have hline : c = lineSeparator ∨ c = paragraphSeparator := by
          simpa [isBreak, hr, hn, hfeed] using hb
        simp [hr, hn, hfeed, hline, asRead]
  · next he => cases he

theorem atMark_eq_false (mark : Char) (h : cursor.rest = c :: rest) (hne : c ≠ mark) :
    cursor.atMark mark = false := by
  simp [atMark, h, List.replicate, hne]

/-- No separator of documents starts at other characters than hyphens and points. -/
theorem atSeparator_eq_false (h : ∀ c ∈ cursor.rest.head?, c ≠ '-' ∧ c ≠ '.') :
    cursor.atSeparator = false := by
  unfold atSeparator
  cases hr : cursor.rest with
  | nil => simp [atMark, hr, List.replicate]
  | cons c rest =>
    obtain ⟨hhyphen, hpoint⟩ := h c (by simp [hr])
    rw [atMark_eq_false _ hr hhyphen, atMark_eq_false _ hr hpoint]
    rfl

end Cursor
end NameSlots.Yaml
