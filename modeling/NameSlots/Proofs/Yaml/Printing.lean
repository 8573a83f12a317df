import NameSlots.Proofs.Yaml.Lexer

/-! What printers write is read from a file as it stands there. -/
namespace NameSlots.Yaml

/-- Whether a character may stand in a document and is read from a file as it is. -/
def isWritten (c : Char) : Bool := isPrintable c && c != '\r'

variable {c : Char} {t : Text} {character : Char → Text} {indent column : Nat} {first : Bool}

theorem isWritten_iff : isWritten c = true ↔ isPrintable c = true ∧ c ≠ '\r' := by
  rw [isWritten, Bool.and_eq_true, bne_iff_ne]

theorem isWritten_of_isSpecial (h : isSpecial c = false) : isWritten c = true := by
  refine isWritten_iff.2 ⟨?_, ne_return_of_isSpecial h⟩
  simp only [isSpecial, Bool.not_eq_false', Bool.or_eq_true, Bool.and_eq_true, beq_iff_eq,
    decide_eq_true_eq] at h
  simp only [isPrintable, Bool.or_eq_true, Bool.and_eq_true, beq_iff_eq, decide_eq_true_eq]
  rcases h with (((rfl | h) | h) | h) | h
  · decide
  all_goals omega

theorem isWritten_of_ascii (h : 0x20 ≤ c.toNat) (h' : c.toNat ≤ 0x7E) : isWritten c = true := by
  refine isWritten_iff.2 ⟨by simp [isPrintable, h, h'], ?_⟩
  rintro rfl
  exact absurd h (by decide)

theorem isWritten_of_isDigit (h : c.isDigit = true) : isWritten c = true := by
  simp only [Char.isDigit, Bool.and_eq_true, decide_eq_true_eq, UInt32.le_iff_toNat_le] at h
  exact isWritten_of_ascii (le_trans (by decide) h.1) (le_trans h.2 (by decide))

theorem isWritten_isName {name : Text} (h : Lexing.isName name = true) :
    ∀ c ∈ name, isWritten c = true := by
  intro c hc
  obtain ⟨-, hchars, -⟩ := Lexing.isName_iff.1 h
  rcases Bool.or_eq_true_iff.1 (hchars c hc) with h | h
  · obtain ⟨hlow, hhigh⟩ := Bool.and_eq_true_iff.1 h
    exact isWritten_of_ascii (le_trans (by decide) (UInt32.le_iff_toNat_le.1 (of_decide_eq_true hlow)))
      (le_trans (UInt32.le_iff_toNat_le.1 (of_decide_eq_true hhigh)) (by decide))
  · rw [eq_of_beq h]
    decide

theorem mem_newLine (h : c ∈ newLine indent) : c = '\n' ∨ c = ' ' :=
  (List.mem_cons.1 h).imp_right List.eq_of_mem_replicate

/-- Runs are written with the characters of their text, line feeds and spaces. -/
theorem mem_writeRuns {rs : List Text} (h : c ∈ writeRuns character indent first column rs) :
    (∃ d ∈ rs.flatten, c ∈ character d ∨ c = d) ∨ c = '\n' ∨ c = ' ' := by
  induction rs generalizing first column with
  | nil => exact absurd h List.not_mem_nil
  | cons run rs ih =>
    have hmore {first : Bool} {column : Nat} (h : c ∈ writeRuns character indent first column rs) :
        (∃ d ∈ (run :: rs).flatten, c ∈ character d ∨ c = d) ∨ c = '\n' ∨ c = ' ' :=
      (ih h).imp_left fun ⟨d, hd, hc⟩ => ⟨d, List.mem_append_right run hd, hc⟩
    rw [writeRuns] at h
    split at h
    · rcases List.mem_append.1 h with h | h
      · exact Or.inr (mem_newLine h)
      · exact hmore h
    · split at h
      · simp only [List.mem_append, List.mem_filter] at h
        rcases h with ((h | h) | h) | h
        · exact Or.inl ⟨c, List.mem_append_left _ (List.mem_of_mem_take h.1), Or.inr rfl⟩
        · exact Or.inl ⟨c, List.mem_append_left _ h, Or.inr rfl⟩
        · exact Or.inr (Or.inr (List.eq_of_mem_replicate h))
        · exact hmore h
      · rcases List.mem_append.1 h with h | h
        · obtain ⟨d, hd, hc⟩ := List.mem_flatMap.1 h
          exact Or.inl ⟨d, List.mem_append_left _ hd, Or.inl hc⟩
        · exact hmore h

theorem isWritten_escape {shown : Text} (he : escape? c = some shown) :
    ∀ d ∈ shown, isWritten d = true := by
  have hcode (mark : Char) (count : Nat) (hmark : isWritten mark = true) :
      ∀ d ∈ '\\' :: mark :: (Text.hexDigits count c.toNat).map Char.toUpper, isWritten d = true := by
    refine List.forall_mem_cons.2 ⟨by decide, List.forall_mem_cons.2 ⟨hmark, fun d hd => ?_⟩⟩
    obtain ⟨digit, hdigit, rfl⟩ := List.mem_map.1 hd
    obtain ⟨m, hm, rfl⟩ := Text.exists_of_mem_hexDigits hdigit
    have : ∀ m < 16, isWritten (Text.hexDigit m).toUpper = true := by decide
    exact this m hm
  unfold escape? at he
  split at he
  · next letter hl =>
    cases he
    refine List.forall_mem_cons.2 ⟨by decide, List.forall_mem_cons.2 ⟨?_, by simp⟩⟩
    unfold escapeLetter? at hl
    split at hl
    case h_12 => split_ifs at hl <;> cases hl <;> decide
    all_goals cases hl; decide
  · dsimp only at he
    split_ifs at he with hplain hbyte hunit <;> cases he
    · exact hcode 'x' 2 (by decide)
    · exact hcode 'u' 4 (by decide)
    · exact hcode 'U' 8 (by decide)

theorem isWritten_of_escape?_none (h : escape? c = none) : isWritten c = true := by
  unfold escape? at h
  split at h
  · cases h
  · dsimp only at h
    split_ifs at h with hplain
    refine isWritten_iff.2 ⟨?_, by rintro rfl; exact absurd hplain (by decide)⟩
    simp only [Bool.or_eq_true, Bool.and_eq_true, decide_eq_true_eq] at hplain
    simp only [isPrintable, Bool.or_eq_true, Bool.and_eq_true, beq_iff_eq, decide_eq_true_eq]
    omega

theorem isWritten_breakQuoted (t : Text) : ∀ c ∈ breakQuoted indent t, isWritten c = true := by
  intro c hc
  rcases List.mem_append.1 hc with hc | hc
  · rcases List.mem_cons.1 hc with rfl | hc
    · decide
    · rcases mem_newLine hc with rfl | rfl <;> decide
  · split at hc
    · rw [List.mem_singleton.1 hc]
      decide
    · exact absurd hc List.not_mem_nil

theorem isWritten_writeEscaped {afterEscape : Bool} :
    ∀ c ∈ writeEscaped indent first afterEscape column t, isWritten c = true := by
  induction t generalizing first afterEscape column with
  | nil => exact fun c hc => absurd hc List.not_mem_nil
  | cons c t ih =>
    rcases writeEscaped_cons indent first afterEscape column c t with
      ⟨shown, he, ⟨_, hw⟩ | ⟨_, _, -, hw⟩⟩ | ⟨he, ⟨_, hw⟩ | ⟨_, hw⟩⟩ <;> rw [hw]
    · exact List.forall_mem_append.2 ⟨isWritten_escape he, ih⟩
    · exact List.forall_mem_append.2
        ⟨List.forall_mem_append.2 ⟨isWritten_escape he, isWritten_breakQuoted t⟩, ih⟩
    · exact List.forall_mem_cons.2 ⟨isWritten_of_escape?_none he, ih⟩
    · exact List.forall_mem_append.2 ⟨isWritten_breakQuoted _,
        List.forall_mem_cons.2 ⟨isWritten_of_escape?_none he, ih⟩⟩

theorem isWritten_writeText : ∀ c ∈ writeText indent column t, isWritten c = true := by
  have hruns (character : Char → Text) (column : Nat) (ht : ∀ c ∈ t, isSpecial c = false)
      (hc : ∀ d, ∀ c ∈ character d, c = d) :
      ∀ c ∈ writeRuns character indent true column (runs t), isWritten c = true := by
    intro c h
    rcases mem_writeRuns h with ⟨d, hd, hd'⟩ | rfl | rfl
    · rw [flatten_runs] at hd
      have : c = d := hd'.elim (hc d c) id
      exact this ▸ isWritten_of_isSpecial (ht d hd)
    · decide
    · decide
  unfold writeText
  split
  · next h =>
    have := (allowsPlain_iff.1 h).2.2.2.1
    exact hruns _ _ (fun c hc => (this c hc).2) (by simp)
  · split
    · next h =>
      have hspecial : ∀ c ∈ t, isSpecial c = false := by
        simp only [allowsSingle, Bool.and_eq_true, Bool.not_eq_true', List.any_eq_false,
          Bool.not_eq_true] at h
        exact h.1
      have hquote (d : Char) : ∀ c ∈ doubleQuote d, c = d := by
        intro c hc
        unfold doubleQuote at hc
        split at hc <;> simpa using hc
      exact List.forall_mem_cons.2 ⟨by decide, List.forall_mem_append.2
        ⟨hruns _ _ hspecial hquote, List.all_eq_true.1 (by decide)⟩⟩
    · exact List.forall_mem_cons.2 ⟨by decide, List.forall_mem_append.2
        ⟨isWritten_writeEscaped, List.all_eq_true.1 (by decide)⟩⟩

end NameSlots.Yaml
