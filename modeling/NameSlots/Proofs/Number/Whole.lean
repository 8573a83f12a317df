import NameSlots.Number.Whole
import NameSlots.Proofs.Text.Numeral

/-! A whole number is read from the text that it is written as. -/
namespace NameSlots.Number

variable {c : Char} {t : Text} {n : Nat}

theorem toNat_digit (h : c.isDigit = true) : 48 ≤ c.toNat ∧ c.toNat ≤ 57 := by
  simp only [Char.isDigit, Bool.and_eq_true, decide_eq_true_eq, UInt32.le_iff_toNat_le] at h
  exact h

theorem digitValue?_digit (h : c.isDigit = true) : Unicode.digitValue? c = some (c.toNat - 48) := by
  obtain ⟨hlow, hhigh⟩ := toNat_digit h
  rw [Unicode.digitValue?, Unicode.digitZeros, List.find?_cons_of_pos (by simp [hlow, hhigh])]
  rfl

theorem isMargin_digit (h : c.isDigit = true) : isMargin c = false := by
  obtain ⟨hlow, hhigh⟩ := toNat_digit h
  have hblank : Unicode.isBlank c = false := by
    unfold Unicode.isBlank
    generalize c.toNat = k at hlow hhigh
    interval_cases k <;> rfl
  simp [isMargin, hblank]

theorem digits_eq (ht : ∀ c ∈ t, c.isDigit = true) (afterDigit : Bool) :
    digits afterDigit t = (t.map fun c => c.toNat - 48, []) := by
  induction t generalizing afterDigit with
  | nil => rfl
  | cons c t ih =>
    obtain ⟨hc, ht⟩ := List.forall_mem_cons.1 ht
    unfold digits
    rw [digitValue?_digit hc]
    simp [ih ht]

theorem ofDigits_map (ht : ∀ c ∈ t, c.isDigit = true) :
    ofDigits (t.map fun c => c.toNat - 48) = Text.numeral 10 t := by
  rw [ofDigits, List.foldl_map, Text.numeral]
  exact List.foldl_ext _ _ _ fun sum c hc => by rw [Text.hexValue?_digit (ht c hc)]

theorem sign_digits (ht : ∀ c ∈ t, c.isDigit = true) : sign t = (false, t) := by
  unfold sign
  split
  · exact absurd (ht '-' List.mem_cons_self) (by decide)
  · exact absurd (ht '+' List.mem_cons_self) (by decide)
  · rfl

/-- A number of not too many digits is read back. -/
theorem whole_ofNat (h : (Text.ofNat n).length ≤ maxDigits) : whole (Text.ofNat n) = .ok n := by
  have hdigits := Text.isDigit_ofNat n
  have htrim : (Text.ofNat n).dropWhile isMargin = Text.ofNat n := by
    cases ht : Text.ofNat n with
    | nil => rfl
    | cons c t =>
      have hc := hdigits c (by simp [ht])
      rw [List.dropWhile_cons_of_neg (by simp [isMargin_digit hc])]
  unfold whole
  rw [htrim, sign_digits hdigits]
  dsimp only
  rw [digits_eq hdigits]
  dsimp only
  rw [ofDigits_map hdigits, Text.numeral_ofNat]
  simp [Text.ofNat_ne_nil, Nat.not_lt.2 h]

end NameSlots.Number
