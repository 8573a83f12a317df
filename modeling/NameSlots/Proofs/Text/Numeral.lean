import Mathlib.Data.List.Basic
import Mathlib.Tactic.IntervalCases
import Mathlib.Tactic.Ring
import NameSlots.Text.Hex

/-! Numbers written in digits are read back. -/
namespace NameSlots.Text

variable {base n k : Nat} {s t : Text} {c : Char}

/-! ## Reading digits -/

theorem foldl_digits (base m : Nat) (t : Text) :
    t.foldl (fun n c => base * n + (hexValue? c).getD 0) m = m * base ^ t.length + numeral base t := by
  unfold numeral
  induction t generalizing m with
  | nil => simp
  | cons c t ih =>
    rw [List.foldl_cons, List.foldl_cons, ih, ih (base * 0 + _), List.length_cons, Nat.pow_succ]
    ring

theorem numeral_append (base : Nat) (s t : Text) :
    numeral base (s ++ t) = numeral base s * base ^ t.length + numeral base t := by
  rw [numeral, List.foldl_append]
  exact foldl_digits base _ t

theorem numeral_zeros (base k : Nat) : numeral base (List.replicate k '0') = 0 := by
  induction k with
  | zero => rfl
  | succ k ih =>
    rw [List.replicate_succ', numeral_append, ih]
    simp [numeral, hexValue?]

/-! ## Decimal digits -/

theorem isDigit_ofNat (n : Nat) : ∀ c ∈ ofNat n, c.isDigit = true :=
  fun _ hc => Nat.isDigit_of_mem_toDigits (by decide) (by decide) hc

theorem ofNat_ne_nil (n : Nat) : ofNat n ≠ [] := Nat.toDigits_ne_nil

theorem length_ofNat_pos (n : Nat) : 0 < (ofNat n).length := List.length_pos_iff.2 (ofNat_ne_nil n)

theorem length_ofNat_le (hk : 0 < k) : (ofNat n).length ≤ k ↔ n < 10 ^ k :=
  Nat.length_toDigits_le_iff (by decide) hk

/-- A number lies between the powers of ten that its length tells. -/
theorem ofNat_bounds (hn : 0 < n) :
    10 ^ ((ofNat n).length - 1) ≤ n ∧ n < 10 ^ (ofNat n).length := by
  have hl := length_ofNat_pos n
  refine ⟨?_, (length_ofNat_le hl).1 (Nat.le_refl _)⟩
  rcases Nat.eq_zero_or_pos ((ofNat n).length - 1) with h | h
  · rw [h]
    exact hn
  · exact Nat.le_of_not_lt fun hlt => by
      have := (length_ofNat_le h).2 hlt
      omega

theorem length_ofNat_eq (hk : 0 < k) (hlow : 10 ^ (k - 1) ≤ n) (hhigh : n < 10 ^ k) :
    (ofNat n).length = k := by
  have hn : 0 < n := Nat.lt_of_lt_of_le (Nat.pow_pos (by decide)) hlow
  have hle := (length_ofNat_le hk).2 hhigh
  have hb := (ofNat_bounds hn).2
  have hlt : k - 1 < (ofNat n).length := by
    rw [← Nat.pow_lt_pow_iff_right (show 1 < 10 by decide)]
    omega
  omega

/-- A power of ten puts zeros after a number. -/
theorem length_ofNat_mul_pow (hn : 0 < n) (k : Nat) :
    (ofNat (n * 10 ^ k)).length = (ofNat n).length + k := by
  obtain ⟨hlow, hhigh⟩ := ofNat_bounds hn
  have hl := length_ofNat_pos n
  apply length_ofNat_eq (by omega)
  · rw [show (ofNat n).length + k - 1 = (ofNat n).length - 1 + k by omega, Nat.pow_add]
    exact Nat.mul_le_mul_right _ hlow
  · rw [Nat.pow_add]
    exact Nat.mul_lt_mul_of_pos_right hhigh (Nat.pow_pos (by decide))

theorem hexValue?_digit (hc : c.isDigit = true) : (hexValue? c).getD 0 = c.toNat - 48 := by
  simp [hexValue?, hc]

theorem numeral_ofNat (n : Nat) : numeral 10 (ofNat n) = n := by
  have hfold : ∀ (s : Text), (∀ c ∈ s, c.isDigit = true) → ∀ m,
      s.foldl (fun n c => 10 * n + (hexValue? c).getD 0) m = Nat.ofDigitChars 10 s m := by
    intro s hs
    induction s with
    | nil => simp
    | cons c s ih =>
      intro m
      obtain ⟨hc, hs⟩ := List.forall_mem_cons.1 hs
      rw [List.foldl_cons, ih hs, hexValue?_digit hc]
      simp [Nat.ofDigitChars]
  rw [numeral, hfold _ (isDigit_ofNat n)]
  exact Nat.ofDigitChars_toDigits (by decide) (by decide)

theorem numeral_lt (hs : ∀ c ∈ s, c.isDigit = true) : numeral 10 s < 10 ^ s.length := by
  induction s with
  | nil => simp [numeral]
  | cons c s ih =>
    obtain ⟨hc, hs⟩ := List.forall_mem_cons.1 hs
    have hvalue : numeral 10 [c] ≤ 9 := by
      simp only [numeral, List.foldl_cons, List.foldl_nil, hexValue?_digit hc]
      simp only [Char.isDigit, Bool.and_eq_true, decide_eq_true_eq, UInt32.le_iff_toNat_le] at hc
      have : c.toNat ≤ 57 := hc.2
      omega
    have hrest := ih hs
    rw [← List.singleton_append, numeral_append, List.length_append, List.length_singleton,
      Nat.pow_add, Nat.pow_one]
    have := Nat.mul_le_mul_right (10 ^ s.length) hvalue
    omega

theorem digitChar_ne_zero (hn : 0 < n) (hb : n < 10) : Nat.digitChar n ≠ '0' := by
  interval_cases n <;> decide

/-- A number above zero does not start with a zero. -/
theorem head_ofNat (hn : 0 < n) : (ofNat n).head? ≠ some '0' := by
  induction n using Nat.strongRecOn with
  | _ n ih =>
    rcases Nat.lt_or_ge n 10 with hb | hb
    · rw [ofNat, Nat.toDigits_of_lt_base hb]
      simpa using digitChar_ne_zero hn hb
    · rw [ofNat, Nat.toDigits_of_base_le (by decide) hb, List.head?_append]
      intro h
      apply ih (n / 10) (by omega) (by omega)
      obtain ⟨c, rest, hc⟩ := List.exists_cons_of_ne_nil (ofNat_ne_nil (n / 10))
      rw [ofNat] at hc
      simpa [ofNat, hc] using h

/-! ## Hexadecimal digits -/

theorem hexValue?_hexDigit (hn : n < 16) : hexValue? (hexDigit n) = some n := by
  interval_cases n <;> rfl

theorem isHex_hexDigits (count n : Nat) : (hexDigits count n).all isHex = true := by
  induction count generalizing n with
  | zero => rfl
  | succ count ih =>
    simp [hexDigits, ih, isHex, hexValue?_hexDigit (Nat.mod_lt n (by decide : 16 > 0))]

theorem numeral_hexDigits (count n : Nat) : numeral 16 (hexDigits count n) = n % 16 ^ count := by
  induction count generalizing n with
  | zero => simp [hexDigits, numeral, Nat.mod_one]
  | succ count ih =>
    rw [hexDigits, numeral_append, ih, Nat.pow_succ']
    simp only [numeral, List.foldl_cons, List.foldl_nil, hexValue?_hexDigit (Nat.mod_lt n (by decide)),
      Option.getD_some, List.length_singleton, Nat.pow_one, Nat.mul_zero, Nat.zero_add]
    rw [Nat.mod_mul, Nat.mul_comm, Nat.add_comm]

theorem exists_of_mem_hexDigits {count : Nat} {c : Char} (h : c ∈ hexDigits count n) :
    ∃ m < 16, c = hexDigit m := by
  induction count generalizing n with
  | zero => simp [hexDigits] at h
  | succ count ih =>
    rcases List.mem_append.1 h with h | h
    · exact ih h
    · exact ⟨n % 16, Nat.mod_lt n (by decide), List.mem_singleton.1 h⟩

/-- Capital letters are read like small ones. -/
theorem hexValue?_toUpper {count : Nat} {c : Char} (h : c ∈ hexDigits count n) :
    hexValue? c.toUpper = hexValue? c := by
  obtain ⟨m, hm, rfl⟩ := exists_of_mem_hexDigits h
  interval_cases m <;> rfl

theorem isHex_hexCapitals (count n : Nat) :
    ((hexDigits count n).map Char.toUpper).all isHex = true := by
  rw [List.all_map, List.all_eq_true]
  intro c hc
  have := List.all_eq_true.1 (isHex_hexDigits count n) c hc
  rwa [isHex, ← hexValue?_toUpper hc] at this

theorem numeral_hexCapitals (count n : Nat) :
    numeral 16 ((hexDigits count n).map Char.toUpper) = n % 16 ^ count := by
  rw [← numeral_hexDigits, numeral, List.foldl_map, numeral]
  refine List.foldl_ext _ _ _ fun sum c hc => ?_
  rw [hexValue?_toUpper hc]

theorem length_hexDigits (count n : Nat) : (hexDigits count n).length = count := by
  induction count generalizing n with
  | zero => rfl
  | succ count ih => simp [hexDigits, ih]

end NameSlots.Text
