import Mathlib.Tactic.Linarith
import Mathlib.Tactic.Ring
import NameSlots.Number.Double
import NameSlots.Proofs.Text.Numeral

/-! Rounding gives numbers in one form only, and gives a number back from any ratio that is nearer
to it than to its neighbours. -/
namespace NameSlots

variable {n d k m e : Nat} {negative : Bool}

/-! ## Whole numbers -/

theorem roundDiv_mul_right (hk : 0 < k) : roundDiv (n * k) (d * k) = roundDiv n d := by
  unfold roundDiv
  rw [Nat.mul_div_mul_right _ _ hk, Nat.mul_mod_mul_right, ← Nat.mul_assoc 2]
  simp only [Nat.mul_lt_mul_right hk]

/-- A quotient is rounded by a half at most. -/
theorem roundDiv_bounds (n : Nat) (hd : 0 < d) :
    2 * (d * roundDiv n d) ≤ 2 * n + d ∧ 2 * n ≤ 2 * (d * roundDiv n d) + d := by
  have hn := Nat.div_add_mod n d
  have hr := Nat.mod_lt n hd
  unfold roundDiv
  dsimp only
  split
  · omega
  · split
    · rw [Nat.mul_add, Nat.mul_one]
      omega
    · rcases Nat.mod_two_eq_zero_or_one (n / d) with h | h
      · rw [h, Nat.add_zero]
        omega
      · rw [h, Nat.mul_add, Nat.mul_one]
        omega

theorem roundDiv_le (hd : 0 < d) (h : 2 * n < 2 * (d * m) + d) : roundDiv n d ≤ m := by
  obtain ⟨hl, -⟩ := roundDiv_bounds n hd
  have hlt : d * roundDiv n d < d * (m + 1) := by
    rw [Nat.mul_add, Nat.mul_one]
    omega
  exact Nat.le_of_lt_succ (Nat.lt_of_mul_lt_mul_left hlt)

theorem le_roundDiv (hd : 0 < d) (h : 2 * (d * m) < 2 * n + d) : m ≤ roundDiv n d := by
  obtain ⟨-, hh⟩ := roundDiv_bounds n hd
  have hlt : d * m < d * (roundDiv n d + 1) := by
    rw [Nat.mul_add, Nat.mul_one]
    omega
  exact Nat.le_of_lt_succ (Nat.lt_of_mul_lt_mul_left hlt)

theorem roundDiv_eq (hd : 0 < d) (hlow : 2 * (d * m) < 2 * n + d) (hhigh : 2 * n < 2 * (d * m) + d) :
    roundDiv n d = m :=
  Nat.le_antisymm (roundDiv_le hd hhigh) (le_roundDiv hd hlow)

theorem log2_div_eq (hd : 0 < d) (hlow : 2 ^ k * d ≤ n) (hhigh : n < 2 ^ (k + 1) * d) :
    (n / d).log2 = k := by
  have hle := (Nat.le_div_iff_mul_le hd).2 hlow
  have hne : n / d ≠ 0 := Nat.ne_of_gt (Nat.lt_of_lt_of_le (Nat.two_pow_pos k) hle)
  exact (Nat.log2_eq_iff hne).2 ⟨hle, (Nat.div_lt_iff_lt_mul hd).2 hhigh⟩

theorem log2_div_lt (hd : 0 < d) (hk : 0 < k) (h : n < 2 ^ k * d) : (n / d).log2 < k := by
  rcases Nat.eq_zero_or_pos (n / d) with hz | hz
  · rw [hz, Nat.log2_zero]
    exact hk
  · exact (Nat.log2_lt (Nat.ne_of_gt hz)).2 ((Nat.div_lt_iff_lt_mul hd).2 h)

namespace Double

/-- A number as rounding makes it: all bits of a mantissa are there unless the exponent is zero. -/
def Normal : Double → Prop
  | .finite _ mantissa exponent =>
    mantissa < 2 ^ 53 ∧ exponent ≤ maxExponent ∧ (exponent = 0 ∨ 2 ^ 52 ≤ mantissa)
  | _ => True

theorem unitsInOne_pos : 0 < unitsInOne := by decide +kernel

/-! ## Ratios -/

theorem ofRatio_mul_right (negative : Bool) (n d : Nat) (hk : 0 < k) :
    ofRatio negative (n * k) (d * k) = ofRatio negative n d := by
  have hunits : n * k * unitsInOne = n * unitsInOne * k := Nat.mul_right_comm _ _ _
  have hden (e : Nat) : d * k * Nat.pow 2 e = d * Nat.pow 2 e * k := Nat.mul_right_comm _ _ _
  unfold ofRatio
  dsimp only
  rw [hunits, Nat.mul_div_mul_right _ _ hk, hden, roundDiv_mul_right hk]

theorem assemble_normal (negative : Bool) (hm : m ≤ 2 ^ 53) (he : e = 0 ∨ 2 ^ 52 ≤ m) :
    (assemble negative m e).Normal := by
  unfold assemble
  by_cases hcarry : m = 2 ^ 53
  · simp only [mantissaPlaces, Nat.pow_eq, hcarry, if_true]
    split
    · trivial
    · exact ⟨by norm_num, by omega, Or.inr (Nat.le_refl _)⟩
  · simp only [mantissaPlaces, Nat.pow_eq, hcarry, if_false]
    split
    · trivial
    · exact ⟨by omega, by omega, he⟩

/-- A ratio has as many bits above the place where it is rounded as a mantissa, or fewer where this is
the place of a unit. -/
theorem place_bounds (hd : 0 < d) (he : (n / d).log2 - mantissaPlaces = e) :
    n < d * 2 ^ e * 2 ^ 53 ∧ (e = 0 ∨ d * 2 ^ e * 2 ^ 52 ≤ n) := by
  simp only [mantissaPlaces] at he
  constructor
  · have hq : n / d < 2 ^ (53 + e) :=
      Nat.lt_of_lt_of_le Nat.lt_log2_self (Nat.pow_le_pow_right (by decide) (by omega))
    refine ((Nat.div_lt_iff_lt_mul hd).1 hq).trans_le (Nat.le_of_eq ?_)
    ring
  · rcases Nat.eq_zero_or_pos e with hz | hpos
    · exact Or.inl hz
    · right
      have hlog : (n / d).log2 = 52 + e := by omega
      have hne : n / d ≠ 0 := by
        intro hz
        rw [hz, Nat.log2_zero] at hlog
        omega
      refine Nat.le_trans (Nat.le_of_eq ?_)
        ((Nat.le_div_iff_mul_le hd).1 (hlog ▸ Nat.log2_self_le hne))
      ring

theorem ofRatio_normal (negative : Bool) (n : Nat) (hd : 0 < d) : (ofRatio negative n d).Normal := by
  unfold ofRatio
  dsimp only
  generalize he : (n * unitsInOne / d).log2 - mantissaPlaces = e
  rw [Nat.pow_eq]
  obtain ⟨hbelow, habove⟩ := place_bounds hd he
  have hden : 0 < d * 2 ^ e := Nat.mul_pos hd (Nat.two_pow_pos e)
  exact assemble_normal negative (roundDiv_le hden (by omega))
    (habove.imp_right fun hfull => le_roundDiv hden (by omega))

theorem ofRatio_eq_assemble (hd : 0 < d)
    (he : (n * unitsInOne / d).log2 - mantissaPlaces = e)
    (hlow : 2 * (2 ^ e * d * m) < 2 * (n * unitsInOne) + 2 ^ e * d)
    (hhigh : 2 * (n * unitsInOne) < 2 * (2 ^ e * d * m) + 2 ^ e * d) :
    ofRatio negative n d = assemble negative m e := by
  have hround := roundDiv_eq (Nat.mul_pos (Nat.two_pow_pos e) hd) hlow hhigh
  unfold ofRatio
  dsimp only
  rw [he, Nat.pow_eq, Nat.mul_comm d, hround]

/-- A ratio that is below a number by less than its part of `2 ^ 54`, or above it by less than half a step,
gives this number. -/
theorem ofRatio_of_half (hn : (finite negative m e).Normal) (hd : 0 < d)
    (hlow : m * 2 ^ e * d * 2 ^ 54 < n * unitsInOne * 2 ^ 54 + m * 2 ^ e * d)
    (hhigh : 2 * (n * unitsInOne) < 2 * (2 ^ e * d * m) + 2 ^ e * d) :
    ofRatio negative n d = finite negative m e := by
  obtain ⟨hm, hmax, hbits⟩ := hn
  have hsize : m * 2 ^ e * d = 2 ^ e * d * m := by ring
  rw [hsize] at hlow
  have hnext : 2 ^ e * d * m + 2 ^ e * d ≤ 2 ^ e * d * 2 ^ 53 := by
    rw [← Nat.mul_succ]
    exact Nat.mul_le_mul_left _ hm
  have hbelow : n * unitsInOne < 2 ^ (53 + e) * d := by
    have : 2 ^ (53 + e) * d = 2 ^ e * d * 2 ^ 53 := by ring
    omega
  -- where the quotient has as many bits as the number, it is rounded in the same places
  have hround (he : (n * unitsInOne / d).log2 - mantissaPlaces = e) :
      ofRatio negative n d = finite negative m e := by
    rw [ofRatio_eq_assemble hd he (m := m) (by omega) (by omega)]
    have hne : m ≠ 2 ^ (mantissaPlaces + 1) := Nat.ne_of_lt hm
    simp [assemble, hne, Nat.not_lt.2 hmax]
  rcases Nat.eq_zero_or_pos e with rfl | hpos
  · apply hround
    have := log2_div_lt hd (by decide) hbelow
    simp only [mantissaPlaces]
    omega
  · have hfull : 2 ^ 52 ≤ m := by omega
    rcases Nat.lt_or_ge (n * unitsInOne) (2 ^ (52 + e) * d) with hless | hmore
    · -- below a power of two the numbers are twice as dense: the mantissa is rounded up to it
      have hpower : 2 ^ (52 + e) * d = 2 ^ e * d * 2 ^ 52 := by ring
      obtain rfl : m = 2 ^ 52 := by
        refine Nat.le_antisymm (Nat.le_of_not_lt fun hlt => ?_) hfull
        have := Nat.mul_le_mul_left (2 ^ e * d) (Nat.succ_le_of_lt hlt)
        rw [Nat.mul_succ] at this
        omega
      clear hhigh hbelow hnext
      obtain ⟨e, rfl⟩ := Nat.exists_eq_add_of_lt hpos
      have hdouble : 2 ^ (0 + e + 1) * d = 2 * (2 ^ e * d) := by ring
      have hlog : (n * unitsInOne / d).log2 = 52 + e := by
        refine log2_div_eq hd ?_ ?_
        · have : 2 ^ (52 + e) * d = 2 ^ e * d * 2 ^ 52 := by ring
          omega
        · have : 2 ^ (52 + e + 1) * d = 2 ^ e * d * 2 ^ 53 := by ring
          omega
      have hplaces : (n * unitsInOne / d).log2 - mantissaPlaces = e := by
        simp only [mantissaPlaces]
        omega
      rw [ofRatio_eq_assemble hd hplaces (m := 2 ^ 53) (by omega) (by omega)]
      have hfits : ¬ maxExponent < e + 1 := by omega
      simp [assemble, mantissaPlaces, hfits]
    · apply hround
      have hlog := log2_div_eq hd hmore (by rw [show 52 + e + 1 = 53 + e by omega]; exact hbelow)
      simp only [mantissaPlaces]
      omega

/-- A ratio that differs from a number by less than its part of `2 ^ 54` gives this number. -/
theorem ofRatio_of_near (hn : (finite negative m e).Normal) (hd : 0 < d)
    (hlow : m * 2 ^ e * d * 2 ^ 54 < n * unitsInOne * 2 ^ 54 + m * 2 ^ e * d)
    (hhigh : n * unitsInOne * 2 ^ 54 < m * 2 ^ e * d * 2 ^ 54 + m * 2 ^ e * d) :
    ofRatio negative n d = finite negative m e := by
  refine ofRatio_of_half hn hd hlow ?_
  have hsize : m * 2 ^ e * d = 2 ^ e * d * m := by ring
  have hbits : 2 ^ e * d * m ≤ 2 ^ e * d * 2 ^ 53 := Nat.mul_le_mul_left _ (Nat.le_of_lt hn.1)
  rw [hsize] at hhigh
  omega

/-! ## Decimals -/

theorem ofDecimal_normal (negative : Bool) (n : Nat) (power : Int) :
    (ofDecimal negative n power).Normal := by
  have hzero : (finite negative 0 0).Normal := ⟨by norm_num, Nat.zero_le _, Or.inl rfl⟩
  unfold ofDecimal
  dsimp only
  split
  · exact hzero
  · split
    · trivial
    · split
      · exact hzero
      · split
        · exact ofRatio_normal _ _ (Nat.pow_pos (by decide))
        · exact ofRatio_normal _ _ (by decide)

/-- The ratio that a decimal is. -/
theorem ofDecimal_ratio (negative : Bool) (n k : Nat) (power : Int) :
    (if power - k < 0 then ofRatio negative (n * 10 ^ k) (10 ^ (power - k).natAbs)
      else ofRatio negative (n * 10 ^ k * 10 ^ (power - k).natAbs) 1) =
    if power < 0 then ofRatio negative n (10 ^ power.natAbs)
      else ofRatio negative (n * 10 ^ power.natAbs) 1 := by
  by_cases hp : power < 0
  · have hk : power - k < 0 := by omega
    rw [if_pos hp, if_pos hk, show (power - k).natAbs = power.natAbs + k by omega, Nat.pow_add]
    exact ofRatio_mul_right _ _ _ (Nat.pow_pos (by decide))
  · rw [if_neg hp]
    by_cases hk : power - k < 0
    · rw [if_pos hk]
      have hsplit : k = power.natAbs + (power - k).natAbs := by omega
      have hten : 0 < 10 ^ (power - k).natAbs := Nat.pow_pos (by decide)
      calc
        _ = ofRatio negative (n * 10 ^ power.natAbs * 10 ^ (power - k).natAbs)
              (1 * 10 ^ (power - k).natAbs) := by
          rw [Nat.one_mul, Nat.mul_assoc, ← Nat.pow_add, ← hsplit]
        _ = _ := ofRatio_mul_right _ _ _ hten
    · rw [if_neg hk, Nat.mul_assoc, ← Nat.pow_add,
        show k + (power - k).natAbs = power.natAbs by omega]

/-- Zeros at the end of a decimal make no difference. -/
theorem ofDecimal_mul_pow (negative : Bool) (n k : Nat) (power : Int) :
    ofDecimal negative (n * 10 ^ k) (power - k) = ofDecimal negative n power := by
  rcases Nat.eq_zero_or_pos n with rfl | hn
  · simp [ofDecimal]
  · have hlength : ((Nat.toDigits 10 (n * 10 ^ k)).length : Int) + (power - k) =
        (Nat.toDigits 10 n).length + power := by
      have := Text.length_ofNat_mul_pow hn k
      simp only [Text.ofNat] at this
      omega
    have hne : n * 10 ^ k ≠ 0 := Nat.ne_of_gt (Nat.mul_pos hn (Nat.pow_pos (by decide)))
    unfold ofDecimal
    dsimp only
    rw [hlength, if_neg hne, if_neg (Nat.ne_of_gt hn)]
    simp only [Nat.pow_eq, ofDecimal_ratio]

end Double

end NameSlots
