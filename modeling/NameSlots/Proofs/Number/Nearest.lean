import Mathlib.Algebra.Order.Floor.Div
import Mathlib.Data.Nat.Log
import NameSlots.Number.Arithmetic
import NameSlots.Proofs.Number.Rounding

/-! The sizes that ratios of units are rounded to. Rounding keeps their order, moves them by a small part
of their size at most, and gives back the whole numbers that they are near. -/
namespace NameSlots

variable {n d n' d' units units' k r : Nat} {negative : Bool}

/-- Of two quotients the one that is not larger is not rounded to a larger number. -/
theorem roundDiv_mono (hd : 0 < d) (hd' : 0 < d') (h : n * d' ≤ n' * d) :
    roundDiv n d ≤ roundDiv n' d' := by
  have hcommon {a b c : Nat} (hc : 0 < c) (hab : a ≤ b) : roundDiv a c ≤ roundDiv b c := by
    rcases Nat.eq_or_lt_of_le hab with rfl | hlt
    · exact Nat.le_refl _
    · obtain ⟨-, hb⟩ := roundDiv_bounds b hc
      exact roundDiv_le hc (by omega)
  calc
    roundDiv n d = roundDiv (n * d') (d * d') := (roundDiv_mul_right hd').symm
    _ ≤ roundDiv (n' * d) (d * d') := hcommon (Nat.mul_pos hd hd') h
    _ = roundDiv n' d' := by rw [Nat.mul_comm d, roundDiv_mul_right hd]

namespace Double

/-- The place at which a ratio of units is rounded. -/
def place (units d : Nat) : Nat := (units / d).log2 - mantissaPlaces

/-- The size that a ratio of units is rounded to, if it is not too large for a number. -/
def nearest (units d : Nat) : Nat := roundDiv units (d * 2 ^ place units d) * 2 ^ place units d

theorem isNegative_assemble (negative : Bool) (m e : Nat) :
    (assemble negative m e).isNegative = negative := by
  unfold assemble
  dsimp only
  split <;> split <;> rfl

theorem isNegative_ofRatio (negative : Bool) (n d : Nat) :
    (ofRatio negative n d).isNegative = negative := by
  unfold ofRatio
  exact isNegative_assemble negative _ _

/-- Sizes below this one are not too large. -/
def sizeLimit : Nat := Nat.pow 2 2097

theorem sizeLimit_eq : sizeLimit = 2 ^ 2097 := by decide +kernel

theorem place_lt (hd : 0 < d) (h : units < d * sizeLimit) : place units d < maxExponent := by
  have hquotient : units / d < sizeLimit := (Nat.div_lt_iff_lt_mul hd).2 (Nat.mul_comm d _ ▸ h)
  rw [sizeLimit_eq] at hquotient
  rcases Nat.eq_zero_or_pos (units / d) with hz | hpos
  · rw [place, hz, Nat.log2_zero, Nat.zero_sub]
    decide
  · have := (Nat.log2_lt (Nat.ne_of_gt hpos)).2 hquotient
    simp only [place, mantissaPlaces, maxExponent]
    omega

theorem units?_assemble {m e : Nat} (h : e < maxExponent) :
    (assemble negative m e).units? = some (m * 2 ^ e) := by
  unfold assemble
  dsimp only
  by_cases hcarry : m = Nat.pow 2 (mantissaPlaces + 1)
  · rw [if_pos hcarry, if_neg (by omega), hcarry]
    simp only [units?, mantissaPlaces, Nat.pow_eq]
    rw [← Nat.pow_add, ← Nat.pow_add, show 52 + (e + 1) = 52 + 1 + e by omega]
  · rw [if_neg hcarry, if_neg (by omega)]
    rfl

theorem units?_ofRatio (negative : Bool) (hd : 0 < d) (h : n * unitsInOne < d * sizeLimit) :
    (ofRatio negative n d).units? = some (nearest (n * unitsInOne) d) := by
  have hplace := place_lt hd h
  unfold ofRatio nearest
  generalize n * unitsInOne = units at *
  exact units?_assemble hplace

theorem nearest_mul_right (units d : Nat) (hk : 0 < k) : nearest (units * k) (d * k) = nearest units d := by
  have hplace : place (units * k) (d * k) = place units d := by
    rw [place, Nat.mul_div_mul_right _ _ hk, place]
  rw [nearest, hplace, Nat.mul_right_comm d k, roundDiv_mul_right hk, nearest]

theorem place_mono (hd : 0 < d) (hd' : 0 < d') (h : units * d' ≤ units' * d) :
    place units d ≤ place units' d' := by
  have hquotient : units / d ≤ units' / d' := by
    rw [Nat.le_div_iff_mul_le hd']
    refine Nat.le_of_mul_le_mul_right ?_ hd
    calc
      units / d * d' * d = units / d * d * d' := Nat.mul_right_comm _ _ _
      _ ≤ units * d' := Nat.mul_le_mul_right _ (Nat.div_mul_le_self _ _)
      _ ≤ units' * d := h
  rw [place, place, Nat.log2_eq_log_two, Nat.log2_eq_log_two]
  exact Nat.sub_le_sub_right (Nat.log_mono_right hquotient) _

/-- Rounding keeps the order of ratios. -/
theorem nearest_mono (hd : 0 < d) (hd' : 0 < d') (h : units * d' ≤ units' * d) :
    nearest units d ≤ nearest units' d' := by
  have hpos (d e : Nat) (hd : 0 < d) : 0 < d * 2 ^ e := Nat.mul_pos hd (Nat.two_pow_pos e)
  obtain ⟨hbelow, -⟩ := place_bounds hd (rfl : _ = place units d)
  obtain ⟨-, habove⟩ := place_bounds hd' (rfl : _ = place units' d')
  rcases Nat.eq_or_lt_of_le (place_mono hd hd' h) with he | hlt
  · rw [nearest, nearest, ← he]
    refine Nat.mul_le_mul_right _ (roundDiv_mono (hpos d _ hd) (hpos d' _ hd') ?_)
    rw [← Nat.mul_assoc, ← Nat.mul_assoc]
    exact Nat.mul_le_mul_right _ h
  · -- a larger place is that of a size which no smaller place reaches
    have hbits := habove.resolve_left (Nat.ne_of_gt (Nat.zero_lt_of_lt hlt))
    have hunit := hpos d' (place units' d') hd'
    calc
      nearest units d ≤ 2 ^ 53 * 2 ^ place units d :=
        Nat.mul_le_mul_right _ (roundDiv_le (hpos d _ hd) (by omega))
      _ = 2 ^ 52 * 2 ^ (place units d + 1) := by ring
      _ ≤ 2 ^ 52 * 2 ^ place units' d' :=
        Nat.mul_le_mul_left _ (Nat.pow_le_pow_right (by decide) hlt)
      _ ≤ nearest units' d' := Nat.mul_le_mul_right _ (le_roundDiv hunit (by omega))

/-- Rounding moves a ratio that has all bits of a mantissa by its `2 ^ 53`-th part at most. -/
theorem nearest_bounds (hd : 0 < d) (h : d * 2 ^ 52 ≤ units) :
    2 ^ 53 * (nearest units d * d) ≤ 2 ^ 53 * units + units ∧
      2 ^ 53 * units ≤ 2 ^ 53 * (nearest units d * d) + units := by
  obtain ⟨-, habove⟩ := place_bounds hd (rfl : _ = place units d)
  obtain ⟨hhigh, hlow⟩ := roundDiv_bounds units (Nat.mul_pos hd (Nat.two_pow_pos (place units d)))
  have hstep : d * 2 ^ place units d * 2 ^ 52 ≤ units := by
    rcases habove with hz | hbits
    · rwa [hz, Nat.pow_zero, Nat.mul_one]
    · exact hbits
  have hsize : nearest units d * d =
      d * 2 ^ place units d * roundDiv units (d * 2 ^ place units d) := by
    rw [nearest]
    ring
  rw [hsize]
  omega

/-! ## Whole numbers -/

theorem unitsInOne_le_sizeLimit : 2 ^ 54 * unitsInOne ≤ sizeLimit := by decide +kernel

theorem mul_unitsInOne_lt (h : n < 2 ^ 54) : n * unitsInOne < sizeLimit :=
  (Nat.mul_lt_mul_of_pos_right h unitsInOne_pos).trans_le unitsInOne_le_sizeLimit

theorem unitsInOne_eq : unitsInOne = 2 ^ 1074 := by decide +kernel

/-- A whole number of at most 53 bits is a number. -/
theorem exists_normal (negative : Bool) (hr : 0 < r) (hbits : r < 2 ^ 53) :
    ∃ m e, (finite negative m e).Normal ∧ m * 2 ^ e = r * unitsInOne := by
  have hlow := Nat.log2_self_le (Nat.ne_of_gt hr)
  have hhigh := Nat.lt_log2_self (n := r)
  have hlog : r.log2 < 53 := (Nat.log2_lt (Nat.ne_of_gt hr)).2 hbits
  obtain ⟨k, hk⟩ : ∃ k, r.log2 + k = 52 := ⟨52 - r.log2, by omega⟩
  refine ⟨r * 2 ^ k, 1074 - k, ⟨?_, by simp only [maxExponent]; omega, Or.inr ?_⟩, ?_⟩
  · calc
      r * 2 ^ k < 2 ^ (r.log2 + 1) * 2 ^ k := Nat.mul_lt_mul_of_pos_right hhigh (Nat.two_pow_pos k)
      _ = 2 ^ 53 := by rw [← Nat.pow_add, show r.log2 + 1 + k = 53 by omega]
  · calc
      2 ^ 52 = 2 ^ r.log2 * 2 ^ k := by rw [← Nat.pow_add, hk]
      _ ≤ r * 2 ^ k := Nat.mul_le_mul_right _ hlow
  · have hle : k ≤ 1074 := by omega
    exact (Nat.mul_assoc ..).trans
      (congrArg (r * ·) ((pow_mul_pow_sub 2 hle).trans unitsInOne_eq.symm))

/-- A ratio that is above a whole number by its part of `2 ^ 54` at most is rounded to it. -/
theorem nearest_of_above (hr : 0 < r) (hbits : r < 2 ^ 53) (hd : 0 < d)
    (hlow : r * unitsInOne * d ≤ units)
    (hhigh : units * 2 ^ 54 ≤ r * unitsInOne * d * 2 ^ 54 + r * unitsInOne * d) :
    nearest units d = r * unitsInOne := by
  obtain ⟨m, e, hnormal, hsize⟩ := exists_normal false hr hbits
  have hd' : 0 < d * unitsInOne := Nat.mul_pos hd unitsInOne_pos
  have hpos : 0 < r * unitsInOne * d := Nat.mul_pos (Nat.mul_pos hr unitsInOne_pos) hd
  have hfits : units < d * sizeLimit := by
    have hdouble : units ≤ 2 * (r * unitsInOne * d) := by omega
    calc
      units ≤ 2 * (r * unitsInOne * d) := hdouble
      _ = 2 * r * unitsInOne * d := by ring
      _ < 2 ^ 54 * unitsInOne * d :=
        Nat.mul_lt_mul_of_pos_right (Nat.mul_lt_mul_of_pos_right (by omega) unitsInOne_pos) hd
      _ ≤ sizeLimit * d := Nat.mul_le_mul_right d unitsInOne_le_sizeLimit
      _ = d * sizeLimit := Nat.mul_comm _ _
  have hratio : ofRatio false units (d * unitsInOne) = finite false m e := by
    have hbelow : m * 2 ^ e * d < 2 ^ 53 * (2 ^ e * d) := by
      rw [Nat.mul_assoc]
      exact Nat.mul_lt_mul_of_pos_right hnormal.1 (Nat.mul_pos (Nat.two_pow_pos e) hd)
    rw [← hsize] at hlow hhigh hpos
    have hhalf : 2 * units < 2 * (m * 2 ^ e * d) + 2 ^ e * d := by
      refine Nat.lt_of_not_le fun hle => ?_
      have := Nat.mul_le_mul_right (2 ^ 53) hle
      omega
    -- the size of one is of no account here
    have hone := unitsInOne_pos
    refine ofRatio_of_half hnormal hd' ?_ ?_ <;> generalize unitsInOne = one at *
    · have hlow' := Nat.mul_le_mul_right one hlow
      have hpos' := Nat.mul_pos hpos hone
      rw [← Nat.mul_assoc]
      omega
    · calc
        2 * (units * one) = 2 * units * one := (Nat.mul_assoc ..).symm
        _ < (2 * (m * 2 ^ e * d) + 2 ^ e * d) * one := Nat.mul_lt_mul_of_pos_right hhalf hone
        _ = 2 * (2 ^ e * (d * one) * m) + 2 ^ e * (d * one) := by ring
  have hlimit : units * unitsInOne < d * unitsInOne * sizeLimit := by
    rw [Nat.mul_right_comm]
    exact Nat.mul_lt_mul_of_pos_right hfits unitsInOne_pos
  have hunits := units?_ofRatio false hd' hlimit
  rw [hratio, nearest_mul_right _ _ unitsInOne_pos] at hunits
  rw [← hsize]
  exact (Option.some.inj hunits).symm

theorem nearest_whole (hr : 0 < r) (hbits : r < 2 ^ 53) :
    nearest (r * unitsInOne) 1 = r * unitsInOne :=
  nearest_of_above hr hbits Nat.one_pos (Nat.le_of_eq (Nat.mul_one _)) (by omega)

/-- A ratio that is not above a whole number by more than its part of `2 ^ 54` is not rounded to more than
the whole number. -/
theorem nearest_le_whole (hr : 0 < r) (hbits : r < 2 ^ 53) (hd : 0 < d)
    (h : units * 2 ^ 54 ≤ r * unitsInOne * d * 2 ^ 54 + r * unitsInOne * d) :
    nearest units d ≤ r * unitsInOne := by
  rcases Nat.le_total units (r * unitsInOne * d) with hle | hge
  · rw [← nearest_whole hr hbits]
    exact nearest_mono hd Nat.one_pos (by rwa [Nat.mul_one])
  · exact Nat.le_of_eq (nearest_of_above hr hbits hd hge h)

/-! ## Arithmetic in units -/

variable {x y : Double} {a b : Nat}

theorem units?_ofInt (hn : 0 < n) (hbits : n < 2 ^ 53) :
    (ofInt (n : Int)).units? = some (n * unitsInOne) := by
  have hlimit : n * unitsInOne < 1 * sizeLimit := by
    rw [Nat.one_mul]
    exact mul_unitsInOne_lt (Nat.lt_trans hbits (by decide))
  rw [ofInt, Int.natAbs_natCast, units?_ofRatio _ Nat.one_pos hlimit, nearest_whole hn hbits]

theorem isNegative_ofInt (n : Nat) : (ofInt (n : Int)).isNegative = false := by
  rw [ofInt, isNegative_ofRatio, decide_eq_false_iff_not]
  omega

theorem mul_eq_ofRatio (hx : x.units? = some a) (hy : y.units? = some b) :
    x.mul y = ofRatio (x.isNegative != y.isNegative) (a * b) (unitsInOne * unitsInOne) := by
  cases x with
  | finite => cases y with
    | finite =>
      unfold mul
      dsimp only
      rw [hx, hy]
    | _ => cases hy
  | _ => cases hx

theorem div_eq_ofRatio (hx : x.units? = some a) (hy : y.units? = some b) (hb : b ≠ 0) :
    x.div y = ofRatio (x.isNegative != y.isNegative) a b := by
  unfold div
  rw [hx, hy]
  exact if_neg hb

theorem ceil?_eq (hx : x.units? = some a) (hs : x.isNegative = false) :
    x.ceil? = some ((a ⌈/⌉ unitsInOne : Nat) : Int) := by
  rw [ceil?, hx, Option.map_some, hs, Nat.ceilDiv_eq_add_pred_div]
  rfl

end Double

end NameSlots
