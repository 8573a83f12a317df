import NameSlots.Number.Shortest
import NameSlots.Proofs.Number.Rounding

/-! The digits that are written for a number read back as this number: seventeen always do. -/
namespace NameSlots.Double

variable {x : Double} {units digits left count : Nat} {power place : Int} {negative : Bool}
  {m e : Nat}

/-! ## One number of digits -/

theorem ofDecimal_inRange (hd : digits ≠ 0)
    (hhigh : (Text.ofNat digits).length + power ≤ decimalRange)
    (hlow : -(decimalRange : Int) ≤ (Text.ofNat digits).length + power) :
    ofDecimal negative digits power =
      if power < 0 then ofRatio negative digits (10 ^ power.natAbs)
      else ofRatio negative (digits * 10 ^ power.natAbs) 1 := by
  simp only [Text.ofNat] at hhigh hlow
  simp only [ofDecimal, if_neg hd, gt_iff_lt, if_neg (Int.not_lt.2 hhigh),
    if_neg (Int.not_lt.2 hlow), Nat.pow_eq]

/-- The multiple of a power of ten that is nearest to a number reads back as it, if the power is
sixteen places below the number's size. -/
theorem ofDecimal_nearest (hn : (finite negative m e).Normal) {n d : Nat}
    (hp : inPowers (m * 2 ^ e) power = (n, d)) (hd : 0 < d) (hsize : d * 10 ^ 16 ≤ n)
    (hnear : 2 * n ≤ 2 * (digits * d) + d ∧ 2 * (digits * d) ≤ 2 * n + d)
    (hhigh : (Text.ofNat digits).length + power ≤ decimalRange)
    (hlow : -(decimalRange : Int) ≤ (Text.ofNat digits).length + power) :
    ofDecimal negative digits power = finite negative m e := by
  have hdigits : digits ≠ 0 := by
    rintro rfl
    omega
  rw [ofDecimal_inRange hdigits hhigh hlow]
  unfold inPowers at hp
  split at hp
  · next hneg =>
    obtain ⟨rfl, rfl⟩ := Prod.mk.inj hp
    rw [if_pos hneg]
    simp only [Nat.pow_eq] at *
    exact ofRatio_of_near hn (Nat.pow_pos (by decide)) (by omega) (by omega)
  · next hpos =>
    obtain ⟨rfl, rfl⟩ := Prod.mk.inj hp
    rw [if_neg hpos]
    simp only [Nat.pow_eq] at *
    have hmul : digits * 10 ^ power.natAbs * unitsInOne =
        digits * (unitsInOne * 10 ^ power.natAbs) := by ring
    exact ofRatio_of_near hn (by decide) (by rw [hmul]; omega) (by rw [hmul]; omega)

/-! ## The place of the point -/

theorem unitsInOne_le : unitsInOne ≤ 10 ^ liftPlaces := by decide +kernel

/-- Lifted sizes have no more digits than this. -/
def mostLifted : Nat := 660

theorem lift_pos : 0 < 10 ^ liftPlaces := by decide +kernel

theorem lifted_le : 2 ^ 53 * 2 ^ maxExponent * 10 ^ liftPlaces ≤ 10 ^ mostLifted * unitsInOne := by
  decide +kernel

/-- A size in powers of ten is its ratio to the power. -/
theorem inPowers_ratio {n d a b : Nat} (hp : inPowers units power = (n, d))
    (hpower : power = (a : Int) - b) : n * (unitsInOne * 10 ^ a) = d * (units * 10 ^ b) := by
  unfold inPowers at hp
  by_cases hneg : power < 0
  · rw [if_pos hneg] at hp
    obtain ⟨rfl, rfl⟩ := Prod.mk.inj hp
    rw [Nat.pow_eq, show b = power.natAbs + a by omega, Nat.pow_add]
    ring
  · rw [if_neg hneg] at hp
    obtain ⟨rfl, rfl⟩ := Prod.mk.inj hp
    rw [Nat.pow_eq, show a = power.natAbs + b by omega, Nat.pow_add]
    ring

theorem inPowers_pos {n d : Nat} (hp : inPowers units power = (n, d)) : 0 < d := by
  unfold inPowers at hp
  by_cases hneg : power < 0
  · rw [if_pos hneg] at hp
    exact (Prod.mk.inj hp).2 ▸ unitsInOne_pos
  · rw [if_neg hneg] at hp
    exact (Prod.mk.inj hp).2 ▸ Nat.mul_pos unitsInOne_pos (Nat.pow_pos (by decide))

/-- The point of a positive size stands after the digits that its lifted size has more. -/
theorem pointPlace_eq (hu : 0 < units) : ∃ l : Nat,
    pointPlace units = (l : Int) - liftPlaces ∧ 0 < l ∧
      10 ^ (l - 1) * unitsInOne ≤ units * 10 ^ liftPlaces ∧
      units * 10 ^ liftPlaces < 10 ^ l * unitsInOne := by
  have hle := unitsInOne_le
  unfold pointPlace
  rw [Nat.pow_eq]
  generalize 10 ^ liftPlaces = lift at *
  have hq : 0 < units * lift / unitsInOne :=
    Nat.div_pos (Nat.le_trans hle (Nat.le_mul_of_pos_left _ hu)) unitsInOne_pos
  obtain ⟨hlow, hhigh⟩ := Text.ofNat_bounds hq
  exact ⟨_, rfl, Text.length_ofNat_pos _, (Nat.le_div_iff_mul_le unitsInOne_pos).1 hlow,
    (Nat.div_lt_iff_lt_mul unitsInOne_pos).1 hhigh⟩

theorem pointPlace_bounds (hn : (finite negative m e).Normal) (hm : 0 < m) :
    -(342 : Int) ≤ pointPlace (m * 2 ^ e) ∧ pointPlace (m * 2 ^ e) ≤ 317 := by
  obtain ⟨l, hl, hpos, hlow, -⟩ := pointPlace_eq (Nat.mul_pos hm (Nat.two_pow_pos e))
  have hsize : m * 2 ^ e < 2 ^ 53 * 2 ^ maxExponent := by
    obtain ⟨hbits, he, -⟩ := hn
    exact Nat.mul_lt_mul_of_lt_of_le hbits (Nat.pow_le_pow_right (by decide) he) (Nat.two_pow_pos _)
  have hlt : l - 1 < mostLifted := by
    have hlarge := lifted_le
    have hlift := lift_pos
    refine Nat.lt_of_not_le fun hle => ?_
    have hmono : 10 ^ mostLifted ≤ 10 ^ (l - 1) := Nat.pow_le_pow_right (by decide) hle
    generalize 10 ^ mostLifted = high at *
    generalize 10 ^ liftPlaces = lift at *
    generalize 2 ^ 53 * 2 ^ maxExponent = most at *
    refine Nat.lt_irrefl (m * 2 ^ e * lift) ?_
    calc
      m * 2 ^ e * lift < most * lift := Nat.mul_lt_mul_of_pos_right hsize hlift
      _ ≤ high * unitsInOne := hlarge
      _ ≤ 10 ^ (l - 1) * unitsInOne := Nat.mul_le_mul_right _ hmono
      _ ≤ m * 2 ^ e * lift := hlow
  rw [hl]
  simp only [liftPlaces, mostLifted] at *
  omega

/-- A size has seventeen digits before the power of ten that is as far below its point. -/
theorem inPowers_bounds (hu : 0 < units) {n d : Nat}
    (hp : inPowers units (pointPlace units - mostDigits) = (n, d)) :
    d * 10 ^ 16 ≤ n ∧ n < d * 10 ^ 17 := by
  obtain ⟨l, hl, hpos, hlow, hhigh⟩ := pointPlace_eq hu
  have hd := inPowers_pos hp
  have hratio := inPowers_ratio hp (a := l) (b := liftPlaces + 17)
    (by rw [hl]; simp only [mostDigits]; omega)
  have hten : 10 ^ l = 10 * 10 ^ (l - 1) := by
    rw [← Nat.pow_succ', Nat.succ_eq_add_one, Nat.sub_add_cancel hpos]
  have hscale : 0 < unitsInOne * 10 ^ l := Nat.mul_pos unitsInOne_pos (Nat.pow_pos (by decide))
  rw [Nat.pow_add] at hratio
  generalize 10 ^ liftPlaces = lift at *
  constructor
  · refine Nat.le_of_mul_le_mul_right ?_ hscale
    calc
      d * 10 ^ 16 * (unitsInOne * 10 ^ l) = d * 10 ^ 17 * (10 ^ (l - 1) * unitsInOne) := by
        rw [hten]
        ring
      _ ≤ d * 10 ^ 17 * (units * lift) := Nat.mul_le_mul_left _ hlow
      _ = n * (unitsInOne * 10 ^ l) := by
        rw [hratio]
        ring
  · refine Nat.lt_of_mul_lt_mul_right (a := unitsInOne * 10 ^ l) ?_
    calc
      n * (unitsInOne * 10 ^ l) = d * 10 ^ 17 * (units * lift) := by
        rw [hratio]
        ring
      _ < d * 10 ^ 17 * (10 ^ l * unitsInOne) :=
        Nat.mul_lt_mul_of_pos_left hhigh (Nat.mul_pos hd (by norm_num))
      _ = d * 10 ^ 17 * (unitsInOne * 10 ^ l) := by rw [Nat.mul_comm unitsInOne]

/-! ## Searching -/

/-- Of the two neighbours of a size the nearer one reads back where they have seventeen digits. -/
theorem neighbour?_isSome (hn : (finite negative m e).Normal) {n d : Nat}
    (hp : inPowers (m * 2 ^ e) power = (n, d)) (hlow : d * 10 ^ 16 ≤ n) (hhigh : n < d * 10 ^ 17)
    (hleast : -(359 : Int) ≤ power) (hmost : power ≤ 300) :
    (neighbour? (finite negative m e) (m * 2 ^ e) power).isSome := by
  have hd := inPowers_pos hp
  have hdiv := Nat.div_add_mod n d
  have hq : n / d < 10 ^ 17 := (Nat.div_lt_iff_lt_mul hd).2 (by omega)
  have hreads (digits : Nat) (hle : digits ≤ n / d + 1)
      (hnear : 2 * n ≤ 2 * (digits * d) + d ∧ 2 * (digits * d) ≤ 2 * n + d) :
      ofDecimal negative digits power = finite negative m e := by
    have hlength : (Text.ofNat digits).length ≤ 18 := (Text.length_ofNat_le (by decide)).2 (by omega)
    have hpos := Text.length_ofNat_pos digits
    apply ofDecimal_nearest hn hp hd hlow hnear
    · simp only [decimalRange]
      omega
    · simp only [decimalRange]
      omega
  have hsome : ofDecimal negative (n / d) power = finite negative m e ∨
      ofDecimal negative (n / d + 1) power = finite negative m e := by
    rcases Nat.le_total (2 * (n % d)) d with h | h
    · left
      refine hreads _ (by omega) ?_
      rw [Nat.mul_comm (n / d)]
      omega
    · right
      have hmod := Nat.mod_lt n hd
      refine hreads _ (by omega) ?_
      rw [Nat.mul_comm (n / d + 1), Nat.mul_add, Nat.mul_one]
      omega
  unfold neighbour?
  simp only [hp, isNegative]
  rcases hsome with h | h
  · rw [h, beq_self_eq_true]
    split <;> simp_all
  · rw [h, beq_self_eq_true]
    split <;> simp_all

theorem neighbour?_reads (h : neighbour? x units power = some digits) :
    ofDecimal x.isNegative digits power = x := by
  unfold neighbour? at h
  rcases hp : inPowers units power with ⟨n, d⟩
  simp only [hp] at h
  split at h
  · next hb ha =>
    obtain rfl := Option.some.inj h
    split
    · exact eq_of_beq hb
    · exact eq_of_beq ha
  · next hb _ =>
    obtain rfl := Option.some.inj h
    exact eq_of_beq hb
  · next _ ha =>
    obtain rfl := Option.some.inj h
    exact eq_of_beq ha
  · simp at h

/-- The search ends with digits that read back if the last number of digits has some. -/
theorem shortestFrom_reads (count : Nat) (hl : 0 < left)
    (h : (neighbour? x units (place - (left + count - 1 : Nat))).isSome) :
    ofDecimal x.isNegative (shortestFrom x units place left count).1
      (shortestFrom x units place left count).2 = x := by
  induction left generalizing count with
  | zero => contradiction
  | succ left ih =>
    unfold shortestFrom
    cases hn : neighbour? x units (place - count) with
    | some digits => exact neighbour?_reads hn
    | none =>
      rcases Nat.eq_zero_or_pos left with rfl | hpos
      · simp only [Nat.zero_add, Nat.add_sub_cancel_left] at h
        simp [hn] at h
      · apply ih (count + 1) hpos
        rwa [show left + (count + 1) - 1 = left + 1 + count - 1 by omega]

/-- The digits that are written for a number read back as it. -/
theorem shortest_reads (hn : (finite negative m e).Normal) (hm : 0 < m) :
    let (digits, power) := shortestFrom (finite negative m e) (m * 2 ^ e) (pointPlace (m * 2 ^ e))
      mostDigits 1
    0 < digits ∧ ofDecimal negative digits power = finite negative m e := by
  have hu : 0 < m * 2 ^ e := Nat.mul_pos hm (Nat.two_pow_pos e)
  obtain ⟨hleast, hmost⟩ := pointPlace_bounds hn hm
  rcases hp : inPowers (m * 2 ^ e) (pointPlace (m * 2 ^ e) - mostDigits) with ⟨n, d⟩
  obtain ⟨hlow, hhigh⟩ := inPowers_bounds hu hp
  have hlast := neighbour?_isSome hn hp hlow hhigh (by simp only [mostDigits]; omega)
    (by simp only [mostDigits]; omega)
  have hr := shortestFrom_reads 1 (show 0 < mostDigits by decide) hlast
  generalize shortestFrom (finite negative m e) (m * 2 ^ e) (pointPlace (m * 2 ^ e)) mostDigits 1 =
    found at hr ⊢
  obtain ⟨digits, power⟩ := found
  refine ⟨Nat.pos_of_ne_zero ?_, hr⟩
  rintro rfl
  have hzero : finite negative 0 0 = finite negative m e := hr
  injection hzero with _ hz _
  omega

end NameSlots.Double
