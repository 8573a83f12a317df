import NameSlots.Logs.Summary
import NameSlots.Proofs.Number.Nearest

/-!
The value at a percentile is meant to be the one at the nearest rank: the least value that a percentage of
all values do not exceed. The rank is worked out with numbers that are rounded, so for some percentages it
is one too high where the percentage of the values is a whole number.
-/
namespace NameSlots.Logs

open Double

variable {p p' count r : Nat} {values values' ordered : List Int} {v w : Int} {i : Nat}

/-! ## Ranks -/

/-- The least number of values that is a percentage of a count or more. -/
def nearestRank (p count : Nat) : Nat := p * count ⌈/⌉ 100

/-- The part of one that a percentage is rounded to, in units. -/
def part (p : Nat) : Nat := nearest (p * unitsInOne) 100

/-- The rank that comes from the rounded part of a count. -/
def rank (p count : Nat) : Nat := nearest (part p * count) 1 ⌈/⌉ unitsInOne

/-- Of no more values than these a rank is wrong by one at most. -/
def mostValues : Nat := 2 ^ 45

/-- A percentage and a count of values that are there. -/
structure Fits (p count : Nat) : Prop where
  pos : 0 < p
  le : p ≤ 100
  some : 0 < count
  few : count ≤ mostValues

theorem Fits.units_le (h : Fits p count) : p * count * unitsInOne ≤ 2 ^ 52 * unitsInOne :=
  Nat.mul_le_mul_right _ ((Nat.mul_le_mul h.le h.few).trans (by decide))

theorem part_le (hp : p ≤ 100) : part p ≤ unitsInOne := by
  have hpart : p * unitsInOne ≤ 1 * unitsInOne * 100 := by
    rw [Nat.one_mul, Nat.mul_comm]
    exact Nat.mul_le_mul_left _ hp
  have h := nearest_le_whole Nat.one_pos (by decide) (by decide)
    ((Nat.mul_le_mul_right (2 ^ 54) hpart).trans (Nat.le_add_right _ _))
  rwa [Nat.one_mul] at h

theorem part_bounds (hp : 0 < p) :
    2 ^ 53 * (part p * 100) ≤ 2 ^ 53 * (p * unitsInOne) + p * unitsInOne ∧
      2 ^ 53 * (p * unitsInOne) ≤ 2 ^ 53 * (part p * 100) + p * unitsInOne := by
  have hmany : 100 * 2 ^ 52 ≤ unitsInOne := by decide +kernel
  exact nearest_bounds (by decide) (hmany.trans (Nat.le_mul_of_pos_left _ hp))

theorem part_mono (h : p ≤ p') : part p ≤ part p' :=
  nearest_mono (by decide) (by decide) (Nat.mul_le_mul_right _ (Nat.mul_le_mul_right _ h))

theorem div_hundred (h : Fits p count) :
    (ofInt (p : Int)).div (ofInt 100) = ofRatio false p 100 := by
  have hp := units?_ofInt h.pos (Nat.lt_of_le_of_lt h.le (by decide))
  have hhundred := units?_ofInt (show 0 < 100 by decide) (by decide)
  have hne : 100 * unitsInOne ≠ 0 := by
    have := unitsInOne_pos
    omega
  change (ofInt (p : Int)).div (ofInt ((100 : Nat) : Int)) = _
  rw [div_eq_ofRatio hp hhundred hne, isNegative_ofInt, isNegative_ofInt,
    ofRatio_mul_right _ _ _ unitsInOne_pos]
  rfl

/-- The share of a count, rounded up. -/
theorem ceil?_share (h : Fits p count) :
    (((ofInt (p : Int)).div (ofInt 100)).mul (ofInt (count : Int))).ceil? = some (rank p count : Int) := by
  have hcount : count < 2 ^ 53 := Nat.lt_of_le_of_lt h.few (by decide)
  have hpart : (ofRatio false p 100).units? = some (part p) := by
    refine units?_ofRatio false (by decide) ?_
    exact (mul_unitsInOne_lt (Nat.lt_of_le_of_lt h.le (by decide))).trans_le
      (Nat.le_mul_of_pos_left _ (by decide))
  have hmul : (ofRatio false p 100).mul (ofInt (count : Int)) =
      ofRatio false (part p * count) unitsInOne := by
    rw [mul_eq_ofRatio hpart (units?_ofInt h.some hcount), isNegative_ofRatio, isNegative_ofInt,
      ← Nat.mul_assoc, ofRatio_mul_right _ _ _ unitsInOne_pos]
    rfl
  have hlimit : part p * count < sizeLimit :=
    (Nat.mul_le_mul_right count (part_le h.le)).trans_lt
      (Nat.mul_comm count _ ▸ mul_unitsInOne_lt (Nat.lt_trans hcount (by decide)))
  have hshare : (ofRatio false (part p * count) unitsInOne).units? =
      some (nearest (part p * count) 1) := by
    rw [units?_ofRatio false unitsInOne_pos, ← nearest_mul_right _ 1 unitsInOne_pos, Nat.one_mul]
    rw [Nat.mul_comm unitsInOne]
    exact Nat.mul_lt_mul_of_pos_right hlimit unitsInOne_pos
  rw [div_hundred h, hmul, ceil?_eq hshare (isNegative_ofRatio ..), rank]

theorem rank_le_iff : rank p count ≤ r ↔ nearest (part p * count) 1 ≤ r * unitsInOne := by
  rw [rank, ceilDiv_le_iff_le_mul unitsInOne_pos, Nat.mul_comm unitsInOne]

theorem rank_mono (h : p ≤ p') (count : Nat) : rank p count ≤ rank p' count := by
  have hnearest : nearest (part p * count) 1 ≤ nearest (part p' * count) 1 :=
    nearest_mono Nat.one_pos Nat.one_pos
      (Nat.mul_le_mul_right _ (Nat.mul_le_mul_right _ (part_mono h)))
  exact rank_le_iff.2 (hnearest.trans (rank_le_iff.1 (Nat.le_refl _)))

/-! ## The rank is the nearest one, or one more -/

theorem nearestRank_le_iff : nearestRank p count ≤ r ↔ p * count ≤ 100 * r :=
  ceilDiv_le_iff_le_mul (by decide)

theorem nearestRank_bounds (p count : Nat) :
    p * count ≤ 100 * nearestRank p count ∧ 100 * nearestRank p count < p * count + 100 := by
  refine ⟨nearestRank_le_iff.1 (Nat.le_refl _), ?_⟩
  rw [nearestRank, Nat.ceilDiv_eq_add_pred_div]
  omega

theorem units_le_nearestRank (p count : Nat) :
    p * count * unitsInOne ≤ 100 * (nearestRank p count * unitsInOne) := by
  rw [← Nat.mul_assoc]
  exact Nat.mul_le_mul_right _ (nearestRank_bounds p count).1

theorem Fits.nearestRank_pos (h : Fits p count) : 0 < nearestRank p count := by
  have := Nat.mul_pos h.pos h.some
  have := (nearestRank_bounds p count).1
  omega

theorem Fits.nearestRank_le (h : Fits p count) : nearestRank p count ≤ count :=
  nearestRank_le_iff.2 (Nat.mul_le_mul_right _ h.le)

/-- The part of a count is rounded by its `2 ^ 53`-th part at most before it is rounded again. -/
theorem share_bounds (h : Fits p count) :
    2 ^ 53 * (100 * (part p * count)) ≤ 2 ^ 53 * (p * count * unitsInOne) + p * count * unitsInOne ∧
      2 ^ 53 * (p * count * unitsInOne) ≤
        2 ^ 53 * (100 * (part p * count)) + p * count * unitsInOne := by
  obtain ⟨hhigh, hlow⟩ := part_bounds h.pos
  constructor
  · calc
      2 ^ 53 * (100 * (part p * count)) = 2 ^ 53 * (part p * 100) * count := by ring
      _ ≤ (2 ^ 53 * (p * unitsInOne) + p * unitsInOne) * count := Nat.mul_le_mul_right _ hhigh
      _ = 2 ^ 53 * (p * count * unitsInOne) + p * count * unitsInOne := by ring
  · calc
      2 ^ 53 * (p * count * unitsInOne) = 2 ^ 53 * (p * unitsInOne) * count := by ring
      _ ≤ (2 ^ 53 * (part p * 100) + p * unitsInOne) * count := Nat.mul_le_mul_right _ hlow
      _ = 2 ^ 53 * (100 * (part p * count)) + p * count * unitsInOne := by ring

theorem nearestRank_le_rank (h : Fits p count) : nearestRank p count ≤ rank p count := by
  refine Nat.le_of_not_lt fun hlt => ?_
  obtain ⟨-, hlow⟩ := share_bounds h
  have hrank := rank_le_iff.1 (Nat.le_refl (rank p count))
  have hless : (100 * rank p count + 1) * unitsInOne ≤ p * count * unitsInOne := by
    have := (nearestRank_bounds p count).2
    exact Nat.mul_le_mul_right _ (by omega)
  have hmost := h.units_le
  have hmany : 2 ^ 60 ≤ unitsInOne := by decide +kernel
  rw [Nat.add_mul, Nat.one_mul, Nat.mul_assoc] at hless
  generalize part p * count = share at *
  generalize p * count * unitsInOne = exact at *
  generalize rank p count * unitsInOne = below at *
  generalize unitsInOne = one at *
  obtain ⟨-, hround⟩ := nearest_bounds Nat.one_pos (show 1 * 2 ^ 52 ≤ share by omega)
  omega

/-- A share is not rounded up beyond a rank if it is not above it by more than its part of `2 ^ 54`. -/
theorem rank_le (hr : 0 < r) (hbits : r < 2 ^ 53)
    (h : part p * count * 2 ^ 54 ≤ r * unitsInOne * 2 ^ 54 + r * unitsInOne) : rank p count ≤ r := by
  refine rank_le_iff.2 (nearest_le_whole hr hbits Nat.one_pos ?_)
  rwa [Nat.mul_one]

theorem Fits.nearestRank_lt (h : Fits p count) : nearestRank p count + 1 < 2 ^ 53 := by
  have := h.nearestRank_le
  have := h.few
  simp only [mostValues] at this
  omega

theorem rank_le_succ (h : Fits p count) : rank p count ≤ nearestRank p count + 1 := by
  refine rank_le (Nat.succ_pos _) h.nearestRank_lt ?_
  obtain ⟨hhigh, -⟩ := share_bounds h
  have hup := units_le_nearestRank p count
  have hmost := h.units_le
  rw [Nat.add_mul, Nat.one_mul]
  omega

theorem rank_eq_of_not_dvd (h : Fits p count) (hd : ¬ 100 ∣ p * count) :
    rank p count = nearestRank p count := by
  refine Nat.le_antisymm ?_ (nearestRank_le_rank h)
  refine rank_le h.nearestRank_pos (Nat.lt_of_succ_lt h.nearestRank_lt) ?_
  obtain ⟨hhigh, -⟩ := share_bounds h
  have hup : (p * count + 1) * unitsInOne ≤ 100 * nearestRank p count * unitsInOne := by
    have := (nearestRank_bounds p count).1
    exact Nat.mul_le_mul_right _ (by omega)
  have hmost := h.units_le
  rw [Nat.add_mul, Nat.one_mul, Nat.mul_assoc 100] at hup
  omega

/-- A percentage whose part of one is not rounded up by more than its part of `2 ^ 54` has no wrong ranks. -/
theorem rank_eq_of_close (h : Fits p count)
    (hclose : part p * 100 * 2 ^ 54 ≤ p * unitsInOne * 2 ^ 54 + p * unitsInOne) :
    rank p count = nearestRank p count := by
  refine Nat.le_antisymm ?_ (nearestRank_le_rank h)
  refine rank_le h.nearestRank_pos (Nat.lt_of_succ_lt h.nearestRank_lt) ?_
  have hup := units_le_nearestRank p count
  refine Nat.le_of_mul_le_mul_left ?_ (show 0 < 100 by decide)
  calc
    100 * (part p * count * 2 ^ 54) = part p * 100 * 2 ^ 54 * count := by ring
    _ ≤ (p * unitsInOne * 2 ^ 54 + p * unitsInOne) * count := Nat.mul_le_mul_right _ hclose
    _ = p * count * unitsInOne * 2 ^ 54 + p * count * unitsInOne := by ring
    _ ≤ 100 * (nearestRank p count * unitsInOne) * 2 ^ 54 + 100 * (nearestRank p count * unitsInOne) :=
      Nat.add_le_add (Nat.mul_le_mul_right _ hup) hup
    _ = 100 * (nearestRank p count * unitsInOne * 2 ^ 54 + nearestRank p count * unitsInOne) := by ring

/-- Percentages whose part of one is rounded up by more than that, each with the least number of values of
which the rank is wrong. -/
def drifts : List (Nat × Nat) :=
  [(7, 100), (14, 50), (17, 300), (27, 900), (28, 25), (34, 150), (54, 450), (55, 100), (56, 25),
    (67, 1500), (68, 75), (81, 300)]

theorem rank_drifts : ∀ drift ∈ drifts, rank drift.1 drift.2 = nearestRank drift.1 drift.2 + 1 ∧
    nearestRank drift.1 drift.2 < drift.2 := by
  decide +kernel

theorem fits_drifts : ∀ drift ∈ drifts, Fits drift.1 drift.2 := by
  simp only [drifts, List.forall_mem_cons, List.not_mem_nil, false_implies, implies_true, and_true]
  refine ⟨?_, ?_, ?_, ?_, ?_, ?_, ?_, ?_, ?_, ?_, ?_, ?_⟩ <;>
    exact ⟨by decide, by decide, by decide, by decide⟩

theorem part_close : ∀ p ≤ 100, 0 < p → p ∉ drifts.map Prod.fst →
    part p * 100 * 2 ^ 54 ≤ p * unitsInOne * 2 ^ 54 + p * unitsInOne := by
  decide +kernel

/-- A rank is the nearest one, or the next one for some percentages of which the share is a whole number. -/
theorem rank_cases (h : Fits p count) : rank p count = nearestRank p count ∨
    (rank p count = nearestRank p count + 1 ∧ 100 ∣ p * count ∧ p ∈ drifts.map Prod.fst) := by
  rcases Nat.eq_or_lt_of_le (nearestRank_le_rank h) with he | hlt
  · exact .inl he.symm
  · refine .inr ⟨Nat.le_antisymm (rank_le_succ h) hlt, ?_, ?_⟩
    · by_contra hd
      exact Nat.ne_of_gt hlt (rank_eq_of_not_dvd h hd)
    · by_contra hdrift
      exact Nat.ne_of_gt hlt (rank_eq_of_close h (part_close p h.le h.pos hdrift))

/-! ## Values in order -/

/-- Values in ascending order. -/
def ascending (values : List Int) : List Int := values.mergeSort (· ≤ ·)

theorem pairwise_ascending (values : List Int) : (ascending values).Pairwise (· ≤ ·) := by
  have h : (ascending values).Pairwise fun a b => decide (a ≤ b) = true :=
    List.pairwise_mergeSort (by intro a b c; simpa using Int.le_trans)
      (by intro a b; simpa using Int.le_total a b) values
  simpa using h

theorem ascending_perm (values : List Int) : (ascending values).Perm values :=
  List.mergeSort_perm _ _

theorem length_ascending (values : List Int) : (ascending values).length = values.length :=
  (ascending_perm values).length_eq

/-- The value at a percentile does not depend on the order of the values. -/
theorem percentile?_perm (h : values.Perm values') (p : Double) :
    percentile? p values = percentile? p values' := by
  have hordered : values.mergeSort (· ≤ ·) = values'.mergeSort (· ≤ ·) :=
    List.Perm.eq_of_pairwise (fun _ _ _ _ => Int.le_antisymm) (pairwise_ascending values)
      (pairwise_ascending values') ((ascending_perm values).trans (h.trans (ascending_perm values').symm))
  unfold percentile?
  rw [hordered, h.length_eq]

theorem percentile?_eq (h : Fits p values.length) : percentile? (ofInt (p : Int)) values =
    (ascending values)[min (values.length - 1) (rank p values.length - 1)]? := by
  have hindex (n r : Nat) : (min ((n : Int) - 1) (max 0 ((r : Int) - 1))).toNat = min (n - 1) (r - 1) := by
    omega
  rw [← hindex]
  unfold percentile?
  dsimp only
  rw [ceil?_share h]
  rfl

/-- In an ascending list the values up to a bound are counted by their places. -/
theorem le_iff_lt_countP (h : ordered.Pairwise (· ≤ ·)) (hv : ordered[i]? = some v) :
    v ≤ w ↔ i < ordered.countP (· ≤ w) := by
  induction ordered generalizing i with
  | nil => simp at hv
  | cons first rest ih =>
    obtain ⟨hfirst, hrest⟩ := List.pairwise_cons.1 h
    by_cases hw : first ≤ w
    · rw [List.countP_cons_of_pos (by simpa using hw)]
      cases i with
      | zero =>
        obtain rfl : first = v := by simpa using hv
        simp [hw]
      | succ i => rw [ih hrest (by simpa using hv), Nat.succ_lt_succ_iff]
    · have hnone : (first :: rest).countP (· ≤ w) = 0 := by
        refine List.countP_eq_zero.2 fun x hx => ?_
        have hle : first ≤ x := by
          rcases List.mem_cons.1 hx with rfl | hx
          · exact Int.le_refl _
          · exact hfirst x hx
        simp only [decide_eq_true_eq]
        omega
      have hle : first ≤ v := by
        rcases List.mem_cons.1 (List.mem_of_getElem? hv) with rfl | hx
        · exact Int.le_refl _
        · exact hfirst v hx
      rw [hnone]
      omega

/-- The least of some values that a percentage of all do not exceed. -/
structure IsPercentile (p : Nat) (values : List Int) (v : Int) : Prop where
  mem : v ∈ values
  covers : p * values.length ≤ 100 * values.countP (· ≤ v)
  least : ∀ w ∈ values, p * values.length ≤ 100 * values.countP (· ≤ w) → v ≤ w

theorem covers_iff : p * values.length ≤ 100 * values.countP (· ≤ w) ↔
    nearestRank p values.length ≤ (ascending values).countP (· ≤ w) := by
  rw [nearestRank_le_iff, (ascending_perm values).countP_eq]

/-- The least value that a percentage of all do not exceed is the one at the nearest rank. -/
theorem isPercentile_iff (h : Fits p values.length) :
    IsPercentile p values v ↔ (ascending values)[nearestRank p values.length - 1]? = some v := by
  have hpos := h.nearestRank_pos
  have hof {v : Int} (hv : (ascending values)[nearestRank p values.length - 1]? = some v) :
      IsPercentile p values v := by
    have hplace (w : Int) := le_iff_lt_countP (w := w) (pairwise_ascending values) hv
    refine ⟨(ascending_perm values).mem_iff.1 (List.mem_of_getElem? hv), covers_iff.2 ?_, fun w _ hw => ?_⟩
    · have := (hplace v).1 (Int.le_refl v)
      omega
    · have := covers_iff.1 hw
      exact (hplace w).2 (by omega)
  refine ⟨fun hp => ?_, hof⟩
  have hlt : nearestRank p values.length - 1 < (ascending values).length := by
    have := h.nearestRank_le
    rw [length_ascending]
    omega
  have hat := List.getElem?_eq_getElem hlt
  have hone := hof hat
  rw [hat, Int.le_antisymm (hone.least v hp.mem hp.covers) (hp.least _ hone.mem hone.covers)]

/-! ## The value at a percentile -/

/-- There is a value at each percentile, which is not too low. It is too high only if the share of the
values is a whole number, and for some percentages. -/
theorem percentile?_covers (h : Fits p values.length) :
    ∃ v, percentile? (ofInt (p : Int)) values = some v ∧ v ∈ values ∧
      p * values.length ≤ 100 * values.countP (· ≤ v) ∧
      (¬ (100 ∣ p * values.length ∧ p ∈ drifts.map Prod.fst) → IsPercentile p values v) := by
  have hpos := h.nearestRank_pos
  have hle := h.nearestRank_le
  have hrank := nearestRank_le_rank h
  have hlt : min (values.length - 1) (rank p values.length - 1) < (ascending values).length := by
    rw [length_ascending]
    omega
  have hv := List.getElem?_eq_getElem hlt
  refine ⟨_, (percentile?_eq h).trans hv, (ascending_perm values).mem_iff.1 (List.mem_of_getElem? hv),
    covers_iff.2 ?_, fun hright => (isPercentile_iff h).2 ?_⟩
  · have := (le_iff_lt_countP (pairwise_ascending values) hv).1 (Int.le_refl _)
    omega
  · have hsame := (rank_cases h).resolve_right fun hdrift => hright hdrift.2
    have hindex : nearestRank p values.length - 1 =
        min (values.length - 1) (rank p values.length - 1) := by omega
    rw [hindex, hv]

/-- A higher percentile never has a lower value. -/
theorem percentile?_mono (h : Fits p values.length) (h' : Fits p' values.length) (hp : p ≤ p')
    (hv : percentile? (ofInt (p : Int)) values = some v)
    (hw : percentile? (ofInt (p' : Int)) values = some w) : v ≤ w := by
  rw [percentile?_eq h] at hv
  rw [percentile?_eq h'] at hw
  have hplace := (le_iff_lt_countP (pairwise_ascending values) hw).1 (Int.le_refl w)
  have hrank := rank_mono hp values.length
  exact (le_iff_lt_countP (pairwise_ascending values) hv).2 (by omega)

/-- Whole numbers in order, of which each is its own place. -/
def firstNumbers (count : Nat) : List Int := (List.range count).map Int.ofNat

theorem length_firstNumbers (count : Nat) : (firstNumbers count).length = count := by
  simp [firstNumbers]

theorem ascending_firstNumbers (count : Nat) : ascending (firstNumbers count) = firstNumbers count := by
  refine List.mergeSort_of_pairwise (List.pairwise_map.2 (List.pairwise_le_range.imp fun hle => ?_))
  exact decide_eq_true (Int.ofNat_le.2 hle)

theorem getElem?_firstNumbers (h : i < count) : (firstNumbers count)[i]? = some (i : Int) := by
  rw [firstNumbers, List.getElem?_map, List.getElem?_range h]
  rfl

/-- Where the rank is one too high the value is that after the right one. -/
theorem drift_values (h : (p, count) ∈ drifts) :
    percentile? (ofInt (p : Int)) (firstNumbers count) = some (nearestRank p count : Int) ∧
      IsPercentile p (firstNumbers count) (nearestRank p count - 1 : Int) := by
  have hrank : rank p count = nearestRank p count + 1 := (rank_drifts _ h).1
  have hless : nearestRank p count < count := (rank_drifts _ h).2
  have hpos : 0 < nearestRank p count := (fits_drifts _ h).nearestRank_pos
  have hfits : Fits p (firstNumbers count).length := by
    rw [length_firstNumbers]
    exact fits_drifts _ h
  constructor
  · have hindex : min (count - 1) (rank p count - 1) = nearestRank p count := by omega
    rw [percentile?_eq hfits, ascending_firstNumbers, length_firstNumbers, hindex,
      getElem?_firstNumbers hless]
  · rw [isPercentile_iff hfits, ascending_firstNumbers, length_firstNumbers,
      getElem?_firstNumbers (by omega), Int.natCast_pred_of_pos hpos]

/-- The value at a percentile is the one at the nearest rank, whatever the values are, for just those
percentages whose part of one is not rounded up too far. -/
theorem percentile?_nearest_iff (hp : 0 < p) (hle : p ≤ 100) :
    (∀ values : List Int, values ≠ [] → values.length ≤ mostValues →
      ∃ v, percentile? (ofInt (p : Int)) values = some v ∧ IsPercentile p values v) ↔
    p ∉ drifts.map Prod.fst := by
  constructor
  · intro hall hdrift
    obtain ⟨⟨_, count⟩, hmem, rfl⟩ := List.mem_map.1 hdrift
    have h := fits_drifts _ hmem
    obtain ⟨hvalue, hright⟩ := drift_values hmem
    obtain ⟨v, hv, hp⟩ := hall (firstNumbers count) (List.ne_nil_of_mem hright.mem)
      (by rw [length_firstNumbers]; exact h.few)
    obtain rfl := Option.some.inj (hvalue.symm.trans hv)
    have := hp.least _ hright.mem hright.covers
    omega
  · intro hdrift values hne hfew
    have h : Fits p values.length := ⟨hp, hle, List.length_pos_iff.2 hne, hfew⟩
    obtain ⟨v, hv, -, -, hright⟩ := percentile?_covers h
    exact ⟨v, hv, hright fun hd => hdrift hd.2⟩

/-- Of twenty-five values seven are twenty-eight percent. -/
example : nearestRank 28 25 = 7 ∧ rank 28 25 = 8 := by decide +kernel

/-! ## Times of requests -/

/-- What is told of times at a percentile: nothing if there are none. -/
inductive Tells (p : Nat) : List Int → Option Int → Prop where
  | nothing : Tells p [] none
  | time {times : List Int} {v : Int} : IsPercentile p times v → Tells p times (some v)

theorem percentile?_nil (p : Double) : percentile? p [] = none := by
  unfold percentile?
  dsimp only
  cases ((p.div (ofInt 100)).mul (ofInt (List.length ([] : List Int)))).ceil? <;> simp

variable {events : List Event}

theorem timePercentile?_tells (hp : 0 < p) (hle : p ≤ 100) (hdrift : p ∉ drifts.map Prod.fst)
    (hfew : events.length ≤ mostValues) (time? : Event → Option Int) :
    Tells p (events.filterMap time?) (timePercentile? p time? events) := by
  unfold timePercentile?
  by_cases hnone : events.filterMap time? = []
  · rw [hnone, percentile?_nil]
    exact .nothing
  · obtain ⟨v, hv, hright⟩ := (percentile?_nearest_iff hp hle).2 hdrift _ hnone
      ((List.length_filterMap_le _ _).trans hfew)
    rw [hv]
    exact .time hright

/-- The times that are told of an operation are those at the nearest ranks. -/
theorem ofEvents_percentiles (h : events.length ≤ mostValues) :
    Tells 50 (events.filterMap (·.totalMs)) (Stats.ofEvents events).totalMsP50 ∧
      Tells 95 (events.filterMap (·.totalMs)) (Stats.ofEvents events).totalMsP95 ∧
      Tells 95 (events.filterMap (·.workerMs)) (Stats.ofEvents events).workerMsP95 ∧
      Tells 95 (events.filterMap (·.queueWaitMs)) (Stats.ofEvents events).queueWaitMsP95 := by
  have hmiddle := timePercentile?_tells (show 0 < 50 by decide) (by decide) (by decide) h
  have hhigh := timePercentile?_tells (show 0 < 95 by decide) (by decide) (by decide) h
  exact ⟨hmiddle _, hhigh _, hhigh _, hhigh _⟩

end NameSlots.Logs
