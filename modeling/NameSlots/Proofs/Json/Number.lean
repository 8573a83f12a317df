import Mathlib.Data.List.TakeWhile
import NameSlots.Json.Reader
import NameSlots.Json.Writer
import NameSlots.Proofs.Number.Shortest

/-! Numbers of JSON text: whole numbers and the shortest decimals of doubles are read back. -/
namespace NameSlots.Json

/-- A text that does not go on with a number. -/
def Ends (rest : Text) : Prop :=
  ∀ c ∈ rest.head?, c.isDigit = false ∧ c ≠ '.' ∧ c ≠ 'e' ∧ c ≠ 'E'

/-- Digits before a point: a single zero, or digits of which the first one is no zero. -/
structure Whole (digits : Text) : Prop where
  isDigit : ∀ c ∈ digits, c.isDigit = true
  ne_nil : digits ≠ []
  zero : digits.head? = some '0' → digits = ['0']

variable {digits fraction rest more : Text} {n : Nat} {negative : Bool} {power place : Int}
  {x : Double}

/-! ## Parts of a number -/

theorem takeWhile_digits (hd : ∀ c ∈ digits, c.isDigit = true)
    (hr : ∀ c ∈ rest.head?, c.isDigit = false) :
    (digits ++ rest).takeWhile Char.isDigit = digits ∧
      (digits ++ rest).dropWhile Char.isDigit = rest := by
  rw [List.takeWhile_append_of_pos hd, List.dropWhile_append_of_pos hd]
  cases rest with
  | nil => simp
  | cons c rest =>
    have hc : c.isDigit = false := hr c (by simp)
    simp [hc]

theorem readFraction_digits (hd : ∀ c ∈ fraction, c.isDigit = true) (hf : fraction ≠ [])
    (hr : ∀ c ∈ rest.head?, c.isDigit = false) :
    readFraction ('.' :: (fraction ++ rest)) = (fraction, rest) := by
  obtain ⟨ht, hdrop⟩ := takeWhile_digits hd hr
  simp only [readFraction, ht, hdrop]
  simp [hf]

theorem readFraction_none (hr : ∀ c ∈ rest.head?, c ≠ '.') : readFraction rest = ([], rest) := by
  unfold readFraction
  split
  · exact (hr '.' (by simp) rfl).elim
  · rfl

theorem readPower_none (hr : ∀ c ∈ rest.head?, c ≠ 'e' ∧ c ≠ 'E') :
    readPower rest = (none, rest) := by
  unfold readPower
  cases rest with
  | nil => rfl
  | cons c rest =>
    obtain ⟨he, hE⟩ := hr c (by simp)
    simp [he, hE]

/-- Digits of a power of ten may start with zeros. -/
theorem readPower_digits (negative : Bool) (hd : ∀ c ∈ digits, c.isDigit = true) (hne : digits ≠ [])
    (hr : ∀ c ∈ rest.head?, c.isDigit = false) :
    readPower ('e' :: (if negative then '-' else '+') :: (digits ++ rest)) =
      (some (if negative then -(Text.numeral 10 digits : Int) else Text.numeral 10 digits), rest) := by
  obtain ⟨ht, hdrop⟩ := takeWhile_digits hd hr
  cases negative <;> simp [readPower, ht, hdrop, hne]

theorem whole_ofNat (n : Nat) : Whole (Text.ofNat n) := by
  refine ⟨Text.isDigit_ofNat n, Text.ofNat_ne_nil n, fun h => ?_⟩
  rcases Nat.eq_zero_or_pos n with rfl | hn
  · rfl
  · exact (Text.head_ofNat hn h).elim

/-- The digits before a point are taken up to the point. -/
theorem readNumber?_whole (hw : Whole digits) (hr : ∀ c ∈ rest.head?, c.isDigit = false) :
    readNumber? negative (digits ++ rest) = some (
      if (readFraction rest).1.isEmpty && (readPower (readFraction rest).2).1.isNone then
        if digits.length > Number.maxDigits then .error (.tooManyDigits digits.length)
        else .ok (.int (if negative then -(Text.numeral 10 digits : Int)
          else Text.numeral 10 digits), (readPower (readFraction rest).2).2)
      else .ok (.float (Double.ofDecimal negative
        (Text.numeral 10 (digits ++ (readFraction rest).1))
        ((readPower (readFraction rest).2).1.getD 0 - (readFraction rest).1.length)),
          (readPower (readFraction rest).2).2)) := by
  obtain ⟨htake, -⟩ := takeWhile_digits hw.isDigit hr
  unfold readNumber?
  split
  · next text heq =>
    obtain ⟨c, tail, hc⟩ := List.exists_cons_of_ne_nil hw.ne_nil
    obtain rfl : digits = ['0'] := by
      rw [hc, List.cons_append] at heq
      exact hw.zero (by rw [hc, (List.cons.inj heq).1]; rfl)
    simp only [List.length_singleton, List.cons_append, List.nil_append, List.drop_succ_cons,
      List.drop_zero, List.isEmpty_cons, Bool.false_eq_true, if_false, apply_ite some]
  · simp only [htake, List.drop_left, List.isEmpty_iff, hw.ne_nil, if_false, apply_ite some]

theorem readNumber?_ofNat (hn : (Text.ofNat n).length ≤ Number.maxDigits) (he : Ends rest) :
    readNumber? negative (Text.ofNat n ++ rest) =
      some (.ok (.int (if negative then -(n : Int) else n), rest)) := by
  rw [readNumber?_whole (whole_ofNat n) fun c hc => (he c hc).1,
    readFraction_none fun c hc => (he c hc).2.1, readPower_none fun c hc => (he c hc).2.2,
    Text.numeral_ofNat]
  simp [Nat.not_lt.2 hn]

/-- A decimal with digits after its point. -/
theorem readNumber?_point (negative : Bool) (hw : Whole digits) (hd : ∀ c ∈ fraction, c.isDigit = true)
    (hf : fraction ≠ []) (he : Ends rest) :
    readNumber? negative (digits ++ '.' :: (fraction ++ rest)) =
      some (.ok (.float (Double.ofDecimal negative (Text.numeral 10 (digits ++ fraction))
        (-(fraction.length : Int))), rest)) := by
  rw [readNumber?_whole hw (by simp), readFraction_digits hd hf fun c hc => (he c hc).1,
    readPower_none fun c hc => (he c hc).2.2]
  simp [hf]

/-- A decimal with a power of ten. -/
theorem readNumber?_power (negative below : Bool) {point : Text} (hw : Whole digits)
    (hp : point = [] ∧ fraction = [] ∨ point = '.' :: fraction ∧ fraction ≠ [])
    (hd : ∀ c ∈ fraction, c.isDigit = true) {tens : Text}
    (ht : ∀ c ∈ tens, c.isDigit = true) (hne : tens ≠ []) (he : Ends rest) :
    readNumber? negative
        (digits ++ (point ++ 'e' :: (if below then '-' else '+') :: (tens ++ rest))) =
      some (.ok (.float (Double.ofDecimal negative (Text.numeral 10 (digits ++ fraction))
        ((if below then -(Text.numeral 10 tens : Int) else Text.numeral 10 tens) -
          fraction.length)), rest)) := by
  have hpower := readPower_digits below ht hne fun c hc => (he c hc).1
  rcases hp with ⟨rfl, rfl⟩ | ⟨rfl, hf⟩
  · rw [List.nil_append, readNumber?_whole hw (by simp), readFraction_none (by simp), hpower]
    simp
  · rw [List.cons_append, readNumber?_whole hw (by simp), readFraction_digits hd hf (by simp),
      hpower]
    simp

/-! ## Doubles -/

/-- Digits of a size: the first one is no zero. -/
structure Significant (digits : Text) : Prop where
  isDigit : ∀ c ∈ digits, c.isDigit = true
  ne_nil : digits ≠ []
  head : digits.head? ≠ some '0'

theorem significant_cons (h : Significant digits) : ∃ c tail, digits = c :: tail ∧
    c.isDigit = true ∧ (∀ d ∈ tail, d.isDigit = true) ∧ c ≠ '0' := by
  obtain ⟨c, tail, rfl⟩ := List.exists_cons_of_ne_nil h.ne_nil
  obtain ⟨hc, ht⟩ := List.forall_mem_cons.1 h.isDigit
  exact ⟨c, tail, rfl, hc, ht, fun h0 => h.head (by rw [h0]; rfl)⟩

theorem whole_append (h : Significant digits) (hm : ∀ c ∈ more, c.isDigit = true) :
    Whole (digits ++ more) := by
  obtain ⟨c, tail, rfl, hc, ht, h0⟩ := significant_cons h
  refine ⟨?_, by simp, fun h => (h0 (Option.some.inj h)).elim⟩
  intro d hd
  rcases List.mem_append.1 hd with hd | hd
  · exact h.isDigit d hd
  · exact hm d hd

theorem isDigit_zeros (n : Nat) : ∀ c ∈ List.replicate n '0', c.isDigit = true := by
  intro c hc
  rw [List.eq_of_mem_replicate hc]
  rfl

/-- Without a power of ten, digits read as the decimal with the point at its place. -/
theorem readNumber?_positional (h : Significant digits) (he : Ends rest) :
    readNumber? negative (Double.positional digits place ++ rest) =
      some (.ok (.float (Double.ofDecimal negative (Text.numeral 10 digits)
        (place - digits.length)), rest)) := by
  unfold Double.positional
  by_cases hfirst : place ≤ 0
  · rw [if_pos hfirst]
    have hdigits : ∀ c ∈ List.replicate place.natAbs '0' ++ digits, c.isDigit = true :=
      List.forall_mem_append.2 ⟨isDigit_zeros _, h.isDigit⟩
    have hread := readNumber?_point negative (whole_ofNat 0) hdigits
      (by simp [h.ne_nil]) he
    have hnumeral : Text.numeral 10 (Text.ofNat 0 ++ (List.replicate place.natAbs '0' ++ digits)) =
        Text.numeral 10 digits := by
      rw [Text.numeral_append, Text.numeral_append, Text.numeral_zeros, Text.numeral_ofNat]
      simp
    rw [hnumeral, List.length_append, List.length_replicate] at hread
    rw [show place - digits.length = -((place.natAbs + digits.length : Nat) : Int) by omega, ← hread]
    simp [Text.ofNat]
  · rw [if_neg hfirst]
    by_cases hlast : digits.length ≤ place.natAbs
    · rw [if_pos hlast]
      have hread := readNumber?_point negative
        (whole_append h (isDigit_zeros (place.natAbs - digits.length)))
        (show ∀ c ∈ ['0'], c.isDigit = true from isDigit_zeros 1) (by simp) he
      have hnumeral : Text.numeral 10
          (digits ++ List.replicate (place.natAbs - digits.length) '0' ++ ['0']) =
            Text.numeral 10 digits * 10 ^ (place.natAbs - digits.length + 1) := by
        rw [List.append_assoc, Text.numeral_append, List.length_append, List.length_replicate,
          ← List.replicate_succ', Text.numeral_zeros, List.length_singleton, Nat.add_zero]
      have hpower : (-((['0'] : Text).length : Int)) = (place - digits.length) -
          ((place.natAbs - digits.length + 1 : Nat) : Int) := by
        rw [List.length_singleton]
        omega
      rw [hnumeral, hpower, Double.ofDecimal_mul_pow] at hread
      rw [← hread]
      simp
    · rw [if_neg hlast]
      have htake : Significant (digits.take place.natAbs) := by
        obtain ⟨c, tail, rfl, hc, ht, h0⟩ := significant_cons h
        obtain ⟨n, hn⟩ : ∃ n, place.natAbs = n + 1 := ⟨place.natAbs - 1, by omega⟩
        rw [hn, List.take_succ_cons]
        exact ⟨List.forall_mem_cons.2 ⟨hc, fun d hd => ht d (List.mem_of_mem_take hd)⟩, by simp,
          fun h => h0 (Option.some.inj h)⟩
      have hdrop : ∀ c ∈ digits.drop place.natAbs, c.isDigit = true :=
        fun c hc => h.isDigit c (List.mem_of_mem_drop hc)
      have hwhole := whole_append htake (show ∀ c ∈ ([] : Text), c.isDigit = true by simp)
      rw [List.append_nil] at hwhole
      have hread := readNumber?_point negative hwhole hdrop
        (by simpa using hlast) he
      rw [List.take_append_drop, List.length_drop] at hread
      rw [show place - digits.length = -((digits.length - place.natAbs : Nat) : Int) by omega,
        ← hread]
      simp

/-- With a power of ten, digits read as the decimal with the point after the first of them. -/
theorem readNumber?_scientific (h : Significant digits) (he : Ends rest) :
    readNumber? negative (Double.scientific digits place ++ rest) =
      some (.ok (.float (Double.ofDecimal negative (Text.numeral 10 digits)
        (place - digits.length)), rest)) := by
  obtain ⟨c, tail, rfl, hc, ht, h0⟩ := significant_cons h
  have hwhole : Whole [c] := ⟨by simpa using hc, by simp, fun h => (h0 (Option.some.inj h)).elim⟩
  have htens : ∀ d ∈ List.replicate (2 - (Text.ofNat (place - 1).natAbs).length) '0' ++
      Text.ofNat (place - 1).natAbs, d.isDigit = true :=
    List.forall_mem_append.2 ⟨isDigit_zeros _, Text.isDigit_ofNat _⟩
  have hsize : Text.numeral 10 (List.replicate (2 - (Text.ofNat (place - 1).natAbs).length) '0' ++
      Text.ofNat (place - 1).natAbs) = (place - 1).natAbs := by
    rw [Text.numeral_append, Text.numeral_zeros, Text.numeral_ofNat]
    simp
  have hpoint : (if tail = [] then [] else '.' :: tail) = [] ∧ tail = [] ∨
      (if tail = [] then [] else '.' :: tail) = '.' :: tail ∧ tail ≠ [] := by
    cases tail <;> simp
  have hread := readNumber?_power negative (place - 1 < 0) hwhole hpoint ht htens
    (by simp [Text.ofNat_ne_nil]) he
  have hpower : ((if decide (place - 1 < 0) = true then -((place - 1).natAbs : Int)
      else (place - 1).natAbs) - tail.length) = place - (c :: tail).length := by
    simp only [decide_eq_true_eq, List.length_cons]
    split <;> omega
  rw [hsize, hpower] at hread
  refine Eq.trans (congrArg (readNumber? negative) ?_) hread
  cases tail <;> simp [Double.scientific]

theorem trimZeros_spec (digits : Text) :
    ∃ zeros, digits = Double.trimZeros digits ++ List.replicate zeros '0' := by
  refine ⟨(digits.reverse.takeWhile (· = '0')).length, ?_⟩
  have hzeros : digits.reverse.takeWhile (· = '0') =
      List.replicate (digits.reverse.takeWhile (· = '0')).length '0' :=
    List.eq_replicate_iff.2 ⟨rfl, fun c hc => by simpa using List.mem_takeWhile_imp hc⟩
  rw [Double.trimZeros, ← List.reverse_replicate, ← hzeros, ← List.reverse_append,
    List.takeWhile_append_dropWhile, List.reverse_reverse]

theorem significant_trimZeros (hn : 0 < n) : Significant (Double.trimZeros (Text.ofNat n)) := by
  obtain ⟨zeros, hz⟩ := trimZeros_spec (Text.ofNat n)
  have hdigits := Text.isDigit_ofNat n
  have hhead := Text.head_ofNat hn
  have hnumeral := Text.numeral_ofNat n
  generalize Double.trimZeros (Text.ofNat n) = digits at hz ⊢
  rw [hz] at hdigits hhead hnumeral
  have hne : digits ≠ [] := by
    rintro rfl
    rw [List.nil_append, Text.numeral_zeros] at hnumeral
    omega
  refine ⟨(List.forall_mem_append.1 hdigits).1, hne, fun h => hhead ?_⟩
  rw [List.head?_append, h]
  rfl

/-- The text of a double's size reads back as the double. -/
theorem readNumber?_size {m e : Nat} (hn : (Double.finite negative m e).Normal) (he : Ends rest) :
    readNumber? negative (Double.sizeText (.finite negative m e) (m * 2 ^ e) ++ rest) =
      some (.ok (.float (.finite negative m e), rest)) := by
  unfold Double.sizeText
  rcases Nat.eq_zero_or_pos m with rfl | hm
  · obtain rfl : e = 0 := by
      obtain ⟨-, -, h⟩ := hn
      omega
    have hread := readNumber?_point negative (whole_ofNat 0) (isDigit_zeros 1)
      (by simp) he
    rw [Text.numeral_append, Text.numeral_zeros, Text.numeral_ofNat] at hread
    simpa [Text.ofNat, Double.ofDecimal] using hread
  · have hu : m * 2 ^ e ≠ 0 := Nat.ne_of_gt (Nat.mul_pos hm (Nat.two_pow_pos e))
    rw [if_neg hu]
    have hshort := Double.shortest_reads hn hm
    generalize Double.shortestFrom (.finite negative m e) (m * 2 ^ e)
      (Double.pointPlace (m * 2 ^ e)) Double.mostDigits 1 = found at hshort ⊢
    obtain ⟨number, power⟩ := found
    obtain ⟨hpos, hreads⟩ := hshort
    have hsig := significant_trimZeros hpos
    obtain ⟨zeros, hz⟩ := trimZeros_spec (Text.ofNat number)
    have hnumber : Text.numeral 10 (Double.trimZeros (Text.ofNat number)) * 10 ^ zeros = number := by
      have := Text.numeral_ofNat number
      rw [hz, Text.numeral_append, Text.numeral_zeros, List.length_replicate, Nat.add_zero] at this
      exact this
    have hlength : (Text.ofNat number).length =
        (Double.trimZeros (Text.ofNat number)).length + zeros := by
      conv => lhs; rw [hz]
      rw [List.length_append, List.length_replicate]
    have hvalue : Double.ofDecimal negative
        (Text.numeral 10 (Double.trimZeros (Text.ofNat number)))
          ((Text.ofNat number).length + power - (Double.trimZeros (Text.ofNat number)).length) =
            .finite negative m e := by
      rw [← hreads, ← hnumber, ← Double.ofDecimal_mul_pow negative _ zeros, hnumber]
      congr 1
      omega
    dsimp only
    split
    · rw [readNumber?_positional hsig he, hvalue]
    · rw [readNumber?_scientific hsig he, hvalue]

end NameSlots.Json
