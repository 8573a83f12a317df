import Mathlib.Tactic.Common
import NameSlots.Text.Utf8

/-! The bytes of a text decode to the text. -/
namespace NameSlots

namespace Utf8

variable {n : Nat} {c : Char}

theorem toNat_byte (h : n < 256) : n.toUInt8.toNat = n := by
  simp [Nat.toUInt8, Nat.mod_eq_of_lt h]

theorem isContinuation_low (n : Nat) : isContinuation (0x80 + n % 64).toUInt8 = true := by
  have hb := toNat_byte (show 0x80 + n % 64 < 256 by omega)
  simp only [isContinuation, Bool.and_eq_true, decide_eq_true_eq, UInt8.le_iff_toNat_le,
    UInt8.lt_iff_toNat_lt, hb]
  change 128 ≤ _ ∧ _ < 192
  omega

theorem lowBits_low (n : Nat) : lowBits (0x80 + n % 64).toUInt8 = n % 64 := by
  rw [lowBits, toNat_byte (by omega)]
  omega

theorem followers?_eq (h : n < 256) : followers? n.toUInt8 =
    if n < 0x80 then some 0 else if n < 0xC2 then none else if n < 0xE0 then some 1
    else if n < 0xF0 then some 2 else if n < 0xF5 then some 3 else none := by
  simp only [followers?, UInt8.lt_iff_toNat_lt, toNat_byte h]
  rfl

/-- The second byte may follow unless the first one leaves it too little or too much. -/
theorem mayFollow_low {first : Nat} (hf : first < 256)
    (hE0 : first = 0xE0 → 32 ≤ n % 64) (hED : first = 0xED → n % 64 < 32)
    (hF0 : first = 0xF0 → 16 ≤ n % 64) (hF4 : first = 0xF4 → n % 64 < 16) :
    mayFollow first.toUInt8 (0x80 + n % 64).toUInt8 = true := by
  have hb := toNat_byte (show 0x80 + n % 64 < 256 by omega)
  have heq (k : UInt8) : first.toUInt8 = k ↔ first = k.toNat := by
    rw [← UInt8.toNat_inj, toNat_byte hf]
  simp only [mayFollow, isContinuation_low, Bool.true_and, heq]
  repeat' split
  all_goals
    simp only [decide_eq_true_eq, UInt8.le_iff_toNat_le, UInt8.lt_iff_toNat_lt, hb]
  · change 160 ≤ _
    have := hE0 ‹_›
    omega
  · change _ < 160
    have := hED ‹_›
    omega
  · change 144 ≤ _
    have := hF0 ‹_›
    omega
  · change _ < 144
    have := hF4 ‹_›
    omega

/-- A character is decoded from its bytes. -/
theorem decodeChar_encodeChar (c : Char) (rest : Bytes) : ∃ first more,
    encodeChar c = first :: more ∧ decodeChar first (more ++ rest) = .ok (c, more.length) := by
  have hvalid : c.toNat < 0xD800 ∨ (0xDFFF < c.toNat ∧ c.toNat < 0x110000) := c.valid
  have hchar : Char.ofNat c.toNat = c := Char.ofNat_toNat c
  unfold encodeChar
  dsimp only
  generalize c.toNat = n at hvalid hchar
  split
  · next h =>
    have hf := followers?_eq (show n < 256 by omega)
    rw [if_pos h] at hf
    refine ⟨_, _, rfl, ?_⟩
    simp only [decodeChar, hf, toNat_byte (show n < 256 by omega), hchar, List.length_nil]
  · split
    · next h =>
      have hf := followers?_eq (show 0xC0 + n / 64 < 256 by omega)
      rw [if_neg (by omega), if_neg (by omega), if_pos (by omega)] at hf
      have hm : mayFollow (0xC0 + n / 64).toUInt8 (0x80 + n % 64).toUInt8 = true :=
        mayFollow_low (by omega) (by omega) (by omega) (by omega) (by omega)
      refine ⟨_, _, rfl, ?_⟩
      simp only [decodeChar, hf, List.cons_append, List.nil_append, hm, if_true,
        toNat_byte (show 0xC0 + n / 64 < 256 by omega), lowBits_low, List.length_singleton]
      rw [show 64 * ((0xC0 + n / 64) % 32) + n % 64 = n by omega, hchar]
    · split
      · next h =>
        have hf := followers?_eq (show 0xE0 + n / 4096 < 256 by omega)
        rw [if_neg (by omega), if_neg (by omega), if_neg (by omega), if_pos (by omega)] at hf
        have hm : mayFollow (0xE0 + n / 4096).toUInt8 (0x80 + n / 64 % 64).toUInt8 = true :=
          mayFollow_low (by omega) (by omega) (by omega) (by omega) (by omega)
        refine ⟨_, _, rfl, ?_⟩
        simp only [decodeChar, hf, List.cons_append, List.nil_append, hm, Bool.not_true,
          Bool.false_eq_true, if_false, isContinuation_low, if_true,
          toNat_byte (show 0xE0 + n / 4096 < 256 by omega), lowBits_low, List.length_cons,
          List.length_nil]
        rw [show 4096 * ((0xE0 + n / 4096) % 16) + 64 * (n / 64 % 64) + n % 64 = n by omega, hchar]
      · next h =>
        have hf := followers?_eq (show 0xF0 + n / 262144 < 256 by omega)
        rw [if_neg (by omega), if_neg (by omega), if_neg (by omega), if_neg (by omega),
          if_pos (by omega)] at hf
        have hm : mayFollow (0xF0 + n / 262144).toUInt8 (0x80 + n / 4096 % 64).toUInt8 = true :=
          mayFollow_low (by omega) (by omega) (by omega) (by omega) (by omega)
        refine ⟨_, _, rfl, ?_⟩
        simp only [decodeChar, hf, List.cons_append, List.nil_append, hm, Bool.not_true,
          Bool.false_eq_true, if_false, isContinuation_low, if_true,
          toNat_byte (show 0xF0 + n / 262144 < 256 by omega), lowBits_low, List.length_cons,
          List.length_nil]
        rw [show 262144 * ((0xF0 + n / 262144) % 8) + 4096 * (n / 4096 % 64) +
          64 * (n / 64 % 64) + n % 64 = n by omega, hchar]

theorem decodeFrom_encode (position : Nat) (text : Text) :
    decodeFrom position (encode text) = .ok text := by
  induction text generalizing position with
  | nil => simp [encode, decodeFrom]
  | cons c text ih =>
    obtain ⟨first, more, he, hd⟩ := decodeChar_encodeChar c (encode text)
    have hbytes : encode (c :: text) = first :: (more ++ encode text) := by
      rw [encode, List.flatMap_cons, he]
      rfl
    rw [hbytes, decodeFrom]
    simp only [hd, List.drop_left, ih]

/-- The bytes of a text decode to it. -/
theorem decode_encode (text : Text) : decode (encode text) = .ok text := decodeFrom_encode 0 text

end Utf8

end NameSlots
