import Mathlib.Data.List.TakeWhile
import NameSlots.Proofs.Json.Canonical

/-! Every value that is read from JSON text is one that text can hold. -/
namespace NameSlots.Json

variable {text rest : Text} {value : Json} {fuel : Nat} {negative : Bool}

theorem wellFormed_numeral {whole : Text} (hd : ∀ c ∈ whole, c.isDigit = true) (hne : whole ≠ [])
    (hl : ¬ whole.length > Number.maxDigits) : (Json.int (if negative then
      -(Text.numeral 10 whole : Int) else Text.numeral 10 whole)).WellFormed := by
  apply WellFormed.int
  have hlength := (Text.length_ofNat_le (List.length_pos_iff.2 hne)).2 (Text.numeral_lt hd)
  have habs : (if negative then -(Text.numeral 10 whole : Int)
      else Text.numeral 10 whole).natAbs = Text.numeral 10 whole := by
    split <;> omega
  rw [habs]
  omega

theorem readNumber?_wellFormed (h : readNumber? negative text = some (.ok (value, rest))) :
    value.WellFormed := by
  have hfloat (digits : Nat) (power : Int) :
      (Json.float (Double.ofDecimal negative digits power)).WellFormed :=
    .float (Double.ofDecimal_normal _ _ _)
  unfold readNumber? at h
  split at h
  · simp only [List.isEmpty_cons, Bool.false_eq_true, if_false] at h
    split at h
    · rw [if_neg (by decide)] at h
      obtain ⟨rfl, -⟩ := Prod.mk.inj (Except.ok.inj (Option.some.inj h))
      exact wellFormed_numeral (by simp) (by simp) (by decide)
    · obtain ⟨rfl, -⟩ := Prod.mk.inj (Except.ok.inj (Option.some.inj h))
      exact hfloat _ _
  · dsimp only at h
    split at h
    · simp at h
    · next hne =>
      split at h
      · split at h
        · simp at h
        · next hl =>
          obtain ⟨rfl, -⟩ := Prod.mk.inj (Except.ok.inj (Option.some.inj h))
          exact wellFormed_numeral (fun c hc => List.mem_takeWhile_imp hc) (by simpa using hne) hl
      · obtain ⟨rfl, -⟩ := Prod.mk.inj (Except.ok.inj (Option.some.inj h))
        exact hfloat _ _

theorem readPlain_wellFormed (h : readPlain text = .ok (value, rest)) : value.WellFormed := by
  unfold readPlain at h
  split at h
  · next found hf =>
    obtain rfl := Except.ok.inj h
    obtain ⟨⟨word, value'⟩, hm, hfound⟩ := List.exists_of_findSome?_eq_some hf
    obtain ⟨left, -, hv⟩ := Option.map_eq_some_iff.1 hfound
    obtain ⟨rfl, -⟩ := Prod.mk.inj hv
    have hall : ∀ entry ∈ words, entry.2.WellFormed := by
      simp only [words, List.forall_mem_cons]
      exact ⟨.null, .bool _, .bool _, .float trivial, .float trivial, .float trivial,
        by simp⟩
    exact hall _ hm
  · dsimp only at h
    split at h
    · next unsigned _ =>
      cases hn : readNumber? true unsigned with
      | none => simp [hn] at h
      | some result =>
        rw [hn, Option.getD_some] at h
        exact readNumber?_wellFormed (hn.trans (congrArg some h))
    · cases hn : readNumber? false text with
      | none => simp [hn] at h
      | some result =>
        rw [hn, Option.getD_some] at h
        exact readNumber?_wellFormed (hn.trans (congrArg some h))

/-- What is read with so much fuel is well-formed: a value, items, and the values of fields. -/
structure ReadsWell (fuel : Nat) : Prop where
  value : ∀ {text value rest}, readValue fuel text = .ok (value, rest) → value.WellFormed
  items : ∀ {text items rest}, readItems fuel text = .ok (items, rest) →
    ∀ item ∈ items, item.WellFormed
  fields : ∀ {text fields rest}, readFields fuel text = .ok (fields, rest) →
    ∀ field ∈ fields, field.2.WellFormed

theorem ReadsWell.value_succ (ih : ReadsWell fuel)
    (h : readValue (fuel + 1) text = .ok (value, rest)) : value.WellFormed := by
  rw [readValue.eq_def] at h
  dsimp only at h
  split at h
  · obtain ⟨⟨s, left⟩, -, h⟩ := bind_eq_ok.1 h
    obtain ⟨rfl, -⟩ := Prod.mk.inj (Except.ok.inj h)
    exact .string s
  · split at h
    · obtain ⟨rfl, -⟩ := Prod.mk.inj (Except.ok.inj h)
      exact .array (by simp)
    · obtain ⟨⟨items, left⟩, hr, h⟩ := bind_eq_ok.1 h
      obtain ⟨rfl, -⟩ := Prod.mk.inj (Except.ok.inj h)
      exact .array (ih.items hr)
  · split at h
    · obtain ⟨rfl, -⟩ := Prod.mk.inj (Except.ok.inj h)
      exact .object List.nodup_nil (by simp)
    · obtain ⟨⟨fields, left⟩, hr, h⟩ := bind_eq_ok.1 h
      obtain ⟨rfl, -⟩ := Prod.mk.inj (Except.ok.inj h)
      exact .object (Table.nodup_ofPairs _)
        fun field hf => ih.fields hr field (Table.mem_ofPairs hf)
  · exact readPlain_wellFormed h

theorem ReadsWell.items_succ {items : List Json} (ih : ReadsWell fuel)
    (h : readItems (fuel + 1) text = .ok (items, rest)) : ∀ item ∈ items, item.WellFormed := by
  rw [readItems] at h
  obtain ⟨⟨item, left⟩, hr, h⟩ := bind_eq_ok.1 h
  have hitem := ih.value hr
  dsimp only at h
  split at h
  · obtain ⟨rfl, -⟩ := Prod.mk.inj (Except.ok.inj h)
    simpa using hitem
  · obtain ⟨⟨more, left'⟩, hr', h⟩ := bind_eq_ok.1 h
    obtain ⟨rfl, -⟩ := Prod.mk.inj (Except.ok.inj h)
    exact List.forall_mem_cons.2 ⟨hitem, ih.items hr'⟩
  · simp at h

theorem ReadsWell.fields_succ {fields : List (Text × Json)} (ih : ReadsWell fuel)
    (h : readFields (fuel + 1) text = .ok (fields, rest)) :
    ∀ field ∈ fields, field.2.WellFormed := by
  rw [readFields.eq_def] at h
  dsimp only at h
  split at h
  · next fuel' _ hfuel =>
    obtain rfl := Nat.succ.inj hfuel
    obtain ⟨⟨name, left⟩, -, h⟩ := bind_eq_ok.1 h
    dsimp only at h
    split at h
    · obtain ⟨⟨value, left'⟩, hr, h⟩ := bind_eq_ok.1 h
      have hv := ih.value hr
      dsimp only at h
      split at h
      · obtain ⟨rfl, -⟩ := Prod.mk.inj (Except.ok.inj h)
        simpa using hv
      · obtain ⟨⟨more, left''⟩, hr', h⟩ := bind_eq_ok.1 h
        obtain ⟨rfl, -⟩ := Prod.mk.inj (Except.ok.inj h)
        exact List.forall_mem_cons.2 ⟨hv, ih.fields hr'⟩
      · simp at h
    · simp at h
  · simp at h

theorem readsWell (fuel : Nat) : ReadsWell fuel := by
  induction fuel with
  | zero => constructor <;> simp [readValue, readItems, readFields]
  | succ fuel ih => exact ⟨ih.value_succ, ih.items_succ, ih.fields_succ⟩

/-- What is read from a text is well-formed. -/
theorem read_wellFormed (h : read text = .ok value) : value.WellFormed := by
  unfold read readWhole at h
  split at h
  · simp at h
  · obtain ⟨⟨found, left⟩, hr, h⟩ := bind_eq_ok.1 h
    dsimp only at h
    split at h
    · obtain rfl := Except.ok.inj h
      exact (readsWell _).value hr
    · simp at h

end NameSlots.Json
