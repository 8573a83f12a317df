import Mathlib.Data.List.Nodup
import Mathlib.Order.Defs.Unbundled
import NameSlots.Text.Basic

/-! Texts in code-point order. -/
namespace NameSlots.Text

variable {s t u : Text} {keys others : List Text}

theorem le_trans (hst : le s t = true) (htu : le t u = true) : le s u = true := by
  induction s generalizing t u with
  | nil => rfl
  | cons a s ih =>
    cases t with
    | nil => simp [le] at hst
    | cons b t =>
      cases u with
      | nil => simp [le] at htu
      | cons c u =>
        simp only [le, Bool.or_eq_true, decide_eq_true_eq, Bool.and_eq_true, beq_iff_eq] at *
        rcases hst with hab | ⟨rfl, hst⟩
        · rcases htu with hbc | ⟨rfl, -⟩
          · exact Or.inl (Nat.lt_trans hab hbc)
          · exact Or.inl hab
        · rcases htu with hbc | ⟨rfl, htu⟩
          · exact Or.inl hbc
          · exact Or.inr ⟨rfl, ih hst htu⟩

theorem le_antisymm (hst : le s t = true) (hts : le t s = true) : s = t := by
  induction s generalizing t with
  | nil =>
    cases t with
    | nil => rfl
    | cons b t => simp [le] at hts
  | cons a s ih =>
    cases t with
    | nil => simp [le] at hst
    | cons b t =>
      simp only [le, Bool.or_eq_true, decide_eq_true_eq, Bool.and_eq_true, beq_iff_eq] at *
      rcases hst with hab | ⟨rfl, hst⟩
      · rcases hts with hba | ⟨rfl, -⟩ <;> omega
      · rcases hts with hba | ⟨-, hts⟩
        · omega
        · rw [ih hst hts]

/-- Code-point order. -/
def Le (s t : Text) : Prop := le s t = true

instance : DecidableRel Le := fun s t => inferInstanceAs (Decidable (le s t = true))

instance : IsTrans Text Le := ⟨fun _ _ _ => le_trans⟩

instance : Std.Antisymm Le := ⟨fun _ _ => le_antisymm⟩

instance : Std.Total Le := ⟨fun s t => by simpa [Le] using le_total s t⟩

/-! ## Keys in order -/

/-- Texts in code-point order, each of them once. -/
structure Ascending (keys : List Text) : Prop where
  ordered : keys.Pairwise Le
  nodup : keys.Nodup

/-- Texts in order are told by which texts they are. -/
theorem Ascending.ext (h : Ascending keys) (h' : Ascending others)
    (hm : ∀ key, key ∈ keys ↔ key ∈ others) : keys = others :=
  List.Perm.eq_of_pairwise (fun _ _ _ _ => le_antisymm) h.ordered h'.ordered
    ((List.perm_ext_iff_of_nodup h.nodup h'.nodup).2 hm)

theorem nodup_eraseDups (keys : List Text) : keys.eraseDups.Nodup := by
  induction hn : keys.length using Nat.strongRecOn generalizing keys with
  | ind n ih =>
    cases keys with
    | nil => exact .nil
    | cons key keys =>
      rw [List.eraseDups_cons, List.nodup_cons]
      refine ⟨fun hm => ?_, ih _ ?_ _ rfl⟩
      · simp at hm
      · rw [← hn, List.length_cons]
        exact Nat.lt_succ_of_le (List.length_filter_le _ _)

theorem ascending_eraseDups (keys : List Text) : Ascending (keys.eraseDups.mergeSort le) := by
  have htrans (s t u : Text) : le s t = true → le t u = true → le s u = true := le_trans
  refine ⟨List.pairwise_mergeSort htrans le_total _, ?_⟩
  exact (List.mergeSort_perm _ _).nodup_iff.2 (nodup_eraseDups keys)

end NameSlots.Text
