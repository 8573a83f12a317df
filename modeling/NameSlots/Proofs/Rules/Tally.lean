import Mathlib.Algebra.BigOperators.Group.List.Lemmas
import Mathlib.Algebra.BigOperators.Ring.Finset
import NameSlots.Proofs.Table
import NameSlots.Proofs.Text.Order
import NameSlots.Rules.Summary

/-! Counts of keys: what a tally holds depends on how often each key is there, and on nothing else. -/
namespace NameSlots

variable {keys others : List Text} {key : Text} {counts counts' : List (Text × Int)}

/-- The count of a key, which is zero where the key is missing. -/
def countOf (counts : List (Text × Int)) (key : Text) : Int := (counts.lookup key).getD 0

/-- Counts as a tally has them: the keys in code-point order, each once, and every count positive. -/
structure Counted (counts : List (Text × Int)) : Prop where
  ascending : Text.Ascending (counts.map Prod.fst)
  positive : ∀ entry ∈ counts, 0 < entry.2

/-! ## Counts by key -/

theorem countOf_of_mem (hn : (counts.map Prod.fst).Nodup) {entry : Text × Int} (hm : entry ∈ counts) :
    countOf counts entry.1 = entry.2 := by
  rw [countOf, Table.lookup_eq_some_of_mem hn hm, Option.getD_some]

theorem countOf_of_not_mem (h : key ∉ counts.map Prod.fst) : countOf counts key = 0 := by
  have hl : counts.lookup key = none := by
    refine List.lookup_eq_none_iff.2 fun entry he => ?_
    rw [bne_iff_ne]
    rintro rfl
    exact h (List.mem_map_of_mem he)
  rw [countOf, hl, Option.getD_none]

theorem countOf_map (f : Text → Int) (keys : List Text) (key : Text) :
    countOf (keys.map fun key => (key, f key)) key = if key ∈ keys then f key else 0 := by
  rw [countOf, Table.lookup_map_keys]
  split <;> rfl

namespace Counted

theorem mem_keys_iff (h : Counted counts) : key ∈ counts.map Prod.fst ↔ 0 < countOf counts key := by
  constructor
  · intro hm
    obtain ⟨entry, he, rfl⟩ := List.mem_map.1 hm
    rw [countOf_of_mem h.ascending.nodup he]
    exact h.positive entry he
  · intro hpos
    by_contra hm
    rw [countOf_of_not_mem hm] at hpos
    exact Int.lt_irrefl 0 hpos

theorem countOf_nonneg (h : Counted counts) (key : Text) : 0 ≤ countOf counts key := by
  by_cases hm : key ∈ counts.map Prod.fst
  · exact (h.mem_keys_iff.1 hm).le
  · exact (countOf_of_not_mem hm).ge

theorem eq_map (h : Counted counts) :
    counts = (counts.map Prod.fst).map fun key => (key, countOf counts key) := by
  rw [List.map_map]
  conv_lhs => rw [← List.map_id counts]
  exact List.map_congr_left fun entry he =>
    Prod.ext rfl (countOf_of_mem h.ascending.nodup he).symm

/-- Counts are told by the count of every key. -/
theorem ext (h : Counted counts) (h' : Counted counts')
    (hc : ∀ key, countOf counts key = countOf counts' key) : counts = counts' := by
  have hkeys : counts.map Prod.fst = counts'.map Prod.fst :=
    h.ascending.ext h'.ascending fun key => by rw [h.mem_keys_iff, h'.mem_keys_iff, hc]
  rw [h.eq_map, h'.eq_map, hkeys]
  exact List.map_congr_left fun key _ => by rw [hc]

end Counted

/-! ## Tallies -/

/-- A key is tallied as often as it is there. -/
theorem countOf_tally (keys : List Text) (key : Text) : countOf (tally keys) key = keys.count key := by
  rw [tally, countOf_map]
  simp only [List.mem_mergeSort, List.mem_eraseDups]
  split
  · rfl
  · next h => rw [List.count_eq_zero.2 h, Int.natCast_zero]

theorem keys_tally (keys : List Text) :
    (tally keys).map Prod.fst = keys.eraseDups.mergeSort Text.le := by
  rw [tally, List.map_map]
  exact List.map_id _

theorem counted_tally (keys : List Text) : Counted (tally keys) := by
  refine ⟨keys_tally keys ▸ Text.ascending_eraseDups keys, ?_⟩
  intro entry he
  obtain ⟨key, hk, rfl⟩ := List.mem_map.1 he
  rw [List.mem_mergeSort, List.mem_eraseDups] at hk
  exact Int.natCast_pos.2 (List.count_pos_iff.2 hk)

/-- The order in which keys stand is not counted. -/
theorem tally_perm (h : keys.Perm others) : tally keys = tally others :=
  (counted_tally keys).ext (counted_tally others) fun key => by
    rw [countOf_tally, countOf_tally, h.count_eq]

/-- Every key is counted once. -/
theorem sum_tally (keys : List Text) : ((tally keys).map Prod.snd).sum = keys.length := by
  have hperm : (keys.eraseDups.mergeSort Text.le).Perm keys.dedup := by
    refine (List.perm_ext_iff_of_nodup (Text.ascending_eraseDups keys).nodup (List.nodup_dedup keys)).2 ?_
    simp
  have hbeq : (List.instBEq : BEq Text) = instBEqOfDecidableEq := lawful_beq_subsingleton _ _
  have hsum : (keys.dedup.map fun key => keys.count key).sum = keys.length := by
    rw [hbeq]
    exact List.sum_map_count_dedup_eq_length keys
  rw [← (hperm.map _).sum_eq] at hsum
  rw [← hsum, tally, List.map_map, Nat.cast_list_sum, List.map_map]
  rfl

/-! ## Counts together -/

/-- Every key with its counts in two lists together, in code-point order. -/
def addCounts (counts counts' : List (Text × Int)) : List (Text × Int) :=
  (((counts ++ counts').map Prod.fst).eraseDups.mergeSort Text.le).map fun key =>
    (key, countOf counts key + countOf counts' key)

theorem mem_addCounts {entry : Text × Int} : entry ∈ addCounts counts counts' ↔
    (entry.1 ∈ counts.map Prod.fst ∨ entry.1 ∈ counts'.map Prod.fst) ∧
      entry.2 = countOf counts entry.1 + countOf counts' entry.1 := by
  obtain ⟨key, count⟩ := entry
  simp only [addCounts, List.mem_map, List.mem_mergeSort, List.mem_eraseDups, List.map_append,
    List.mem_append, Prod.mk.injEq]
  constructor
  · rintro ⟨_, hm, rfl, rfl⟩
    exact ⟨hm, rfl⟩
  · rintro ⟨hm, rfl⟩
    exact ⟨key, hm, rfl, rfl⟩

theorem countOf_addCounts (counts counts' : List (Text × Int)) (key : Text) :
    countOf (addCounts counts counts') key = countOf counts key + countOf counts' key := by
  rw [addCounts, countOf_map]
  simp only [List.mem_mergeSort, List.mem_eraseDups, List.map_append, List.mem_append]
  split
  · rfl
  · next hm =>
    rw [not_or] at hm
    rw [countOf_of_not_mem hm.1, countOf_of_not_mem hm.2]
    rfl

theorem Counted.add (h : Counted counts) (h' : Counted counts') :
    Counted (addCounts counts counts') := by
  constructor
  · rw [addCounts, List.map_map]
    exact (List.map_id _).symm ▸ Text.ascending_eraseDups _
  · intro entry he
    obtain ⟨hm, hcount⟩ := mem_addCounts.1 he
    have hpos := h.countOf_nonneg entry.1
    have hpos' := h'.countOf_nonneg entry.1
    rw [h.mem_keys_iff, h'.mem_keys_iff] at hm
    omega

/-- Keys of two lists are counted in each of them. -/
theorem tally_append (keys others : List Text) :
    tally (keys ++ others) = addCounts (tally keys) (tally others) :=
  (counted_tally _).ext ((counted_tally keys).add (counted_tally others)) fun key => by
    rw [countOf_addCounts, countOf_tally, countOf_tally, countOf_tally, List.count_append,
      Int.natCast_add]

end NameSlots
