import Mathlib.Data.List.Nodup
import NameSlots.Table

/-! What a table holds under a key after it was changed; every key stands in it once. -/
namespace NameSlots.Table

variable {κ α : Type} [BEq κ] [LawfulBEq κ] {table pairs : List (κ × α)} {key other : κ} {value : α}

theorem mem_put {entry : κ × α} (h : entry ∈ put key value table) :
    entry = (key, value) ∨ entry ∈ table := by
  induction table with
  | nil => simpa [put] using h
  | cons first table ih =>
    obtain ⟨k, v⟩ := first
    by_cases hk : k = key
    · simp only [put, hk, beq_self_eq_true, if_true, List.mem_cons] at h
      exact h.imp_right (List.mem_cons_of_mem _)
    · simp only [put, beq_iff_eq, hk, if_false, List.mem_cons] at h
      rcases h with rfl | h
      · exact Or.inr (List.mem_cons_self ..)
      · exact (ih h).imp_right (List.mem_cons_of_mem _)

/-- A pair of another key is put after all others. -/
theorem put_of_not_mem (h : key ∉ table.map Prod.fst) : put key value table = table ++ [(key, value)] := by
  induction table with
  | nil => rfl
  | cons entry table ih =>
    obtain ⟨k, v⟩ := entry
    simp only [List.map_cons, List.mem_cons, not_or] at h
    simp [put, Ne.symm h.1, ih h.2]

theorem foldl_put (table : List (κ × α)) (h : ((table ++ pairs).map Prod.fst).Nodup) :
    pairs.foldl (fun table pair => put pair.1 pair.2 table) table = table ++ pairs := by
  induction pairs generalizing table with
  | nil => simp
  | cons pair pairs ih =>
    have hnot : pair.1 ∉ table.map Prod.fst := by
      intro hm
      rw [List.map_append, List.map_cons, List.nodup_append] at h
      exact h.2.2 _ hm _ (List.mem_cons_self ..) rfl
    rw [List.foldl_cons, put_of_not_mem hnot]
    have := ih (table ++ [pair]) (by simpa using h)
    simpa using this

/-- Pairs with a key each are a table as they are. -/
theorem ofPairs_eq_self (h : (pairs.map Prod.fst).Nodup) : ofPairs pairs = pairs :=
  foldl_put [] (by simpa using h)

omit [LawfulBEq κ] in
/-- Keys that are told apart like others make the same table. -/
theorem ofPairs_map {ι : Type} [BEq ι] (f : κ → ι) (hf : ∀ a b, (f a == f b) = (a == b))
    (pairs : List (κ × α)) : ofPairs (pairs.map fun pair => (f pair.1, pair.2)) =
      (ofPairs pairs).map fun pair => (f pair.1, pair.2) := by
  have hput (key : κ) (value : α) (table : List (κ × α)) :
      put (f key) value (table.map fun pair => (f pair.1, pair.2)) =
        (put key value table).map fun pair => (f pair.1, pair.2) := by
    induction table with
    | nil => rfl
    | cons entry table ih =>
      rw [List.map_cons, put, put, hf, ih]
      split <;> rfl
  have hfold (pairs table : List (κ × α)) :
      (pairs.map fun pair => (f pair.1, pair.2)).foldl (fun table pair => put pair.1 pair.2 table)
          (table.map fun pair => (f pair.1, pair.2)) =
        (pairs.foldl (fun table pair => put pair.1 pair.2 table) table).map
          fun pair => (f pair.1, pair.2) := by
    induction pairs generalizing table with
    | nil => rfl
    | cons pair pairs ih => rw [List.map_cons, List.foldl_cons, List.foldl_cons, hput, ih]
  exact hfold pairs []

theorem mem_ofPairs {entry : κ × α} (h : entry ∈ ofPairs pairs) : entry ∈ pairs := by
  have hfold (pairs table : List (κ × α))
      (h : entry ∈ pairs.foldl (fun table pair => put pair.1 pair.2 table) table) :
      entry ∈ table ∨ entry ∈ pairs := by
    induction pairs generalizing table with
    | nil => exact Or.inl h
    | cons pair pairs ih =>
      rcases ih _ h with h | h
      · rcases mem_put h with rfl | h
        · exact Or.inr (List.mem_cons_self ..)
        · exact Or.inl h
      · exact Or.inr (List.mem_cons_of_mem _ h)
  exact (hfold pairs [] h).resolve_left List.not_mem_nil

variable [DecidableEq κ]

theorem lookup_cons (key other : κ) (value : α) (table : List (κ × α)) :
    ((key, value) :: table).lookup other =
      if other = key then some value else table.lookup other := by
  rw [List.lookup_cons]
  by_cases h : other = key
  · simp [h]
  · rw [if_neg h, beq_eq_false_iff_ne.2 h]

theorem lookup_put (key other : κ) (value : α) (table : List (κ × α)) :
    (put key value table).lookup other = if other = key then some value else table.lookup other := by
  induction table with
  | nil => exact lookup_cons ..
  | cons entry table ih =>
    obtain ⟨k, v⟩ := entry
    by_cases hk : k = key
    · subst hk
      simp only [put, beq_self_eq_true, if_true, lookup_cons]
      split <;> rfl
    · have hput : put key value ((k, v) :: table) = (k, v) :: put key value table := by
        simp [put, hk]
      rw [hput, lookup_cons, lookup_cons, ih]
      by_cases ho : other = k
      · subst ho
        simp [hk]
      · simp [ho]

theorem lookup_drop (key other : κ) (table : List (κ × α)) :
    (drop key table).lookup other = if other = key then none else table.lookup other := by
  induction table with
  | nil => simp [drop]
  | cons entry table ih =>
    obtain ⟨k, v⟩ := entry
    unfold drop at ih ⊢
    rw [lookup_cons]
    by_cases hk : k = key
    · rw [List.filter_cons_of_neg (by simpa using hk), ih, hk]
      split <;> rfl
    · rw [List.filter_cons_of_pos (by simpa using hk), lookup_cons, ih]
      by_cases ho : other = k
      · subst ho
        simp [hk]
      · simp [ho]

theorem keys_put (key : κ) (value : α) (table : List (κ × α)) :
    (put key value table).map Prod.fst =
      if key ∈ table.map Prod.fst then table.map Prod.fst else table.map Prod.fst ++ [key] := by
  induction table with
  | nil => simp [put]
  | cons entry table ih =>
    obtain ⟨k, v⟩ := entry
    by_cases hk : k = key
    · simp [put, hk]
    · have hput : put key value ((k, v) :: table) = (k, v) :: put key value table := by
        simp [put, hk]
      rw [hput, List.map_cons, ih]
      by_cases hm : key ∈ table.map Prod.fst
      · simp [hm]
      · simp [hm, Ne.symm hk]

theorem nodup_put (h : (table.map Prod.fst).Nodup) :
    ((put key value table).map Prod.fst).Nodup := by
  rw [keys_put]
  split
  · exact h
  · next hm => exact List.Nodup.append h (List.nodup_singleton key) (by simpa using hm)

omit [LawfulBEq κ] [DecidableEq κ] in
theorem nodup_drop (h : (table.map Prod.fst).Nodup) : ((drop key table).map Prod.fst).Nodup :=
  h.sublist (List.filter_sublist.map Prod.fst)

theorem nodup_ofPairs (pairs : List (κ × α)) : ((ofPairs pairs).map Prod.fst).Nodup := by
  have hfold (table : List (κ × α)) (h : (table.map Prod.fst).Nodup) :
      ((pairs.foldl (fun table pair => put pair.1 pair.2 table) table).map Prod.fst).Nodup := by
    induction pairs generalizing table with
    | nil => exact h
    | cons pair pairs ih => exact ih _ (nodup_put h)
  exact hfold [] List.nodup_nil

theorem lookup_eq_some_of_mem (hn : (table.map Prod.fst).Nodup) (hm : (key, value) ∈ table) :
    table.lookup key = some value := by
  induction table with
  | nil => simp at hm
  | cons entry table ih =>
    obtain ⟨k, v⟩ := entry
    rw [List.map_cons, List.nodup_cons] at hn
    rw [lookup_cons]
    rcases List.mem_cons.1 hm with h | h
    · obtain ⟨rfl, rfl⟩ := Prod.mk.inj h
      exact if_pos rfl
    · rw [if_neg, ih hn.2 h]
      rintro rfl
      exact hn.1 (List.mem_map.2 ⟨_, h, rfl⟩)

theorem mem_of_lookup (h : table.lookup key = some value) : (key, value) ∈ table := by
  induction table with
  | nil => simp at h
  | cons entry table ih =>
    obtain ⟨k, v⟩ := entry
    rw [lookup_cons] at h
    by_cases hk : key = k
    · rw [if_pos hk] at h
      obtain rfl := Option.some.inj h
      rw [hk]
      exact List.mem_cons_self ..
    · rw [if_neg hk] at h
      exact List.mem_cons_of_mem _ (ih h)

/-- Where every key stands once, the order makes no difference to what is found. -/
theorem lookup_perm {table' : List (κ × α)} (hn : (table.map Prod.fst).Nodup)
    (hp : table.Perm table') (key : κ) : table.lookup key = table'.lookup key := by
  have hn' : (table'.map Prod.fst).Nodup := (hp.map Prod.fst).nodup_iff.1 hn
  apply Option.ext
  intro value
  constructor
  · intro h
    exact lookup_eq_some_of_mem hn' (hp.mem_iff.1 (mem_of_lookup h))
  · intro h
    exact lookup_eq_some_of_mem hn (hp.mem_iff.2 (mem_of_lookup h))

theorem lookup_map {β : Type} (f : α → β) (table : List (κ × α)) (key : κ) :
    (table.map fun entry => (entry.1, f entry.2)).lookup key = (table.lookup key).map f := by
  induction table with
  | nil => rfl
  | cons entry table ih =>
    obtain ⟨k, v⟩ := entry
    rw [List.map_cons, lookup_cons, lookup_cons, ih]
    split <;> rfl

/-- A table of what keys have is looked up by the key. -/
theorem lookup_map_keys (f : κ → α) (keys : List κ) (key : κ) :
    (keys.map fun key => (key, f key)).lookup key = if key ∈ keys then some (f key) else none := by
  induction keys with
  | nil => rfl
  | cons first keys ih =>
    rw [List.map_cons, lookup_cons, ih]
    by_cases hk : key = first <;> simp [hk]

end NameSlots.Table
