import NameSlots.Proofs.Names.Decode

/-! Of a table only its lookup matters: what value stands first for every key that is not empty. -/
namespace NameSlots

/-- The value of the first mapping of a key. -/
def lookup? (table : List Mapping) (key : Text) : Option Text :=
  (table.find? (·.key = key)).map Mapping.value

/-- Tables with the same keys, empty ones apart, and the same first value for each of them. -/
def SameLookup (table table' : List Mapping) : Prop :=
  ∀ key, key ≠ [] → lookup? table key = lookup? table' key

variable {table table' : List Mapping} {mapping : Mapping} {key text : Text}

theorem sameLookup_symm (h : SameLookup table table') : SameLookup table' table :=
  fun key hk => (h key hk).symm

theorem lookup?_isSome : (lookup? table key).isSome ↔ key ∈ table.map Mapping.key := by
  simp [lookup?]

theorem mem_keys_iff (h : SameLookup table table') (hk : key ≠ []) :
    key ∈ table.map Mapping.key ↔ key ∈ table'.map Mapping.key := by
  rw [← lookup?_isSome, ← lookup?_isSome, h key hk]

/-- Mappings of one key keep their order when longer keys are put first. -/
theorem filter_longestFirst (table : List Mapping) (hk : key ≠ []) :
    (longestFirst Mapping.key table).filter (·.key = key) = table.filter (·.key = key) := by
  let kept := table.filter fun mapping => !mapping.key.isEmpty
  let sorted := kept.mergeSort (notShorter Mapping.key)
  have hkept : kept.filter (·.key = key) = table.filter (·.key = key) := by
    rw [List.filter_filter]
    apply List.filter_congr
    intro mapping _
    by_cases he : mapping.key = key <;> simp [he, hk]
  have hpair : (kept.filter (·.key = key)).Pairwise (notShorter Mapping.key · ·) := by
    rw [List.pairwise_iff_forall_sublist]
    intro a b hs
    have ha : a.key = key := of_decide_eq_true (List.mem_filter.1 (hs.subset (by simp))).2
    have hb : b.key = key := of_decide_eq_true (List.mem_filter.1 (hs.subset (by simp))).2
    simp [notShorter, ha, hb]
  have hsub : (kept.filter (·.key = key)).Sublist sorted :=
    List.sublist_mergeSort (notShorter_trans _) (notShorter_total _) hpair List.filter_sublist
  have hsub : (kept.filter (·.key = key)).Sublist (sorted.filter (·.key = key)) := by
    simpa [List.filter_filter] using hsub.filter (·.key = key)
  have hlen := ((List.mergeSort_perm kept (notShorter Mapping.key)).filter (·.key = key)).length_eq
  exact (hsub.eq_of_length hlen.symm).symm.trans hkept

/-- What is picked at the front is the first mapping of its key. -/
theorem find?_of_atFront? (h : atFront? table text = some mapping) :
    table.find? (·.key = mapping.key) = some mapping := by
  obtain ⟨⟨-, hne⟩, hp⟩ := atFront?_spec h
  obtain ⟨-, before, after, hl, hb⟩ := List.find?_eq_some_iff_append.1 h
  have hbefore : before.filter (·.key = mapping.key) = [] := by
    rw [List.filter_eq_nil_iff]
    intro other ho he
    have hn := hb other ho
    rw [of_decide_eq_true he, List.isPrefixOf_iff_prefix.2 hp] at hn
    contradiction
  have hf := filter_longestFirst table hne
  rw [hl, List.filter_append, hbefore, List.nil_append, List.filter_cons_of_pos (by simp)] at hf
  rw [← List.head?_filter, ← hf]
  rfl

/-- Every mapping that decoding picks is the first one of its key. -/
theorem decodes_lookup {picked : List Mapping} {dropped : Text}
    (h : Decodes table text picked dropped) :
    ∀ mapping ∈ picked, lookup? table mapping.key = some mapping.value := by
  induction h with
  | nil => simp
  | pick hf _ ih =>
    refine List.forall_mem_cons.2 ⟨?_, ih⟩
    rw [lookup?, find?_of_atFront? hf]
    rfl
  | drop _ _ ih => exact ih

/-- What is picked at the front depends on the lookup only. -/
theorem atFront?_of_sameLookup (h : SameLookup table table') (hf : atFront? table text = some mapping) :
    atFront? table' text = some mapping := by
  obtain ⟨⟨hm, hne⟩, hp⟩ := atFront?_spec hf
  have hk := (mem_keys_iff h hne).1 (List.mem_map_of_mem hm)
  cases hf' : atFront? table' text with
  | none => exact (atFront?_eq_none.1 hf' _ hk hne hp).elim
  | some mapping' =>
    obtain ⟨⟨hm', hne'⟩, hp'⟩ := atFront?_spec hf'
    have hk' := (mem_keys_iff h hne').2 (List.mem_map_of_mem hm')
    have hle := atFront?_longest hf hk' hp'
    have hge := atFront?_longest hf' hk hp
    have hkey : mapping'.key = mapping.key :=
      (List.prefix_of_prefix_length_le hp' hp hle).eq_of_length (by omega)
    have hv := h mapping.key hne
    have hfirst' := find?_of_atFront? hf'
    rw [hkey] at hfirst'
    simp only [lookup?, find?_of_atFront? hf, hfirst', Option.map_some, Option.some.injEq] at hv
    cases mapping
    cases mapping'
    simp_all

theorem atFront?_congr (h : SameLookup table table') (text : Text) :
    atFront? table text = atFront? table' text := by
  apply Option.ext
  intro mapping
  exact ⟨atFront?_of_sameLookup h, atFront?_of_sameLookup (sameLookup_symm h)⟩

theorem decodes_congr (h : SameLookup table table') {picked : List Mapping} {dropped : Text}
    (hd : Decodes table text picked dropped) : Decodes table' text picked dropped := by
  induction hd with
  | nil => exact .nil
  | pick hf _ ih => exact .pick (atFront?_congr h _ ▸ hf) ih
  | drop hf _ ih => exact .drop (atFront?_congr h _ ▸ hf) ih

/-- Tables with the same lookup decode every text alike. -/
theorem decode_congr (h : SameLookup table table') (text : Text) :
    decode table text = decode table' text := by
  obtain ⟨picked, dropped, hd⟩ := decodes_total table text
  rw [decode_eq hd, decode_eq (decodes_congr h hd)]

end NameSlots
