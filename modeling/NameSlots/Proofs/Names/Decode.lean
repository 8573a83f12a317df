import NameSlots.Names.Mapping

/-! Decoding picks the longest key at every place, and drops a character only where no key stands.
-/
namespace NameSlots

/-- The mapping that decoding picks at the front of a text. -/
def atFront? (table : List Mapping) (text : Text) : Option Mapping :=
  (longestFirst Mapping.key table).find? fun mapping => mapping.key.isPrefixOf text

/-- What decoding makes of a text: the mappings that it picks and the characters that it drops. -/
inductive Decodes (table : List Mapping) : Text → List Mapping → Text → Prop where
  | nil : Decodes table [] [] []
  | pick {mapping : Mapping} {rest dropped : Text} {picked : List Mapping} :
      atFront? table (mapping.key ++ rest) = some mapping → Decodes table rest picked dropped →
      Decodes table (mapping.key ++ rest) (mapping :: picked) dropped
  | drop {c : Char} {rest dropped : Text} {picked : List Mapping} :
      atFront? table (c :: rest) = none → Decodes table rest picked dropped →
      Decodes table (c :: rest) picked (c :: dropped)

/-- Keys one after another, none of them empty, each the longest one that stands at its place. -/
def Longest (keys : List Text) : List Text → Prop
  | [] => True
  | key :: chain => (key ∈ keys ∧ key ≠ []) ∧
    (∀ other ∈ keys, other <+: key ++ chain.flatten → other.length ≤ key.length) ∧
    Longest keys chain

/-- No key is a proper prefix of another, empty ones apart. -/
def PrefixFree (keys : List Text) : Prop :=
  ∀ key ∈ keys, ∀ other ∈ keys, key ≠ [] → key <+: other → key = other

variable {table : List Mapping} {mapping : Mapping} {keys chain : List Text}
  {key text rest dropped : Text} {picked : List Mapping}

theorem mem_longestFirst : mapping ∈ longestFirst Mapping.key table ↔
    mapping ∈ table ∧ mapping.key ≠ [] := by
  simp [longestFirst]

/-- The order in which longer texts come first. -/
def notShorter {α : Type} (text : α → Text) (a b : α) : Bool := (text b).length ≤ (text a).length

theorem notShorter_trans {α : Type} (text : α → Text) (a b c : α) :
    notShorter text a b = true → notShorter text b c = true → notShorter text a c = true := by
  simp only [notShorter, decide_eq_true_eq]
  omega

theorem notShorter_total {α : Type} (text : α → Text) (a b : α) :
    (notShorter text a b || notShorter text b a) = true := by
  simp only [notShorter, Bool.or_eq_true, decide_eq_true_eq]
  omega

theorem longestFirst_pairwise {α : Type} (text : α → Text) (items : List α) :
    (longestFirst text items).Pairwise fun a b => (text b).length ≤ (text a).length :=
  (List.pairwise_mergeSort (notShorter_trans text) (notShorter_total text) _).imp of_decide_eq_true

/-! ## The front of a text -/

theorem atFront?_spec (h : atFront? table text = some mapping) :
    (mapping ∈ table ∧ mapping.key ≠ []) ∧ mapping.key <+: text :=
  ⟨mem_longestFirst.1 (List.mem_of_find?_eq_some h), by simpa using List.find?_some h⟩

/-- No other key at the front is longer. -/
theorem atFront?_longest (h : atFront? table text = some mapping) (hk : key ∈ table.map Mapping.key)
    (hp : key <+: text) : key.length ≤ mapping.key.length := by
  obtain ⟨other, hm, rfl⟩ := List.mem_map.1 hk
  by_cases he : other.key = []
  · simp [he]
  · obtain ⟨-, before, after, hl, hb⟩ := List.find?_eq_some_iff_append.1 h
    have hs := longestFirst_pairwise Mapping.key table
    have ho : other ∈ longestFirst Mapping.key table := mem_longestFirst.2 ⟨hm, he⟩
    rw [hl] at hs ho
    obtain ho | ho := List.mem_append.1 ho
    · have hn := hb other ho
      rw [List.isPrefixOf_iff_prefix.2 hp] at hn
      contradiction
    · obtain rfl | ho := List.mem_cons.1 ho
      · exact Nat.le_refl _
      · exact (List.pairwise_cons.1 (List.pairwise_append.1 hs).2.1).1 other ho

theorem atFront?_eq_none : atFront? table text = none ↔
    ∀ key ∈ table.map Mapping.key, key ≠ [] → ¬ key <+: text := by
  simp only [atFront?, List.find?_eq_none, mem_longestFirst, List.isPrefixOf_iff_prefix,
    List.forall_mem_map]
  grind

/-! ## Decoding -/

theorem decodes_total (table : List Mapping) (text : Text) :
    ∃ picked dropped, Decodes table text picked dropped := by
  induction hn : text.length using Nat.strongRecOn generalizing text with
  | _ n ih =>
    subst hn
    cases text with
    | nil => exact ⟨[], [], .nil⟩
    | cons c text =>
      cases hf : atFront? table (c :: text) with
      | none =>
        obtain ⟨picked, dropped, hd⟩ := ih text.length (by simp) text rfl
        exact ⟨picked, c :: dropped, .drop hf hd⟩
      | some mapping =>
        obtain ⟨⟨-, hne⟩, rest, hr⟩ := atFront?_spec hf
        have hlen := List.length_pos_iff.2 hne
        have hsum := congrArg List.length hr
        rw [List.length_append] at hsum
        obtain ⟨picked, dropped, hd⟩ := ih rest.length (by omega) rest rfl
        exact ⟨mapping :: picked, dropped, hr ▸ .pick (hr.symm ▸ hf) hd⟩

/-- The names are those of the mappings that are picked. -/
theorem decode_eq (h : Decodes table text picked dropped) :
    decode table text = picked.map Mapping.value := by
  induction h with
  | nil => simp [decode, decodeBy]
  | @pick mapping rest dropped picked hf _ ih =>
    obtain ⟨⟨-, hne⟩, -⟩ := atFront?_spec hf
    obtain ⟨c, tail, hc⟩ := List.exists_cons_of_ne_nil hne
    unfold decode at ih ⊢
    unfold atFront? at hf
    rw [hc, List.cons_append] at hf ⊢
    unfold decodeBy
    simp only [hf, hc, List.map_cons, ← ih]
    simp
  | @drop c rest dropped picked hf _ ih =>
    unfold decode at ih ⊢
    unfold atFront? at hf
    unfold decodeBy
    simp only [hf]
    exact ih

/-- Every character is dropped or part of a key that is picked. -/
theorem decodes_length (h : Decodes table text picked dropped) :
    text.length = (picked.map Mapping.key).flatten.length + dropped.length := by
  induction h with
  | nil => rfl
  | pick _ _ ih =>
    simp only [List.length_append, List.map_cons, List.flatten_cons]
    omega
  | drop _ _ ih =>
    simp only [List.length_cons]
    omega

theorem decodes_tile (h : Decodes table text picked dropped) :
    (picked.map Mapping.key).flatten = text ↔ dropped = [] := by
  constructor
  · intro ht
    have hl := decodes_length h
    rw [ht] at hl
    exact List.eq_nil_of_length_eq_zero (by omega)
  · intro hd
    induction h with
    | nil => rfl
    | pick _ _ ih => rw [List.map_cons, List.flatten_cons, ih hd]
    | drop _ _ _ => simp at hd

theorem decodes_longest (h : Decodes table text picked []) :
    Longest (table.map Mapping.key) (picked.map Mapping.key) := by
  generalize hd : ([] : Text) = dropped at h
  induction h with
  | nil => trivial
  | pick hf htail ih =>
    subst hd
    obtain ⟨⟨hm, hne⟩, -⟩ := atFront?_spec hf
    refine ⟨⟨List.mem_map_of_mem hm, hne⟩, ?_, ih rfl⟩
    intro other ho hp
    rw [(decodes_tile htail).2 rfl] at hp
    exact atFront?_longest hf ho hp
  | drop _ _ _ => simp at hd

/-- Where a text is cut into longest keys, decoding finds this cut. -/
theorem longest_decodes (h : Decodes table text picked dropped)
    (hc : Longest (table.map Mapping.key) chain) (ht : chain.flatten = text) :
    picked.map Mapping.key = chain ∧ dropped = [] := by
  induction h generalizing chain with
  | nil =>
    cases chain with
    | nil => exact ⟨rfl, rfl⟩
    | cons key chain => exact (hc.1.2 (List.append_eq_nil_iff.1 ht).1).elim
  | @pick mapping rest dropped picked hf _ ih =>
    obtain ⟨⟨hm, hne⟩, hp⟩ := atFront?_spec hf
    cases chain with
    | nil => exact (hne (List.append_eq_nil_iff.1 ht.symm).1).elim
    | cons key chain =>
      obtain ⟨⟨hk, -⟩, hlong, hc⟩ := hc
      rw [List.flatten_cons] at ht
      have hle := hlong _ (List.mem_map_of_mem hm) (ht ▸ hp)
      have hge := atFront?_longest hf hk (ht ▸ List.prefix_append key chain.flatten)
      obtain ⟨rfl, hr⟩ := List.append_inj ht (by omega)
      obtain ⟨hpicked, hd⟩ := ih hc hr
      exact ⟨by rw [List.map_cons, hpicked], hd⟩
  | drop hf _ _ =>
    cases chain with
    | nil => simp at ht
    | cons key chain =>
      obtain ⟨⟨hk, hne⟩, -⟩ := hc
      exact (atFront?_eq_none.1 hf key hk hne (ht ▸ List.prefix_append key chain.flatten)).elim

/-- The keys that are picked tile a text just where it can be cut into longest keys. -/
theorem decodes_tile_iff (h : Decodes table text picked dropped) :
    (picked.map Mapping.key).flatten = text ↔
      ∃ chain, Longest (table.map Mapping.key) chain ∧ chain.flatten = text := by
  constructor
  · intro ht
    obtain rfl := (decodes_tile h).1 ht
    exact ⟨_, decodes_longest h, ht⟩
  · rintro ⟨chain, hc, ht⟩
    exact (decodes_tile h).2 (longest_decodes h hc ht).2

/-- Without a key that continues another, every key is the longest at its place. -/
theorem length_le_of_prefixFree {other : Text} (hf : PrefixFree keys) (hk : key ∈ keys)
    (hne : key ≠ []) (ho : other ∈ keys) (hp : other <+: key ++ rest) :
    other.length ≤ key.length := by
  obtain hl | hl := Nat.le_total other.length key.length
  · exact hl
  · have hpre := List.prefix_of_prefix_length_le (List.prefix_append key rest) hp hl
    exact Nat.le_of_eq (congrArg List.length (hf key hk other ho hne hpre).symm)

theorem longest_of_prefixFree (hf : PrefixFree keys)
    (hc : ∀ key ∈ chain, key ∈ keys ∧ key ≠ []) : Longest keys chain := by
  induction chain with
  | nil => trivial
  | cons key chain ih =>
    obtain ⟨⟨hk, hne⟩, hchain⟩ := List.forall_mem_cons.1 hc
    exact ⟨⟨hk, hne⟩, fun _ ho hp => length_le_of_prefixFree hf hk hne ho hp, ih hchain⟩

/-- A text that starts with a key has a name. -/
theorem decode_ne_nil (hk : key ∈ table.map Mapping.key) (hne : key ≠ []) (hp : key <+: text) :
    decode table text ≠ [] := by
  obtain ⟨picked, dropped, h⟩ := decodes_total table text
  rw [decode_eq h]
  cases h with
  | nil => exact (hne (List.prefix_nil.1 hp)).elim
  | pick _ _ => simp
  | drop hf _ => exact (atFront?_eq_none.1 hf key hk hne hp).elim

end NameSlots
