import NameSlots.Proofs.Names.Lookup

/-! Decoding cuts a text into the longest keys, and into single characters where no key stands.
There is one such cut, and the names are the values of its keys. -/
namespace NameSlots

/-- What is cut off a text before the rest of it. An empty key stands nowhere. -/
inductive CutsOff (keys : List Text) : Text → Text → Prop where
  | longest {key rest : Text} : key ∈ keys → key ≠ [] →
      (∀ other ∈ keys, other <+: key ++ rest → other.length ≤ key.length) → CutsOff keys key rest
  | skipped {c : Char} {rest : Text} : (∀ key ∈ keys, key ≠ [] → ¬ key <+: c :: rest) →
      CutsOff keys [c] rest

/-- A text cut into pieces, each with the rest of the text after it. -/
inductive LongestCut (keys : List Text) : Text → List Text → Prop where
  | nil : LongestCut keys [] []
  | cons {piece rest : Text} {pieces : List Text} : CutsOff keys piece rest →
      LongestCut keys rest pieces → LongestCut keys (piece ++ rest) (piece :: pieces)

/-- No key of a chain has a longer one at its place, empty keys apart. -/
def Undisturbed (keys : List Text) : List Text → Prop
  | [] => True
  | key :: chain =>
    (key ≠ [] → ∀ other ∈ keys, other <+: key ++ chain.flatten → other.length ≤ key.length) ∧
      Undisturbed keys chain

variable {table : List Mapping} {mapping : Mapping} {keys chain pieces others : List Text}
  {text piece piece' rest rest' dropped : Text} {picked : List Mapping} {c : Char}

/-! ## One cut -/

theorem cutsOff_ne_nil (h : CutsOff keys piece rest) : piece ≠ [] := by
  cases h with
  | longest _ hne _ => exact hne
  | skipped _ => simp

theorem cutsOff_length_le (h : CutsOff keys piece rest) (h' : CutsOff keys piece' rest')
    (he : piece ++ rest = piece' ++ rest') : piece.length ≤ piece'.length := by
  have hlen := List.length_pos_iff.2 (cutsOff_ne_nil h')
  cases h with
  | longest hk hne _ =>
    have hp : piece <+: piece' ++ rest' := ⟨rest, he⟩
    cases h' with
    | longest _ _ hlong => exact hlong piece hk hp
    | skipped hno => exact (hno piece hk hne hp).elim
  | skipped _ => exact hlen

/-- The front of a text leaves no choice of its first piece. -/
theorem cutsOff_unique (h : CutsOff keys piece rest) (h' : CutsOff keys piece' rest')
    (he : piece ++ rest = piece' ++ rest') : piece = piece' ∧ rest = rest' := by
  have hle := cutsOff_length_le h h' he
  have hge := cutsOff_length_le h' h he.symm
  exact List.append_inj he (Nat.le_antisymm hle hge)

theorem longestCut_unique (h : LongestCut keys text pieces) (h' : LongestCut keys text others) :
    others = pieces := by
  induction h generalizing others with
  | nil =>
    generalize ht : ([] : Text) = text at h'
    cases h' with
    | nil => rfl
    | cons hp _ => exact (cutsOff_ne_nil hp (List.append_eq_nil_iff.1 ht.symm).1).elim
  | @cons piece rest pieces hp _ ih =>
    generalize ht : piece ++ rest = text at h'
    cases h' with
    | nil => exact (cutsOff_ne_nil hp (List.append_eq_nil_iff.1 ht).1).elim
    | cons hp' hcut =>
      obtain ⟨rfl, rfl⟩ := cutsOff_unique hp hp' ht
      rw [ih hcut]

/-! ## The cut of decoding -/

theorem cutsOff_of_atFront? (h : atFront? table (mapping.key ++ rest) = some mapping) :
    CutsOff (table.map Mapping.key) mapping.key rest := by
  obtain ⟨⟨hm, hne⟩, -⟩ := atFront?_spec h
  exact .longest (List.mem_map_of_mem hm) hne fun _ hk hp => atFront?_longest h hk hp

theorem lookup?_eq_none (h : atFront? table (c :: rest) = none) : lookup? table [c] = none := by
  rw [← Option.not_isSome_iff_eq_none, lookup?_isSome]
  intro hk
  exact atFront?_eq_none.1 h [c] hk (by simp) ⟨rest, rfl⟩

/-- What decoding picks and drops is a cut, and only what it picks is the key of a mapping. -/
theorem longestCut_of_decodes (h : Decodes table text picked dropped) :
    ∃ pieces, LongestCut (table.map Mapping.key) text pieces ∧
      pieces.filterMap (lookup? table) = picked.map Mapping.value := by
  induction h with
  | nil => exact ⟨[], .nil, rfl⟩
  | @pick mapping rest dropped picked hf _ ih =>
    obtain ⟨pieces, hcut, hnames⟩ := ih
    have hl : lookup? table mapping.key = some mapping.value := by
      rw [lookup?, find?_of_atFront? hf, Option.map_some]
    refine ⟨mapping.key :: pieces, .cons (cutsOff_of_atFront? hf) hcut, ?_⟩
    rw [List.filterMap_cons_some hl, hnames, List.map_cons]
  | @drop c rest dropped picked hf _ ih =>
    obtain ⟨pieces, hcut, hnames⟩ := ih
    refine ⟨[c] :: pieces, .cons (.skipped (atFront?_eq_none.1 hf)) hcut, ?_⟩
    rw [List.filterMap_cons_none (lookup?_eq_none hf), hnames]

/-! ## Chains of keys -/

theorem undisturbed_of_prefixFree (hf : PrefixFree keys) (hc : ∀ key ∈ chain, key ∈ keys) :
    Undisturbed keys chain := by
  induction chain with
  | nil => trivial
  | cons key chain ih =>
    obtain ⟨hk, hchain⟩ := List.forall_mem_cons.1 hc
    exact ⟨fun hne _ ho hp => length_le_of_prefixFree hf hk hne ho hp, ih hchain⟩

theorem longest_of_undisturbed (hc : ∀ key ∈ chain, key ∈ keys) (hu : Undisturbed keys chain) :
    Longest keys (chain.filter (· ≠ [])) := by
  induction chain with
  | nil => trivial
  | cons key chain ih =>
    obtain ⟨hk, hchain⟩ := List.forall_mem_cons.1 hc
    obtain ⟨hlong, hu⟩ := hu
    by_cases hne : key = []
    · rw [List.filter_cons_of_neg (by simpa using hne)]
      exact ih hchain hu
    · rw [List.filter_cons_of_pos (by simpa using hne)]
      refine ⟨⟨hk, hne⟩, ?_, ih hchain hu⟩
      rw [List.flatten_filter_ne_nil]
      exact hlong hne

/-- A chain of keys that no longer key disturbs is decoded to its values. -/
theorem decode_longest (hl : Longest (table.map Mapping.key) chain) :
    (decode table chain.flatten).map some = chain.map (lookup? table) := by
  obtain ⟨picked, dropped, hd⟩ := decodes_total table chain.flatten
  obtain ⟨rfl, -⟩ := longest_decodes hd hl rfl
  rw [decode_eq hd, List.map_map, List.map_map]
  exact List.map_congr_left fun mapping hm => (decodes_lookup hd mapping hm).symm

/-- A text has one cut into the longest keys and single characters where no key stands, and it is
decoded to the values of the first mappings of those keys. So a chain of keys is decoded to their
values if none has a longer key at its place, as is always so where no key continues another. -/
theorem decode_longest_cut (table : List Mapping) (text : Text) :
    (∃ pieces, LongestCut (table.map Mapping.key) text pieces ∧
      (∀ others, LongestCut (table.map Mapping.key) text others → others = pieces) ∧
      decode table text = pieces.filterMap (lookup? table)) ∧
    ∀ chain : List Text, (∀ key ∈ chain, key ∈ table.map Mapping.key) →
      (PrefixFree (table.map Mapping.key) → Undisturbed (table.map Mapping.key) chain) ∧
      (Undisturbed (table.map Mapping.key) chain →
        (decode table chain.flatten).map some = (chain.filter (· ≠ [])).map (lookup? table)) := by
  refine ⟨?_, fun chain hc => ⟨fun hf => undisturbed_of_prefixFree hf hc, fun hu => ?_⟩⟩
  · obtain ⟨picked, dropped, hd⟩ := decodes_total table text
    obtain ⟨pieces, hcut, hnames⟩ := longestCut_of_decodes hd
    exact ⟨pieces, hcut, fun _ => longestCut_unique hcut, (decode_eq hd).trans hnames.symm⟩
  · rw [← List.flatten_filter_ne_nil]
    exact decode_longest (longest_of_undisturbed hc hu)

/-- A key that continues another one and stands there twice, and an empty key. -/
def knotted : List Mapping :=
  [⟨[], ['0']⟩, ⟨['a'], ['1']⟩, ⟨"ab".toList, ['2']⟩, ⟨"ab".toList, ['3']⟩, ⟨['b'], ['4']⟩]

theorem decode_longest_cut_knotted :
    LongestCut (knotted.map Mapping.key) "ab?ba".toList ["ab".toList, ['?'], ['b'], ['a']] ∧
      decode knotted "ab?ba".toList = [['2'], ['4'], ['1']] ∧
      Undisturbed (knotted.map Mapping.key) ["ab".toList, ['b'], ['a'], []] ∧
      (decode knotted "abba".toList).map some = [some ['2'], some ['4'], some ['1']] := by
  have hcut : LongestCut (knotted.map Mapping.key) "ab?ba".toList
      ["ab".toList, ['?'], ['b'], ['a']] := by
    have hab : CutsOff (knotted.map Mapping.key) "ab".toList "?ba".toList :=
      .longest (by decide) (by decide) (by decide)
    have hb : CutsOff (knotted.map Mapping.key) ['b'] ['a'] :=
      .longest (by decide) (by decide) (by decide)
    have ha : CutsOff (knotted.map Mapping.key) ['a'] [] :=
      .longest (by decide) (by decide) (by decide)
    exact .cons hab (.cons (.skipped (by decide)) (.cons hb (.cons ha .nil)))
  have hkeys : Undisturbed (knotted.map Mapping.key) ["ab".toList, ['b'], ['a'], []] :=
    ⟨by decide, by decide, by decide, by decide, trivial⟩
  obtain ⟨⟨pieces, -, hunique, hnames⟩, hchains⟩ := decode_longest_cut knotted "ab?ba".toList
  obtain rfl := hunique _ hcut
  exact ⟨hcut, hnames, hkeys, (hchains _ (by decide)).2 hkeys⟩

end NameSlots
