import NameSlots.Proofs.Yaml.Faults.Nodes
import NameSlots.Proofs.Yaml.Faults.Tokens
import NameSlots.Yaml.Meaning

/-! What may be wrong with the value of a document: its form, what is wrong with its tokens, or a scalar
whose tag asks for a value that its text is not one of. -/
namespace NameSlots.Yaml

namespace Document

variable {doc : Document} {node key : Node} {fault : Fault} {around : List Nat} {part : Part}

/-- The nodes that are reached from the root of a document, through collections and names. -/
inductive Reaches (doc : Document) : Node → Prop where
  | root : Reaches doc doc.root
  | named {node : Node} : Reaches doc node → Reaches doc (doc.resolve node)
  | item {number : Nat} {tag : Tag} {items : List Node} {item : Node} :
      Reaches doc (.sequence number tag items) → item ∈ items → Reaches doc item
  | key {number : Nat} {tag : Tag} {pairs : List (Node × Node)} {pair : Node × Node} :
      Reaches doc (.mapping number tag pairs) → pair ∈ pairs → Reaches doc pair.1
  | value {number : Nat} {tag : Tag} {pairs : List (Node × Node)} {pair : Node × Node} :
      Reaches doc (.mapping number tag pairs) → pair ∈ pairs → Reaches doc pair.2

/-- The tag of a node asks for a value that the text of the node is not one of. -/
inductive Misfits (doc : Document) (node : Node) : Fault → Prop where
  | scalar {text : Text} {fault : Fault} :
      doc.scalarText (doc.collections + 1) node = .ok text →
      Value.ofScalar? (doc.resolve node).tag text = some (.error fault) → Misfits doc node fault
  | timeOfTable : (doc.resolve node).tag = .time → doc.isMapping node = true →
      Misfits doc node .timeOfTable

/-- A document has no value for its form, or for that of a node which is reached and does not fit its
tag. -/
def Unread (doc : Document) (fault : Fault) : Prop :=
  fault.IsMalformed ∨ ∃ node, doc.Reaches node ∧ doc.Misfits node fault

/-- A pair whose nodes are reached; its key may have become a text. -/
structure ReachesPair (doc : Document) (pair : Node × Node) : Prop where
  key : ∃ key, doc.Reaches key ∧ pair.1 = doc.plainKey key
  value : doc.Reaches pair.2

/-- Pairs all of which are reached. -/
def ReachesAll (doc : Document) (pairs : List (Node × Node)) : Prop :=
  ∀ pair ∈ pairs, doc.ReachesPair pair

/-- A part that is read later is reached. -/
def ReachesPart (doc : Document) (part : Part) : Prop := ∀ inner, part = .later inner → doc.Reaches inner

section

variable {α : Type} {good : α → Prop}

theorem yields_malformed (what : Malformed) :
    Yields doc.Unread good (malformed what : Except Fault α) := .inl ⟨what, rfl⟩

/-! ## Scalars -/

theorem scalarText_malformed {fuel : Nat} :
    FailsOnly Fault.IsMalformed (doc.scalarText fuel node) := by
  induction fuel generalizing node with
  | zero => exact failsOnly_error.2 ⟨_, rfl⟩
  | succ fuel ih =>
    unfold scalarText
    split
    · exact failsOnly_ok _
    · split
      · exact ih
      · exact failsOnly_error.2 ⟨_, rfl⟩
    · exact failsOnly_error.2 ⟨_, rfl⟩

theorem failsOnly_scalarValue? :
    FailsOnly (fun fault => fault.IsMalformed ∨ doc.Misfits node fault) (doc.scalarValue? node) := by
  unfold scalarValue?
  split
  · exact failsOnly_pure _
  · exact failsOnly_error.2 (.inl ⟨_, rfl⟩)
  · refine failsOnly_bind.2 ⟨scalarText_malformed.mono fun _ => .inl, fun text htext => ?_⟩
    refine failsOnly_ite.2 ⟨fun htime => ?_, fun _ => ?_⟩
    · obtain ⟨htag, hmapping⟩ := Bool.and_eq_true_iff.1 htime
      refine failsOnly_bind.2 ⟨failsOnly_error.2 (.inr ?_), nofun⟩
      exact .timeOfTable (beq_iff_eq.1 htag) hmapping
    · split
      · next result hresult =>
        refine failsOnly_map.2 ?_
        rintro fault rfl
        exact .inr (.scalar htext hresult)
      · exact failsOnly_pure _

/-- Only truth values, numbers and times may be misfits whose document has its form. -/
theorem Misfits.tag (h : doc.Misfits node fault) (hm : ¬ fault.IsMalformed) :
    (doc.resolve node).tag ∈ [.bool, .int, .float, .time] := by
  cases h with
  | timeOfTable htag _ => simp [htag]
  | @scalar text fault _ hvalue =>
    cases htag : (doc.resolve node).tag with
    | bool | int | float | time => simp
    | null | text | list | table | set | orderedPairs | pairs =>
      rw [htag] at hvalue
      cases hvalue
    | merge | default | unknown =>
      rw [htag] at hvalue
      cases hvalue
      exact (hm ⟨_, rfl⟩).elim
    | binary =>
      rw [htag] at hvalue
      have hbytes : FailsOnly Fault.IsMalformed (Scalar.readBytes text) := by
        unfold Scalar.readBytes
        split
        · exact failsOnly_ite.2 ⟨fun _ => failsOnly_ok _, fun _ => failsOnly_error.2 ⟨_, rfl⟩⟩
        · exact failsOnly_error.2 ⟨_, rfl⟩
      exact (hm (hbytes fault (map_eq_error.1 (Option.some.inj hvalue)))).elim

/-! ## Parts -/

theorem yields_part (h : doc.Reaches node) :
    Yields doc.Unread doc.ReachesPart (doc.part around node) := by
  unfold part
  cases hvalue : doc.scalarValue? node with
  | error fault => exact (failsOnly_scalarValue? fault hvalue).imp_right fun hmisfits => ⟨node, h, hmisfits⟩
  | ok value =>
    cases value with
    | some value => exact nofun
    | none =>
      have hnamed := h.named
      cases hnode : doc.resolve node with
      | sequence | mapping =>
        change doc.ReachesPart (if _ then _ else _)
        split
        · exact nofun
        · exact fun inner hinner => Part.later.inj hinner ▸ h
      | _ =>
        rw [hnode] at hnamed
        exact fun inner hinner => Part.later.inj hinner ▸ hnamed

theorem yields_entryParts {entry : Node × Node} (h : doc.ReachesPair entry) :
    Yields doc.Unread (fun found => doc.ReachesPart found.2) (doc.entryParts around entry) := by
  have hkey : Yields doc.Unread doc.ReachesPart (doc.part around entry.1) := by
    obtain ⟨key, hkey, hplain⟩ := h.key
    rw [hplain]
    unfold plainKey
    split
    · exact nofun
    · exact yields_part hkey
  refine hkey.bind fun part _ => ?_
  split
  · split
    · exact (yields_part h.value).bind fun _ hpart => hpart
    · exact yields_malformed _
  · exact yields_malformed _

/-! ## Pairs -/

/-- The pairs of a mapping and of those that are merged into it are reached. -/
theorem yields_flatPairs {fuel number : Nat} {merging : List Nat} {pairs : List (Node × Node)}
    (h : ∀ pair ∈ pairs, doc.Reaches pair.1 ∧ doc.Reaches pair.2) :
    Yields doc.Unread doc.ReachesAll (doc.flatPairs fuel merging number pairs) := by
  induction fuel generalizing merging number pairs with
  | zero => exact yields_malformed _
  | succ fuel ih =>
    have hmerged {merging : List Nat} {node : Node} {inner : Nat} {tag : Tag}
        {innerPairs : List (Node × Node)} (hnode : doc.Reaches node)
        (hinner : doc.resolve node = .mapping inner tag innerPairs) :
        Yields doc.Unread doc.ReachesAll (doc.flatPairs fuel merging inner innerPairs) := by
      have hnamed := hnode.named
      rw [hinner] at hnamed
      exact ih fun pair hp => ⟨hnamed.key hp, hnamed.value hp⟩
    unfold flatPairs
    rw [List.partition_eq_filter_filter]
    have hown : doc.ReachesAll ((pairs.filter (not ∘ fun pair =>
        (doc.resolve pair.1).tag == .merge)).map fun pair => (doc.plainKey pair.1, pair.2)) := by
      intro pair hp
      obtain ⟨found, hfound, rfl⟩ := List.mem_map.1 hp
      obtain ⟨hkey, hvalue⟩ := h found (List.mem_filter.1 hfound).1
      exact ⟨⟨found.1, hkey, rfl⟩, hvalue⟩
    dsimp only
    split
    · exact hown
    · refine (yields_mapM doc.ReachesAll fun pair hp => ?_).bind fun merged hall => ?_
      · have hvalue := (h pair (List.mem_filter.1 hp).1).2
        split
        · next hsequence =>
          have hnamed := hvalue.named
          rw [hsequence] at hnamed
          refine (yields_mapM doc.ReachesAll fun item hitem => ?_).bind fun all hall => ?_
          · split
            · next hinner => exact hmerged (hnamed.item hitem) hinner
            · exact yields_malformed _
          · intro found hfound
            obtain ⟨pairs, hpairs, hin⟩ := List.mem_flatten.1 hfound
            exact hall pairs (List.mem_reverse.1 hpairs) found hin
        · split
          · next hinner => exact hmerged hvalue.named hinner
          · exact yields_malformed _
      · intro found hfound
        rcases List.mem_append.1 hfound with hm | hm
        · obtain ⟨pairs, hpairs, hin⟩ := List.mem_flatten.1 hm
          exact hall pairs hpairs found hin
        · exact hown found hm

/-! ## Collections -/

theorem yields_tableParts (h : doc.Reaches node) :
    Yields doc.Unread (fun parts => ∀ part ∈ parts, doc.ReachesPart part.2)
      (doc.tableParts around node) := by
  have hnamed := h.named
  unfold tableParts
  split
  · next hmapping =>
    rw [hmapping] at hnamed
    exact (yields_flatPairs fun pair hp => ⟨hnamed.key hp, hnamed.value hp⟩).bind fun all hall =>
      yields_mapM _ fun pair hp => yields_entryParts (hall pair hp)
  · exact yields_malformed _

theorem yields_listParts (h : doc.Reaches node) :
    Yields doc.Unread (fun parts => ∀ part ∈ parts, doc.ReachesPart part)
      (doc.listParts around node) := by
  have hnamed := h.named
  unfold listParts
  split
  · next hsequence =>
    rw [hsequence] at hnamed
    exact yields_mapM _ fun item hitem => yields_part (hnamed.item hitem)
  · exact yields_malformed _

theorem yields_pairParts (h : doc.Reaches node) :
    Yields doc.Unread (fun parts => ∀ part ∈ parts, doc.ReachesPart part.1 ∧ doc.ReachesPart part.2)
      (doc.pairParts around node) := by
  have hnamed := h.named
  unfold pairParts
  split
  · next hsequence =>
    rw [hsequence] at hnamed
    refine yields_mapM _ fun item hitem => ?_
    have hitem := (hnamed.item hitem).named
    have hpair : Yields doc.Unread (fun pair => doc.Reaches pair.1 ∧ doc.Reaches pair.2)
        (doc.onlyPair item) := by
      unfold onlyPair
      split
      · next hmapping =>
        rw [hmapping] at hitem
        exact ⟨hitem.key (List.mem_singleton_self _), hitem.value (List.mem_singleton_self _)⟩
      · exact yields_malformed _
    exact hpair.bind fun pair hpair => (yields_part hpair.1).bind fun key hkey =>
      (yields_part hpair.2).bind fun value hvalue => ⟨hkey, hvalue⟩
  · exact yields_malformed _

/-- The fault that counts is that of one of the results. -/
theorem failsOnly_gather {kind : DeepFault → Prop} {results : List (Except DeepFault α)}
    (h : ∀ result ∈ results, FailsOnly kind result) : FailsOnly kind (gather results) := by
  unfold gather
  dsimp only
  generalize hfold : results.foldl _ none = worst
  have hworst : ∀ deep, worst = some deep → kind deep := by
    rw [← hfold]
    refine List.foldlRecOn (motive := fun worst => ∀ deep, worst = some deep → kind deep) results _
      nofun fun worst hworst result hresult => ?_
    have hfails := h result hresult
    split
    · split
      · exact fun deep hdeep => Option.some.inj hdeep ▸ failsOnly_error.1 hfails
      · exact hworst
    · exact fun deep hdeep => Option.some.inj hdeep ▸ failsOnly_error.1 hfails
    · exact hworst
  cases worst with
  | none => exact failsOnly_ok _
  | some deep => exact failsOnly_error.2 (hworst deep rfl)

/-- A collection has no value for its form, or for that of a node which is reached. -/
theorem failsOnly_collection {depth fuel : Nat} (h : doc.Reaches node) :
    FailsOnly (fun deep => doc.Unread deep.fault) (doc.collection depth fuel around node) := by
  induction fuel generalizing depth around node with
  | zero => exact failsOnly_error.2 (.inl ⟨_, rfl⟩)
  | succ fuel ih =>
    unfold collection
    extract_lets inside here finish
    have hfinish {part : Part} (hpart : doc.ReachesPart part) :
        FailsOnly (fun deep => doc.Unread deep.fault) (finish part) := by
      cases part with
      | done value => exact failsOnly_ok _
      | later inner => exact ih (hpart inner rfl)
    split
    · refine failsOnly_bind.2 ⟨failsOnly_mapError.2 (yields_tableParts h).failsOnly, fun entries he => ?_⟩
      have hentries := (yields_tableParts h).ok (mapError_eq_ok.1 he)
      refine failsOnly_bind.2 ⟨failsOnly_gather fun result hresult => ?_, fun _ _ => failsOnly_pure _⟩
      obtain ⟨entry, hentry, rfl⟩ := List.mem_map.1 hresult
      exact hfinish (hentries entry hentry)
    · refine failsOnly_bind.2 ⟨failsOnly_mapError.2 (yields_tableParts h).failsOnly, fun entries he => ?_⟩
      have hentries := (yields_tableParts h).ok (mapError_eq_ok.1 he)
      refine failsOnly_bind.2 ⟨failsOnly_gather fun result hresult => ?_, fun _ _ => failsOnly_pure _⟩
      obtain ⟨entry, hentry, rfl⟩ := List.mem_map.1 hresult
      exact hfinish (hentries entry hentry)
    · refine failsOnly_bind.2 ⟨failsOnly_mapError.2 (yields_listParts h).failsOnly, fun parts he => ?_⟩
      have hparts := (yields_listParts h).ok (mapError_eq_ok.1 he)
      refine failsOnly_map.2 (failsOnly_gather fun result hresult => ?_)
      obtain ⟨part, hpart, rfl⟩ := List.mem_map.1 hresult
      exact hfinish (hparts part hpart)
    · refine failsOnly_bind.2 ⟨failsOnly_mapError.2 (yields_pairParts h).failsOnly, fun parts he => ?_⟩
      have hparts := (yields_pairParts h).ok (mapError_eq_ok.1 he)
      refine failsOnly_map.2 (failsOnly_gather fun result hresult => ?_)
      obtain ⟨part, hpart, rfl⟩ := List.mem_map.1 hresult
      obtain ⟨hkey, hvalue⟩ := hparts part hpart
      refine failsOnly_bind.2 ⟨failsOnly_gather fun result hresult => ?_, fun _ _ => failsOnly_pure _⟩
      rcases List.mem_cons.1 hresult with rfl | hresult
      · exact hfinish hkey
      · exact List.mem_singleton.1 hresult ▸ hfinish hvalue

end

/-- A document has no value for its form, or for that of a node which is reached. -/
theorem failsOnly_value : FailsOnly doc.Unread doc.value := by
  have hpart : Yields doc.Unread doc.ReachesPart (doc.part [] doc.root) := yields_part .root
  refine failsOnly_bind.2 ⟨hpart.failsOnly, fun part h => ?_⟩
  have hreaches := hpart.ok h
  split
  · exact failsOnly_pure _
  · exact failsOnly_mapError.2 (failsOnly_collection (hreaches _ rfl))

end Document

/-- A text has no value for its form, for what is wrong with its tokens, or for a scalar whose tag asks
for a value that its text is not one of. -/
theorem read_eq_error {text : Text} {fault : Fault} (h : read text = .error fault) :
    fault.IsMalformed ∨ ((tokens text).2 = some fault ∧ fault.IsLexical) ∨
      ∃ doc node, Document.read? text = .ok (some doc) ∧ doc.Reaches node ∧ doc.Misfits node fault := by
  rcases bind_eq_error.1 h with hread | ⟨doc?, hread, hvalue⟩
  · rcases Document.read?_eq_error hread with hmalformed | htokens
    · exact .inl hmalformed
    · exact .inr (.inl ⟨htokens, lexes_tokens htokens⟩)
  · cases doc? with
    | none => cases hvalue
    | some doc =>
      rcases Document.failsOnly_value fault hvalue with hmalformed | ⟨node, hnode, hmisfits⟩
      · exact .inl hmalformed
      · exact .inr (.inr ⟨doc, node, hread, hnode, hmisfits⟩)

end NameSlots.Yaml
