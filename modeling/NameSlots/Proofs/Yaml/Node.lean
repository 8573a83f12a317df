import NameSlots.Proofs.Results
import NameSlots.Yaml.Node

/-!
The nodes of block documents without names and tags: scalars, tables of pairs, and lists behind a key.
-/
namespace NameSlots.Yaml

namespace Reader

variable {reading mid last : Reading} {rest : List Token} {token : Token} {fuel : Nat} {t : Text}
  {plain : Bool} {place : Place} {stops : List Token} {value : Node} {items : List Node}
  {pairs : List (Node × Node)}

/-- The tag of a scalar without properties. -/
def usualTag (t : Text) (plain : Bool) : Tag := if plain then Tag.ofForm t else .text

theorem node_scalar (h : reading.tokens = .scalar t plain :: rest) :
    (node place (fuel + 1)).run reading =
      .ok (.scalar (usualTag t plain) t, { reading with tokens := rest }) := by
  obtain ⟨tokens, fault, handles, names, anchors, collections⟩ := reading
  subst h
  rw [node]
  rfl

theorem node_mapping (h : reading.tokens = .blockMapping :: rest) (hp : place ≠ .flow)
    (hpairs : (blockPairs fuel).run
      { reading with tokens := rest, collections := reading.collections + 1 } = .ok (pairs, last)) :
    (node place (fuel + 1)).run reading =
      .ok (.mapping reading.collections .table pairs, last) := by
  obtain ⟨tokens, fault, handles, names, anchors, collections⟩ := reading
  subst h
  rw [node]
  cases place with
  | flow => exact (hp rfl).elim
  | block => exact bind_eq_ok.2 ⟨_, hpairs, rfl⟩
  | pairPart => exact bind_eq_ok.2 ⟨_, hpairs, rfl⟩

theorem node_looseItems (h : reading.tokens = .blockEntry :: rest)
    (hitems : (looseItems fuel).run { reading with collections := reading.collections + 1 } =
      .ok (items, last)) :
    (node .pairPart (fuel + 1)).run reading =
      .ok (.sequence reading.collections .list items, last) := by
  obtain ⟨tokens, fault, handles, names, anchors, collections⟩ := reading
  subst h
  rw [node]
  exact bind_eq_ok.2 ⟨_, hitems, rfl⟩

theorem node_brackets (h : reading.tokens = .flowSequence :: .flowSequenceEnd :: rest) :
    (node place (fuel + 2)).run reading = .ok (.sequence reading.collections .list [],
      { reading with tokens := rest, collections := reading.collections + 1 }) := by
  obtain ⟨tokens, fault, handles, names, anchors, collections⟩ := reading
  subst h
  rw [node, flowItems]
  rfl

/-- A node stands where none of the tokens comes that stop one. -/
theorem unlessAt_eq {step : Reader Node} (h : reading.tokens = token :: rest) (hs : token ∉ stops) :
    (unlessAt stops step).run reading = step.run reading := by
  obtain ⟨tokens, fault, handles, names, anchors, collections⟩ := reading
  subst h
  unfold unlessAt
  change (if token ∈ stops then pure emptyNode else step : Reader Node).run _ = _
  rw [if_neg hs]

theorem blockPairs_end (h : reading.tokens = .blockEnd :: rest) :
    (blockPairs (fuel + 1)).run reading = .ok ([], { reading with tokens := rest }) := by
  obtain ⟨tokens, fault, handles, names, anchors, collections⟩ := reading
  subst h
  rw [blockPairs]
  rfl

/-- A pair with a scalar as its key. -/
theorem blockPairs_pair (h : reading.tokens = .key :: .scalar t plain :: .value :: token :: rest)
    (ht : token ∉ [.key, .value, .blockEnd])
    (hvalue : (node .pairPart (fuel + 1)).run { reading with tokens := token :: rest } = .ok (value, mid))
    (hpairs : (blockPairs (fuel + 1)).run mid = .ok (pairs, last)) :
    (blockPairs (fuel + 2)).run reading =
      .ok ((.scalar (usualTag t plain) t, value) :: pairs, last) := by
  obtain ⟨tokens, fault, handles, names, anchors, collections⟩ := reading
  subst h
  rw [blockPairs]
  have hvalue' : (after .value [.key, .value, .blockEnd] (node .pairPart (fuel + 1))).run
      ⟨.value :: token :: rest, fault, handles, names, anchors, collections⟩ = .ok (value, mid) :=
    (unlessAt_eq rfl ht).trans hvalue
  exact bind_eq_ok.2 ⟨_, hvalue', bind_eq_ok.2 ⟨_, hpairs, rfl⟩⟩

/-- A pair of scalars. -/
theorem blockPairs_scalars {u : Text} {plain' : Bool} {tag tag' : Tag}
    (h : reading.tokens = .key :: .scalar t plain :: .value :: .scalar u plain' :: rest)
    (ht : usualTag t plain = tag) (hu : usualTag u plain' = tag')
    (hpairs : (blockPairs (fuel + 1)).run { reading with tokens := rest } = .ok (pairs, last)) :
    (blockPairs (fuel + 2)).run reading = .ok
      ((.scalar tag t, .scalar tag' u) :: pairs, last) := by
  subst ht hu
  exact blockPairs_pair h (by simp) (node_scalar rfl) hpairs

theorem looseItems_end (h : reading.tokens = token :: rest) (ht : token ≠ .blockEntry) :
    (looseItems (fuel + 1)).run reading = .ok ([], reading) := by
  obtain ⟨tokens, fault, handles, names, anchors, collections⟩ := reading
  subst h
  have hother : (token == .blockEntry) = false := beq_eq_false_iff_ne.2 ht
  have hskip : (skipIf .blockEntry).run ⟨token :: rest, fault, handles, names, anchors, collections⟩ =
      .ok (false, ⟨token :: rest, fault, handles, names, anchors, collections⟩) := by
    change (if token == .blockEntry then _ else _ : Reader Bool).run _ = _
    rw [hother]
    rfl
  rw [looseItems]
  exact bind_eq_ok.2 ⟨_, hskip, rfl⟩

theorem looseItems_item (h : reading.tokens = .blockEntry :: token :: rest)
    (ht : token ∉ [.blockEntry, .key, .value, .blockEnd])
    (hitem : (node .block fuel).run { reading with tokens := token :: rest } = .ok (value, mid))
    (hitems : (looseItems fuel).run mid = .ok (items, last)) :
    (looseItems (fuel + 1)).run reading = .ok (value :: items, last) := by
  obtain ⟨tokens, fault, handles, names, anchors, collections⟩ := reading
  subst h
  rw [looseItems]
  exact bind_eq_ok.2 ⟨_, (unlessAt_eq rfl ht).trans hitem, bind_eq_ok.2 ⟨_, hitems, rfl⟩⟩

/-- The root of a document that begins with a block, and nothing is behind it. -/
theorem document?_block {fault : Option Fault} {handles : List (Text × Text)} {names : List Text}
    {anchors : List (Text × Node)} {collections : Nat}
    (h : (node .block (fuel + 1)).run ⟨.blockMapping :: rest, fault, usualHandles, names, anchors, collections⟩ =
      .ok (value, last))
    (hlast : last.tokens = [.streamEnd]) :
    (document? (fuel + 1)).run' ⟨.blockMapping :: rest, fault, handles, names, anchors, collections⟩ =
      .ok (some { root := value, anchors := last.anchors, collections := last.collections }) := by
  obtain ⟨tokens, fault', handles', names', anchors', collections'⟩ := last
  subst hlast
  have hroot : (root (fuel + 1)).run
      ⟨.blockMapping :: rest, fault, handles, names, anchors, collections⟩ = .ok (value, _) := h
  have hrun : (document? (fuel + 1)).run
      ⟨.blockMapping :: rest, fault, handles, names, anchors, collections⟩ =
        .ok (some ⟨value, anchors', collections'⟩, ⟨[], fault', handles', names', anchors', collections'⟩) :=
    bind_eq_ok.2 ⟨_, hroot, rfl⟩
  exact congrArg (Except.map Prod.fst) hrun

end Reader
end NameSlots.Yaml
