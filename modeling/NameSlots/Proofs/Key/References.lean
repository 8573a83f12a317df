import Mathlib
import NameSlots.Proofs.Key.Source
import NameSlots.Proofs.Regex.References

/-! What the references in an embedded pattern refer to in the joined pattern of a key. Nothing
numbers them anew: a name keeps its group, a number goes to whichever group of the joined pattern
has it. -/
namespace NameSlots.Key

open Regex

variable {reading next last : Reading} {keys : List Text} {body flags more : Text} {alone : Pattern}
  {before after segments : List Segment} {made : Draft} {group : Nat} {joined : Joined}

/-- The nodes of a joined pattern with those of an embedded one among them: `left` and `right` are
the parts of the segments around it, and `inner` is what stands between its parentheses. -/
structure Embedded (keys : List Text) (before : List Segment) (body : Text) (after : List Segment)
    (joined : Joined) (left : List Part) (group : Nat) (inner : Node) (right : List Part) :
    Prop where
  left_emits : ∀ part ∈ left, Emits keys part
  left_segments : left.map Part.segment = before
  right_emits : ∀ part ∈ right, Emits keys part
  right_segments : right.map Part.segment = after
  node : joined.pattern.node = .sequence (.anchor .textStart :: (left.flatMap Part.nodes ++
    .capture group inner :: (right.flatMap Part.nodes ++ [.anchor .lastLineEnd])))
  /-- The parentheses of the embedded pattern follow the groups before them. -/
  group : ((left.flatMap Part.nodes).flatMap Node.captures).length + 1 = group
  /-- The groups of the joined pattern have their numbers in the order of their parentheses. -/
  numbered : joined.pattern.node.captures = List.range' 1 joined.pattern.groups

theorem captures_atRoot (root : AtRoot reading) :
    reading.top.nodes.flatMap Node.captures = List.range' 1 reading.groups.count := by
  rw [← root.numbered.captures]
  simp only [Reading.captures, root.below, Frame.captures, root.opener, root.branches,
    Opener.captures, capturesOf, Frame.nodes, List.flatMap_map]
  rfl

/-- Between its parentheses an embedded pattern refers by name to the groups to which it refers by
itself, and by number to the groups of the joined pattern. -/
theorem references_body_inside (hc : compile {} body = .ok alone) (root : AtRoot reading)
    {joined : Reading} (hj : Reads reading.openNext (Token.ofText body) joined) :
    joined.top.body.node.references.map some = (mentions body).map
      (·.resolve (shifted (reading.groups.count + 1) (groupNames body))) := by
  obtain ⟨whole, hw, hfin⟩ := compile_eq_ok.1 hc
  obtain ⟨hb, -⟩ := finish_eq_ok hfin
  have hstart := inside_start root.global
  have hnum : Numbered reading.openNext := numbered_take (take_capture root.flags) root.numbered
  have hin := inside_reads hw hstart (by simp) hj
  obtain ⟨hopener, hbelow⟩ := inside_end hw hb hin
  have hrefs := reads_references_inside hw hstart (by simp) hnum hj
  have hopen : reading.openNext.references = reading.references := by
    rw [Reading.openNext, references_openFrame]
    exact List.append_nil _
  have hsplit : joined.references = reading.references ++ joined.top.body.node.references := by
    have htop := references_body joined.top
    simp only [Piece.references] at htop
    simp [Reading.references, hbelow, htop, Frame.references, hopener, Opener.references]
  have hnames : groupNames body = whole.groups.names := by
    simp only [groupNames, readAll_eq_ok.2 hw]
  rw [hsplit, hopen, List.map_append] at hrefs
  rw [List.append_cancel_left hrefs, hnames]
  rfl

/-- An embedded pattern is the same in the joined pattern but for the numbers of its groups, which
follow that of the parentheses around it. A reference by name goes to the same group of the embedded
pattern as before. A reference by number keeps its number, and so goes to another group: that of an
earlier segment, the parentheses, or an earlier one of its own. -/
theorem join_references (h : join (before ++ .regex body flags :: after) keys = .ok joined)
    (hb : body ≠ []) :
    ∃ alone left group inner right, compile {} body = .ok alone ∧
      Embedded keys before body after joined left group inner right ∧
      inner.captures = alone.node.captures.map (· + group) ∧
      alone.node.references.map some = (mentions body).map (·.resolve (groupNames body)) ∧
      inner.references.map some =
        (mentions body).map (·.resolve (shifted group (groupNames body))) := by
  obtain ⟨made, last, hd, -, hr, hnode, hcap⟩ := join_reads h
  obtain ⟨left, tail, mid, hleft, hbefore, hd, -, hln, hmid, hr⟩ :=
    reads_before hd atRoot_started rfl hr
  have hempty : body.isEmpty = false := by simpa using hb
  unfold draft at hd
  rw [hempty] at hd
  obtain ⟨alone, hc, hd⟩ := bind_eq_ok.1 hd
  obtain ⟨tail, ht, hd⟩ := bind_eq_ok.1 hd
  obtain rfl := Except.ok.inj hd
  have hsource : '(' :: body ++ ')' :: tail.source ++ ['$'] =
      '(' :: body ++ ')' :: (tail.source ++ ['$']) := by simp
  rw [hsource] at hr
  obtain ⟨inside, width, next, hinside, hr, hnext, htop, hcount, hinner⟩ := reads_body hc hmid hr
  have hgroup : mid.groups.count + 1 + 1 + alone.groups = next.groups.count + 1 := by omega
  rw [hgroup] at ht
  have hstarted : started.top.nodes = [.anchor .textStart] := rfl
  obtain ⟨right, last', hright, hafter, -, hrn, hlast', hr⟩ := reads_draft ht hnext rfl hr
  refine ⟨alone, left, mid.groups.count + 1, inside.top.body.node, right, hc, ?_, ?_,
    compile_references hc, references_body_inside hc hmid hinside⟩
  · refine ⟨hleft, hbefore, hright, hafter, ?_, ?_, hcap⟩
    · rw [hnode, body_end hlast' hr, hrn, htop, nodes_push, hln, hstarted]
      simp
    · have hcaptures := congrArg List.length (captures_atRoot hmid)
      rw [hln, hstarted] at hcaptures
      simpa [Node.captures] using hcaptures
  · rw [hinner, compile_captures hc]
    simp only [Nat.add_comm _ (mid.groups.count + 1), List.map_add_range']

/-- References by name, by number and in a condition, after a slot. By itself the pattern has the
groups 1 and 2; in the joined pattern they are 3 and 4, and its numbers go to the slot and to the
parentheses around it. -/
def mixedBody : Text := "(?P<q>a)(b)?(?P=q)\\1(?(2)c|d)".toList

theorem join_references_mixed : ∃ joined alone left inner right,
    join ([.slot .single] ++ .regex mixedBody [] :: []) [['x']] = .ok joined ∧
      compile {} mixedBody = .ok alone ∧
      Embedded [['x']] [.slot .single] mixedBody [] joined left 2 inner right ∧
      inner.captures = [3, 4] ∧ alone.node.references = [1, 1, 2] ∧
      inner.references = [3, 1, 2] := by
  have hj : ((join ([.slot .single] ++ .regex mixedBody [] :: []) [['x']]).toOption).isSome := by
    decide +kernel
  have hcaptures : (compile {} mixedBody).toOption.map (·.node.captures) = some [1, 2] := by
    decide +kernel
  have hmentions : mentions mixedBody = [.name ['q'], .number 1, .number 2] := by decide +kernel
  have hnames : groupNames mixedBody = [(['q'], 1)] := by decide +kernel
  obtain ⟨joined, hj⟩ := Option.isSome_iff_exists.1 hj
  have hj := toOption_eq_some.1 hj
  obtain ⟨alone, left, group, inner, right, hc, hembedded, hinner, halone, hrefs⟩ :=
    join_references hj (by decide)
  have hgroup : group = 2 := by
    have hsegments := hembedded.left_segments
    obtain ⟨part, rfl, hpart⟩ := List.map_eq_singleton_iff.1 hsegments
    have hemits := hembedded.left_emits part (List.mem_cons_self ..)
    have hcount := hembedded.group
    cases hemits with
    | slot which number => simpa [Node.captures, captures_slotNode] using hcount.symm
    | _ => simp at hpart
  subst hgroup
  rw [hc] at hcaptures
  have hcaptures : alone.node.captures = [1, 2] := Option.some.inj hcaptures
  have hinj : Function.Injective (some : Nat → Option Nat) := fun _ _ => Option.some.inj
  rw [hmentions, hnames] at halone hrefs
  refine ⟨joined, alone, left, inner, right, hj, hc, hembedded, ?_, ?_, ?_⟩
  · rw [hinner, hcaptures]
    rfl
  · exact hinj.list_map halone
  · exact hinj.list_map hrefs

/-- What `(a)\\1` becomes after a slot. -/
def reboundInner : Node :=
  .sequence [.capture 3 (.sequence [.one {} (.code false 97)]), .backref 1 {}]

/-- The pattern of `<p>/(a)\\1/`, where `\\1` is the slot. -/
def rebound : Joined where
  source := "^(x)((a)\\1)$".toList
  pattern := ⟨.sequence [.anchor .textStart, .capture 1 (slotNode [['x']] .single),
    .capture 2 reboundInner, .anchor .lastLineEnd], 3⟩
  slots := [1]

/-- References by number do not keep to the groups of their pattern. -/
theorem number_rebound : ¬ ∀ before after body flags keys joined alone left group inner right,
    join (before ++ .regex body flags :: after) keys = .ok joined → body ≠ [] →
      compile {} body = .ok alone → Embedded keys before body after joined left group inner right →
      inner.references = alone.node.references.map (· + group) := by
  intro h
  have hj : join ([.slot .single] ++ .regex "(a)\\1".toList [] :: []) [['x']] = .ok rebound := by
    cbv
  have hc : compile {} "(a)\\1".toList =
      .ok ⟨.sequence [.capture 1 (.sequence [.one {} (.code false 97)]), .backref 1 {}], 1⟩ := by
    cbv
  have hembedded : Embedded [['x']] [.slot .single] "(a)\\1".toList [] rebound
      [⟨.slot .single, [.capture 1 (slotNode [['x']] .single)], some 1⟩] 2 reboundInner [] := by
    refine ⟨?_, rfl, by simp, rfl, rfl, by decide +kernel, by decide +kernel⟩
    intro part hpart
    obtain rfl := List.mem_singleton.1 hpart
    exact .slot .single 1
  have hrefs := h _ _ _ _ _ _ _ _ _ _ _ hj (by decide) hc hembedded
  exact absurd hrefs (by decide)

/-- Of two inputs, the one that repeats the slot matches, and not the one that repeats the group to
which the embedded pattern refers by itself. -/
example : (fullMatch? rebound.pattern.node "xax".toList.toArray).isSome = true ∧
    fullMatch? rebound.pattern.node "xaa".toList.toArray = none := by decide +kernel

end NameSlots.Key
