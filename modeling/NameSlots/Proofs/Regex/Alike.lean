import NameSlots.Proofs.Regex.Quoted
import NameSlots.Regex.Matcher

/-! Patterns that match alike may stand for each other wherever a pattern is being read. -/
namespace NameSlots.Regex

/-- Patterns with one matcher, which may be repeated or not. -/
structure Node.Alike (a b : Node) : Prop where
  matcher : ∀ text, a.matcher text = b.matcher text
  isAnchor : a.isAnchor = b.isAnchor
  isTimes : a.isTimes = b.isTimes

structure Piece.Alike (a b : Piece) : Prop where
  node : a.node.Alike b.node
  width : a.width = b.width

/-- Openers that differ at most in the alternative of a condition that has been read. -/
inductive Opener.Alike : Opener → Opener → Prop where
  | refl (opener : Opener) : Opener.Alike opener opener
  | conditional (group : Nat) {yes yes' : Piece} : yes.Alike yes' →
      Opener.Alike (.conditional group (some yes)) (.conditional group (some yes'))

structure Frame.Alike (a b : Frame) : Prop where
  opener : a.opener.Alike b.opener
  flags : a.flags = b.flags
  branches : List.Forall₂ Piece.Alike a.branches b.branches
  pieces : List.Forall₂ Piece.Alike a.pieces b.pieces

/-- States of reading that differ only in patterns that match alike. -/
structure Reading.Alike (a b : Reading) : Prop where
  top : a.top.Alike b.top
  below : List.Forall₂ Frame.Alike a.below b.below
  groups : a.groups = b.groups
  global : a.global = b.global
  late : a.late = b.late

variable {a b : Reading} {f g : Frame} {p q : Piece} {m n : Node} {nodes nodes' : List Node}
  {pieces pieces' : List Piece} {item : Item} {tokens : List Token}

/-! ## Patterns -/

theorem Node.alike_refl (node : Node) : node.Alike node := ⟨fun _ => rfl, rfl, rfl⟩

theorem Piece.alike_refl (piece : Piece) : piece.Alike piece := ⟨Node.alike_refl _, rfl⟩

theorem matcher_seq {m' n' : Node} (hm : m.Alike m') (hn : n.Alike n') :
    (Node.seq m n).Alike (.seq m' n') := by
  refine ⟨fun text => ?_, rfl, rfl⟩
  simp only [Node.matcher, hm.matcher, hn.matcher]

theorem sequence_alike (h : List.Forall₂ Node.Alike nodes nodes') :
    (Node.sequence nodes).Alike (.sequence nodes') := by
  induction h with
  | nil => exact Node.alike_refl _
  | cons hn _ ih => exact matcher_seq hn ih

theorem choice_alike (h : List.Forall₂ Node.Alike nodes nodes') :
    (Node.choice nodes).Alike (.choice nodes') := by
  induction h with
  | nil => exact Node.alike_refl _
  | cons hn htail ih =>
    cases htail with
    | nil => exact hn
    | cons hn' htail =>
      refine ⟨fun text => ?_, rfl, rfl⟩
      simp only [Node.choice, Node.matcher, hn.matcher]
      rw [ih.matcher]

theorem times_alike (h : m.Alike n) (greed : Greed) (least : Nat) (most : Option Nat) :
    (Node.times greed least most m).Alike (.times greed least most n) := by
  refine ⟨fun text => ?_, rfl, rfl⟩
  simp only [Node.matcher, h.matcher]

/-! ## Frames -/

theorem nodes_alike (h : List.Forall₂ Piece.Alike pieces pieces') :
    List.Forall₂ Node.Alike (pieces.map Piece.node) (pieces'.map Piece.node) := by
  rw [List.forall₂_map_left_iff, List.forall₂_map_right_iff]
  exact h.imp fun _ _ hp => hp.node

theorem branch_alike (h : f.Alike g) : f.branch.Alike g.branch := by
  constructor
  · exact sequence_alike (nodes_alike (List.rel_reverse h.pieces))
  · have hw {pieces pieces' : List Piece} (hp : List.Forall₂ Piece.Alike pieces pieces') :
        pieces.foldr (fun piece width => width.add piece.width) Width.zero =
          pieces'.foldr (fun piece width => width.add piece.width) Width.zero := by
      induction hp with
      | nil => rfl
      | cons hp _ ih => rw [List.foldr_cons, List.foldr_cons, ih, hp.width]
    exact hw h.pieces

theorem body_alike (h : f.Alike g) : f.body.Alike g.body := by
  have hbranch := branch_alike h
  have hall := List.Forall₂.cons hbranch h.branches
  constructor
  · rw [body_node, body_node]
    exact choice_alike (nodes_alike (List.rel_reverse hall))
  · have hw {pieces pieces' : List Piece} (hp : List.Forall₂ Piece.Alike pieces pieces')
        (width : Width) : pieces.foldl (fun width piece => width.either piece.width) width =
          pieces'.foldl (fun width piece => width.either piece.width) width := by
      induction hp generalizing width with
      | nil => rfl
      | cons hp _ ih => rw [List.foldl_cons, List.foldl_cons, ih, hp.width]
    rw [body_width, body_width, hw h.branches, hbranch.width]

theorem push_alike (h : f.Alike g) (hp : p.Alike q) : (f.push p).Alike (g.push q) :=
  ⟨h.opener, h.flags, h.branches, .cons hp h.pieces⟩

/-! ## Items -/

theorem Reading.push_alike (h : a.Alike b) (hp : p.Alike q) : (a.push p).Alike (b.push q) :=
  ⟨Regex.push_alike h.top hp, h.below, h.groups, h.global, h.late⟩

theorem openFrame_alike (h : a.Alike b) (opener : Opener) (flags : Flags) :
    (a.openFrame opener flags).Alike (b.openFrame opener flags) :=
  ⟨⟨.refl opener, rfl, .nil, .nil⟩, .cons h.top h.below, h.groups, h.global, h.late⟩

theorem setLate_alike (h : a.Alike b) (why : Malformed) : (a.setLate why).Alike (b.setLate why) :=
  ⟨h.top, h.below, h.groups, h.global, congrArg (· <|> some why) h.late⟩

theorem setGroups_alike (h : a.Alike b) (groups : Groups) :
    ({ a with groups } : Reading).Alike { b with groups } :=
  ⟨h.top, h.below, rfl, h.global, h.late⟩

theorem pushNode_alike (h : a.Alike b) (node : Node) (width : Width) :
    (a.pushNode node width).Alike (b.pushNode node width) :=
  Reading.push_alike h (Piece.alike_refl _)

theorem backref_alike (h : a.Alike b) (ref : GroupRef) :
    SameResult Reading.Alike (a.backref ref) (b.backref ref) := by
  unfold Reading.backref
  rw [h.groups, h.top.flags]
  cases b.groups.find? ref with
  | none => exact .error _
  | some group => exact sameResult_both fun width => .ok (pushNode_alike h _ _)

theorem repeatLatest_alike (h : a.Alike b) (greed : Greed) (least : Nat) (most : Option Nat) :
    SameResult Reading.Alike (a.repeatLatest greed least most) (b.repeatLatest greed least most) := by
  rcases a with ⟨⟨opener, flags, branches, pieces⟩, below, groups, global, late⟩
  rcases b with ⟨⟨opener', flags', branches', pieces'⟩, below', groups', global', late'⟩
  obtain ⟨⟨ho, rfl, hb, hp⟩, hbelow, rfl, rfl, rfl⟩ := h
  unfold Reading.repeatLatest
  cases hp with
  | nil => exact .error _
  | @cons piece piece' earlier earlier' hpiece hearlier =>
    let repeated (piece : Piece) : Piece :=
      ⟨.times greed least most piece.node, piece.width.times least most⟩
    have hrepeated : (repeated piece).Alike (repeated piece') :=
      ⟨times_alike hpiece.node _ _ _, congrArg (·.times least most) hpiece.width⟩
    have hnext : Reading.Alike
        ⟨⟨opener, flags, branches, repeated piece :: earlier⟩, below, groups, global, late⟩
        ⟨⟨opener', flags, branches', repeated piece' :: earlier'⟩, below', groups, global, late⟩ :=
      ⟨⟨ho, rfl, hb, .cons hrepeated hearlier⟩, hbelow, rfl, rfl, rfl⟩
    simp only [hpiece.node.isAnchor, hpiece.node.isTimes]
    split
    · exact .error _
    · split
      · exact .error _
      · split
        · exact .ok (setLate_alike hnext _)
        · exact .ok hnext

theorem openCapture_alike (h : a.Alike b) (name : Option Text) :
    SameResult Reading.Alike (a.openCapture name) (b.openCapture name) := by
  unfold Reading.openCapture
  rw [h.groups, h.top.flags]
  exact sameResult_both fun found => .ok (openFrame_alike (setGroups_alike h _) _ _)

theorem openCondition_alike (h : a.Alike b) (on : GroupRef) :
    SameResult Reading.Alike (a.openCondition on) (b.openCondition on) := by
  unfold Reading.openCondition
  rw [h.groups, h.top.flags]
  exact sameResult_both fun found => sameResult_both fun _ =>
    .ok (openFrame_alike (setGroups_alike h _) _ _)

theorem openBehind_alike (h : a.Alike b) (negated : Bool) :
    (a.openBehind negated).Alike (b.openBehind negated) := by
  unfold Reading.openBehind
  rw [h.groups, h.top.flags]
  exact openFrame_alike (setGroups_alike h _) _ _

theorem isEmpty_alike {α : Type} {R : α → α → Prop} {items items' : List α}
    (h : List.Forall₂ R items items') : items.isEmpty = items'.isEmpty := by
  cases h <;> rfl

theorem setGlobal_alike (h : a.Alike b) (add : Flags) :
    SameResult Reading.Alike (a.setGlobal add) (b.setGlobal add) := by
  simp only [Reading.setGlobal, isEmpty_alike h.below, isEmpty_alike h.top.branches,
    isEmpty_alike h.top.pieces, h.global]
  split
  · exact .ok ⟨⟨h.top.opener, rfl, h.top.branches, h.top.pieces⟩, h.below, h.groups, rfl, h.late⟩
  · exact .error _

theorem bar_alike (h : a.Alike b) : SameResult Reading.Alike a.bar b.bar := by
  have hbranch := branch_alike h.top
  rcases a with ⟨⟨opener, flags, branches, pieces⟩, below, groups, global, late⟩
  rcases b with ⟨⟨opener', flags', branches', pieces'⟩, below', groups', global', late'⟩
  obtain ⟨⟨ho, rfl, hb, hp⟩, hbelow, rfl, rfl, rfl⟩ := h
  cases ho with
  | conditional group hyes => exact .error _
  | refl opener =>
    cases opener with
    | conditional group yes =>
      cases yes with
      | none => exact .ok ⟨⟨.conditional group hbranch, rfl, hb, .nil⟩, hbelow, rfl, rfl, rfl⟩
      | some yes => exact .error _
    | _ => exact .ok ⟨⟨.refl _, rfl, .cons hbranch hb, .nil⟩, hbelow, rfl, rfl, rfl⟩

theorem closing_alike (h : a.Alike b) :
    SameResult (fun x y => x.1.Alike y.1 ∧ x.2.Alike y.2) a.closing b.closing := by
  obtain ⟨hnode, hwidth⟩ := body_alike h.top
  rcases a with ⟨⟨opener, flags, branches, pieces⟩, below, groups, global, late⟩
  rcases b with ⟨⟨opener', flags', branches', pieces'⟩, below', groups', global', late'⟩
  have hrest := h
  obtain ⟨⟨ho, rfl, -, -⟩, -, rfl, rfl, rfl⟩ := h
  simp only [Reading.closing, hwidth]
  cases ho with
  | conditional group hyes =>
    have hmatcher := hyes.node.matcher
    exact .ok ⟨⟨⟨fun text => by simp only [Node.matcher, hmatcher, hnode.matcher], rfl, rfl⟩,
      congrArg (fun width : Width => width.either _) hyes.width⟩, hrest⟩
  | refl opener =>
    cases opener with
    | whole => exact .error _
    | capture group =>
      exact .ok ⟨⟨⟨fun text => by simp only [Node.matcher, hnode.matcher], rfl, rfl⟩, rfl⟩,
        setGroups_alike hrest _⟩
    | bracket =>
      exact .ok ⟨⟨⟨fun text => by simp only [Node.matcher, hnode.matcher], rfl, rfl⟩, rfl⟩, hrest⟩
    | atomic =>
      exact .ok ⟨⟨⟨fun text => by simp only [Node.matcher, hnode.matcher], rfl, rfl⟩, rfl⟩, hrest⟩
    | ahead negated =>
      exact .ok ⟨⟨⟨fun text => by simp only [Node.matcher, hnode.matcher], rfl, rfl⟩, rfl⟩, hrest⟩
    | behind negated outermost =>
      refine .ok ⟨⟨⟨fun text => by simp only [Node.matcher, hnode.matcher], rfl, rfl⟩, rfl⟩, ?_⟩
      dsimp only
      split
      · exact setLate_alike (setGroups_alike hrest _) _
      · split
        · exact setLate_alike (setGroups_alike hrest _) _
        · exact setGroups_alike hrest _
    | conditional group yes =>
      cases yes with
      | none =>
        exact .ok ⟨⟨⟨fun text => by simp only [Node.matcher, hnode.matcher], rfl, rfl⟩, rfl⟩, hrest⟩
      | some yes =>
        exact .ok ⟨⟨⟨fun text => by simp only [Node.matcher, hnode.matcher], rfl, rfl⟩, rfl⟩, hrest⟩

theorem close_alike (h : a.Alike b) : SameResult Reading.Alike a.close b.close := by
  unfold Reading.close
  cases ha : a.below with
  | nil =>
    have hb := h.below
    rw [ha, List.forall₂_nil_left_iff] at hb
    simp only [hb, h.global]
    split <;> exact .error _
  | cons frame below =>
    have hb := h.below
    rw [ha, List.forall₂_cons_left_iff] at hb
    obtain ⟨frame', below', hframe, hbelow, hb⟩ := hb
    simp only [hb]
    refine sameResult_bind (closing_alike h) ?_
    intro x y ⟨hp, hr⟩
    exact .ok ⟨push_alike hframe hp, hbelow, hr.groups, hr.global, hr.late⟩

/-- An item does the same to states that differ only in patterns that match alike. -/
theorem take_alike (h : a.Alike b) (item : Item) :
    SameResult Reading.Alike (a.take item) (b.take item) := by
  have hflags := h.top.flags
  cases item with
  | blank => exact .ok h
  | backref ref => exact backref_alike h ref
  | times greed least most => exact repeatLatest_alike h greed least most
  | bar => exact bar_alike h
  | close => exact close_alike h
  | capture name => exact openCapture_alike h name
  | condition on => exact openCondition_alike h on
  | «global» add => exact setGlobal_alike h add
  | behind negated => exact .ok (openBehind_alike h negated)
  | bracket | flagged | atomic | ahead =>
    simp only [Reading.take, hflags]
    exact .ok (openFrame_alike h _ _)
  | _ =>
    simp only [Reading.take, Reading.pushChar, Reading.pushAnchor, hflags]
    exact .ok (pushNode_alike h _ _)

/-- The same tokens are read alike, or not at all for one reason. -/
theorem readAll_alike (h : a.Alike b) (tokens : List Token) :
    SameResult Reading.Alike (a.readAll tokens) (b.readAll tokens) :=
  readAll_related (fun h => congrArg Flags.verbose h.top.flags) take_alike h tokens

/-- What has been read ends as patterns that match alike, with as many groups. -/
theorem finish_alike (h : a.Alike b) :
    SameResult (fun x y => x.1.Alike y.1 ∧ x.2 = y.2) a.finish b.finish := by
  simp only [Reading.finish, isEmpty_alike h.below, h.global, h.groups, h.late]
  split
  · exact .error _
  · split
    · exact .error _
    · split
      · exact .error _
      · cases b.late with
        | some why => exact .error _
        | none => exact .ok ⟨(body_alike h.top).node, rfl⟩

end NameSlots.Regex
