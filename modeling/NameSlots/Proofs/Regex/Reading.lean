import Mathlib.Data.List.Forall2
import NameSlots.Proofs.Regex.Item
import NameSlots.Proofs.Results
import NameSlots.Regex.Pattern

/-! A pattern that compiles by itself is read in the same items inside parentheses of a larger one,
and its groups get the numbers that follow those before it. -/
namespace NameSlots.Regex

/-- Reading tokens to their end, one item after another. -/
inductive Reads : Reading → List Token → Reading → Prop where
  | nil (reading : Reading) : Reads reading [] reading
  | cons {reading next last : Reading} {token : Token} {rest left : List Token} {item : Item} :
      Item.read reading.top.flags.verbose token rest = .ok (item, left) →
      reading.take item = .ok next → Reads next left last → Reads reading (token :: rest) last

/-- The groups that a node captures, in the order in which their parentheses open. -/
def Node.captures : Node → List Nat
  | .seq first second => first.captures ++ second.captures
  | .alt first second => first.captures ++ second.captures
  | .capture group body => group :: body.captures
  | .bracket body => body.captures
  | .atomic body => body.captures
  | .conditional _ yes no => yes.captures ++ no.captures
  | .times _ _ _ body => body.captures
  | .ahead _ body => body.captures
  | .behind _ _ body => body.captures
  | _ => []

def Piece.captures (piece : Piece) : List Nat := piece.node.captures

/-- The groups of pieces that have been read, the latest first. -/
def capturesOf (pieces : List Piece) : List Nat := pieces.reverse.flatMap Piece.captures

/-- The groups that an opening parenthesis and the alternative before a bar have taken. -/
def Opener.captures : Opener → List Nat
  | .capture group => [group]
  | .conditional _ (some yes) => yes.captures
  | _ => []

def Frame.captures (frame : Frame) : List Nat :=
  frame.opener.captures ++ capturesOf frame.branches ++ capturesOf frame.pieces

/-- An item leaves the open parentheses as they are. -/
structure Keeps (reading next : Reading) : Prop where
  opener : next.top.opener = reading.top.opener
  flags : next.top.flags = reading.top.flags
  branches : next.top.branches = reading.top.branches
  captures : capturesOf next.top.pieces = capturesOf reading.top.pieces
  below : next.below = reading.below
  groups : next.groups = reading.groups
  global : next.global = reading.global

namespace Item

/-- Whether an item opens or closes no parenthesis, changes no flags and is no bar. -/
def isInner : Item → Bool
  | .blank | .char _ | .anchor _ | .lineStart | .lineEnd | .boundary _ | .backref _ => true
  | .times .. => true
  | _ => false

/-- Whether an item is an opening parenthesis. -/
def isOpening : Item → Bool
  | .capture _ | .bracket | .flagged .. | .atomic | .ahead _ | .behind _ | .condition _ => true
  | _ => false

/-- The flags inside the parentheses that an item opens. -/
def flagsInside (outer : Flags) : Item → Flags
  | .flagged add drop => outer.within add drop
  | _ => outer

/-- The groups that an item opens after `count` others. -/
def opens (count : Nat) : Item → List Nat
  | .capture _ => [count + 1]
  | _ => []

end Item

variable {reading next last : Reading} {tokens left rest : List Token}
  {token : Token} {item : Item} {fuel : Nat} {source : Text}

/-! ## Tokens -/

theorem ofText_plain {c : Char} (hc : c ≠ '\\') (text : Text) :
    Token.ofText (c :: text) = .plain c :: Token.ofText text := by
  cases text <;> simp [Token.ofText, hc]

/-- Text after a pattern whose backslashes all have a character after them does not change its
tokens. -/
theorem ofText_append (h : .dangling ∉ Token.ofText source) (text : Text) :
    Token.ofText (source ++ text) = Token.ofText source ++ Token.ofText text := by
  induction source using Token.ofText.induct with
  | case1 => rfl
  | case2 => simp [Token.ofText] at h
  | case3 c rest ih =>
    simp only [Token.ofText, List.mem_cons, not_or] at h
    simp [Token.ofText, ih h.2]
  | case4 c rest h1 h2 ih =>
    have hc : c ≠ '\\' := by
      rintro rfl
      cases rest with
      | nil => exact h1 rfl rfl
      | cons d rest => exact h2 d rest rfl rfl
    rw [ofText_plain hc] at h
    simp only [List.mem_cons, not_or] at h
    rw [List.cons_append, ofText_plain hc, ofText_plain hc, ih h.2, List.cons_append]

/-! ## Steps -/

theorem step_leaves (h : reading.step token rest = .ok (reading', left)) :
    token ≠ .dangling ∧ Leaves rest left := by
  obtain ⟨⟨item, left'⟩, hr, h⟩ := bind_eq_ok.1 h
  obtain ⟨r, -, h⟩ := bind_eq_ok.1 h
  obtain ⟨-, rfl⟩ := Prod.mk.inj (Except.ok.inj h)
  obtain ⟨ht, hl, -⟩ := read_local hr
  exact ⟨ht, hl⟩

theorem run_fuel {fuel' : Nat} (h : tokens.length ≤ fuel) (h' : tokens.length ≤ fuel') :
    reading.run fuel tokens = reading.run fuel' tokens := by
  induction fuel generalizing reading tokens fuel' with
  | zero =>
    obtain rfl := List.eq_nil_of_length_eq_zero (Nat.le_zero.1 h)
    cases fuel' <;> rfl
  | succ fuel ih =>
    cases tokens with
    | nil => cases fuel' <;> rfl
    | cons token rest =>
      obtain ⟨fuel', rfl⟩ := Nat.exists_eq_succ_of_ne_zero (Nat.ne_zero_of_lt h')
      simp only [Reading.run]
      cases hs : reading.step token rest with
      | error why => rfl
      | ok found =>
        have hl := leaves_length (step_leaves hs).2
        simp only [List.length_cons] at h h'
        exact ih (by omega) (by omega)

theorem readAll_nil (reading : Reading) : reading.readAll [] = .ok reading := rfl

theorem readAll_cons (reading : Reading) (token : Token) (rest : List Token) :
    reading.readAll (token :: rest) =
      reading.step token rest >>= fun found => found.1.readAll found.2 := by
  simp only [Reading.readAll, List.length_cons, Reading.run]
  cases hs : reading.step token rest with
  | error why => rfl
  | ok found => exact run_fuel (leaves_length (step_leaves hs).2) (Nat.le_refl _)

theorem step_eq_ok {next : Reading} : reading.step token rest = .ok (next, left) ↔
    ∃ item, Item.read reading.top.flags.verbose token rest = .ok (item, left) ∧
      reading.take item = .ok next := by
  constructor
  · intro h
    obtain ⟨⟨item, left'⟩, hr, h⟩ := bind_eq_ok.1 h
    obtain ⟨next', ht, h⟩ := bind_eq_ok.1 h
    obtain ⟨rfl, rfl⟩ := Prod.mk.inj (Except.ok.inj h)
    exact ⟨item, hr, ht⟩
  · rintro ⟨item, hr, ht⟩
    exact bind_eq_ok.2 ⟨_, hr, bind_eq_ok.2 ⟨_, ht, rfl⟩⟩

theorem readAll_eq_ok : reading.readAll tokens = .ok reading' ↔ Reads reading tokens reading' := by
  constructor
  · intro h
    induction hn : tokens.length using Nat.strongRecOn generalizing reading tokens with
    | _ n ih =>
      subst hn
      cases tokens with
      | nil =>
        obtain rfl := Except.ok.inj h
        exact .nil _
      | cons token rest =>
        rw [readAll_cons] at h
        obtain ⟨⟨next, left⟩, hs, h⟩ := bind_eq_ok.1 h
        obtain ⟨item, hr, ht⟩ := step_eq_ok.1 hs
        have hl := leaves_length (step_leaves hs).2
        exact .cons hr ht (ih left.length (by simp only [List.length_cons]; omega) h rfl)
  · intro h
    induction h with
    | nil => rfl
    | cons hr ht _ ih =>
      rw [readAll_cons]
      exact bind_eq_ok.2 ⟨_, step_eq_ok.2 ⟨_, hr, ht⟩, ih⟩

/-- States that stand in a relation still do after the same tokens, or both stop for one reason, if
they skip the same blanks and every item keeps them in the relation. -/
theorem readAll_related {R : Reading → Reading → Prop} {a b : Reading}
    (hverbose : ∀ {a b}, R a b → a.top.flags.verbose = b.top.flags.verbose)
    (htake : ∀ {a b}, R a b → ∀ item, SameResult R (a.take item) (b.take item)) (h : R a b)
    (tokens : List Token) : SameResult R (a.readAll tokens) (b.readAll tokens) := by
  induction hn : tokens.length using Nat.strongRecOn generalizing a b tokens with
  | _ n ih =>
    subst hn
    cases tokens with
    | nil => exact .ok h
    | cons token rest =>
      rw [readAll_cons, readAll_cons]
      have hstep : SameResult (fun x y => R x.1 y.1 ∧ x.2 = y.2) (a.step token rest)
          (b.step token rest) := by
        unfold Reading.step
        rw [hverbose h]
        exact sameResult_both fun found => sameResult_bind (htake h _) fun _ _ hn => .ok ⟨hn, rfl⟩
      generalize b.step token rest = other at hstep ⊢
      cases hs : a.step token rest with
      | error why =>
        rw [hs] at hstep
        cases hstep
        exact .error why
      | ok found =>
        rw [hs] at hstep
        cases hstep with
        | @ok _ found' hfound =>
          obtain ⟨hnext, hleft⟩ := hfound
          have hl := leaves_length (step_leaves hs).2
          change SameResult _ (found.1.readAll found.2) (found'.1.readAll found'.2)
          rw [← hleft]
          exact ih _ (by simp only [List.length_cons]; omega) hnext _ rfl

/-- Tokens that can be read have no backslash without a character after it. -/
theorem reads_not_dangling (h : Reads reading tokens reading') : .dangling ∉ tokens := by
  induction h with
  | nil => simp
  | cons hr _ _ ih =>
    obtain ⟨ht, ⟨used, hu, rfl⟩, -⟩ := read_local hr
    simp [ht.symm, hu, ih]

/-! ## Items -/

theorem Item.kinds (item : Item) : item.isInner = true ∨ item.isOpening = true ∨ item = .bar ∨
    item = .close ∨ ∃ add, item = .global add := by
  cases item <;> simp [Item.isInner, Item.isOpening]

theorem keeps_push (node : Node) (width : Width) (hc : node.captures = []) :
    Keeps reading (reading.pushNode node width) :=
  ⟨rfl, rfl, rfl, by simp [Reading.pushNode, Reading.push, Frame.push, capturesOf, Piece.captures,
    hc], rfl, rfl, rfl⟩

theorem keeps_backref {ref : GroupRef} (h : reading.backref ref = .ok next) :
    Keeps reading next := by
  unfold Reading.backref at h
  split at h
  · obtain ⟨width, -, h⟩ := bind_eq_ok.1 h
    obtain rfl := Except.ok.inj h
    exact keeps_push _ _ rfl
  · simp [malformed] at h

theorem keeps_repeatLatest {greed : Greed} {least : Nat} {most : Option Nat}
    (h : reading.repeatLatest greed least most = .ok next) : Keeps reading next := by
  unfold Reading.repeatLatest at h
  split at h
  · simp [malformed] at h
  · next piece earlier hp =>
    split at h
    · simp [malformed] at h
    · split at h
      · simp [malformed] at h
      · obtain rfl := Except.ok.inj h
        have hc : capturesOf (⟨.times greed least most piece.node, piece.width.times least most⟩ ::
            earlier) = capturesOf reading.top.pieces := by
          simp [hp, capturesOf, Piece.captures, Node.captures]
        split
        · exact ⟨rfl, rfl, rfl, hc, rfl, rfl, rfl⟩
        · exact ⟨rfl, rfl, rfl, hc, rfl, rfl, rfl⟩

theorem take_keeps (hi : item.isInner = true) (h : reading.take item = .ok next) :
    Keeps reading next := by
  cases item with
  | blank =>
    obtain rfl := Except.ok.inj h
    exact ⟨rfl, rfl, rfl, rfl, rfl, rfl, rfl⟩
  | char test =>
    obtain rfl := Except.ok.inj h
    exact keeps_push _ _ rfl
  | anchor place =>
    obtain rfl := Except.ok.inj h
    exact keeps_push _ _ rfl
  | lineStart =>
    obtain rfl := Except.ok.inj h
    exact keeps_push _ _ rfl
  | lineEnd =>
    obtain rfl := Except.ok.inj h
    exact keeps_push _ _ rfl
  | boundary negated =>
    obtain rfl := Except.ok.inj h
    exact keeps_push _ _ rfl
  | backref ref => exact keeps_backref h
  | times greed least most => exact keeps_repeatLatest h
  | _ => simp [Item.isInner] at hi

/-- An opening parenthesis starts an empty frame above those that are open. -/
theorem take_opens (ho : item.isOpening = true) (h : reading.take item = .ok next) :
    ∃ opener groups, opener ≠ .whole ∧ opener.captures = item.opens reading.groups.count ∧
      groups.count = reading.groups.count + (item.opens reading.groups.count).length ∧
      next = ({ reading with groups } : Reading).openFrame opener
        (item.flagsInside reading.top.flags) := by
  cases item with
  | capture name =>
    obtain ⟨⟨group, groups⟩, hg, h⟩ := bind_eq_ok.1 h
    obtain rfl := Except.ok.inj h
    refine ⟨.capture group, groups, by simp, ?_⟩
    unfold Groups.openCapture at hg
    split at hg
    · obtain ⟨rfl, rfl⟩ := Prod.mk.inj (Except.ok.inj hg)
      exact ⟨rfl, rfl, rfl⟩
    · split at hg
      · simp [malformed] at hg
      · obtain ⟨rfl, rfl⟩ := Prod.mk.inj (Except.ok.inj hg)
        exact ⟨rfl, rfl, rfl⟩
  | bracket =>
    obtain rfl := Except.ok.inj h
    exact ⟨.bracket, reading.groups, by simp, rfl, rfl, rfl⟩
  | flagged add drop =>
    obtain rfl := Except.ok.inj h
    exact ⟨.bracket, reading.groups, by simp, rfl, rfl, rfl⟩
  | atomic =>
    obtain rfl := Except.ok.inj h
    exact ⟨.atomic, reading.groups, by simp, rfl, rfl, rfl⟩
  | ahead negated =>
    obtain rfl := Except.ok.inj h
    exact ⟨.ahead negated, reading.groups, by simp, rfl, rfl, rfl⟩
  | behind negated =>
    obtain rfl := Except.ok.inj h
    exact ⟨.behind negated _, { reading.groups with lookbehindStart := _ }, by simp, rfl, rfl, rfl⟩
  | condition on =>
    obtain ⟨⟨group, groups⟩, hg, h⟩ := bind_eq_ok.1 h
    obtain ⟨-, -, h⟩ := bind_eq_ok.1 h
    obtain rfl := Except.ok.inj h
    refine ⟨.conditional group none, groups, by simp, rfl, ?_, rfl⟩
    unfold Groups.testing at hg
    split at hg
    · obtain ⟨-, rfl⟩ := Prod.mk.inj (Except.ok.inj hg)
      rfl
    · split at hg
      · obtain ⟨-, rfl⟩ := Prod.mk.inj (Except.ok.inj hg)
        rfl
      · simp [malformed] at hg
  | _ => simp [Item.isOpening] at ho

theorem captures_sequence (nodes : List Node) :
    (Node.sequence nodes).captures = nodes.flatMap Node.captures := by
  induction nodes with
  | nil => rfl
  | cons node nodes ih => simp [Node.sequence, Node.captures, ih]

theorem captures_choice (nodes : List Node) :
    (Node.choice nodes).captures = nodes.flatMap Node.captures := by
  induction nodes with
  | nil => rfl
  | cons node nodes ih => cases nodes <;> simp_all [Node.choice, Node.captures]

theorem captures_branch (frame : Frame) : frame.branch.captures = capturesOf frame.pieces := by
  simp only [Frame.branch, Piece.captures, capturesOf, captures_sequence, List.flatMap_map]
  rfl

theorem captures_body (frame : Frame) :
    frame.body.captures = capturesOf frame.branches ++ capturesOf frame.pieces := by
  unfold Frame.body
  split
  · next hb => simp [captures_branch, hb, capturesOf]
  · next branch more hb =>
    have hc := captures_branch frame
    simp only [Piece.captures, captures_choice, List.flatMap_map, capturesOf] at hc ⊢
    simp [hb, hc]
    rfl

/-- A condition has read no bar but its own. -/
def Frame.Barless (frame : Frame) : Prop :=
  ∀ group yes, frame.opener = .conditional group yes → frame.branches = []

/-- A bar starts the next alternative of the frame, or the second pattern of a condition. -/
structure Bars (reading next : Reading) : Prop where
  opener : next.top.opener = reading.top.opener ∨ ∃ group yes,
    reading.top.opener = .conditional group none ∧ next.top.opener = .conditional group (some yes)
  whole : reading.top.opener = .whole →
    next.top.flags = { reading.top.flags with verbose := reading.global.verbose }
  flags : reading.top.opener ≠ .whole → next.top.flags = reading.top.flags
  barless : reading.top.Barless → next.top.Barless
  captures : reading.top.Barless → next.top.captures = reading.top.captures
  below : next.below = reading.below
  groups : next.groups = reading.groups
  global : next.global = reading.global

theorem captures_bar (frame : Frame) (flags : Flags) :
    Frame.captures { frame with flags, branches := frame.branch :: frame.branches, pieces := [] } =
      frame.captures := by
  simp [Frame.captures, capturesOf, captures_branch]

theorem bar_bars (h : reading.bar = .ok next) : Bars reading next := by
  simp only [Reading.bar] at h
  split at h
  · next ho =>
    obtain rfl := Except.ok.inj h
    exact ⟨Or.inl rfl, fun _ => rfl, fun hw => (hw ho).elim, fun _ g y hc => by simp [ho] at hc,
      fun _ => captures_bar _ _, rfl, rfl, rfl⟩
  · next group ho =>
    obtain rfl := Except.ok.inj h
    refine ⟨Or.inr ⟨group, _, ho, rfl⟩, fun hw => by simp [ho] at hw, fun _ => rfl,
      fun hb _ _ _ => hb _ _ ho, fun hb => ?_, rfl, rfl, rfl⟩
    simp [Frame.captures, Opener.captures, ho, hb _ _ ho, captures_branch, capturesOf]
  · simp [malformed] at h
  · next hw hc hc' =>
    obtain rfl := Except.ok.inj h
    refine ⟨Or.inl rfl, fun he => (hw he).elim, fun _ => rfl, fun _ g y he => ?_,
      fun _ => captures_bar _ _, rfl, rfl, rfl⟩
    cases y with
    | none => exact (hc g he).elim
    | some y => exact (hc' g y he).elim

/-- A closing parenthesis makes a piece of the frame above and gives it to the frame below. -/
structure Closes (reading next : Reading) (frame : Frame) (piece : Piece) : Prop where
  below : reading.below = frame :: next.below
  top : next.top = frame.push piece
  captures : piece.captures = reading.top.captures
  count : next.groups.count = reading.groups.count
  global : next.global = reading.global

theorem closing_spec {piece : Piece} (h : reading.closing = .ok (piece, next)) :
    piece.captures = reading.top.captures ∧ next.groups.count = reading.groups.count ∧
      next.global = reading.global := by
  have hb := captures_body reading.top
  simp only [Piece.captures] at hb
  simp only [Reading.closing] at h
  split at h
  · simp [malformed] at h
  all_goals
    next ho =>
    obtain ⟨rfl, rfl⟩ := Prod.mk.inj (Except.ok.inj h)
    refine ⟨by simp [Piece.captures, Node.captures, Frame.captures, Opener.captures, ho, hb], ?_⟩
    repeat' split
    all_goals exact ⟨rfl, rfl⟩

theorem close_closes (h : reading.close = .ok next) :
    ∃ frame piece, Closes reading next frame piece := by
  unfold Reading.close at h
  split at h
  · split at h
    · simp at h
    · simp [malformed] at h
  · next frame below hb =>
    obtain ⟨⟨piece, closed⟩, hc, h⟩ := bind_eq_ok.1 h
    obtain rfl := Except.ok.inj h
    obtain ⟨hp, hn, hg⟩ := closing_spec hc
    exact ⟨frame, piece, hb, rfl, hp, hn, hg⟩

end NameSlots.Regex
