import NameSlots.Proofs.Regex.Nested

/-! The groups that a pattern refers to. A number stands for the group that has it in the pattern as
a whole, so that it means another group inside the parentheses of a larger pattern; a name means the
same group in both. -/
namespace NameSlots.Regex

/-- The groups that a node refers to, in the order in which its references are read. -/
def Node.references : Node → List Nat
  | .seq first second => first.references ++ second.references
  | .alt first second => first.references ++ second.references
  | .capture _ body => body.references
  | .bracket body => body.references
  | .atomic body => body.references
  | .backref group _ => [group]
  | .conditional group yes no => group :: (yes.references ++ no.references)
  | .times _ _ _ body => body.references
  | .ahead _ body => body.references
  | .behind _ _ body => body.references
  | _ => []

def Piece.references (piece : Piece) : List Nat := piece.node.references

/-- The references of pieces that have been read, the latest first. -/
def referencesOf (pieces : List Piece) : List Nat := pieces.reverse.flatMap Piece.references

/-- The references in an opening parenthesis and in the alternative before a bar. -/
def Opener.references : Opener → List Nat
  | .conditional group none => [group]
  | .conditional group (some yes) => group :: yes.references
  | _ => []

def Frame.references (frame : Frame) : List Nat :=
  frame.opener.references ++ referencesOf frame.branches ++ referencesOf frame.pieces

/-- The references that have been read so far. -/
def Reading.references (reading : Reading) : List Nat :=
  reading.below.reverse.flatMap Frame.references ++ reading.top.references

/-- The group that a reference stands for, if there is one, where groups have names. -/
def GroupRef.resolve (names : List (Text × Nat)) : GroupRef → Option Nat
  | .number group => some group
  | .name text => names.lookup text

/-- The group that an item mentions. -/
def Item.mentions : Item → List GroupRef
  | .backref ref => [ref]
  | .condition on => [on]
  | _ => []

/-- The name that an item gives to the group that it opens after `count` others. -/
def Item.named (count : Nat) : Item → List (Text × Nat)
  | .capture (some name) => [(name, count + 1)]
  | _ => []

/-- The items that tokens form up to a fault, with fuel for as many. -/
def Reading.itemsWithin : Reading → (fuel : Nat) → List Token → List Item
  | _, _, [] => []
  | _, 0, _ :: _ => []
  | reading, fuel + 1, token :: rest =>
    match Item.read reading.top.flags.verbose token rest with
    | .error _ => []
    | .ok (item, left) =>
      match reading.take item with
      | .error _ => [item]
      | .ok next => item :: next.itemsWithin fuel left

/-- The items that tokens form up to a fault. -/
def Reading.items (reading : Reading) (tokens : List Token) : List Item :=
  reading.itemsWithin tokens.length tokens

/-- The references that tokens make. -/
def Reading.mentions (reading : Reading) (tokens : List Token) : List GroupRef :=
  (reading.items tokens).flatMap Item.mentions

/-- The references in the source of a pattern, by number or by name as they are written. -/
def mentions (source : Text) : List GroupRef :=
  (Reading.start {}).mentions (Token.ofText source)

/-- The groups of a pattern that have names. -/
def groupNames (source : Text) : List (Text × Nat) :=
  match (Reading.start {}).readAll (Token.ofText source) with
  | .ok last => last.groups.names
  | .error _ => []

/-- Groups with names, under the numbers that follow `group`. -/
def shifted (group : Nat) (names : List (Text × Nat)) : List (Text × Nat) :=
  names.map fun entry => (entry.1, entry.2 + group)

example : mentions "(?P<q>a)(b)?(?P=q)\\2(?(1)c|d)".toList =
    [.name ['q'], .number 2, .number 1] := by decide +kernel

variable {reading next last alone joined : Reading} {tokens rest left : List Token} {token : Token}
  {item : Item} {fuel group : Nat} {outer : List Frame} {names names' : List (Text × Nat)}
  {ref : GroupRef}

/-! ## Nodes and frames -/

theorem references_sequence (nodes : List Node) :
    (Node.sequence nodes).references = nodes.flatMap Node.references := by
  induction nodes with
  | nil => rfl
  | cons node nodes ih => simp [Node.sequence, Node.references, ih]

theorem references_choice (nodes : List Node) :
    (Node.choice nodes).references = nodes.flatMap Node.references := by
  induction nodes with
  | nil => rfl
  | cons node nodes ih => cases nodes <;> simp_all [Node.choice, Node.references]

theorem references_branch (frame : Frame) :
    frame.branch.references = referencesOf frame.pieces := by
  simp only [Frame.branch, Piece.references, referencesOf, references_sequence, List.flatMap_map]
  rfl

theorem references_body (frame : Frame) :
    frame.body.references = referencesOf frame.branches ++ referencesOf frame.pieces := by
  unfold Frame.body
  split
  · next hb => simp [references_branch, hb, referencesOf]
  · next branch more hb =>
    have hr := references_branch frame
    simp only [Piece.references, references_choice, List.flatMap_map, referencesOf] at hr ⊢
    simp [hb, hr]
    rfl

theorem references_push (frame : Frame) (piece : Piece) :
    (frame.push piece).references = frame.references ++ piece.references := by
  simp [Frame.references, Frame.push, referencesOf]

theorem references_pushNode (reading : Reading) (node : Node) (width : Width) :
    (reading.pushNode node width).references = reading.references ++ node.references := by
  have htop := references_push reading.top ⟨node, width⟩
  simp [Reading.references, Reading.pushNode, Reading.push, htop, Piece.references]

theorem references_openFrame (reading : Reading) (opener : Opener) (flags : Flags) :
    (reading.openFrame opener flags).references = reading.references ++ opener.references := by
  simp [Reading.references, Reading.openFrame, Frame.references, referencesOf]

/-! ## One item -/

theorem references_backref (h : reading.backref ref = .ok next) :
    ∃ found, ref.resolve reading.groups.names = some found ∧
      next.references = reading.references ++ [found] := by
  unfold Reading.backref at h
  split at h
  · next found hf =>
    obtain ⟨width, -, h⟩ := bind_eq_ok.1 h
    obtain rfl := Except.ok.inj h
    refine ⟨found, ?_, references_pushNode _ _ _⟩
    cases ref with
    | number group =>
      simp only [Groups.find?, Option.ite_none_right_eq_some] at hf
      exact hf.2
    | name text => exact hf
  · simp [malformed] at h

theorem references_condition (h : reading.openCondition ref = .ok next) :
    ∃ found, ref.resolve reading.groups.names = some found ∧
      next.references = reading.references ++ [found] := by
  obtain ⟨⟨found, groups⟩, hg, h⟩ := bind_eq_ok.1 h
  obtain ⟨-, -, h⟩ := bind_eq_ok.1 h
  obtain rfl := Except.ok.inj h
  refine ⟨found, ?_, references_openFrame _ _ _⟩
  cases ref with
  | number group =>
    obtain ⟨rfl, -⟩ := Prod.mk.inj (Except.ok.inj hg)
    rfl
  | name text =>
    simp only [Groups.testing] at hg
    split at hg
    · next group hl =>
      obtain ⟨rfl, -⟩ := Prod.mk.inj (Except.ok.inj hg)
      exact hl
    · simp [malformed] at hg

theorem references_repeatLatest {greed : Greed} {least : Nat} {most : Option Nat}
    (h : reading.repeatLatest greed least most = .ok next) :
    next.references = reading.references := by
  unfold Reading.repeatLatest at h
  split at h
  · simp [malformed] at h
  · next piece earlier hp =>
    split at h
    · simp [malformed] at h
    · split at h
      · simp [malformed] at h
      · obtain rfl := Except.ok.inj h
        have hr : referencesOf (⟨.times greed least most piece.node,
            piece.width.times least most⟩ :: earlier) = referencesOf reading.top.pieces := by
          simp [hp, referencesOf, Piece.references, Node.references]
        split <;> simp [Reading.references, Frame.references, Reading.setLate, hr]

theorem references_alternative (frame : Frame) (flags : Flags) :
    Frame.references { frame with flags, branches := frame.branch :: frame.branches, pieces := [] } =
      frame.references := by
  simp [Frame.references, referencesOf, references_branch]

theorem references_bar (hn : reading.top.Barless) (h : reading.bar = .ok next) :
    next.references = reading.references := by
  have htop {top : Frame} (ht : top.references = reading.top.references) :
      ({ reading with top } : Reading).references = reading.references :=
    congrArg (reading.below.reverse.flatMap Frame.references ++ ·) ht
  simp only [Reading.bar] at h
  split at h
  · obtain rfl := Except.ok.inj h
    exact htop (references_alternative _ _)
  · next group ho =>
    obtain rfl := Except.ok.inj h
    refine htop ?_
    -- A condition has no alternatives but the two between its parentheses.
    simp [Frame.references, Opener.references, ho, hn _ _ ho, references_branch, referencesOf]
  · simp [malformed] at h
  · obtain rfl := Except.ok.inj h
    exact htop (references_alternative _ _)

theorem references_closing {piece : Piece} (h : reading.closing = .ok (piece, next)) :
    piece.references = reading.top.references := by
  have hb := references_body reading.top
  simp only [Piece.references] at hb
  simp only [Reading.closing] at h
  split at h
  · simp [malformed] at h
  all_goals
    next ho =>
    obtain ⟨rfl, -⟩ := Prod.mk.inj (Except.ok.inj h)
    simp [Piece.references, Node.references, Frame.references, Opener.references, ho, hb]

theorem references_close (h : reading.close = .ok next) :
    next.references = reading.references := by
  unfold Reading.close at h
  split at h
  · split at h <;> simp [malformed] at h
  · next frame below hb =>
    obtain ⟨⟨piece, closed⟩, hc, h⟩ := bind_eq_ok.1 h
    obtain rfl := Except.ok.inj h
    have hp := references_closing hc
    simp [Reading.references, hb, references_push, hp]

theorem references_global {add : Flags} (h : reading.setGlobal add = .ok next) :
    next.references = reading.references := by
  simp only [Reading.setGlobal] at h
  split at h
  · obtain rfl := Except.ok.inj h
    rfl
  · simp [malformed] at h

/-- An item adds the group that it mentions, as the names stand before it. -/
theorem take_references (hn : Numbered reading) (h : reading.take item = .ok next) :
    next.references.map some =
      reading.references.map some ++ item.mentions.map (·.resolve reading.groups.names) := by
  have hkeep (hm : item.mentions = []) (hr : next.references = reading.references) :
      next.references.map some =
        reading.references.map some ++ item.mentions.map (·.resolve reading.groups.names) := by
    rw [hm, hr, List.map_nil, List.append_nil]
  have hadd {ref : GroupRef} (hm : item.mentions = [ref])
      (hr : ∃ found, ref.resolve reading.groups.names = some found ∧
        next.references = reading.references ++ [found]) :
      next.references.map some =
        reading.references.map some ++ item.mentions.map (·.resolve reading.groups.names) := by
    obtain ⟨found, hf, hr⟩ := hr
    simp [hm, hr, hf]
  have hpush {node : Node} {width : Width} (hnode : node.references = [])
      (hp : reading.pushNode node width = next) : next.references = reading.references := by
    rw [← hp, references_pushNode, hnode, List.append_nil]
  have hopen {opener : Opener} {flags : Flags} {groups : Groups} (ho : opener.references = [])
      (hp : ({ reading with groups } : Reading).openFrame opener flags = next) :
      next.references = reading.references := by
    rw [← hp, references_openFrame, ho, List.append_nil]
    rfl
  cases item with
  | blank =>
    obtain rfl := Except.ok.inj h
    exact hkeep rfl rfl
  | char test => exact hkeep rfl (hpush rfl (Except.ok.inj h))
  | anchor place => exact hkeep rfl (hpush rfl (Except.ok.inj h))
  | lineStart => exact hkeep rfl (hpush rfl (Except.ok.inj h))
  | lineEnd => exact hkeep rfl (hpush rfl (Except.ok.inj h))
  | boundary negated => exact hkeep rfl (hpush rfl (Except.ok.inj h))
  | backref ref => exact hadd rfl (references_backref h)
  | times greed least most => exact hkeep rfl (references_repeatLatest h)
  | bar => exact hkeep rfl (references_bar (hn.barless _ (List.mem_cons_self ..)) h)
  | close => exact hkeep rfl (references_close h)
  | capture name =>
    obtain ⟨⟨group, groups⟩, -, h⟩ := bind_eq_ok.1 h
    exact hkeep rfl (hopen rfl (Except.ok.inj h))
  | bracket => exact hkeep rfl (hopen rfl (Except.ok.inj h))
  | flagged add drop => exact hkeep rfl (hopen rfl (Except.ok.inj h))
  | atomic => exact hkeep rfl (hopen rfl (Except.ok.inj h))
  | ahead negated => exact hkeep rfl (hopen rfl (Except.ok.inj h))
  | behind negated => exact hkeep rfl (hopen rfl (Except.ok.inj h))
  | condition on => exact hadd rfl (references_condition h)
  | global add => exact hkeep rfl (references_global h)

/-! ## Names -/

theorem names_close (h : reading.close = .ok next) : next.groups.names = reading.groups.names := by
  unfold Reading.close at h
  split at h
  · split at h <;> simp [malformed] at h
  · obtain ⟨⟨piece, closed⟩, hc, h⟩ := bind_eq_ok.1 h
    obtain rfl := Except.ok.inj h
    simp only [Reading.closing] at hc
    split at hc
    · simp [malformed] at hc
    all_goals
      obtain ⟨-, rfl⟩ := Prod.mk.inj (Except.ok.inj hc)
      try rfl
    -- After a lookbehind the groups in it may be referred to; no name changes.
    simp only [Reading.setLate]
    split_ifs <;> rfl

theorem names_capture {name : Option Text} (h : reading.openCapture name = .ok next) :
    next.groups.names = (Item.capture name).named reading.groups.count ++ reading.groups.names ∧
      ∀ text, name = some text → reading.groups.names.lookup text = none := by
  obtain ⟨⟨group, groups⟩, hg, h⟩ := bind_eq_ok.1 h
  obtain rfl := Except.ok.inj h
  cases name with
  | none =>
    obtain ⟨-, rfl⟩ := Prod.mk.inj (Except.ok.inj hg)
    exact ⟨rfl, fun text he => by simp at he⟩
  | some name =>
    simp only [Groups.openCapture] at hg
    split at hg
    · simp [malformed] at hg
    · next hfresh =>
      obtain ⟨-, rfl⟩ := Prod.mk.inj (Except.ok.inj hg)
      refine ⟨rfl, ?_⟩
      intro text he
      obtain rfl := Option.some.inj he
      exact Option.not_isSome_iff_eq_none.1 hfresh

theorem names_condition (h : reading.openCondition ref = .ok next) :
    next.groups.names = reading.groups.names := by
  obtain ⟨⟨found, groups⟩, hg, h⟩ := bind_eq_ok.1 h
  obtain ⟨-, -, h⟩ := bind_eq_ok.1 h
  obtain rfl := Except.ok.inj h
  cases ref with
  | number group =>
    obtain ⟨-, rfl⟩ := Prod.mk.inj (Except.ok.inj hg)
    rfl
  | name text =>
    simp only [Groups.testing] at hg
    split at hg
    · obtain ⟨-, rfl⟩ := Prod.mk.inj (Except.ok.inj hg)
      rfl
    · simp [malformed] at hg

theorem names_global {add : Flags} (h : reading.setGlobal add = .ok next) :
    next.groups.names = reading.groups.names := by
  simp only [Reading.setGlobal] at h
  split at h
  · obtain rfl := Except.ok.inj h
    rfl
  · simp [malformed] at h

/-- Only a group with a name adds a name. -/
theorem take_names (h : reading.take item = .ok next) :
    next.groups.names = item.named reading.groups.count ++ reading.groups.names := by
  by_cases hi : item.isInner = true
  · have hnamed : item.named reading.groups.count = [] := by
      cases item <;> first | rfl | simp [Item.isInner] at hi
    rw [hnamed, (take_keeps hi h).groups, List.nil_append]
  · cases item with
    | bar => rw [(bar_bars h).groups]; rfl
    | close => exact names_close h
    | capture name => exact (names_capture h).1
    | condition on => exact names_condition h
    | global add => exact names_global h
    | bracket | flagged | atomic | ahead | behind =>
      obtain rfl := Except.ok.inj h
      rfl
    | _ => simp [Item.isInner] at hi

/-- What a reference stands for does not change while more is read. -/
theorem resolve_take (h : reading.take item = .ok next)
    (hr : ref.resolve reading.groups.names = some group) :
    ref.resolve next.groups.names = some group := by
  have hnames := take_names h
  cases ref with
  | number number => exact hr
  | name text =>
    change next.groups.names.lookup text = some group
    change reading.groups.names.lookup text = some group at hr
    rw [hnames]
    cases item with
    | capture name =>
      have hfresh := (names_capture h).2
      cases name with
      | none => exact hr
      | some name =>
        have hne : (text == name) = false := by
          apply beq_false_of_ne
          rintro rfl
          simp [hfresh text rfl] at hr
        simp [Item.named, List.lookup_cons, hne, hr]
    | _ => exact hr

theorem resolve_reads (h : Reads reading tokens last)
    (hr : ref.resolve reading.groups.names = some group) :
    ref.resolve last.groups.names = some group := by
  induction h with
  | nil => exact hr
  | cons _ ht _ ih => exact ih (resolve_take ht hr)

/-! ## All items -/

theorem itemsWithin_fuel {fuel' : Nat} (h : tokens.length ≤ fuel) (h' : tokens.length ≤ fuel') :
    reading.itemsWithin fuel tokens = reading.itemsWithin fuel' tokens := by
  induction fuel generalizing reading tokens fuel' with
  | zero =>
    obtain rfl := List.eq_nil_of_length_eq_zero (Nat.le_zero.1 h)
    cases fuel' <;> rfl
  | succ fuel ih =>
    cases tokens with
    | nil => cases fuel' <;> rfl
    | cons token rest =>
      obtain ⟨fuel', rfl⟩ := Nat.exists_eq_succ_of_ne_zero (Nat.ne_zero_of_lt h')
      simp only [Reading.itemsWithin]
      cases hr : Item.read reading.top.flags.verbose token rest with
      | error why => rfl
      | ok found =>
        obtain ⟨item, left⟩ := found
        have hl := leaves_length (read_local hr).2.1
        simp only [List.length_cons] at h h'
        cases ht : reading.take item with
        | error why => simp only [ht]
        | ok next =>
          simp only [ht]
          exact congrArg (item :: ·) (ih (by omega) (by omega))

theorem mentions_cons (hr : Item.read reading.top.flags.verbose token rest = .ok (item, left))
    (ht : reading.take item = .ok next) :
    reading.mentions (token :: rest) = item.mentions ++ next.mentions left := by
  have hl := leaves_length (read_local hr).2.1
  have hitems : reading.items (token :: rest) = item :: next.items left := by
    simp only [Reading.items, List.length_cons, Reading.itemsWithin, hr, ht]
    exact congrArg (item :: ·) (itemsWithin_fuel hl (Nat.le_refl _))
  rw [Reading.mentions, hitems, List.flatMap_cons]
  rfl

/-- Reading refers to the groups that the references stand for, by the names at the end. -/
theorem reads_references (hn : Numbered reading) (h : Reads reading tokens last) :
    last.references.map some = reading.references.map some ++
      (reading.mentions tokens).map (·.resolve last.groups.names) := by
  induction h with
  | nil reading => exact (List.append_nil _).symm
  | @cons reading next last token rest left item hr ht htail ih =>
    have hone := take_references hn ht
    have hsame : item.mentions.map (·.resolve reading.groups.names) =
        item.mentions.map (·.resolve last.groups.names) := by
      apply List.map_congr_left
      intro ref hm
      have hmem : ref.resolve reading.groups.names ∈ next.references.map some := by
        rw [hone]
        exact List.mem_append_right _ (List.mem_map_of_mem hm)
      obtain ⟨found, -, hf⟩ := List.mem_map.1 hmem
      rw [← hf]
      exact (resolve_reads htail (resolve_take ht hf.symm)).symm
    rw [ih (numbered_take ht hn), hone, hsame, mentions_cons hr ht, List.map_append,
      List.append_assoc]

/-! ## Inside the parentheses of a group -/

/-- Inside parentheses the same items are read, so the references are the same as they are
written. -/
theorem mentions_inside (ha : Reads alone tokens last) {joined' : Reading}
    (h : Inside group outer alone joined) (hne : outer ≠ []) (hj : Reads joined tokens joined') :
    joined.mentions tokens = alone.mentions tokens := by
  induction ha generalizing joined with
  | nil => rfl
  | cons hr ht _ ih =>
    cases hj with
    | cons hr' ht' hj =>
      rw [mentions_cons hr ht, mentions_cons hr' ht']
      rw [inside_verbose h, hr] at hr'
      obtain ⟨rfl, rfl⟩ := Prod.mk.inj (Except.ok.inj hr')
      rw [ih (inside_take h hne ht ht') hj]

/-- Inside parentheses a name goes to the group that it goes to in the pattern by itself. -/
theorem names_inside (ha : Reads alone tokens last) {joined' : Reading}
    (h : Inside group outer alone joined) (hne : outer ≠ []) (hj : Reads joined tokens joined')
    (hn : joined.groups.names = shifted group alone.groups.names ++ names) :
    joined'.groups.names = shifted group last.groups.names ++ names := by
  induction ha generalizing joined with
  | nil =>
    cases hj
    exact hn
  | @cons alone next last token rest left item hr ht _ ih =>
    cases hj with
    | @cons _ next' _ _ _ _ item' hr' ht' hj =>
      rw [inside_verbose h, hr] at hr'
      obtain ⟨rfl, rfl⟩ := Prod.mk.inj (Except.ok.inj hr')
      refine ih (inside_take h hne ht ht') hj ?_
      have hnamed : item.named joined.groups.count =
          shifted group (item.named alone.groups.count) := by
        rw [h.count]
        cases item with
        | capture name => cases name <;> simp [Item.named, shifted]; omega
        | _ => rfl
      rw [take_names ht', take_names ht, hnamed, hn]
      simp [shifted]

theorem lookup_shifted (names names' : List (Text × Nat)) {text : Text}
    (h : (names.lookup text).isSome) :
    (shifted group names ++ names').lookup text = (shifted group names).lookup text := by
  induction names with
  | nil => simp at h
  | cons entry names ih =>
    obtain ⟨name, number⟩ := entry
    rw [List.lookup_cons] at h
    cases hb : text == name with
    | true => simp [shifted, List.lookup_cons, hb]
    | false =>
      rw [hb] at h
      simpa [shifted, List.lookup_cons, hb] using ih h

theorem resolve_shifted (names' : List (Text × Nat)) (h : (ref.resolve names).isSome) :
    ref.resolve (shifted group names ++ names') = ref.resolve (shifted group names) := by
  cases ref with
  | number number => rfl
  | name text => exact lookup_shifted names names' h

/-- A pattern by itself refers to the groups that its references stand for. -/
theorem compile_references {source : Text} {pattern : Pattern}
    (h : compile {} source = .ok pattern) :
    pattern.node.references.map some =
      (mentions source).map (·.resolve (groupNames source)) := by
  obtain ⟨last, hr, hf⟩ := compile_eq_ok.1 h
  obtain ⟨hb, hp⟩ := finish_eq_ok hf
  obtain ⟨hnode, -⟩ := Prod.mk.inj hp
  have hnum := numbered_start {}
  have hwhole : last.top.opener = .whole :=
    (numbered_reads hr hnum).rooted last.top (by simp [hb])
  have hnames : groupNames source = last.groups.names := by
    simp only [groupNames, readAll_eq_ok.2 hr]
  have hbody : last.references = pattern.node.references := by
    rw [hnode]
    have hrefs := references_body last.top
    simp only [Piece.references] at hrefs
    simp [Reading.references, Frame.references, hb, hwhole, Opener.references, hrefs]
  rw [← hbody, reads_references hnum hr, hnames]
  rfl

/-- Inside parentheses the references of a pattern stand for its own groups where they are names,
and where they are numbers for the groups that have these. -/
theorem reads_references_inside (ha : Reads (.start {}) tokens last)
    (h : Inside group outer (.start {}) joined) (hne : outer ≠ []) (hn : Numbered joined)
    {joined' : Reading} (hj : Reads joined tokens joined') :
    joined'.references.map some = joined.references.map some ++
      ((Reading.start {}).mentions tokens).map (·.resolve (shifted group last.groups.names)) := by
  have hnames := names_inside ha h hne hj (List.nil_append _).symm
  rw [reads_references hn hj, mentions_inside ha h hne hj, hnames]
  congr 1
  apply List.map_congr_left
  intro ref hm
  have hmem : ref.resolve last.groups.names ∈ last.references.map some := by
    rw [reads_references (numbered_start {}) ha]
    exact List.mem_append_right _ (List.mem_map_of_mem hm)
  obtain ⟨found, -, hf⟩ := List.mem_map.1 hmem
  exact resolve_shifted _ (by simp [← hf])

end NameSlots.Regex
