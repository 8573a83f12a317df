import NameSlots.Proofs.Regex.Quoted

/-!
Whether a pattern compiles, with how many groups, and why it does not, is told by the outline of what has
been read. An outline has no flags for how characters and places match, and of a pattern only its kind.
-/
namespace NameSlots.Regex

/-- The flags that change how a pattern is read. -/
def Flags.outline (flags : Flags) : Flags :=
  { flags with ignoreCase := false, multiline := false, dotAll := false }

/-- All that counts of a pattern for what may follow it: whether it is an anchor or a repeat. -/
def Node.outline : Node → Node
  | .anchor _ => .anchor .textStart
  | .times .. => .times .greedy 0 none .empty
  | _ => .empty

def Piece.outline (piece : Piece) : Piece := { piece with node := piece.node.outline }

def Opener.outline : Opener → Opener
  | .conditional group (some yes) => .conditional group (some yes.outline)
  | opener => opener

def Frame.outline (frame : Frame) : Frame where
  opener := frame.opener.outline
  flags := frame.flags.outline
  branches := frame.branches.map Piece.outline
  pieces := frame.pieces.map Piece.outline

def Reading.outline (reading : Reading) : Reading :=
  { reading with
    top := reading.top.outline
    below := reading.below.map Frame.outline
    global := reading.global.outline }

variable {a b : Reading} {tokens : List Token} {flags flags' : Flags}

/-! ## Parts -/

@[simp] theorem flags_outline_outline (flags : Flags) : flags.outline.outline = flags.outline := rfl

@[simp] theorem node_outline_outline (node : Node) : node.outline.outline = node.outline := by
  cases node <;> rfl

@[simp] theorem piece_outline_outline (piece : Piece) : piece.outline.outline = piece.outline := by
  simp [Piece.outline]

@[simp] theorem piece_outline_comp : Piece.outline ∘ Piece.outline = Piece.outline :=
  funext piece_outline_outline

@[simp] theorem opener_outline_outline (opener : Opener) : opener.outline.outline = opener.outline := by
  cases opener with
  | conditional group yes => cases yes <;> simp [Opener.outline]
  | _ => rfl

@[simp] theorem frame_outline_outline (frame : Frame) : frame.outline.outline = frame.outline := by
  simp [Frame.outline]

@[simp] theorem frame_outline_comp : Frame.outline ∘ Frame.outline = Frame.outline :=
  funext frame_outline_outline

@[simp] theorem union_outline (flags add : Flags) :
    (flags.union add).outline = flags.outline.union add.outline := rfl

@[simp] theorem within_outline (flags add drop : Flags) :
    (flags.within add drop).outline = (flags.outline.within add drop).outline := by
  unfold Flags.within
  split <;> rfl

theorem sequence_outline (nodes : List Node) : (Node.sequence nodes).outline = .empty := by
  cases nodes <;> rfl

theorem branch_width_outline (frame : Frame) : frame.outline.branch.width = frame.branch.width := by
  simp only [Frame.branch, Frame.outline, List.foldr_map]
  rfl

@[simp] theorem branch_outline (frame : Frame) : frame.outline.branch.outline = frame.branch.outline := by
  rw [Piece.outline, Piece.outline, branch_width_outline, branch_node, branch_node, sequence_outline,
    sequence_outline]

@[simp] theorem body_width_outline (frame : Frame) : frame.outline.body.width = frame.body.width := by
  rw [body_width, body_width, branch_width_outline, Frame.outline, List.foldl_map]
  rfl

@[simp] theorem node_outline_isAnchor (node : Node) : node.outline.isAnchor = node.isAnchor := by
  cases node <;> rfl

@[simp] theorem node_outline_isTimes (node : Node) : node.outline.isTimes = node.isTimes := by
  cases node <;> rfl

/-! ## Items -/

@[simp] theorem outline_groups (reading : Reading) : reading.outline.groups = reading.groups := rfl

@[simp] theorem outline_late (reading : Reading) : reading.outline.late = reading.late := rfl

@[simp] theorem outline_ascii (reading : Reading) :
    reading.outline.global.ascii = reading.global.ascii := rfl

@[simp] theorem outline_unicode (reading : Reading) :
    reading.outline.global.unicode = reading.global.unicode := rfl

@[simp] theorem outline_verbose (reading : Reading) :
    reading.outline.top.flags.verbose = reading.top.flags.verbose := rfl

@[simp] theorem outline_outline (reading : Reading) : reading.outline.outline = reading.outline := by
  simp [Reading.outline]

theorem outline_pushNode (reading : Reading) (node : Node) (width : Width) :
    (reading.pushNode node width).outline = reading.outline.pushNode node.outline width := rfl

theorem outline_openFrame (reading : Reading) (opener : Opener) (flags : Flags) :
    (reading.openFrame opener flags).outline =
      reading.outline.openFrame opener.outline flags.outline := rfl

/-- States with the same outline. -/
def SameOutline (a b : Reading) : Prop := a.outline = b.outline

theorem SameOutline.setGroups (h : SameOutline a b) (groups : Groups) :
    SameOutline { a with groups } { b with groups } := by
  have hset : { a.outline with groups } = { b.outline with groups } :=
    congrArg (fun reading : Reading => { reading with groups }) h
  exact hset

theorem SameOutline.setLate (h : SameOutline a b) (why : Malformed) :
    SameOutline (a.setLate why) (b.setLate why) := by
  have hset : a.outline.setLate why = b.outline.setLate why :=
    congrArg (fun reading : Reading => reading.setLate why) h
  exact hset

theorem SameOutline.close (h : SameOutline a b) {piece piece' : Piece}
    (hpiece : piece.outline = piece'.outline) (frame : Frame) (below : List Frame) :
    SameOutline { a with top := frame.outline.push piece, below := below.map Frame.outline }
      { b with top := frame.push piece', below } := by
  have hgroups : a.outline.groups = b.outline.groups := congrArg Reading.groups h
  have hglobal : a.outline.global = b.outline.global := congrArg Reading.global h
  have hlate : a.outline.late = b.outline.late := congrArg Reading.late h
  simp_all [SameOutline, Reading.outline, Frame.push, Frame.outline]

theorem sameOutline_pushNode (reading : Reading) {node node' : Node} (h : node.outline = node'.outline)
    (width : Width) : SameOutline (reading.outline.pushNode node width) (reading.pushNode node' width) := by
  rw [SameOutline, outline_pushNode, outline_pushNode, outline_outline, h]

theorem sameOutline_openFrame (reading : Reading) {opener : Opener} {flags flags' : Flags}
    (h : flags.outline = flags'.outline) :
    SameOutline (reading.outline.openFrame opener flags) (reading.openFrame opener flags') := by
  rw [SameOutline, outline_openFrame, outline_openFrame, outline_outline, h]

theorem backref_outline (reading : Reading) (ref : GroupRef) :
    SameResult SameOutline (reading.outline.backref ref) (reading.backref ref) := by
  unfold Reading.backref
  rw [outline_groups]
  cases reading.groups.find? ref with
  | none => exact .error _
  | some group => exact sameResult_both fun width => .ok (sameOutline_pushNode reading rfl width)

theorem repeatLatest_outline (reading : Reading) (greed : Greed) (least : Nat) (most : Option Nat) :
    SameResult SameOutline (reading.outline.repeatLatest greed least most)
      (reading.repeatLatest greed least most) := by
  obtain ⟨⟨opener, flags, branches, pieces⟩, below, groups, global, late⟩ := reading
  cases pieces with
  | nil => exact .error _
  | cons piece earlier =>
    simp only [Reading.repeatLatest, Reading.outline, Frame.outline, List.map_cons, Piece.outline,
      node_outline_isAnchor, node_outline_isTimes]
    split
    · exact .error _
    · split
      · exact .error _
      · refine .ok ?_
        change SameOutline (if global.template then _ else _) (if global.template then _ else _)
        split <;> simp [SameOutline, Reading.setLate, Reading.outline, Frame.outline, Piece.outline,
          Node.outline]

theorem openCapture_outline (reading : Reading) (name : Option Text) :
    SameResult SameOutline (reading.outline.openCapture name) (reading.openCapture name) := by
  unfold Reading.openCapture
  rw [outline_groups]
  exact sameResult_both fun found => .ok (sameOutline_openFrame { reading with groups := found.2 } rfl)

theorem openCondition_outline (reading : Reading) (on : GroupRef) :
    SameResult SameOutline (reading.outline.openCondition on) (reading.openCondition on) := by
  unfold Reading.openCondition
  rw [outline_groups]
  exact sameResult_both fun found => sameResult_both fun _ =>
    .ok (sameOutline_openFrame { reading with groups := found.2 } rfl)

theorem setGlobal_outline (reading : Reading) (add : Flags) :
    SameResult SameOutline (reading.outline.setGlobal add) (reading.setGlobal add) := by
  simp only [Reading.setGlobal, Reading.outline, Frame.outline, List.isEmpty_map]
  split
  · refine .ok ?_
    simp [SameOutline, Reading.outline, Frame.outline, Flags.outline, Flags.union]
  · exact .error _

theorem bar_outline (reading : Reading) : SameResult SameOutline reading.outline.bar reading.bar := by
  obtain ⟨⟨opener, flags, branches, pieces⟩, below, groups, global, late⟩ := reading
  have hbranch := branch_outline ⟨opener, flags, branches, pieces⟩
  cases opener with
  | conditional group yes =>
    cases yes with
    | some yes => exact .error _
    | none =>
      refine .ok ?_
      simp_all [SameOutline, Reading.outline, Frame.outline, Opener.outline]
  | _ =>
    refine .ok ?_
    simp_all [SameOutline, Reading.outline, Frame.outline, Opener.outline, Flags.outline]

theorem closing_outline (reading : Reading) :
    SameResult (fun x y => x.1.outline = y.1.outline ∧ SameOutline x.2 y.2)
      reading.outline.closing reading.closing := by
  have hwidth : reading.outline.top.body.width = reading.top.body.width := body_width_outline reading.top
  have hopener : reading.outline.top.opener = reading.top.opener.outline := rfl
  simp only [Reading.closing, hwidth, hopener]
  cases reading.top.opener with
  | whole => exact .error _
  | bracket | atomic | ahead => exact .ok ⟨rfl, outline_outline reading⟩
  | capture group =>
    exact .ok ⟨rfl, SameOutline.setGroups (outline_outline reading) _⟩
  | conditional group yes => cases yes <;> exact .ok ⟨rfl, outline_outline reading⟩
  | behind negated outermost =>
    refine .ok ⟨rfl, ?_⟩
    have hrest := SameOutline.setGroups (outline_outline reading)
      (if outermost then { reading.groups with lookbehindStart := none } else reading.groups)
    dsimp only
    split
    · exact hrest.setLate _
    · split
      · exact hrest.setLate _
      · exact hrest

theorem close_outline (reading : Reading) : SameResult SameOutline reading.outline.close reading.close := by
  unfold Reading.close
  cases hb : reading.below with
  | nil =>
    simp only [Reading.outline, hb, List.map_nil]
    change SameResult _ (if reading.global.ascii && reading.global.unicode then _ else _) _
    split <;> exact .error _
  | cons frame below =>
    have hbelow : reading.outline.below = frame.outline :: below.map Frame.outline := by
      simp [Reading.outline, hb]
    rw [hbelow]
    exact sameResult_bind (closing_outline reading) fun _ _ ⟨hpiece, hrest⟩ =>
      .ok (hrest.close hpiece frame below)

theorem take_outline (reading : Reading) (item : Item) :
    SameResult SameOutline (reading.outline.take item) (reading.take item) := by
  cases item with
  | backref ref => exact backref_outline reading ref
  | times greed least most => exact repeatLatest_outline reading greed least most
  | bar => exact bar_outline reading
  | close => exact close_outline reading
  | capture name => exact openCapture_outline reading name
  | condition on => exact openCondition_outline reading on
  | «global» add => exact setGlobal_outline reading add
  | blank => exact .ok (outline_outline reading)
  | char | anchor | lineStart | lineEnd | boundary => exact .ok (sameOutline_pushNode reading rfl _)
  | flagged add drop => exact .ok (sameOutline_openFrame reading (within_outline reading.top.flags add drop).symm)
  | bracket | atomic | ahead => exact .ok (sameOutline_openFrame reading rfl)
  | behind negated =>
    exact .ok (sameOutline_openFrame { reading with groups := { reading.groups with
      lookbehindStart := some (reading.groups.lookbehindStart.getD (reading.groups.count + 1)) } } rfl)

/-! ## All tokens -/

/-- An item does the same to states with the same outline. -/
theorem take_sameOutline (h : SameOutline a b) (item : Item) :
    SameResult SameOutline (a.take item) (b.take item) := by
  have ha := take_outline a item
  rw [show a.outline = b.outline from h] at ha
  exact sameResult_of_common (fun _ _ _ hy hz => hy.symm.trans hz) ha (take_outline b item)

theorem readAll_sameOutline (h : SameOutline a b) (tokens : List Token) :
    SameResult SameOutline (a.readAll tokens) (b.readAll tokens) := by
  refine readAll_related (fun {a b} h => ?_) take_sameOutline h tokens
  rw [← outline_verbose, show a.outline = b.outline from h, outline_verbose]

theorem finish_sameOutline (h : SameOutline a b) :
    SameResult (fun x y => x.2 = y.2) a.finish b.finish := by
  have hbelow : a.below.isEmpty = b.below.isEmpty := by
    have hmap : a.below.map Frame.outline = b.below.map Frame.outline :=
      congrArg (fun reading : Reading => reading.below) h
    simpa using congrArg List.isEmpty hmap
  have hall : a.outline = b.outline := h
  have hgroups : a.groups = b.groups := by rw [← outline_groups, hall, outline_groups]
  have hlate : a.late = b.late := by rw [← outline_late, hall, outline_late]
  have hascii : a.global.ascii = b.global.ascii := by rw [← outline_ascii, hall, outline_ascii]
  have hunicode : a.global.unicode = b.global.unicode := by
    rw [← outline_unicode, hall, outline_unicode]
  simp only [Reading.finish, hbelow, hascii, hunicode, hgroups, hlate]
  split
  · exact .error _
  · split
    · exact .error _
    · split
      · exact .error _
      · cases b.late with
        | some why => exact .error _
        | none => exact .ok rfl

/-- Whether a pattern compiles, with how many groups, and why it does not, is the same under all flags
with the same outline. -/
theorem compile_sameOutline (h : flags.outline = flags'.outline) (source : Text) :
    SameResult (fun pattern pattern' => pattern.groups = pattern'.groups) (compile flags source)
      (compile flags' source) := by
  have hstart : SameOutline (.start flags) (.start flags') := by
    simp only [SameOutline, Reading.outline, Reading.start, Frame.outline, h]
  refine sameResult_bind (readAll_sameOutline hstart _) fun last last' hlast => ?_
  exact sameResult_bind (finish_sameOutline hlast) fun found found' hfound => .ok hfound

end NameSlots.Regex
