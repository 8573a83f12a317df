import NameSlots.Proofs.Results
import NameSlots.Yaml.Node

/-! What may be wrong with the nodes of a document: its form, or what is wrong with its tokens. -/
namespace NameSlots.Yaml

/-- The form of a document is wrong. -/
def Fault.IsMalformed (fault : Fault) : Prop := ∃ what, fault = .malformed what

namespace Reader

/-- A step fails for the form of the document, or for the fault after the tokens, which it leaves there. -/
def PassesOn {α : Type} (step : Reader α) : Prop :=
  ∀ reading, Yields (fun fault => fault.IsMalformed ∨ reading.fault = some fault)
    (fun found => found.2.fault = reading.fault) (step reading)

section

variable {α β : Type} {step other : Reader α} {next : α → Reader β}

theorem passesOn_pure (x : α) : PassesOn (pure x) := fun _ => rfl

theorem passesOn_fail (what : Malformed) : PassesOn (fail what : Reader α) := fun _ => .inl ⟨what, rfl⟩

theorem PassesOn.bind (h : PassesOn step) (hn : ∀ x, PassesOn (next x)) : PassesOn (step >>= next) := by
  intro reading
  refine (h reading).bind fun found hfound => ?_
  rw [← hfound]
  exact hn found.1 found.2

theorem passesOn_ite {c : Prop} [Decidable c] (h : PassesOn step) (h' : PassesOn other) :
    PassesOn (if c then step else other) := by
  split
  · exact h
  · exact h'

theorem passesOn_get : PassesOn get := fun _ => rfl

theorem passesOn_modify {f : Reading → Reading} (h : ∀ reading, (f reading).fault = reading.fault) :
    PassesOn (modify f) := h

end

theorem passesOn_peek : PassesOn peek := by
  rintro ⟨tokens, fault⟩
  cases tokens with
  | cons token rest => exact rfl
  | nil => cases fault with
    | none => exact .inl ⟨_, rfl⟩
    | some fault => exact .inr rfl

theorem passesOn_skip : PassesOn skip := passesOn_modify fun _ => rfl

theorem passesOn_skipIf (token : Token) : PassesOn (skipIf token) :=
  passesOn_peek.bind fun _ => passesOn_ite (passesOn_skip.bind fun _ => passesOn_pure _) (passesOn_pure _)

theorem passesOn_anchor? : PassesOn anchor? := by
  refine passesOn_peek.bind fun token => ?_
  split
  · exact passesOn_skip.bind fun _ => passesOn_pure _
  · exact passesOn_pure _

theorem passesOn_tag? : PassesOn tag? := by
  refine passesOn_peek.bind fun token => ?_
  split
  · exact passesOn_skip.bind fun _ => passesOn_pure _
  · exact passesOn_pure _

theorem passesOn_tagName (written : WrittenTag) : PassesOn (tagName written) := by
  unfold tagName
  split
  · exact passesOn_pure _
  · refine passesOn_get.bind fun reading => ?_
    split
    · exact passesOn_pure _
    · exact passesOn_fail _

theorem passesOn_properties : PassesOn properties := by
  have hname (written : Option WrittenTag) : PassesOn (written.mapM tagName) := by
    cases written with
    | none => exact passesOn_pure _
    | some written => exact (passesOn_tagName written).bind fun _ => passesOn_pure _
  exact passesOn_anchor?.bind fun _ => passesOn_tag?.bind fun written => passesOn_ite
    (passesOn_anchor?.bind fun _ => (hname written).bind fun _ => passesOn_pure _)
    ((passesOn_pure _).bind fun _ => (hname written).bind fun _ => passesOn_pure _)

theorem passesOn_begin (props : Properties) : PassesOn (begin props) := by
  unfold begin
  split
  · exact passesOn_pure _
  · exact passesOn_get.bind fun _ => passesOn_ite
      ((passesOn_fail _).bind fun _ => passesOn_modify fun _ => rfl) (passesOn_modify fun _ => rfl)

theorem passesOn_finish (props : Properties) (node : Node) : PassesOn (finish props node) := by
  unfold finish
  split
  · exact passesOn_pure _
  · refine PassesOn.bind ?_ fun _ => passesOn_pure _
    exact passesOn_modify fun _ => rfl

theorem passesOn_newNumber : PassesOn newNumber := fun _ => rfl

theorem passesOn_scalar (props : Properties) (text : Text) (plain : Bool) :
    PassesOn (scalar props text plain) :=
  (passesOn_begin props).bind fun _ => passesOn_finish props _

theorem passesOn_sequence (props : Properties) {items : Reader (List Node)} (h : PassesOn items) :
    PassesOn (sequence props items) :=
  (passesOn_begin props).bind fun _ => passesOn_newNumber.bind fun _ => h.bind fun _ =>
    passesOn_finish props _

theorem passesOn_mapping (props : Properties) {pairs : Reader (List (Node × Node))}
    (h : PassesOn pairs) : PassesOn (mapping props pairs) :=
  (passesOn_begin props).bind fun _ => passesOn_newNumber.bind fun _ => h.bind fun _ =>
    passesOn_finish props _

theorem passesOn_unlessAt (stops : List Token) {node : Reader Node} (h : PassesOn node) :
    PassesOn (unlessAt stops node) :=
  passesOn_peek.bind fun _ => passesOn_ite (passesOn_pure _) h

theorem passesOn_after (token : Token) (stops : List Token) {node : Reader Node} (h : PassesOn node) :
    PassesOn (after token stops node) :=
  (passesOn_skipIf token).bind fun _ => passesOn_ite (passesOn_unlessAt stops h) (passesOn_pure _)

/-- What stands between brackets, up to the closing one. -/
theorem passesOn_flow {α : Type} (close : Token) {first : Bool} {step : Reader (List α)}
    (h : PassesOn step) : PassesOn (do
      if ← skipIf close then pure []
      else
        if !first && !(← skipIf .flowEntry) then fail .nesting
        if ← skipIf close then pure []
        else step) := by
  have hstep : PassesOn (do if ← skipIf close then pure [] else step) :=
    (passesOn_skipIf close).bind fun _ => passesOn_ite (passesOn_pure _) h
  exact (passesOn_skipIf close).bind fun _ => passesOn_ite (passesOn_pure _) <|
    (passesOn_skipIf .flowEntry).bind fun _ =>
      passesOn_ite ((passesOn_fail _).bind fun _ => hstep) hstep

/-- The steps of reading nodes with some fuel. -/
structure NodesPassOn (fuel : Nat) : Prop where
  node : ∀ place, PassesOn (node place fuel)
  blockItems : PassesOn (blockItems fuel)
  looseItems : PassesOn (looseItems fuel)
  blockPairs : PassesOn (blockPairs fuel)
  flowItems : ∀ first, PassesOn (flowItems first fuel)
  flowPairs : ∀ first, PassesOn (flowPairs first fuel)

theorem nodesPassOn (fuel : Nat) : NodesPassOn fuel := by
  induction fuel with
  | zero =>
    exact ⟨fun _ => passesOn_fail _, passesOn_fail _, passesOn_fail _, passesOn_fail _,
      fun _ => passesOn_fail _, fun _ => passesOn_fail _⟩
  | succ fuel ih =>
    refine ⟨fun place => ?_, ?_, ?_, ?_, fun first => ?_, fun first => ?_⟩
    · refine passesOn_peek.bind fun token => ?_
      split
      · exact passesOn_skip.bind fun _ => passesOn_get.bind fun _ =>
          passesOn_ite (passesOn_pure _) (passesOn_fail _)
      · refine passesOn_properties.bind fun props => passesOn_peek.bind fun token => ?_
        split
        · exact passesOn_skip.bind fun _ => passesOn_scalar props _ _
        · exact passesOn_skip.bind fun _ => passesOn_sequence props (ih.flowItems true)
        · exact passesOn_skip.bind fun _ => passesOn_mapping props (ih.flowPairs true)
        · exact passesOn_ite (passesOn_sequence props ih.looseItems) <|
            passesOn_ite (passesOn_skip.bind fun _ => passesOn_sequence props ih.blockItems) <|
            passesOn_ite (passesOn_skip.bind fun _ => passesOn_mapping props ih.blockPairs) <|
            passesOn_ite (passesOn_scalar props _ _) (passesOn_fail _)
    · refine (passesOn_skipIf .blockEntry).bind fun _ => passesOn_ite ?_ ?_
      · exact (passesOn_unlessAt _ (ih.node .block)).bind fun _ => ih.blockItems.bind fun _ =>
          passesOn_pure _
      · exact (passesOn_skipIf .blockEnd).bind fun _ => passesOn_ite (passesOn_pure _) (passesOn_fail _)
    · refine (passesOn_skipIf .blockEntry).bind fun _ => passesOn_ite ?_ (passesOn_pure _)
      exact (passesOn_unlessAt _ (ih.node .block)).bind fun _ => ih.looseItems.bind fun _ =>
        passesOn_pure _
    · refine (passesOn_skipIf .key).bind fun _ => passesOn_ite ?_ ?_
      · exact (passesOn_unlessAt _ (ih.node .pairPart)).bind fun _ =>
          (passesOn_after .value _ (ih.node .pairPart)).bind fun _ => ih.blockPairs.bind fun _ =>
            passesOn_pure _
      · exact (passesOn_skipIf .blockEnd).bind fun _ => passesOn_ite (passesOn_pure _) (passesOn_fail _)
    · refine passesOn_flow .flowSequenceEnd ?_
      refine (passesOn_skipIf .key).bind fun _ => passesOn_ite ?_ ?_
      · exact passesOn_newNumber.bind fun _ => (passesOn_unlessAt _ (ih.node .flow)).bind fun _ =>
          (passesOn_after .value _ (ih.node .flow)).bind fun _ => (ih.flowItems false).bind fun _ =>
            passesOn_pure _
      · exact (ih.node .flow).bind fun _ => (ih.flowItems false).bind fun _ => passesOn_pure _
    · refine passesOn_flow .flowMappingEnd ?_
      refine (passesOn_skipIf .key).bind fun _ => passesOn_ite ?_ ?_
      · exact (passesOn_unlessAt _ (ih.node .flow)).bind fun _ =>
          (passesOn_after .value _ (ih.node .flow)).bind fun _ => (ih.flowPairs false).bind fun _ =>
            passesOn_pure _
      · exact (ih.node .flow).bind fun _ => (ih.flowPairs false).bind fun _ => passesOn_pure _

/-! ## Documents -/

theorem passesOn_directives (versioned : Bool) (handles : List (Text × Text)) (fuel : Nat) :
    PassesOn (directives versioned handles fuel) := by
  induction fuel generalizing versioned handles with
  | zero => exact passesOn_fail _
  | succ fuel ih =>
    refine passesOn_peek.bind fun token => ?_
    split
    · refine passesOn_skip.bind fun _ => ?_
      split
      · exact passesOn_ite ((passesOn_fail _).bind fun _ => ih _ _) (ih _ _)
      · exact passesOn_ite ((passesOn_fail _).bind fun _ => ih _ _) (ih _ _)
      · exact ih _ _
    · exact passesOn_pure _

theorem passesOn_start (fuel : Nat) : PassesOn (start fuel) :=
  (passesOn_directives false [] fuel).bind fun _ => (passesOn_skipIf .documentStart).bind fun _ =>
    passesOn_ite ((passesOn_fail _).bind fun _ => passesOn_modify fun _ => rfl)
      (passesOn_modify fun _ => rfl)

theorem passesOn_skipEnds (fuel : Nat) : PassesOn (skipEnds fuel) := by
  induction fuel with
  | zero => exact passesOn_pure _
  | succ fuel ih =>
    exact (passesOn_skipIf .documentEnd).bind fun _ => passesOn_ite ih (passesOn_pure _)

theorem passesOn_finishStream (fuel : Nat) : PassesOn (finishStream fuel) :=
  (passesOn_skipEnds fuel).bind fun _ => (passesOn_skipIf .streamEnd).bind fun _ =>
    passesOn_ite ((passesOn_start fuel).bind fun _ => passesOn_fail _) (passesOn_pure _)

theorem passesOn_root (fuel : Nat) : PassesOn (root fuel) := by
  have hnode : PassesOn (node .block fuel) := (nodesPassOn fuel).node .block
  refine passesOn_peek.bind fun token => ?_
  split
  case h_3 =>
    refine PassesOn.bind ?_ fun _ => hnode
    exact passesOn_modify fun _ => rfl
  all_goals
    refine (passesOn_start fuel).bind fun _ => passesOn_peek.bind fun token => ?_
    split
    case h_5 => exact hnode
    all_goals exact passesOn_pure _

theorem passesOn_document? (fuel : Nat) : PassesOn (document? fuel) :=
  (passesOn_skipIf .streamEnd).bind fun _ => passesOn_ite (passesOn_pure _) <|
    (passesOn_root fuel).bind fun _ => passesOn_get.bind fun _ =>
      (passesOn_finishStream fuel).bind fun _ => passesOn_pure _

end Reader

/-- A text has no document for its form, or for what is wrong with its tokens. -/
theorem Document.read?_eq_error {text : Text} {fault : Fault} (h : Document.read? text = .error fault) :
    fault.IsMalformed ∨ (tokens text).2 = some fault := by
  have hrun : ((Reader.document? (4 * (tokens text).1.length + 8))
      { tokens := (tokens text).1, fault := (tokens text).2 }) = .error fault := by
    unfold Document.read? at h
    exact (map_eq_error (f := Prod.fst)).1 h
  exact (Reader.passesOn_document? _ _).failsOnly fault hrun

end NameSlots.Yaml
