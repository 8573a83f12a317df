import NameSlots.Yaml.Node
import NameSlots.Yaml.Value

/-!
The values that nodes stand for. Scalars in a collection are read before the collections in it, so
of two faults the one that is less deep counts, and of equally deep ones the first.
-/

namespace NameSlots.Yaml

namespace Document

/-- What a node is, if it is a name. -/
def resolve (doc : Document) : Node → Node
  | .alias name => (doc.anchors.lookup name).getD Reader.emptyNode
  | node => node

end Document

/-- The tag of a node that is no name. -/
def Node.tag : Node → Tag
  | .scalar tag _ => tag
  | .sequence _ tag _ => tag
  | .mapping _ tag _ => tag
  | .alias _ => .unknown

namespace Document

variable (doc : Document)

/-! ## Pairs -/

/-- A key that stands for a table is a text in a table. -/
def plainKey (key : Node) : Node :=
  match doc.resolve key with
  | .scalar .default t => .scalar .text t
  | _ => key

/-- The pairs of a mapping after those of the mappings that are merged into it. A mapping that is
being merged already adds its own pairs only. -/
def flatPairs : (fuel : Nat) → (merging : List Nat) → (number : Nat) → List (Node × Node) →
    Except Fault (List (Node × Node))
  | 0, _, _, _ => malformed .merge
  | fuel + 1, merging, number, pairs => do
    let (merges, own) := pairs.partition fun (key, _) => (doc.resolve key).tag == .merge
    let own := own.map fun (key, value) => (doc.plainKey key, value)
    if number ∈ merging then pure own
    else
      let ofMapping (node : Node) : Except Fault (List (Node × Node)) :=
        match doc.resolve node with
        | .mapping inner _ innerPairs => flatPairs fuel (number :: merging) inner innerPairs
        | _ => malformed .merge
      let merged ← merges.mapM fun (_, value) =>
        match doc.resolve value with
        | .sequence _ _ items => do
          let all ← items.mapM ofMapping
          pure all.reverse.flatten
        | node => ofMapping node
      pure (merged.flatten ++ own)

/-! ## Scalars -/

/-- The text of a node for which a scalar is asked: of a mapping that of its default. -/
def scalarText : (fuel : Nat) → Node → Except Fault Text
  | 0, _ => malformed .unsuitedTag
  | fuel + 1, node =>
    match doc.resolve node with
    | .scalar _ t => .ok t
    | .mapping _ _ pairs =>
      match pairs.find? fun (key, _) => (doc.resolve key).tag == .default with
      | some (_, value) => scalarText fuel value
      | none => malformed .unsuitedTag
    | _ => malformed .unsuitedTag

/-- Whether a node is a mapping. -/
def isMapping (node : Node) : Bool :=
  match doc.resolve node with
  | .mapping _ _ _ => true
  | _ => false

/-- The value of a node that needs no values of nodes in it. -/
def scalarValue? (node : Node) : Except Fault (Option Value) := do
  match Value.ofScalar? (doc.resolve node).tag [] with
  | none => pure none
  | some (.error (.malformed .unknownTag)) => malformed .unknownTag
  | some _ =>
    let text ← doc.scalarText (doc.collections + 1) node
    let tag := (doc.resolve node).tag
    if tag == .time && doc.isMapping node then throw .timeOfTable
    match Value.ofScalar? tag text with
    | some result => some <$> result
    | none => pure none

/-! ## Collections -/

/-- A fault with the number of collections around it. -/
structure DeepFault where
  depth : Nat
  fault : Fault

/-- The values, or the fault that is the least deep. -/
def gather {α : Type} (results : List (Except DeepFault α)) : Except DeepFault (List α) :=
  let worst := results.foldl (fun (worst : Option DeepFault) result =>
    match worst, result with
    | some first, .error other => if other.depth < first.depth then some other else some first
    | none, .error fault => some fault
    | worst, .ok _ => worst) none
  match worst with
  | some fault => .error fault
  | none => .ok (results.filterMap Except.toOption)

/-- A node whose value is known, or a collection to be read. -/
inductive Part where
  | done (value : Value)
  | later (node : Node)

/-- A node in a collection; `around` has the numbers of the collections that it is in. -/
def part (around : List Nat) (node : Node) : Except Fault Part := do
  match ← doc.scalarValue? node with
  | some value => pure (.done value)
  | none =>
    match doc.resolve node with
    | .sequence number _ _ | .mapping number _ _ =>
      pure (if number ∈ around then .done (.loop number) else .later node)
    | other => pure (.later other)

/-- The parts of an entry of a table, whose key must not be a collection. -/
def entryParts (around : List Nat) (entry : Node × Node) : Except Fault (Value × Part) := do
  match ← doc.part around entry.1 with
  | .done key =>
    if key.isKey then pure (key, ← doc.part around entry.2) else malformed .unhashableKey
  | .later _ => malformed .unhashableKey

/-- The only pair of a mapping. -/
def onlyPair (node : Node) : Except Fault (Node × Node) :=
  match doc.resolve node with
  | .mapping _ _ [pair] => .ok pair
  | _ => malformed .unsuitedTag

/-- The entries of a table. -/
def tableParts (around : List Nat) (node : Node) : Except Fault (List (Value × Part)) := do
  match doc.resolve node with
  | .mapping number _ pairs =>
    let pairs ← doc.flatPairs (doc.collections + 1) [] number pairs
    pairs.mapM (doc.entryParts around)
  | _ => malformed .unsuitedTag

/-- The items of a list. -/
def listParts (around : List Nat) (node : Node) : Except Fault (List Part) := do
  match doc.resolve node with
  | .sequence _ _ items => items.mapM (doc.part around)
  | _ => malformed .unsuitedTag

/-- The pairs of a list of mappings with one pair each. -/
def pairParts (around : List Nat) (node : Node) : Except Fault (List (Part × Part)) := do
  match doc.resolve node with
  | .sequence _ _ items => items.mapM fun item => do
    let (key, value) ← doc.onlyPair item
    let key ← doc.part around key
    let value ← doc.part around value
    pure (key, value)
  | _ => malformed .unsuitedTag

/-- The numbers of the collections that the nodes in a node are in. -/
def inside (around : List Nat) (node : Node) : List Nat :=
  match doc.resolve node with
  | .sequence number _ _ | .mapping number _ _ => number :: around
  | _ => around

/-- The value of a collection at a depth. -/
def collection (depth : Nat) : (fuel : Nat) → (around : List Nat) → Node → Except DeepFault Value
  | 0, _, _ => .error ⟨depth, .malformed .nesting⟩
  | fuel + 1, around, node => do
    let around := doc.inside around node
    let here {α : Type} (result : Except Fault α) : Except DeepFault α :=
      result.mapError (⟨depth, ·⟩)
    let finish : Part → Except DeepFault Value
      | .done value => .ok value
      | .later inner => collection (depth + 1) fuel around inner
    match (doc.resolve node).tag with
    | .table =>
      let entries ← here (doc.tableParts around node)
      let values ← gather (entries.map fun (_, value) => finish value)
      pure (.table (Table.ofPairs ((entries.map Prod.fst).zip values)))
    | .set =>
      let entries ← here (doc.tableParts around node)
      let _ ← gather (entries.map fun (_, value) => finish value)
      pure (.set ((Table.ofPairs entries).map Prod.fst))
    | .list =>
      let parts ← here (doc.listParts around node)
      .list <$> gather (parts.map finish)
    | _ =>
      let parts ← here (doc.pairParts around node)
      .pairs <$> gather (parts.map fun (key, value) => do
        let both ← gather [finish key, finish value]
        pure (both.headD .null, both.getLastD .null))
termination_by structural fuel => fuel

/-- The value of a document. -/
def value : Except Fault Value := do
  match ← doc.part [] doc.root with
  | .done value => pure value
  | .later node => (doc.collection 0 (doc.collections + 2) [] node).mapError (·.fault)

end Document

/-- The value of a text; a text without a document has none. -/
def read (text : Text) : Except Fault Value := do
  match ← Document.read? text with
  | some doc => doc.value
  | none => pure .null

end NameSlots.Yaml
