import NameSlots.Yaml.Lexer
import NameSlots.Yaml.Tag

/-!
Nodes of a document, read from its tokens. An alias stays a name: what it stands for is in the list
of the document's anchors, so that a collection may hold itself.
-/

namespace NameSlots.Yaml

/-- A node. Every collection has a number of its own. -/
inductive Node where
  | scalar (tag : Tag) (text : Text)
  | sequence (number : Nat) (tag : Tag) (items : List Node)
  | mapping (number : Nat) (tag : Tag) (pairs : List (Node × Node))
  | alias (name : Text)

/-- A document: its root, and the nodes that have names. -/
structure Document where
  root : Node
  anchors : List (Text × Node)
  /-- The number of collections. -/
  collections : Nat

/-- A document that is being read. -/
structure Reading where
  tokens : List Token
  /-- What is wrong after the last token. -/
  fault : Option Fault
  /-- What the handles of tags stand for. -/
  handles : List (Text × Text) := []
  /-- The names of nodes that have begun. -/
  names : List Text := []
  anchors : List (Text × Node) := []
  collections : Nat := 0

/-- A step of reading a document. -/
abbrev Reader := StateT Reading (Except Fault)

namespace Reader

def fail {α : Type} (what : Malformed) : Reader α := throw (.malformed what)

/-- The next token. -/
def peek : Reader Token := do
  let reading ← get
  match reading.tokens with
  | token :: _ => pure token
  | [] => throw (reading.fault.getD (.malformed .nesting))

/-- Goes on to the token after the next one. -/
def skip : Reader Unit := modify fun reading => { reading with tokens := reading.tokens.drop 1 }

/-- Goes on if a token is the next one. -/
def skipIf (token : Token) : Reader Bool := do
  if (← peek) == token then
    skip
    pure true
  else pure false

/-! ## Properties of nodes -/

/-- The name before a node. -/
def anchor? : Reader (Option Text) := do
  match ← peek with
  | .anchor name =>
    skip
    pure (some name)
  | _ => pure none

/-- The tag before a node. -/
def tag? : Reader (Option WrittenTag) := do
  match ← peek with
  | .tag written =>
    skip
    pure (some written)
  | _ => pure none

/-- The full name of a tag. -/
def tagName (written : WrittenTag) : Reader Text := do
  match written.handle with
  | none => pure written.rest
  | some handle =>
    match (← get).handles.lookup handle with
    | some start => pure (start ++ written.rest)
    | none => fail .tag

/-- What stands before a node. -/
structure Properties where
  anchor : Option Text
  tag : Option Text

/-- The name and the tag before a node, in any order. -/
def properties : Reader Properties := do
  let anchor ← anchor?
  let written ← tag?
  let late ← if anchor.isNone && written.isSome then anchor? else pure none
  pure { anchor := anchor <|> late, tag := ← written.mapM tagName }

namespace Properties

/-- The tag that leaves a node the one it has by its form. -/
def formTag : Text := ['!']

/-- The tag of a collection. -/
def collectionTag (props : Properties) (usual : Tag) : Tag :=
  match props.tag with
  | none => usual
  | some name => if name == formTag then usual else Tag.ofName name

/-- The tag of a scalar. -/
def scalarTag (props : Properties) (text : Text) (plain : Bool) : Tag :=
  match props.tag with
  | none => if plain then Tag.ofForm text else .text
  | some name => if name == formTag then Tag.ofForm text else Tag.ofName name

end Properties

/-- Takes a name for a node that begins. -/
def begin (props : Properties) : Reader Unit := do
  match props.anchor with
  | none => pure ()
  | some name =>
    if name ∈ (← get).names then fail .repeatedAnchor
    modify fun reading => { reading with names := name :: reading.names }

/-- Keeps a node under its name. -/
def finish (props : Properties) (node : Node) : Reader Node := do
  match props.anchor with
  | none => pure node
  | some name =>
    modify fun reading => { reading with anchors := (name, node) :: reading.anchors }
    pure node

/-- A number for a collection. -/
def newNumber : Reader Nat := do
  let reading ← get
  set { reading with collections := reading.collections + 1 }
  pure reading.collections

/-- A scalar. -/
def scalar (props : Properties) (text : Text) (plain : Bool) : Reader Node := do
  begin props
  finish props (.scalar (props.scalarTag text plain) text)

/-- A node that is left out. -/
def emptyNode : Node := .scalar .null []

/-- A sequence with items that are read by a step. -/
def sequence (props : Properties) (items : Reader (List Node)) : Reader Node := do
  begin props
  let number ← newNumber
  finish props (.sequence number (props.collectionTag .list) (← items))

/-- A mapping with pairs that are read by a step. -/
def mapping (props : Properties) (pairs : Reader (List (Node × Node))) : Reader Node := do
  begin props
  let number ← newNumber
  finish props (.mapping number (props.collectionTag .table) (← pairs))

/-- A node, unless one of some tokens is the next one. -/
def unlessAt (stops : List Token) (node : Reader Node) : Reader Node := do
  if (← peek) ∈ stops then pure emptyNode else node

/-- A node after a token, if that token is the next one. -/
def after (token : Token) (stops : List Token) (node : Reader Node) : Reader Node := do
  if ← skipIf token then unlessAt stops node else pure emptyNode

/-! ## Nodes -/

/-- Where a node stands. -/
inductive Place where
  /-- Between brackets, or where no block can begin. -/
  | flow
  | block
  /-- After a key or a colon of a block, where items may follow without being indented. -/
  | pairPart
deriving DecidableEq

mutual

/-- A node at a place. -/
def node (place : Place) : (fuel : Nat) → Reader Node
  | 0 => fail .nesting
  | fuel + 1 => do
    match ← peek with
    | .alias name =>
      skip
      if name ∈ (← get).names then pure (.alias name) else fail .undefinedAlias
    | _ =>
      let props ← properties
      match ← peek with
      | .scalar text plain =>
        skip
        scalar props text plain
      | .flowSequence =>
        skip
        sequence props (flowItems true fuel)
      | .flowMapping =>
        skip
        mapping props (flowPairs true fuel)
      | token =>
        if token == .blockEntry && place == .pairPart then sequence props (looseItems fuel)
        else if token == .blockSequence && place != .flow then do
          skip
          sequence props (blockItems fuel)
        else if token == .blockMapping && place != .flow then do
          skip
          mapping props (blockPairs fuel)
        else if props.anchor.isSome || props.tag.isSome then scalar props [] true
        else fail .nesting

/-- The items of a block, up to its end. -/
def blockItems : (fuel : Nat) → Reader (List Node)
  | 0 => fail .nesting
  | fuel + 1 => do
    if ← skipIf .blockEntry then
      let item ← unlessAt [.blockEntry, .blockEnd] (node .block fuel)
      pure (item :: (← blockItems fuel))
    else if ← skipIf .blockEnd then pure []
    else fail .nesting

/-- Items that are not indented. -/
def looseItems : (fuel : Nat) → Reader (List Node)
  | 0 => fail .nesting
  | fuel + 1 => do
    if ← skipIf .blockEntry then
      let item ← unlessAt [.blockEntry, .key, .value, .blockEnd] (node .block fuel)
      pure (item :: (← looseItems fuel))
    else pure []

/-- The pairs of a block, up to its end. -/
def blockPairs : (fuel : Nat) → Reader (List (Node × Node))
  | 0 => fail .nesting
  | fuel + 1 => do
    if ← skipIf .key then
      let stops := [Token.key, .value, .blockEnd]
      let key ← unlessAt stops (node .pairPart fuel)
      let value ← after .value stops (node .pairPart fuel)
      pure ((key, value) :: (← blockPairs fuel))
    else if ← skipIf .blockEnd then pure []
    else fail .nesting

/-- The items between brackets, up to the closing one. -/
def flowItems (first : Bool) : (fuel : Nat) → Reader (List Node)
  | 0 => fail .nesting
  | fuel + 1 => do
    if ← skipIf .flowSequenceEnd then pure []
    else
      if !first && !(← skipIf .flowEntry) then fail .nesting
      if ← skipIf .flowSequenceEnd then pure []
      else
        if ← skipIf .key then
          let number ← newNumber
          let stops := [Token.flowEntry, .flowSequenceEnd]
          let key ← unlessAt (.value :: stops) (node .flow fuel)
          let value ← after .value stops (node .flow fuel)
          pure (.mapping number .table [(key, value)] :: (← flowItems false fuel))
        else
          let item ← node .flow fuel
          pure (item :: (← flowItems false fuel))

/-- The pairs between braces, up to the closing one. -/
def flowPairs (first : Bool) : (fuel : Nat) → Reader (List (Node × Node))
  | 0 => fail .nesting
  | fuel + 1 => do
    if ← skipIf .flowMappingEnd then pure []
    else
      if !first && !(← skipIf .flowEntry) then fail .nesting
      if ← skipIf .flowMappingEnd then pure []
      else if ← skipIf .key then
        let stops := [Token.flowEntry, .flowMappingEnd]
        let key ← unlessAt (.value :: stops) (node .flow fuel)
        let value ← after .value stops (node .flow fuel)
        pure ((key, value) :: (← flowPairs false fuel))
      else
        let key ← node .flow fuel
        pure ((key, emptyNode) :: (← flowPairs false fuel))

end

/-! ## Documents -/

/-- The handles that need no directive. -/
def usualHandles : List (Text × Text) := [(['!'], ['!']), (['!', '!'], Tag.family)]

/-- The directives before a document: the handles that they define, with `versioned` once a version
has been named. -/
def directives (versioned : Bool) (handles : List (Text × Text)) :
    (fuel : Nat) → Reader (List (Text × Text))
  | 0 => fail .directive
  | fuel + 1 => do
    match ← peek with
    | .directive what =>
      skip
      match what with
      | .version major =>
        if versioned || major != 1 then fail .directive
        directives true handles fuel
      | .tag handle replacement =>
        if (handles.lookup handle).isSome then fail .directive
        directives versioned ((handle, replacement) :: handles) fuel
      | .other => directives versioned handles fuel
    | _ => pure handles

/-- Goes past the directives and the start of a document. -/
def start (fuel : Nat) : Reader Unit := do
  let handles ← directives false [] fuel
  if !(← skipIf .documentStart) then fail .nesting
  modify fun reading => { reading with handles := handles ++ usualHandles }

/-- Goes past the marks of a document's end. -/
def skipEnds : (fuel : Nat) → Reader Unit
  | 0 => pure ()
  | fuel + 1 => do if ← skipIf .documentEnd then skipEnds fuel

/-- The end of the text after a document. -/
def finishStream (fuel : Nat) : Reader Unit := do
  skipEnds fuel
  if !(← skipIf .streamEnd) then
    start fuel
    fail .nesting

/-- The root of a document. -/
def root (fuel : Nat) : Reader Node := do
  match ← peek with
  | .directive _ | .documentStart =>
    start fuel
    match ← peek with
    | .directive _ | .documentStart | .documentEnd | .streamEnd => pure emptyNode
    | _ => node .block fuel
  | _ =>
    modify fun reading => { reading with handles := usualHandles }
    node .block fuel

/-- The only document; none in a text without one. -/
def document? (fuel : Nat) : Reader (Option Document) := do
  if ← skipIf .streamEnd then pure none
  else
    let root ← root fuel
    let reading ← get
    finishStream fuel
    pure (some { root, anchors := reading.anchors, collections := reading.collections })

end Reader

/-- The document of a text. -/
def Document.read? (text : Text) : Except Fault (Option Document) :=
  let (tokens, fault) := tokens text
  let fuel := 4 * tokens.length + 8
  (Reader.document? fuel).run' { tokens, fault }

end NameSlots.Yaml
