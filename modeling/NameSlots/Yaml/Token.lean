import NameSlots.Text.Utf8
import NameSlots.Yaml.Scalar

/-! The tokens of a document. -/

namespace NameSlots.Yaml

/-- A tag as it is written: a handle, and a rest. Without a handle the rest is the whole tag. -/
structure WrittenTag where
  handle : Option Text
  rest : Text
deriving DecidableEq

/-- A directive. -/
inductive Directive where
  | version (major : Nat)
  | tag (handle replacement : Text)
  | other
deriving DecidableEq

/-- A token of a document. -/
inductive Token where
  | directive (what : Directive)
  | documentStart
  | documentEnd
  | streamEnd
  | blockSequence
  | blockMapping
  | blockEnd
  | flowSequence
  | flowSequenceEnd
  | flowMapping
  | flowMappingEnd
  | flowEntry
  | blockEntry
  | key
  | value
  | alias (name : Text)
  | anchor (name : Text)
  | tag (written : WrittenTag)
  | scalar (text : Text) (plain : Bool)
deriving DecidableEq

/-! ## Names and tags -/

/-- The name of an anchor or an alias, whose mark has been read. -/
def readAnchor (cursor : Cursor) : Except Fault (Text × Cursor) :=
  let (name, cursor) := cursor.takeWhile isNameChar
  let ends := isGap cursor.peek ||
    cursor.peek ∈ ['?', ':', ',', ']', '\x7d', '%', '@', Char.ofNat 96]
  if name.isEmpty || !ends then malformed .anchor else .ok (name, cursor)

/-- A tag handle: an exclamation mark, or a name between two. -/
def readHandle (cursor : Cursor) : Except Fault (Text × Cursor) :=
  if cursor.peek != '!' then malformed .tag
  else if cursor.peekAt 1 == ' ' then .ok (['!'], cursor.next)
  else
    let (name, after) := cursor.next.takeWhile isNameChar
    if after.peek == '!' then .ok ('!' :: name ++ ['!'], after.next) else malformed .tag

/-- Whether a character may stand in a tag. -/
def isTagChar (c : Char) : Bool :=
  c.isAlphanum || "-;/?:@&=+$,_.!~*'()[]%".toList.contains c

/-- Bytes that are written as percent signs with two hexadecimal digits each. -/
def readBytes : (fuel : Nat) → Cursor → Except Fault (Bytes × Cursor)
  | 0, cursor => .ok ([], cursor)
  | fuel + 1, cursor =>
    match cursor.rest with
    | '%' :: a :: b :: _ =>
      if Text.isHex a && Text.isHex b then do
        let (bytes, cursor) ← readBytes fuel (cursor.advance 3)
        pure ((Text.numeral 16 [a, b]).toUInt8 :: bytes, cursor)
      else malformed .tag
    | '%' :: _ => malformed .tag
    | _ => .ok ([], cursor)

/-- The characters of a tag. -/
def readTagText : (fuel : Nat) → Cursor → Except Fault (Text × Cursor)
  | 0, cursor => .ok ([], cursor)
  | fuel + 1, cursor =>
    let c := cursor.peek
    if c == '%' then do
      let (bytes, cursor) ← readBytes (cursor.rest.length + 1) cursor
      match Utf8.decode bytes with
      | .ok decoded =>
        let (more, cursor) ← readTagText fuel cursor
        pure (decoded ++ more, cursor)
      | .error _ => malformed .tag
    else if isTagChar c then do
      let (more, cursor) ← readTagText fuel cursor.next
      pure (c :: more, cursor)
    else .ok ([], cursor)

/-- The characters of a tag; there is one at least. -/
def readTagRest (cursor : Cursor) : Except Fault (Text × Cursor) :=
  if isTagChar cursor.peek then readTagText (cursor.rest.length + 1) cursor else malformed .tag

/-- A tag. -/
def readTag (cursor : Cursor) : Except Fault (WrittenTag × Cursor) := do
  let (tag, cursor) ←
    if cursor.peekAt 1 == '<' then do
      let (rest, cursor) ← readTagRest (cursor.advance 2)
      if cursor.peek != '>' then malformed .tag
      else pure ((⟨none, rest⟩ : WrittenTag), cursor.next)
    else if isGap (cursor.peekAt 1) then pure (⟨none, ['!']⟩, cursor.next)
    else do
      let word := cursor.next.rest.takeWhile (!isSpaceOrEnd ·)
      let (handle, cursor) ←
        if word.contains '!' then readHandle cursor else pure (['!'], cursor.next)
      let (rest, cursor) ← readTagRest cursor
      pure (⟨some handle, rest⟩, cursor)
  if isSpaceOrEnd cursor.peek then pure (tag, cursor) else malformed .tag

/-! ## Directives -/

/-- A number of a version. -/
def readVersionNumber (cursor : Cursor) : Except Fault (Nat × Cursor) :=
  let (digits, cursor) := cursor.takeWhile Char.isDigit
  if digits.isEmpty then malformed .directive
  else if digits.length > Number.maxDigits then .error (.tooManyDigits digits.length)
  else .ok (Text.numeral 10 digits, cursor)

/-- The version that a document names. -/
def readVersion (cursor : Cursor) : Except Fault (Directive × Cursor) := do
  let (major, cursor) ← readVersionNumber (cursor.skipWhile (· == ' '))
  if cursor.peek != '.' then malformed .directive
  let (_, cursor) ← readVersionNumber cursor.next
  if isSpaceOrEnd cursor.peek then pure (.version major, cursor) else malformed .directive

/-- What a tag handle stands for. -/
def readTagDirective (cursor : Cursor) : Except Fault (Directive × Cursor) := do
  let (handle, cursor) ← readHandle (cursor.skipWhile (· == ' '))
  if cursor.peek != ' ' then malformed .directive
  let (replacement, cursor) ← readTagRest (cursor.skipWhile (· == ' '))
  if isSpaceOrEnd cursor.peek then pure (.tag handle replacement, cursor) else malformed .directive

/-- A directive, whose mark has been read. -/
def readDirective (cursor : Cursor) : Except Fault (Directive × Cursor) := do
  let (name, cursor) := cursor.takeWhile isNameChar
  if name.isEmpty || !isSpaceOrEnd cursor.peek then malformed .directive
  let (directive, cursor) ←
    if name == "YAML".toList then readVersion cursor
    else if name == "TAG".toList then readTagDirective cursor
    else pure (.other, cursor.skipWhile (!isBreak ·))
  match cursor.skipLine? with
  | some cursor => pure (directive, cursor)
  | none => malformed .directive

end NameSlots.Yaml
