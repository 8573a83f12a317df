import NameSlots.Key.Segment
import NameSlots.Regex.Pattern

/-!
Cutting a key into segments. An embedded pattern counts where a judge accepts its body under its
flags; a slash without such a pattern is literal text. No character is lost.
-/

namespace NameSlots.Key

/-- Whether a body is a pattern under flags, or why the question has no answer. -/
abbrev Judge (ε : Type) := Regex.Flags → Text → Except ε Bool

/-- Whether literal text and flags end before a character. -/
def isMark (c : Char) : Bool := c == '/' || c == '<'

/-- The text before the next slash and the text after it, if there is a slash. -/
def untilSlash? : Text → Option (Text × Text)
  | [] => none
  | c :: rest =>
    if c = '/' then some ([], rest)
    else (untilSlash? rest).map fun (before, after) => (c :: before, after)

/-- The text up to the next mark, and the rest from it on. -/
def untilMark (text : Text) : Text × Text :=
  (text.takeWhile (!isMark ·), text.dropWhile (!isMark ·))

/-- The embedded pattern whose opening slash stands before the text, and what follows it. -/
def regex? {ε : Type} (judge : Judge ε) (text : Text) : Except ε (Option (Segment × Text)) :=
  match untilSlash? text with
  | none => .ok none
  | some (body, after) =>
    let (letters, rest) := untilMark after
    match readFlags? letters with
    | none => .ok none
    | some flags =>
      match judge flags body with
      | .error e => .error e
      | .ok accepted => .ok (if accepted then some (.regex body letters, rest) else none)

/-- The slot at the front of a text, and what follows it. -/
def slot? (text : Text) : Option (Segment × Text) :=
  match Text.dropFront? Slot.several.text text with
  | some rest => some (.slot .several, rest)
  | none => (Text.dropFront? Slot.single.text text).map (.slot .single, ·)

/-- The literal text that starts with a character. -/
def literal (c : Char) (text : Text) : Segment × Text :=
  (.literal (c :: (untilMark text).1), (untilMark text).2)

/-- The segment that starts with a character, and what follows it. -/
def next {ε : Type} (judge : Judge ε) (c : Char) (text : Text) : Except ε (Segment × Text) :=
  if c = '/' then
    match regex? judge text with
    | .error e => .error e
    | .ok (some found) => .ok found
    | .ok none => .ok (literal c text)
  else .ok ((slot? (c :: text)).getD (literal c text))

theorem length_untilSlash? {text before after : Text}
    (h : untilSlash? text = some (before, after)) : after.length < text.length := by
  induction text generalizing before with
  | nil => simp [untilSlash?] at h
  | cons c rest ih =>
    by_cases hc : c = '/'
    · simp_all [untilSlash?]
    · simp only [untilSlash?, hc, if_false, Option.map_eq_some_iff, Prod.mk.injEq] at h
      obtain ⟨⟨b, a⟩, h, rfl, rfl⟩ := h
      have := ih h
      simp_all; omega

theorem length_untilMark (text : Text) : (untilMark text).2.length ≤ text.length :=
  (List.dropWhile_sublist _).length_le

theorem length_regex? {ε : Type} {judge : Judge ε} {text : Text} {found : Segment × Text}
    (h : regex? judge text = .ok (some found)) : found.2.length < text.length := by
  unfold regex? at h
  split at h
  · simp at h
  · next body after hs =>
    have := length_untilSlash? hs
    have := length_untilMark after
    grind

theorem length_slot? {text : Text} {found : Segment × Text} (h : slot? text = some found) :
    found.2.length < text.length := by
  unfold slot? at h
  split at h
  · next rest hs =>
    rw [Text.dropFront?_eq_some_iff] at hs
    simp_all [Slot.text]
    grind
  · simp only [Option.map_eq_some_iff, Text.dropFront?_eq_some_iff] at h
    obtain ⟨rest, rfl, rfl⟩ := h
    simp [Slot.text]; omega

/-- A segment takes one character at least. -/
theorem length_next {ε : Type} {judge : Judge ε} {c : Char} {text : Text} {found : Segment × Text}
    (h : next judge c text = .ok found) : found.2.length ≤ text.length := by
  unfold next at h
  split at h
  · split at h
    · simp at h
    · next hr => have := length_regex? hr; grind
    · simp only [Except.ok.injEq] at h
      exact h ▸ length_untilMark text
  · simp only [Except.ok.injEq] at h
    cases hs : slot? (c :: text) with
    | none => rw [hs] at h; exact h ▸ length_untilMark text
    | some s => have := length_slot? hs; grind

/-- The segments of a key, from left to right. -/
def parse {ε : Type} (judge : Judge ε) (key : Text) : Except ε (List Segment) :=
  match key with
  | [] => .ok []
  | c :: text =>
    match _h : next judge c text with
    | .error e => .error e
    | .ok (segment, rest) =>
      match parse judge rest with
      | .error e => .error e
      | .ok segments => .ok (segment :: segments)
termination_by key.length
decreasing_by
  have : rest.length ≤ text.length := length_next _h
  simp only [List.length_cons]
  omega

/-- A body counts if it compiles by itself. -/
def compiles (flags : Regex.Flags) (body : Text) : Except Regex.Refusal Bool :=
  match Regex.compile flags body with
  | .ok _ => .ok true
  | .error (.refused why) => .error why
  | .error _ => .ok false

/-- The segments of a key. -/
def segments (key : Text) : Except Regex.Refusal (List Segment) := parse compiles key

end NameSlots.Key
