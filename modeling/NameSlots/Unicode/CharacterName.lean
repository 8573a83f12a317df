import NameSlots.Unicode.CharacterName.Greek
import NameSlots.Unicode.CharacterName.Latin
import NameSlots.Unicode.CharacterName.Letter
import NameSlots.Unicode.CharacterName.Picture
import NameSlots.Unicode.CharacterName.Shape
import NameSlots.Unicode.CharacterName.Symbol

/-!
Characters by their names. Known are the names of the tables, other names of control characters, and
the names that ideographs and syllables have by rule. The case of letters does not count, but for
the names by rule.
-/

namespace NameSlots.Unicode

/-- The tables of names. -/
def nameRuns : List NameRun :=
  [.latin, .greek, .cyrillic, .punctuation, .currencies, .letterlike, .arrows, .mathematics,
    .shapes, .signs, .dingbats, .hebrew, .arabicDigits, .devanagariDigits, .kana, .pictures,
    .faces]

/-- Other names. -/
def otherNames : List (String × Nat) := [
    ("NULL", 0x0), ("NUL", 0x0), ("START OF HEADING", 0x1), ("SOH", 0x1), ("START OF TEXT", 0x2),
    ("STX", 0x2), ("END OF TEXT", 0x3), ("ETX", 0x3), ("END OF TRANSMISSION", 0x4), ("EOT", 0x4),
    ("ENQUIRY", 0x5), ("ENQ", 0x5), ("ACKNOWLEDGE", 0x6), ("ACK", 0x6), ("ALERT", 0x7),
    ("BEL", 0x7), ("BACKSPACE", 0x8), ("BS", 0x8), ("CHARACTER TABULATION", 0x9),
    ("HORIZONTAL TABULATION", 0x9), ("HT", 0x9), ("TAB", 0x9), ("LINE FEED", 0xA),
    ("NEW LINE", 0xA), ("END OF LINE", 0xA), ("LF", 0xA), ("NL", 0xA), ("EOL", 0xA),
    ("LINE TABULATION", 0xB), ("VERTICAL TABULATION", 0xB), ("VT", 0xB), ("FORM FEED", 0xC),
    ("FF", 0xC), ("CARRIAGE RETURN", 0xD), ("CR", 0xD), ("SHIFT OUT", 0xE),
    ("LOCKING-SHIFT ONE", 0xE), ("SO", 0xE), ("SHIFT IN", 0xF), ("LOCKING-SHIFT ZERO", 0xF),
    ("SI", 0xF), ("DATA LINK ESCAPE", 0x10), ("DLE", 0x10), ("DEVICE CONTROL ONE", 0x11),
    ("DC1", 0x11), ("DEVICE CONTROL TWO", 0x12), ("DC2", 0x12), ("DEVICE CONTROL THREE", 0x13),
    ("DC3", 0x13), ("DEVICE CONTROL FOUR", 0x14), ("DC4", 0x14), ("NEGATIVE ACKNOWLEDGE", 0x15),
    ("NAK", 0x15), ("SYNCHRONOUS IDLE", 0x16), ("SYN", 0x16),
    ("END OF TRANSMISSION BLOCK", 0x17), ("ETB", 0x17), ("CANCEL", 0x18), ("CAN", 0x18),
    ("END OF MEDIUM", 0x19), ("EOM", 0x19), ("SUBSTITUTE", 0x1A), ("SUB", 0x1A),
    ("ESCAPE", 0x1B), ("ESC", 0x1B), ("INFORMATION SEPARATOR FOUR", 0x1C),
    ("FILE SEPARATOR", 0x1C), ("FS", 0x1C), ("INFORMATION SEPARATOR THREE", 0x1D),
    ("GROUP SEPARATOR", 0x1D), ("GS", 0x1D), ("INFORMATION SEPARATOR TWO", 0x1E),
    ("RECORD SEPARATOR", 0x1E), ("RS", 0x1E), ("INFORMATION SEPARATOR ONE", 0x1F),
    ("UNIT SEPARATOR", 0x1F), ("US", 0x1F), ("SP", 0x20), ("DELETE", 0x7F), ("DEL", 0x7F),
    ("NEXT LINE", 0x85), ("NEL", 0x85), ("NBSP", 0xA0), ("SHY", 0xAD), ("CGJ", 0x34F),
    ("ZWSP", 0x200B), ("ZWNJ", 0x200C), ("ZWJ", 0x200D), ("LRM", 0x200E), ("RLM", 0x200F),
    ("LRE", 0x202A), ("RLE", 0x202B), ("PDF", 0x202C), ("LRO", 0x202D), ("RLO", 0x202E),
    ("WJ", 0x2060), ("BYTE ORDER MARK", 0xFEFF), ("BOM", 0xFEFF),
    ("ZERO WIDTH NO-BREAK SPACE", 0xFEFF), ("REPLACEMENT CHARACTER", 0xFFFD)]

/-! ## Names by rule -/

/-- The codes of ideographs. -/
def ideographs : List (Nat × Nat) :=
  [(0x3400, 0x4DBF), (0x4E00, 0x9FFF), (0x20000, 0x2A6DF), (0x2A700, 0x2B738),
    (0x2B740, 0x2B81D), (0x2B820, 0x2CEA1), (0x2CEB0, 0x2EBE0), (0x30000, 0x3134A)]

/-- A number of four or five hexadecimal digits with capital letters. -/
def capitalHex? (digits : Text) : Option Nat :=
  let isDigit (c : Char) : Bool := c.isDigit || ('A' ≤ c && c ≤ 'F')
  let value (c : Char) : Nat := if c.isDigit then c.toNat - 48 else c.toNat - 55
  if (digits.length = 4 || digits.length = 5) && digits.all isDigit then
    some (digits.foldl (fun n c => 16 * n + value c) 0)
  else none

/-- The code of an ideograph, which is a part of its name. -/
def ideograph? (name : Text) : Option Nat := do
  let code ← capitalHex? (← Text.dropFront? "CJK UNIFIED IDEOGRAPH-".toList name)
  if ideographs.any fun (first, last) => first ≤ code && code ≤ last then some code else none

/-- The first sounds of syllables. -/
def leadSounds : List String :=
  ["G", "GG", "N", "D", "DD", "R", "M", "B", "BB", "S", "SS", "", "J", "JJ", "C", "K", "T", "P",
    "H"]

/-- The vowels of syllables. -/
def vowelSounds : List String :=
  ["A", "AE", "YA", "YAE", "EO", "E", "YEO", "YE", "O", "WA", "WAE", "OE", "YO", "U", "WEO",
    "WE", "WI", "YU", "EU", "YI", "I"]

/-- The last sounds of syllables. -/
def tailSounds : List String :=
  ["", "G", "GG", "GS", "N", "NJ", "NH", "D", "L", "LG", "LM", "LB", "LS", "LT", "LP", "LH", "M",
    "B", "BS", "S", "SS", "NG", "J", "C", "K", "T", "P", "H"]

/-- The place of the longest of some texts that a text begins with, and what follows it. -/
def longestFront? (fronts : List String) (text : Text) : Option (Nat × Text) :=
  let found := fronts.zipIdx.filter fun (front, _) => front.toList.isPrefixOf text
  (found.mergeSort fun a b => b.1.length ≤ a.1.length).head?.map fun (front, index) =>
    (index, text.drop front.length)

/-- The code of a syllable, whose name tells its sounds. -/
def syllable? (name : Text) : Option Nat := do
  let (lead, rest) ← longestFront? leadSounds (← Text.dropFront? "HANGUL SYLLABLE ".toList name)
  let (vowel, rest) ← longestFront? vowelSounds rest
  let (tail, rest) ← longestFront? tailSounds rest
  if rest.isEmpty then
    some (0xAC00 + (lead * vowelSounds.length + vowel) * tailSounds.length + tail)
  else none

/-- The code point of the character with a name. -/
def characterNamed? (name : Text) : Option Nat :=
  let capital := name.map Char.toUpper
  if name.isEmpty then none
  else ideograph? name <|> syllable? name <|>
    (otherNames.find? fun (other, _) => other.toList == capital).map Prod.snd <|>
    nameRuns.findSome? (·.code? capital)

end NameSlots.Unicode
