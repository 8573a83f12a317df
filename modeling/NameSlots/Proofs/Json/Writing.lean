import NameSlots.Proofs.Json.Canonical
import NameSlots.Proofs.Json.Number

/-! A value that text can hold is read back from its text, with its fields in order, however the
text is laid out. -/
namespace NameSlots.Json

/-- Blanks that are skipped between the parts of JSON text. -/
def isBlank (c : Char) : Bool := c = ' ' || c = '\t' || c = '\n' || c = '\r'

/-- A layout that puts nothing but blanks between the parts of a text. -/
structure Layout.Blank (layout : Layout) : Prop where
  lead : ∀ level, ∀ c ∈ layout.lead level, isBlank c = true
  afterColon : ∀ c ∈ layout.afterColon, isBlank c = true

/-- A text at whose front a value may stand. -/
def Starts (text : Text) : Prop :=
  ∃ c rest, text = c :: rest ∧ isBlank c = false ∧ c ≠ ']' ∧ c ≠ '\x7d' ∧ c ≠ byteOrderMark

/-- A text that is read as a value, whatever else follows. -/
def Reads (text : Text) (value : Json) : Prop :=
  Starts text ∧ ∀ rest fuel, Ends rest → 2 * (text ++ rest).length < fuel →
    readValue fuel (text ++ rest) = .ok (value, rest)

variable {text rest more blanks : Text} {value : Json} {fuel n : Nat} {negative : Bool}
  {layout : Layout} {texts : List Text} {values : List Json} {level : Nat}

theorem compact_blank : Layout.compact.Blank := ⟨by simp [Layout.compact], by simp [Layout.compact]⟩

/-! ## Blanks -/

theorem skipBlanks_append (hb : ∀ c ∈ blanks, isBlank c = true)
    (hm : ∀ c ∈ more.head?, isBlank c = false) : skipBlanks (blanks ++ more) = more := by
  change (blanks ++ more).dropWhile isBlank = more
  rw [List.dropWhile_append_of_pos hb]
  cases more with
  | nil => rfl
  | cons c more =>
    have hc : isBlank c = false := hm c (by simp)
    rw [List.dropWhile_cons_of_neg (by simp [hc])]

theorem skipBlanks_starts (hb : ∀ c ∈ blanks, isBlank c = true) (hs : Starts text) (more : Text) :
    skipBlanks (blanks ++ (text ++ more)) = text ++ more := by
  obtain ⟨c, rest, rfl, hc, -⟩ := hs
  exact skipBlanks_append hb (by simpa using hc)

theorem ends_of_blank (blanks : Text) {c : Char} (hc : c = ',' ∨ c = ']' ∨ c = '\x7d') (hb : ∀ c ∈ blanks, isBlank c = true)
    (rest : Text) : Ends (blanks ++ c :: rest) := by
  intro d hd
  cases blanks with
  | nil =>
    obtain rfl : c = d := by simpa using hd
    rcases hc with rfl | rfl | rfl <;> decide
  | cons b blanks =>
    obtain rfl : b = d := by simpa using hd
    have hblank := hb b (by simp)
    simp only [isBlank, Bool.or_eq_true, decide_eq_true_eq] at hblank
    rcases hblank with ((rfl | rfl) | rfl) | rfl <;> decide

/-! ## Strings -/

theorem hexDigits_four (n : Nat) : ∃ a b c d, Text.hexDigits 4 n = [a, b, c, d] ∧
    hexFour? a b c d = some (n % 65536) := by
  have hl := Text.length_hexDigits 4 n
  have hh := Text.isHex_hexDigits 4 n
  have hv := Text.numeral_hexDigits 4 n
  generalize Text.hexDigits 4 n = digits at *
  match digits, hl with
  | [a, b, c, d], _ => exact ⟨a, b, c, d, rfl, by simp [hexFour?, hh, hv]⟩

theorem readString_escape (start : Text) (c : Char) (hm : more ≠ []) :
    readString start (escape c ++ more) =
      readString start more >>= fun (s, left) => pure (c :: s, left) := by
  obtain ⟨next, rest, rfl⟩ := List.exists_cons_of_ne_nil hm
  unfold escape
  split
  · simp [readString, escaped?]
  · simp [readString, escaped?]
  · simp [readString, escaped?]
  · simp [readString, escaped?]
  · simp [readString, escaped?]
  · simp [readString, escaped?]
  · simp [readString, escaped?]
  · next h1 h2 h3 h4 h5 h6 h7 =>
    split
    · next hlow =>
      have hcode : c.toNat < 32 := by simpa [Char.lt_def, UInt32.lt_iff_toNat_lt] using hlow
      obtain ⟨a, b, c', d, hd, hfour⟩ := hexDigits_four c.toNat
      rw [Nat.mod_eq_of_lt (by omega)] at hfour
      have hhigh : Unicode.isHighSurrogate c.toNat = false := by
        simp only [Unicode.isHighSurrogate, Bool.and_eq_false_imp, decide_eq_true_eq]
        omega
      have hchar : Unicode.charOf c.toNat = c := by
        have hlow' : Unicode.isLowSurrogate c.toNat = false := by
          simp only [Unicode.isLowSurrogate, Bool.and_eq_false_imp, decide_eq_true_eq]
          omega
        simp [Unicode.charOf, hhigh, hlow']
      simp only [hd, List.cons_append, List.nil_append]
      rw [readString, hfour]
      simp [pairedLow?, hhigh, hchar]
    · next hlow =>
      rw [List.singleton_append, readString.eq_def]
      split <;> simp_all

/-- A quoted string is read to its closing quote. -/
theorem readString_quoted (start s rest : Text) :
    readString start (s.flatMap escape ++ '"' :: rest) = .ok (s, rest) := by
  induction s with
  | nil => simp [readString]
  | cons c s ih =>
    rw [List.flatMap_cons, List.append_assoc, readString_escape start c (by simp), ih]
    rfl

theorem quote_append (s rest : Text) : quote s ++ rest = '"' :: (s.flatMap escape ++ '"' :: rest) := by
  simp [quote]

/-! ## Plain values -/

theorem readValue_plain {c : Char} (hc : c ≠ '"' ∧ c ≠ '[' ∧ c ≠ '\x7b') (hf : 0 < fuel)
    (text : Text) : readValue fuel (c :: text) = readPlain (c :: text) := by
  obtain ⟨fuel, rfl⟩ := Nat.exists_eq_add_of_lt hf
  obtain ⟨hq, hb, ho⟩ := hc
  rw [readValue.eq_def]
  simp only [Nat.zero_add]
  split <;> simp_all

/-- A word or a number is read as a value. -/
theorem reads_plain {c : Char} (hc : isBlank c = false ∧ c ≠ ']' ∧ c ≠ '\x7d' ∧ c ≠ byteOrderMark)
    (hv : c ≠ '"' ∧ c ≠ '[' ∧ c ≠ '\x7b') (tail : Text)
    (h : ∀ rest, Ends rest → readPlain (c :: tail ++ rest) = .ok (value, rest)) :
    Reads (c :: tail) value := by
  refine ⟨⟨c, tail, rfl, hc⟩, fun rest fuel he hf => ?_⟩
  rw [List.cons_append, readValue_plain hv (by omega)]
  exact h rest he

theorem readNumber?_head (h : (readNumber? negative text).isSome) :
    ∃ c rest, text = c :: rest ∧ c.isDigit = true := by
  cases text with
  | nil => simp [readNumber?] at h
  | cons c rest =>
    refine ⟨c, rest, rfl, ?_⟩
    by_cases hc : c.isDigit = true
    · exact hc
    · have h0 : c ≠ '0' := by
        rintro rfl
        exact hc rfl
      unfold readNumber? at h
      split at h
      · next heq => exact (h0 (List.cons.inj heq).1).elim
      · simp [hc] at h

theorem words_digit {c : Char} (hc : c.isDigit = true) (text : Text) :
    (words.findSome? fun (word, value) => (Text.dropFront? word (c :: text)).map (value, ·)) = none ∧
      (words.findSome? fun (word, value) =>
        (Text.dropFront? word ('-' :: c :: text)).map (value, ·)) = none := by
  have hne (d : Char) (hd : d.isDigit = false) : d ≠ c := by
    rintro rfl
    rw [hc] at hd
    contradiction
  have hn := hne 'n' (by decide)
  have ht := hne 't' (by decide)
  have hf := hne 'f' (by decide)
  have hN := hne 'N' (by decide)
  have hI := hne 'I' (by decide)
  have hm := hne '-' (by decide)
  constructor <;> simp [words, Text.dropFront?, hn, ht, hf, hN, hI, hm]

/-- The text of a number with its sign. -/
theorem reads_number (negative : Bool) {size : Text} (hn : ∀ rest, Ends rest →
    readNumber? negative (size ++ rest) = some (.ok (value, rest))) :
    Reads (if negative then '-' :: size else size) value := by
  have hsize := readNumber?_head (Option.isSome_iff_exists.2 ⟨_, hn [] (by simp [Ends])⟩)
  obtain ⟨c, tail, hs, hc⟩ := hsize
  rw [List.append_nil] at hs
  subst hs
  have hne (d : Char) (hd : d.isDigit = false) : c ≠ d := by
    rintro rfl
    rw [hc] at hd
    contradiction
  cases negative with
  | true =>
    refine reads_plain (by decide) (by decide) _ fun rest he => ?_
    simp only [readPlain, List.cons_append, (words_digit hc _).2]
    rw [← List.cons_append, hn rest he]
    rfl
  | false =>
    have hblank : isBlank c = false := by
      simp [isBlank, hne ' ' (by decide), hne '\t' (by decide), hne '\n' (by decide),
        hne '\r' (by decide)]
    refine reads_plain ⟨hblank, hne _ (by decide), hne _ (by decide), hne _ (by decide)⟩
      ⟨hne _ (by decide), hne _ (by decide), hne _ (by decide)⟩ _ fun rest he => ?_
    have hminus := hne '-' (by decide)
    simp only [readPlain, List.cons_append, (words_digit hc _).1]
    split
    · next heq => exact (hminus (List.cons.inj heq).1).elim
    · rw [← List.cons_append, hn rest he]
      rfl

theorem reads_int {n : Int} (hn : (Text.ofNat n.natAbs).length ≤ Number.maxDigits) :
    Reads (Text.ofInt n) (.int n) := by
  cases n with
  | ofNat n => exact reads_number false fun rest he => readNumber?_ofNat hn he
  | negSucc n =>
    refine reads_number true fun rest he => ?_
    exact readNumber?_ofNat (n := n + 1) hn he

theorem readPlain_word (rest : Text) :
    ∀ entry ∈ words, readPlain (entry.1 ++ rest) = .ok (entry.2, rest) := by
  simp [words, readPlain, Text.dropFront?]

theorem reads_word {word : Text} (h : (word, value) ∈ words) : Reads word value := by
  have hhead : ∀ entry ∈ words, (entry.1.head?.any fun c => !isBlank c && c != ']' && c != '\x7d' &&
      c != byteOrderMark && c != '"' && c != '[' && c != '\x7b') = true := by decide
  have hw := hhead _ h
  cases word with
  | nil => simp at hw
  | cons c tail =>
    simp only [List.head?_cons, Option.any_some, Bool.and_eq_true, Bool.not_eq_eq_eq_not,
      Bool.not_true, bne_iff_ne] at hw
    obtain ⟨⟨⟨⟨⟨⟨hblank, h1⟩, h2⟩, hmark⟩, h3⟩, h4⟩, h5⟩ := hw
    exact reads_plain ⟨hblank, h1, h2, hmark⟩ ⟨h3, h4, h5⟩ tail fun rest _ => readPlain_word rest _ h

theorem reads_float {x : Double} (hx : x.Normal) : Reads (floatText x) (.float x) := by
  cases x with
  | nan => exact reads_word (by simp [words, floatText])
  | infinite negative => cases negative <;> exact reads_word (by simp [words, floatText])
  | finite negative mantissa exponent =>
    exact reads_number negative fun rest he => readNumber?_size hx he

theorem reads_string (s : Text) : Reads (quote s) (.string s) := by
  refine ⟨⟨'"', _, rfl, by decide, by decide, by decide, by decide⟩, fun rest fuel _ hf => ?_⟩
  obtain ⟨fuel, rfl⟩ := Nat.exists_eq_add_of_lt (show 0 < fuel by omega)
  rw [quote_append, Nat.zero_add, readValue.eq_def]
  simp only [readString_quoted]
  rfl

/-! ## Lists -/

theorem writeItems_eq (layout : Layout) (level : Nat) (items : List Json) :
    writeItems layout level items = items.map (write layout level) := by
  induction items with
  | nil => rfl
  | cons item items ih => rw [writeItems, ih, List.map_cons]

theorem writeFields_eq (layout : Layout) (level : Nat) (fields : List (Text × Json)) :
    writeFields layout level fields =
      fields.map fun field => (field.1, write layout level field.2) := by
  induction fields with
  | nil => rfl
  | cons field fields ih => rw [writeFields, ih, List.map_cons]

theorem skipBlanks_mark {c : Char} (hc : isBlank c = false) (rest : Text) :
    skipBlanks (c :: rest) = c :: rest :=
  skipBlanks_append (show ∀ c ∈ ([] : Text), isBlank c = true by simp) (by simpa using hc)

variable {lead last colon : Text} {items : List Json} {fields : List (Text × Json)}

theorem starts_join {α : Type} {items : List α} (write : α → Text) (separator : Text)
    (h : ∀ item ∈ items, Starts (write item)) (hne : items ≠ []) :
    Starts (Text.join separator (items.map write)) := by
  obtain ⟨first, tail, rfl⟩ := List.exists_cons_of_ne_nil hne
  obtain ⟨c, rest, hfirst, hc⟩ := h first (List.mem_cons_self ..)
  rw [List.map_cons, hfirst]
  cases tail with
  | nil => exact ⟨c, rest, rfl, hc⟩
  | cons second tail => exact ⟨c, _, rfl, hc⟩

/-- Behind the first part stand a comma, blanks and what the other parts begin. -/
theorem join_next {α : Type} {items : List α} (write : α → Text) (hlead : ∀ c ∈ lead, isBlank c = true)
    (h : ∀ item ∈ items, Starts (write item)) (hne : items ≠ []) (item : α) (tail : Text) :
    ∃ more, Text.join (',' :: lead) (items.map write) ++ tail = more ∧
      Text.join (',' :: lead) ((item :: items).map write) ++ tail = write item ++ ',' :: (lead ++ more) ∧
      skipBlanks (lead ++ more) = more := by
  refine ⟨_, rfl, ?_, skipBlanks_starts hlead (starts_join write _ h hne) tail⟩
  obtain ⟨next, items, rfl⟩ := List.exists_cons_of_ne_nil hne
  simp [Text.join]

theorem starts_length (h : Starts text) : 0 < text.length := by
  obtain ⟨c, rest, rfl, -⟩ := h
  simp

/-- Items with commas between them are read up to the closing bracket. -/
theorem readItems_join (fuel : Nat) {write : Json → Text} (hlead : ∀ c ∈ lead, isBlank c = true)
    (hlast : ∀ c ∈ last, isBlank c = true)
    (h : ∀ item ∈ items, Reads (write item) item.sorted) (hne : items ≠ []) (rest : Text)
    (hf : 2 * (Text.join (',' :: lead) (items.map write) ++ (last ++ ']' :: rest)).length + 1 < fuel) :
    readItems fuel (Text.join (',' :: lead) (items.map write) ++ (last ++ ']' :: rest)) =
      .ok (items.map sorted, rest) := by
  induction items generalizing fuel with
  | nil => exact (hne rfl).elim
  | cons item items ih =>
    obtain ⟨⟨hstarts, hread⟩, hall⟩ := List.forall_mem_cons.1 h
    obtain ⟨fuel, rfl⟩ := Nat.exists_eq_add_of_lt (show 0 < fuel by omega)
    have hpos := starts_length hstarts
    rw [Nat.zero_add] at hf ⊢
    rw [readItems]
    cases items with
    | nil =>
      have hskip : skipBlanks (last ++ ']' :: rest) = ']' :: rest :=
        skipBlanks_append hlast (by simp [isBlank])
      simp only [List.map_cons, List.map_nil, Text.join] at hf ⊢
      refine bind_eq_ok.2 ⟨_, hread _ fuel (ends_of_blank _ (Or.inr (Or.inl rfl)) hlast rest)
        (by omega), ?_⟩
      dsimp only
      rw [hskip]
      rfl
    | cons next items =>
      obtain ⟨more, hmore, hjoin, hnext⟩ := join_next write hlead (fun item hm => (hall item hm).1)
        (List.cons_ne_nil next items) item (last ++ ']' :: rest)
      rw [hmore] at ih
      rw [hjoin] at hf ⊢
      simp only [List.length_append, List.length_cons] at hf
      refine bind_eq_ok.2 ⟨_, hread _ fuel (ends_of_blank [] (Or.inl rfl) (by simp) _)
        (by simp only [List.length_append, List.length_cons]; omega), ?_⟩
      dsimp only
      rw [skipBlanks_mark (by decide)]
      change (readItems fuel (skipBlanks (lead ++ more)) >>= fun found =>
        pure (item.sorted :: found.1, found.2)) = _
      rw [hnext]
      exact bind_eq_ok.2 ⟨_, ih _ hall (by simp) (by omega), rfl⟩

/-- The text of a field. -/
def fieldText (colon : Text) (write : Json → Text) (field : Text × Json) : Text :=
  quote field.1 ++ ':' :: (colon ++ write field.2)

theorem starts_quote (s tail : Text) : Starts (quote s ++ tail) :=
  ⟨'"', _, rfl, by decide, by decide, by decide, by decide⟩

/-- A field is read up to what follows its value. -/
theorem readFields_field (hcolon : ∀ c ∈ colon, isBlank c = true) {write : Json → Text}
    {field : Text × Json} (hstarts : Starts (write field.2)) {left : Text}
    (hv : readValue fuel (write field.2 ++ left) = .ok (value, left)) :
    readFields (fuel + 1) (fieldText colon write field ++ left) =
      match skipBlanks left with
      | '\x7d' :: rest => pure ([(field.1, value)], rest)
      | ',' :: rest => do
        let (fields, rest) ← readFields fuel (skipBlanks rest)
        pure ((field.1, value) :: fields, rest)
      | rest => .error (.malformed .comma rest.length) := by
  have htext : fieldText colon write field ++ left = '"' ::
      (field.1.flatMap escape ++ '"' :: ':' :: (colon ++ (write field.2 ++ left))) := by
    simp [fieldText, quote]
  have hcolon := skipBlanks_starts hcolon hstarts left
  have hmark := skipBlanks_mark (c := ':') (by decide) (colon ++ (write field.2 ++ left))
  rw [htext, readFields, readString_quoted]
  dsimp only [bind, Except.bind]
  rw [hmark]
  change Except.bind (readValue fuel (skipBlanks (colon ++ (write field.2 ++ left)))) _ = _
  rw [hcolon, hv]
  rfl

/-- Fields with commas between them are read up to the closing brace. -/
theorem readFields_join (fuel : Nat) {write : Json → Text} (hlead : ∀ c ∈ lead, isBlank c = true)
    (hlast : ∀ c ∈ last, isBlank c = true) (hcolon : ∀ c ∈ colon, isBlank c = true)
    (h : ∀ field ∈ fields, Reads (write field.2) field.2.sorted) (hne : fields ≠ []) (rest : Text)
    (hf : 2 * (Text.join (',' :: lead) (fields.map (fieldText colon write)) ++
      (last ++ '\x7d' :: rest)).length + 1 < fuel) :
    readFields fuel (Text.join (',' :: lead) (fields.map (fieldText colon write)) ++
        (last ++ '\x7d' :: rest)) =
      .ok (fields.map fun field => (field.1, field.2.sorted), rest) := by
  induction fields generalizing fuel with
  | nil => exact (hne rfl).elim
  | cons field fields ih =>
    obtain ⟨⟨hstarts, hread⟩, hall⟩ := List.forall_mem_cons.1 h
    obtain ⟨fuel, rfl⟩ := Nat.exists_eq_add_of_lt (show 0 < fuel by omega)
    rw [Nat.zero_add] at hf ⊢
    cases fields with
    | nil =>
      have hskip : skipBlanks (last ++ '\x7d' :: rest) = '\x7d' :: rest :=
        skipBlanks_append hlast (by simp [isBlank])
      simp only [List.map_cons, List.map_nil, Text.join, fieldText, List.length_append,
        List.length_cons] at hf
      have hv := hread _ fuel (ends_of_blank _ (Or.inr (Or.inr rfl)) hlast rest)
        (by simp only [List.length_append, List.length_cons]; omega)
      simp only [List.map_cons, List.map_nil, Text.join]
      rw [readFields_field hcolon hstarts hv, hskip]
      rfl
    | cons next fields =>
      obtain ⟨more, hmore, hjoin, hnext⟩ := join_next (fieldText colon write) hlead
        (fun field _ => starts_quote field.1 _) (List.cons_ne_nil next fields) field (last ++ '\x7d' :: rest)
      rw [hmore] at ih
      rw [hjoin] at hf ⊢
      simp only [fieldText, List.length_append, List.length_cons] at hf
      have hv := hread _ fuel (ends_of_blank [] (Or.inl rfl) (by simp) (lead ++ more))
        (by simp only [List.length_append, List.length_cons, List.nil_append]; omega)
      rw [List.nil_append] at hv
      rw [readFields_field hcolon hstarts hv, skipBlanks_mark (by decide)]
      change (readFields fuel (skipBlanks (lead ++ more)) >>= fun found =>
        pure ((field.1, field.2.sorted) :: found.1, found.2)) = _
      rw [hnext]
      exact bind_eq_ok.2 ⟨_, ih _ hall (by simp) (by omega), rfl⟩

/-! ## Values -/

theorem write_array (layout : Layout) (level : Nat) (items : List Json) :
    write layout level (.array items) =
      enclose layout level '[' ']' (items.map (write layout (level + 1))) := by
  rw [write, writeItems_eq]

theorem write_object (layout : Layout) (level : Nat) (fields : List (Text × Json)) :
    write layout level (.object fields) = enclose layout level '\x7b' '\x7d'
      ((sortFields fields).map (fieldText layout.afterColon (write layout (level + 1)))) := by
  rw [write, writeFields_eq, sortFields_map, List.map_map]
  congr 1
  apply List.map_congr_left
  intro field _
  simp [fieldText]

theorem reads_array (hb : layout.Blank) (level : Nat) {items : List Json}
    (h : ∀ item ∈ items, Reads (write layout (level + 1) item) item.sorted) :
    Reads (write layout level (.array items)) (Json.array items).sorted := by
  rw [write_array, sorted_array]
  unfold enclose
  by_cases hne : items = []
  · subst hne
    refine ⟨⟨'[', _, rfl, by decide, by decide, by decide, by decide⟩, fun rest fuel _ hf => ?_⟩
    obtain ⟨fuel, rfl⟩ := Nat.exists_eq_add_of_lt (show 0 < fuel by omega)
    rw [Nat.zero_add, readValue.eq_def]
    simp [skipBlanks_mark (c := ']') (by decide)]
  · rw [if_neg (by simpa using hne)]
    refine ⟨⟨'[', _, rfl, by decide, by decide, by decide, by decide⟩, fun rest fuel _ hf => ?_⟩
    obtain ⟨fuel, rfl⟩ := Nat.exists_eq_add_of_lt (show 0 < fuel by omega)
    have hjoin := starts_join (write layout (level + 1)) (',' :: layout.lead (level + 1))
      (fun item hm => (h item hm).1) hne
    have hskip := skipBlanks_starts (hb.lead (level + 1)) hjoin (layout.lead level ++ ']' :: rest)
    have hread := readItems_join fuel (hb.lead (level + 1)) (hb.lead level) h hne rest
      (by simp only [List.length_append, List.length_cons] at hf ⊢; omega)
    obtain ⟨c, tail, hc, -, hclose, -⟩ := hjoin
    simp only [List.cons_append, List.append_assoc, List.nil_append, Nat.zero_add]
    rw [readValue.eq_def]
    simp only [hskip]
    rw [hc, List.cons_append] at hread ⊢
    split
    · next heq => exact (hclose (List.cons.inj heq).1).elim
    · exact bind_eq_ok.2 ⟨_, hread, rfl⟩

theorem reads_object (hb : layout.Blank) (level : Nat) {fields : List (Text × Json)}
    (hn : (fields.map Prod.fst).Nodup)
    (h : ∀ field ∈ fields, Reads (write layout (level + 1) field.2) field.2.sorted) :
    Reads (write layout level (.object fields)) (Json.object fields).sorted := by
  have h : ∀ field ∈ sortFields fields, Reads (write layout (level + 1) field.2) field.2.sorted :=
    fun field hf => h field ((sortFields_perm fields).mem_iff.1 hf)
  have hn : ((sortFields fields).map Prod.fst).Nodup := nodup_sortFields hn
  rw [write_object, sorted_object, sortFields_map]
  generalize sortFields fields = fields at h hn ⊢
  unfold enclose
  by_cases hne : fields = []
  · subst hne
    refine ⟨⟨'\x7b', _, rfl, by decide, by decide, by decide, by decide⟩, fun rest fuel _ hf => ?_⟩
    obtain ⟨fuel, rfl⟩ := Nat.exists_eq_add_of_lt (show 0 < fuel by omega)
    rw [Nat.zero_add, readValue.eq_def]
    simp [skipBlanks_mark (c := '\x7d') (by decide)]
  · rw [if_neg (by simpa using hne)]
    refine ⟨⟨'\x7b', _, rfl, by decide, by decide, by decide, by decide⟩, fun rest fuel _ hf => ?_⟩
    obtain ⟨fuel, rfl⟩ := Nat.exists_eq_add_of_lt (show 0 < fuel by omega)
    have hjoin := starts_join (fieldText layout.afterColon (write layout (level + 1)))
      (',' :: layout.lead (level + 1)) (fun field _ => starts_quote field.1 _) hne
    have hskip := skipBlanks_starts (hb.lead (level + 1)) hjoin
      (layout.lead level ++ '\x7d' :: rest)
    have hread := readFields_join fuel (hb.lead (level + 1)) (hb.lead level)
      hb.afterColon h hne rest
      (by simp only [List.length_append, List.length_cons] at hf ⊢; omega)
    have htable : Table.ofPairs (fields.map fun field => (field.1, field.2.sorted)) =
        fields.map fun field => (field.1, field.2.sorted) :=
      Table.ofPairs_eq_self (by rwa [List.map_map])
    obtain ⟨c, tail, hc, -, -, hclose, -⟩ := hjoin
    simp only [List.cons_append, List.append_assoc, List.nil_append, Nat.zero_add]
    rw [readValue.eq_def]
    simp only [hskip]
    rw [hc, List.cons_append] at hread ⊢
    split
    · next heq => exact (hclose (List.cons.inj heq).1).elim
    · refine bind_eq_ok.2 ⟨_, hread, ?_⟩
      rw [htable]
      rfl

/-- A value is read from its text, with its fields in order. -/
theorem reads_write (hb : layout.Blank) {value : Json} (h : value.WellFormed) (level : Nat) :
    Reads (write layout level value) value.sorted := by
  induction h generalizing level with
  | null => exact reads_word (by simp [words, write, sorted])
  | bool b => cases b <;> exact reads_word (by simp [words, write, sorted])
  | int hn => exact reads_int hn
  | float hx => exact reads_float hx
  | string s => exact reads_string s
  | array _ ih => exact reads_array hb level fun item hm => ih item hm (level + 1)
  | object hn _ ih => exact reads_object hb level hn fun field hf => ih field hf (level + 1)

/-- Reading the text of a value gives the value with its fields in order. -/
theorem read_write (hb : layout.Blank) {value : Json} (h : value.WellFormed) :
    read (write layout 0 value) = .ok value.sorted := by
  obtain ⟨hstarts, hread⟩ := reads_write hb h 0
  have hv := hread [] (2 * (write layout 0 value).length + 1) (by simp [Ends]) (by simp)
  have hskip := skipBlanks_starts (show ∀ c ∈ ([] : Text), isBlank c = true by simp) hstarts []
  rw [List.append_nil] at hv
  rw [List.nil_append, List.append_nil] at hskip
  obtain ⟨c, rest, hc, -, -, -, hne⟩ := hstarts
  have hmark : (write layout 0 value).head? ≠ some byteOrderMark := by
    rw [hc]
    exact fun h => hne (Option.some.inj h)
  unfold read readWhole
  rw [if_neg hmark, hskip]
  exact bind_eq_ok.2 ⟨_, hv, rfl⟩

end NameSlots.Json
