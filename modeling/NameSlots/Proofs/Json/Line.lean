import NameSlots.Proofs.Json.Writing

/-! JSON text on one line is one line: it has no control characters, and nothing but visible ASCII
where its strings have nothing else. -/
namespace NameSlots

/-- A text all of whose characters have a property. -/
def Text.Over (P : Char → Prop) (t : Text) : Prop := ∀ c ∈ t, P c

/-- A text without control characters. -/
def Text.Printable (t : Text) : Prop := t.Over (' ' ≤ ·)

/-- A text of blanks and visible ASCII characters. -/
def Text.Plain (t : Text) : Prop := t.Over fun c => ' ' ≤ c ∧ c ≤ '~'

namespace Text

variable {s t separator : Text} {c : Char} {P Q : Char → Prop}

@[simp] theorem over_nil : Over P [] := by simp [Over]

@[simp] theorem over_cons : Over P (c :: t) ↔ P c ∧ Over P t := List.forall_mem_cons

@[simp] theorem over_append : Over P (s ++ t) ↔ Over P s ∧ Over P t := by
  simp only [Over, List.mem_append, or_imp, forall_and]

theorem Over.of_subset (h : Over P t) (hs : s ⊆ t) : Over P s := fun c hc => h c (hs hc)

theorem Over.mono (h : Over P t) (hp : ∀ c, P c → Q c) : Over Q t := fun c hc => hp c (h c hc)

theorem over_flatMap {α : Type} {items : List α} {f : α → Text} :
    Over P (items.flatMap f) ↔ ∀ item ∈ items, Over P (f item) := List.forall_mem_flatMap

theorem over_join {texts : List Text} (hs : Over P separator) :
    Over P (join separator texts) ↔ ∀ t ∈ texts, Over P t := by
  induction texts with
  | nil => simp [join]
  | cons t texts ih =>
    rw [List.forall_mem_cons]
    cases texts with
    | nil => simp [join]
    | cons next texts => rw [join, over_append, over_append, and_iff_left hs, ih]; simp

theorem plain_of_all (h : t.all (fun c => ' ' ≤ c && c ≤ '~') = true) : Plain t := by
  intro c hc
  simpa using List.all_eq_true.1 h c hc

theorem plain_digits (h : ∀ c ∈ t, c.isDigit = true) : Plain t := by
  intro c hc
  have hd := h c hc
  simp only [Char.isDigit, Bool.and_eq_true, decide_eq_true_eq, UInt32.le_iff_toNat_le] at hd
  simp only [Char.le_def, UInt32.le_iff_toNat_le]
  exact ⟨Nat.le_trans (by decide) hd.1, Nat.le_trans hd.2 (by decide)⟩

theorem plain_ofNat (n : Nat) : Plain (ofNat n) := plain_digits (isDigit_ofNat n)

theorem plain_zeros (n : Nat) : Plain (List.replicate n '0') := by
  intro c hc
  rw [List.eq_of_mem_replicate hc]
  decide

theorem plain_ofInt (n : Int) : Plain (ofInt n) := by
  cases n with
  | ofNat n => exact plain_ofNat n
  | negSucc n => exact over_cons.2 ⟨by decide, plain_ofNat _⟩

theorem plain_hexDigits (count n : Nat) : Plain (hexDigits count n) := by
  induction count generalizing n with
  | zero => exact over_nil
  | succ count ih =>
    refine over_append.2 ⟨ih _, over_cons.2 ⟨?_, over_nil⟩⟩
    have hdigit : ∀ k < 16, ' ' ≤ hexDigit k ∧ hexDigit k ≤ '~' := by decide
    exact hdigit _ (Nat.mod_lt _ (by decide))

end Text

namespace Double

open Text

variable {digits : Text}

theorem plain_positional (h : Plain digits) (place : Int) : Plain (positional digits place) := by
  unfold positional
  split
  · exact over_append.2 ⟨over_append.2 ⟨by simp [Over], plain_zeros _⟩, h⟩
  · split
    · exact over_append.2 ⟨over_append.2 ⟨h, plain_zeros _⟩, by simp [Over]⟩
    · refine over_append.2 ⟨h.of_subset (List.take_subset _ _), over_cons.2 ⟨by decide, ?_⟩⟩
      exact h.of_subset (List.drop_subset _ _)

theorem plain_scientific (h : Plain digits) (place : Int) : Plain (scientific digits place) := by
  have htail {tail : Text} (ht : tail = [] ∨ tail = '.' :: digits.drop 1) : Plain tail := by
    rcases ht with rfl | rfl
    · exact over_nil
    · exact over_cons.2 ⟨by decide, h.of_subset (List.drop_subset _ _)⟩
  have hsign : Plain ['e', if place - 1 < 0 then '-' else '+'] := by
    split <;> simp [Plain, Over]
  refine over_append.2 ⟨over_append.2 ⟨over_append.2 ⟨over_append.2
    ⟨h.of_subset (List.take_subset _ _), htail ?_⟩, hsign⟩, plain_zeros _⟩, plain_ofNat _⟩
  split
  · exact .inl rfl
  · exact .inr rfl

theorem plain_sizeText (x : Double) (units : Nat) : Plain (x.sizeText units) := by
  unfold sizeText
  split
  · simp [Plain, Over]
  · generalize shortestFrom x units (pointPlace units) mostDigits 1 = found
    have hdigits : Plain (trimZeros (Text.ofNat found.1)) := by
      obtain ⟨zeros, hz⟩ := Json.trimZeros_spec (Text.ofNat found.1)
      have hall := plain_ofNat found.1
      rw [hz] at hall
      exact (over_append.1 hall).1
    obtain ⟨number, power⟩ := found
    dsimp only at hdigits ⊢
    split
    · exact plain_positional hdigits _
    · exact plain_scientific hdigits _

end Double

namespace Json

open Text

variable {P : Char → Prop} {fields : List (Text × Json)}

theorem plain_floatText (x : Double) : Plain (floatText x) := by
  cases x with
  | nan => simp [floatText, Plain, Over]
  | infinite negative => cases negative <;> simp [floatText, Plain, Over]
  | finite negative m e =>
    have hsize := Double.plain_sizeText (.finite negative m e) (m * Nat.pow 2 e)
    rw [floatText, Double.toText]
    · split
      · exact over_cons.2 ⟨by decide, hsize⟩
      · exact hsize
    · simp
    · simp

/-- A character is escaped by visible ones, or stands for itself. -/
theorem over_escape (hp : ∀ c, ' ' ≤ c → c ≤ '~' → P c) {c : Char} :
    Over P (escape c) ↔ (' ' ≤ c → P c) := by
  have hplain {t : Text} (h : Plain t) : Over P t := h.mono fun c h => hp c h.1 h.2
  unfold escape
  split
  any_goals
    refine iff_of_true (hplain ?_) fun hlow => hp _ hlow (by decide)
    simp only [Plain, over_cons, over_nil]
    decide
  split
  · next hlt =>
    refine iff_of_true (hplain ?_) fun hlow => absurd hlt (Char.not_lt.2 hlow)
    exact over_cons.2 ⟨by decide, over_cons.2 ⟨by decide, plain_hexDigits _ _⟩⟩
  · next hlt => simp [Char.not_lt.1 hlt]

theorem over_quote (hp : ∀ c, ' ' ≤ c → c ≤ '~' → P c) {s : Text} :
    Over P (quote s) ↔ ∀ c ∈ s, ' ' ≤ c → P c := by
  have hmark : P '"' := hp _ (by decide) (by decide)
  simp [quote, hmark, over_flatMap, over_escape hp]

theorem over_enclose (hp : ∀ c, ' ' ≤ c → c ≤ '~' → P c) {first last : Char} {items : List Text}
    (level : Nat) (hf : P first) (hl : P last) :
    Over P (enclose .compact level first last items) ↔ ∀ item ∈ items, Over P item := by
  have hjoin : Over P (Text.join [','] items) ↔ ∀ item ∈ items, Over P item :=
    over_join (over_cons.2 ⟨hp _ (by decide) (by decide), over_nil⟩)
  unfold enclose
  split
  · next hempty => simp [List.isEmpty_iff.1 hempty, hf, hl]
  · simp [Layout.compact, hf, hl, hjoin]

theorem over_object (hp : ∀ c, ' ' ≤ c → c ≤ '~' → P c) (level : Nat) :
    Over P (write .compact level (.object fields)) ↔ ∀ field ∈ fields,
      (∀ c ∈ field.1, ' ' ≤ c → P c) ∧ Over P (write .compact (level + 1) field.2) := by
  have hcolon : P ':' := hp _ (by decide) (by decide)
  have hfield (field : Text × Json) :
      Over P (fieldText Layout.compact.afterColon (write .compact (level + 1)) field) ↔
        (∀ c ∈ field.1, ' ' ≤ c → P c) ∧ Over P (write .compact (level + 1) field.2) := by
    simp [fieldText, over_quote hp, Layout.compact, hcolon]
  rw [write_object, over_enclose hp level (hp _ (by decide) (by decide)) (hp _ (by decide) (by decide)),
    List.forall_mem_map]
  simp only [(sortFields_perm fields).mem_iff, hfield]

/-- Every name and every string in a value has a property. -/
inductive Strings (P : Text → Prop) : Json → Prop where
  | null : Strings P .null
  | bool (b : Bool) : Strings P (.bool b)
  | int (n : Int) : Strings P (.int n)
  | float (x : Double) : Strings P (.float x)
  | string {s : Text} : P s → Strings P (.string s)
  | array {items : List Json} : (∀ item ∈ items, Strings P item) → Strings P (.array items)
  | object {fields : List (Text × Json)} : (∀ field ∈ fields, P field.1) →
      (∀ field ∈ fields, Strings P field.2) → Strings P (.object fields)

/-- What visible ASCII characters have, the text of a value on one line has just where its strings have
it, control characters in them apart. -/
theorem over_write (hp : ∀ c, ' ' ≤ c → c ≤ '~' → P c) (value : Json) (level : Nat) :
    Over P (write .compact level value) ↔ value.Strings fun s => ∀ c ∈ s, ' ' ≤ c → P c := by
  have hplain {t : Text} (h : Plain t) : Over P t := h.mono fun c h => hp c h.1 h.2
  have hmark {c : Char} (h : ' ' ≤ c ∧ c ≤ '~') : P c := hp c h.1 h.2
  induction value using induct generalizing level with
  | null => exact iff_of_true (hplain (plain_of_all rfl)) .null
  | bool b => exact iff_of_true (hplain (by cases b <;> exact plain_of_all rfl)) (.bool b)
  | int n => exact iff_of_true (hplain (plain_ofInt n)) (.int n)
  | float x => exact iff_of_true (hplain (plain_floatText x)) (.float x)
  | string s =>
    refine (over_quote hp).trans ⟨fun h => .string h, ?_⟩
    rintro (_ | _ | _ | _ | h)
    exact h
  | array items ih =>
    rw [write_array, over_enclose hp level (hmark (by decide)) (hmark (by decide)), List.forall_mem_map]
    constructor
    · exact fun h => .array fun item hm => (ih item hm _).1 (h item hm)
    · rintro (_ | _ | _ | _ | _ | h)
      exact fun item hm => (ih item hm _).2 (h item hm)
  | object fields ih =>
    rw [over_object hp]
    constructor
    · intro h
      exact .object (fun field hm => (h field hm).1) fun field hm => (ih field hm _).1 (h field hm).2
    · rintro (_ | _ | _ | _ | _ | _ | ⟨hnames, hvalues⟩)
      exact fun field hm => ⟨hnames field hm, (ih field hm _).2 (hvalues field hm)⟩

theorem strings_of_forall {P : Text → Prop} (hp : ∀ s, P s) (value : Json) : value.Strings P := by
  induction value using induct with
  | null => exact .null
  | bool b => exact .bool b
  | int n => exact .int n
  | float x => exact .float x
  | string s => exact .string (hp s)
  | array items ih => exact .array ih
  | object fields ih => exact .object (fun field _ => hp field.1) ih

/-- The text of a value on one line has no control characters. -/
theorem printable_compact (value : Json) : Printable value.compact :=
  (over_write (fun _ hlow _ => hlow) value 0).2 (strings_of_forall (fun _ _ _ hlow => hlow) value)

theorem compact_object (fields : List (Text × Json)) :
    ∃ middle, (Json.object fields).compact = '\x7b' :: middle ++ ['\x7d'] := by
  rw [compact, write_object, enclose]
  split
  · exact ⟨[], rfl⟩
  · exact ⟨_, rfl⟩

end Json

end NameSlots
