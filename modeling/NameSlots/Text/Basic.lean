/-! Texts as lists of code points: every length, cut and order counts code points. -/

namespace NameSlots

/-- A text, code point by code point. -/
abbrev Text := List Char

namespace Text

/-- Texts that compare as equal are the same. -/
instance : LawfulBEq Text := inferInstance

/-- Code-point order. -/
def le : Text → Text → Bool
  | [], _ => true
  | _ :: _, [] => false
  | a :: s, b :: t => a.toNat < b.toNat || (a == b && le s t)

theorem le_refl (s : Text) : le s s = true := by
  induction s with
  | nil => rfl
  | cons a s ih => simp [le, ih]

theorem le_total (s t : Text) : (le s t || le t s) = true := by
  induction s generalizing t with
  | nil => simp [le]
  | cons a s ih =>
    cases t with
    | nil => simp [le]
    | cons b t =>
      rcases Nat.lt_trichotomy a.toNat b.toNat with h | h | h
      · simp [le, h]
      · have hab : a = b := Char.ext (UInt32.toNat_inj.mp h)
        subst hab
        simpa [le] using ih t
      · simp [le, h]

/-- What follows `front`, if the text starts with it. -/
def dropFront? : (front : Text) → Text → Option Text
  | [], t => some t
  | _ :: _, [] => none
  | a :: s, b :: t => if a = b then dropFront? s t else none

theorem dropFront?_eq_some_iff {front t rest : Text} :
    dropFront? front t = some rest ↔ t = front ++ rest := by
  induction front generalizing t with
  | nil => simp [dropFront?, eq_comm]
  | cons a s ih =>
    cases t with
    | nil => simp [dropFront?]
    | cons b t =>
      by_cases h : a = b
      · simp [dropFront?, h, ih]
      · simp [dropFront?, h, Ne.symm h]

/-- Texts one after the other with a separator between them. -/
def join (separator : Text) : List Text → Text
  | [] => []
  | [t] => t
  | t :: rest => t ++ separator ++ join separator rest

/-- The text cut at every `mark`; never empty. -/
def splitAll (mark : Char) : Text → List Text
  | [] => [[]]
  | c :: t =>
    if c = mark then [] :: splitAll mark t
    else match splitAll mark t with
      | [] => [[c]]
      | piece :: rest => (c :: piece) :: rest

/-- The part of a text before the first `mark`, and the part after it if there is one. -/
def splitFirst (mark : Char) (t : Text) : Text × Option Text :=
  (t.takeWhile (· ≠ mark), (t.dropWhile (· ≠ mark)).tail?)

/-- Blanks after a text up to a width. -/
def padRight (width : Nat) (t : Text) : Text := t ++ List.replicate (width - t.length) ' '

/-- Blanks before a text up to a width. -/
def padLeft (width : Nat) (t : Text) : Text := List.replicate (width - t.length) ' ' ++ t

/-- The text without the characters of a kind at its ends. -/
def trimWhere (drop : Char → Bool) (t : Text) : Text :=
  ((t.dropWhile drop).reverse.dropWhile drop).reverse

/-- A number in decimal. -/
def ofNat (n : Nat) : Text := Nat.toDigits 10 n

/-- A whole number in decimal, with a minus sign before it where it is negative. -/
def ofInt : Int → Text
  | .ofNat n => ofNat n
  | .negSucc n => '-' :: ofNat (n + 1)

end Text

end NameSlots
