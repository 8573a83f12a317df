import NameSlots.Regex.Matcher

/-! The ways of a pattern to match from a spot, as a list: backtracking finds the first of them
after which all that is left can be done. -/
namespace NameSlots.Regex

/-- The spots where matches from a spot end, in the order in which they are tried. -/
abbrev Ways := Spot → List Spot

namespace Ways

/-- The ways of rounds that are as many as possible first. -/
def greedy (body : Ways) (least : Nat) (most : Option Nat) :
    (fuel count : Nat) → (start : Option Nat) → Ways
  | 0, _, _, spot => [spot]
  | fuel + 1, count, start, spot =>
    if count < least then (body spot).flatMap (greedy body least most fuel (count + 1) start)
    else if Matcher.mayRepeat most count && start != some spot.pos then
      (body spot).flatMap (greedy body least most fuel (count + 1) (some spot.pos)) ++ [spot]
    else [spot]

/-- The ways of rounds that are as few as possible first. -/
def reluctant (body : Ways) (least : Nat) (most : Option Nat) :
    (fuel count : Nat) → (start : Option Nat) → Ways
  | 0, _, _, spot => [spot]
  | fuel + 1, count, start, spot =>
    if count < least then (body spot).flatMap (reluctant body least most fuel (count + 1) start)
    else if Matcher.mayRepeat most count && start != some spot.pos then
      spot :: (body spot).flatMap (reluctant body least most fuel (count + 1) (some spot.pos))
    else [spot]

/-- The one way of rounds that are never given back. -/
def possessive (body : Ways) (least : Nat) (most : Option Nat) :
    (fuel count : Nat) → (start : Option Nat) → Spot → Option Spot
  | 0, _, _, spot => some spot
  | fuel + 1, count, start, spot =>
    if count < least then
      (body spot).head?.bind (possessive body least most fuel (count + 1) start)
    else if Matcher.mayRepeat most count && start != some spot.pos then
      match (body spot).head? with
      | some next => possessive body least most fuel (count + 1) (some spot.pos) next
      | none => some spot
    else some spot

/-- Where a look around a place ends, if it was to find something (`negated` tells that it was not):
back at the place. -/
def look (negated : Bool) (spot : Spot) : Option Spot → List Spot
  | some found => if negated then [] else [{ found with pos := spot.pos }]
  | none => if negated then [spot] else []

end Ways

/-- The ways of a pattern on a text. -/
def Node.ways (text : Array Char) : Node → Ways
  | .empty => fun spot => [spot]
  | .seq a b => fun spot => (a.ways text spot).flatMap (b.ways text)
  | .alt a b => fun spot => a.ways text spot ++ b.ways text spot
  | .one flags test => fun spot =>
    match text[spot.pos]? with
    | some c => if test.holds flags c then [{ spot with pos := spot.pos + 1 }] else []
    | none => []
  | .anchor place => fun spot => if place.holds text spot.pos then [spot] else []
  | .capture group body => fun spot =>
    (body.ways text { spot with opened := (group, spot.pos) :: spot.opened }).map fun spot =>
      { spot with closed := (group, spot.pos) :: spot.closed }
  | .bracket body => body.ways text
  | .atomic body => fun spot => (body.ways text spot).head?.toList
  | .backref group flags => fun spot =>
    match spot.span? group with
    | some (first, last) =>
      if sameRun text flags first spot.pos (last - first) then
        [{ spot with pos := spot.pos + (last - first) }]
      else []
    | none => []
  | .conditional group yes no => fun spot =>
    if (spot.span? group).isSome then yes.ways text spot else no.ways text spot
  | .times greed least most body => fun spot =>
    let fuel := least + (text.size - spot.pos) + 2
    match greed with
    | .greedy => Ways.greedy (body.ways text) least most fuel 0 none spot
    | .reluctant => Ways.reluctant (body.ways text) least most fuel 0 none spot
    | .possessive => (Ways.possessive (body.ways text) least most fuel 0 none spot).toList
  | .ahead negated body => fun spot => Ways.look negated spot (body.ways text spot).head?
  | .behind negated width body => fun spot =>
    Ways.look negated spot (if width ≤ spot.pos then
      (body.ways text { spot with pos := spot.pos - width }).head? else none)

/-- A matcher finds the first of its ways after which all that is left can be done. -/
def Matcher.Tries (m : Matcher) (ways : Ways) : Prop :=
  ∀ spot rest, m spot rest = (ways spot).findSome? rest

variable {α β γ : Type} {a b body : Matcher} {as bs ways : Ways} {spot next found : Spot}
  {rest : Spot → Option Spot} {least : Nat} {most : Option Nat}

theorem findSome?_flatMap (f : α → List β) (g : β → Option γ) (items : List α) :
    (items.flatMap f).findSome? g = items.findSome? fun item => (f item).findSome? g := by
  induction items with
  | nil => rfl
  | cons item items ih =>
    rw [List.flatMap_cons, List.findSome?_append, ih, List.findSome?_cons]
    cases (f item).findSome? g <;> rfl

theorem tries_first (h : body.Tries ways) (spot : Spot) : body.first spot = (ways spot).head? := by
  rw [Matcher.first, h]
  cases ways spot <;> rfl

theorem tries_both (ha : a.Tries as) (hb : b.Tries bs) :
    (a.both b).Tries fun spot => (as spot).flatMap bs := by
  intro spot rest
  rw [findSome?_flatMap, Matcher.both, ha]
  exact congrArg (List.findSome? · (as spot)) (funext fun next => hb next rest)

theorem tries_either (ha : a.Tries as) (hb : b.Tries bs) :
    (a.either b).Tries fun spot => as spot ++ bs spot := by
  intro spot rest
  rw [List.findSome?_append, Matcher.either, ha, hb]
  cases (as spot).findSome? rest <;> rfl

theorem tries_onward (last : Option Spot) (rest : Spot → Option Spot) :
    Matcher.onward last rest = last.toList.findSome? rest := by
  cases last with
  | none => rfl
  | some spot => simp [Matcher.onward]

theorem tries_greedy (h : body.Tries ways) (fuel count : Nat) (start : Option Nat) :
    (body.greedy least most fuel count start).Tries
      (Ways.greedy ways least most fuel count start) := by
  induction fuel generalizing count start with
  | zero =>
    intro spot rest
    simp [Matcher.greedy, Ways.greedy]
  | succ fuel ih =>
    intro spot rest
    have hmore (start : Option Nat) : (body spot fun next =>
        body.greedy least most fuel (count + 1) start next rest) =
          ((ways spot).flatMap (Ways.greedy ways least most fuel (count + 1) start)).findSome?
            rest := tries_both h (ih (count + 1) start) spot rest
    unfold Matcher.greedy Ways.greedy
    split
    · exact hmore start
    · split
      · rw [hmore, List.findSome?_append]
        cases List.findSome? rest _ <;> simp
      · simp

theorem tries_reluctant (h : body.Tries ways) (fuel count : Nat) (start : Option Nat) :
    (body.reluctant least most fuel count start).Tries
      (Ways.reluctant ways least most fuel count start) := by
  induction fuel generalizing count start with
  | zero =>
    intro spot rest
    simp [Matcher.reluctant, Ways.reluctant]
  | succ fuel ih =>
    intro spot rest
    have hmore (start : Option Nat) : (body spot fun next =>
        body.reluctant least most fuel (count + 1) start next rest) =
          ((ways spot).flatMap (Ways.reluctant ways least most fuel (count + 1) start)).findSome?
            rest := tries_both h (ih (count + 1) start) spot rest
    unfold Matcher.reluctant Ways.reluctant
    split
    · exact hmore start
    · rw [hmore]
      by_cases hm : (Matcher.mayRepeat most count && start != some spot.pos) = true
      · rw [if_pos hm, if_pos hm, List.findSome?_cons]
        cases rest spot <;> rfl
      · rw [if_neg hm, if_neg hm]
        cases hr : rest spot <;> simp [hr]

theorem tries_possessive (h : body.Tries ways) (fuel count : Nat) (start : Option Nat)
    (spot : Spot) : body.possessive least most fuel count start spot =
      Ways.possessive ways least most fuel count start spot := by
  induction fuel generalizing count start spot with
  | zero => rfl
  | succ fuel ih =>
    unfold Matcher.possessive Ways.possessive
    rw [tries_first h]
    simp only [ih]
    split
    · cases (ways spot).head? <;> rfl
    · rfl

theorem tries_look (negated : Bool) (spot : Spot) (last : Option Spot)
    (rest : Spot → Option Spot) :
    (match last with
      | some found => if negated then none else rest { found with pos := spot.pos }
      | none => if negated then rest spot else none) =
      (Ways.look negated spot last).findSome? rest := by
  cases last <;> cases negated <;> simp [Ways.look]

/-- Backtracking with a continuation goes through the list of ways. -/
theorem matcher_tries (text : Array Char) (node : Node) :
    (node.matcher text).Tries (node.ways text) := by
  induction node with
  | empty =>
    intro spot rest
    simp [Node.matcher, Node.ways]
  | seq a b ha hb => exact tries_both ha hb
  | alt a b ha hb => exact tries_either ha hb
  | one flags test =>
    intro spot rest
    unfold Node.matcher Node.ways
    cases text[spot.pos]? with
    | none => rfl
    | some c => cases hc : test.holds flags c <;> simp [hc]
  | anchor place =>
    intro spot rest
    cases hp : place.holds text spot.pos <;> simp [Node.matcher, Node.ways, hp]
  | capture group body ih =>
    intro spot rest
    unfold Node.matcher Node.ways
    rw [ih, List.findSome?_map]
    rfl
  | bracket body ih => exact ih
  | atomic body ih =>
    intro spot rest
    unfold Node.matcher Node.ways
    rw [tries_onward, tries_first ih]
  | backref group flags =>
    intro spot rest
    unfold Node.matcher Node.ways
    cases spot.span? group with
    | none => rfl
    | some span =>
      cases hs : sameRun text flags span.1 spot.pos (span.2 - span.1) <;> simp [hs]
  | conditional group yes no hyes hno =>
    intro spot rest
    unfold Node.matcher Node.ways
    by_cases hg : (spot.span? group).isSome
    · simpa only [if_pos hg] using hyes spot rest
    · simpa only [if_neg hg] using hno spot rest
  | times greed least most body ih =>
    intro spot rest
    cases greed with
    | greedy => exact tries_greedy ih _ _ _ spot rest
    | reluctant => exact tries_reluctant ih _ _ _ spot rest
    | possessive =>
      unfold Node.matcher Node.ways
      simp only [tries_onward, tries_possessive ih]
  | ahead negated body ih =>
    intro spot rest
    simp only [Node.ways, ← tries_first ih]
    exact tries_look _ _ _ _
  | behind negated width body ih =>
    intro spot rest
    simp only [Node.ways, ← tries_first ih]
    exact tries_look _ _ _ _

/-- A text matches as a whole by the first way that ends at its end. -/
theorem fullMatch?_eq (node : Node) (text : Array Char) :
    fullMatch? node text =
      (node.ways text { pos := 0 }).find? fun spot => spot.pos = text.size := by
  rw [fullMatch?, matcher_tries]
  induction node.ways text { pos := 0 } with
  | nil => rfl
  | cons spot spots ih =>
    rw [List.findSome?_cons, List.find?_cons, ih]
    by_cases h : spot.pos = text.size <;> simp [h]

end NameSlots.Regex
