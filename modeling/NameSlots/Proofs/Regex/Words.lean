import NameSlots.Proofs.Regex.Quoted
import NameSlots.Proofs.Regex.Ways

/-! What patterns of words match: one of the words, or one after another. -/
namespace NameSlots.Regex

/-- The spot after some more characters. -/
def Spot.advance (spot : Spot) (length : Nat) : Spot := { spot with pos := spot.pos + length }

variable {input word taken : Text} {words : List Text} {text : Array Char} {nodes : List Node}
  {spot next : Spot} {body : Ways} {fuel count : Nat} {start : Option Nat} {c : Char}

theorem advance_zero (spot : Spot) : spot.advance 0 = spot := rfl

theorem advance_advance (spot : Spot) (m n : Nat) :
    (spot.advance m).advance n = spot.advance (m + n) := by
  simp [Spot.advance, Nat.add_assoc]

theorem append_prefix_iff {rest : Text} :
    word ++ taken <+: rest ↔ word <+: rest ∧ taken <+: rest.drop word.length := by
  constructor
  · rintro ⟨tail, rfl⟩
    simp
  · rintro ⟨⟨tail, rfl⟩, h⟩
    rw [List.drop_left] at h
    exact (List.prefix_append_right_inj word).2 h

theorem ways_append (text : Array Char) (first second : List Node) (spot : Spot) :
    (Node.sequence (first ++ second)).ways text spot =
      ((Node.sequence first).ways text spot).flatMap ((Node.sequence second).ways text) := by
  induction first generalizing spot with
  | nil => simp [Node.sequence, Node.ways]
  | cons node first ih =>
    change (node.ways text spot).flatMap ((Node.sequence (first ++ second)).ways text) =
      ((node.ways text spot).flatMap ((Node.sequence first).ways text)).flatMap _
    rw [List.flatMap_assoc]
    exact congrArg (List.flatMap · (node.ways text spot)) (funext ih)

theorem ways_single (text : Array Char) (node : Node) (spot : Spot) :
    (Node.sequence [node]).ways text spot = node.ways text spot := by
  change (node.ways text spot).flatMap (fun spot => [spot]) = _
  simp

theorem mem_ways_char : next ∈ (Node.char c).ways input.toArray spot ↔
    input[spot.pos]? = some c ∧ next = spot.advance 1 := by
  simp only [Node.char, Node.ways, List.getElem?_toArray]
  cases hd : input[spot.pos]? with
  | none => simp
  | some d =>
    have hc : CharTest.holds {} (.code false c.toNat) d = true ↔ d = c := by
      rw [← Char.toNat_inj]
      simp [CharTest.holds]
    by_cases he : d = c
    · subst he
      simp [hc.2 rfl, Spot.advance]
    · simp [mt hc.1 he, he]

/-- A word is taken where it stands. -/
theorem mem_ways_word : next ∈ (Node.word word).ways input.toArray spot ↔
    word <+: input.drop spot.pos ∧ next = spot.advance word.length := by
  induction word generalizing spot with
  | nil => simp [Node.word, Node.sequence, Node.ways, advance_zero]
  | cons c word ih =>
    have hstep : next ∈ (Node.word (c :: word)).ways input.toArray spot ↔
        ∃ mid ∈ (Node.char c).ways input.toArray spot,
          next ∈ (Node.word word).ways input.toArray mid := List.mem_flatMap
    have hhead : input[spot.pos]? = some c ↔ [c] <+: input.drop spot.pos := by
      rw [List.prefix_iff_getElem?]
      simp
    rw [hstep, ← List.singleton_append, append_prefix_iff, ← hhead]
    constructor
    · rintro ⟨mid, hm, hn⟩
      obtain ⟨hc, rfl⟩ := mem_ways_char.1 hm
      obtain ⟨hw, rfl⟩ := ih.1 hn
      refine ⟨⟨hc, by simpa [Spot.advance] using hw⟩, ?_⟩
      rw [advance_advance, List.length_append, List.length_singleton]
    · rintro ⟨⟨hc, hw⟩, rfl⟩
      refine ⟨_, mem_ways_char.2 ⟨hc, rfl⟩, ih.2 ⟨by simpa [Spot.advance] using hw, ?_⟩⟩
      rw [advance_advance, List.length_append, List.length_singleton]

theorem mem_ways_choice (hn : nodes ≠ []) : next ∈ (Node.choice nodes).ways text spot ↔
    ∃ node ∈ nodes, next ∈ node.ways text spot := by
  induction nodes with
  | nil => exact (hn rfl).elim
  | cons node nodes ih =>
    cases nodes with
    | nil => simp [Node.choice]
    | cons node' nodes =>
      have hstep : next ∈ (Node.choice (node :: node' :: nodes)).ways text spot ↔
          next ∈ node.ways text spot ∨ next ∈ (Node.choice (node' :: nodes)).ways text spot :=
        List.mem_append
      rw [hstep, ih (by simp)]
      simp

/-- A choice of words takes one of them. -/
theorem mem_ways_words (hw : words ≠ []) :
    next ∈ (Node.choice (words.map .word)).ways input.toArray spot ↔
      ∃ word ∈ words, word <+: input.drop spot.pos ∧ next = spot.advance word.length := by
  rw [mem_ways_choice (by simpa using hw)]
  simp [mem_ways_word]

/-- Words one after the other from a spot on, up to the next spot. -/
def Chain (words : List Text) (input : Text) (spot next : Spot) (chain : List Text) : Prop :=
  (∀ word ∈ chain, word ∈ words) ∧ chain.flatten <+: input.drop spot.pos ∧
    next = spot.advance chain.flatten.length

theorem chain_nil : Chain words input spot next [] ↔ next = spot := by
  simp [Chain, advance_zero]

theorem chain_cons {chain : List Text} : Chain words input spot next (word :: chain) ↔
    (word ∈ words ∧ word <+: input.drop spot.pos) ∧
      Chain words input (spot.advance word.length) next chain := by
  simp only [Chain, List.forall_mem_cons, List.flatten_cons, append_prefix_iff, List.length_append,
    List.drop_drop, Spot.advance]
  grind

/-- A round takes a word, and the rounds after it take the rest of a chain. -/
theorem mem_round {more : Spot → List Spot} (hb : ∀ next, next ∈ body spot ↔
      ∃ word ∈ words, word <+: input.drop spot.pos ∧ next = spot.advance word.length)
    (hmore : ∀ word ∈ words, word <+: input.drop spot.pos → (next ∈ more (spot.advance word.length) ↔
      ∃ chain, Chain words input (spot.advance word.length) next chain)) :
    next ∈ (body spot).flatMap more ↔ ∃ word chain, Chain words input spot next (word :: chain) := by
  rw [List.mem_flatMap]
  constructor
  · rintro ⟨mid, hm, hnext⟩
    obtain ⟨word, hw, hp, rfl⟩ := (hb _).1 hm
    obtain ⟨chain, hc⟩ := (hmore word hw hp).1 hnext
    exact ⟨word, chain, chain_cons.2 ⟨⟨hw, hp⟩, hc⟩⟩
  · rintro ⟨word, chain, hc⟩
    obtain ⟨⟨hw, hp⟩, hc⟩ := chain_cons.1 hc
    exact ⟨_, (hb _).2 ⟨word, hw, hp, rfl⟩, (hmore word hw hp).2 ⟨chain, hc⟩⟩

/-- Rounds of words, each with a character at least, take all chains of them: neither the stop at an
empty round nor the fuel cuts one off. -/
theorem mem_ways_rounds (hn : ∀ word ∈ words, word ≠ [])
    (hb : ∀ spot next, next ∈ body spot ↔
      ∃ word ∈ words, word <+: input.drop spot.pos ∧ next = spot.advance word.length)
    (hs : ∀ pos ∈ start, pos < spot.pos) (hf : input.length - spot.pos < fuel) :
    next ∈ Ways.greedy body 1 none fuel count start spot ↔
      ∃ chain, (count = 0 → chain ≠ []) ∧ Chain words input spot next chain := by
  induction fuel generalizing count start spot with
  | zero => omega
  | succ fuel ih =>
    have hround {start : Option Nat} (hs : ∀ pos ∈ start, pos ≤ spot.pos) :
        next ∈ (body spot).flatMap (Ways.greedy body 1 none fuel (count + 1) start) ↔
          ∃ word chain, Chain words input spot next (word :: chain) := by
      refine mem_round (hb spot) fun word hw hp => ?_
      have hl := List.length_pos_iff.2 (hn word hw)
      have hr := hp.length_le
      rw [List.length_drop] at hr
      rw [ih]
      · simp
      · intro pos hpos
        have := hs pos hpos
        simp only [Spot.advance]
        omega
      · simp only [Spot.advance]
        omega
    unfold Ways.greedy
    by_cases hc : count < 1
    · rw [if_pos hc, hround fun pos hp => Nat.le_of_lt (hs pos hp)]
      constructor
      · rintro ⟨word, chain, h⟩
        exact ⟨word :: chain, by simp, h⟩
      · rintro ⟨chain, hne, h⟩
        obtain ⟨word, chain, rfl⟩ := List.exists_cons_of_ne_nil (hne (by omega))
        exact ⟨word, chain, h⟩
    · have hstart : (Matcher.mayRepeat none count && start != some spot.pos) = true := by
        have : start ≠ some spot.pos := by
          rintro rfl
          exact Nat.lt_irrefl _ (hs _ rfl)
        simpa [Matcher.mayRepeat] using this
      rw [if_neg hc, if_pos hstart, List.mem_append, List.mem_singleton,
        hround fun pos hp => Nat.le_of_eq (Option.some.inj hp).symm]
      constructor
      · rintro (⟨word, chain, h⟩ | h)
        · exact ⟨word :: chain, by simp, h⟩
        · exact ⟨[], by omega, chain_nil.2 h⟩
      · rintro ⟨chain, -, h⟩
        cases chain with
        | nil => exact Or.inr (chain_nil.1 h)
        | cons word chain => exact Or.inl ⟨word, chain, h⟩

end NameSlots.Regex
