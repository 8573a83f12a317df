import NameSlots.Proofs.Regex.Reading
import NameSlots.Proofs.Regex.Ways

/-! A pattern goes to the right and opens and closes no groups but its own: what other groups took
stays as it is. -/
namespace NameSlots.Regex

/-- Places have been added for some groups only, the latest first. -/
def Adds (groups : List Nat) (earlier later : List (Nat × Nat)) : Prop :=
  ∃ more, later = more ++ earlier ∧ ∀ entry ∈ more, entry.1 ∈ groups

/-- How a spot may be after another, for a pattern with some groups. -/
structure Extends (groups : List Nat) (spot next : Spot) : Prop where
  pos : spot.pos ≤ next.pos
  opened : Adds groups spot.opened next.opened
  closed : Adds groups spot.closed next.closed

variable {groups groups' : List Nat} {earlier later last : List (Nat × Nat)}
  {spot mid next : Spot} {body : Ways} {least : Nat} {most : Option Nat} {group : Nat}

theorem adds_refl (groups : List Nat) (earlier : List (Nat × Nat)) :
    Adds groups earlier earlier := ⟨[], rfl, by simp⟩

theorem adds_trans (h : Adds groups earlier later) (h' : Adds groups later last) :
    Adds groups earlier last := by
  obtain ⟨more, rfl, hm⟩ := h
  obtain ⟨more', rfl, hm'⟩ := h'
  refine ⟨more' ++ more, by simp, ?_⟩
  intro entry he
  exact (List.mem_append.1 he).elim (hm' entry) (hm entry)

theorem adds_cons (pos : Nat) (hg : group ∈ groups) (h : Adds groups earlier later) :
    Adds groups earlier ((group, pos) :: later) := by
  obtain ⟨more, rfl, hm⟩ := h
  refine ⟨(group, pos) :: more, rfl, ?_⟩
  intro entry he
  obtain rfl | he := List.mem_cons.1 he
  · exact hg
  · exact hm entry he

theorem adds_mono (hs : groups ⊆ groups') (h : Adds groups earlier later) :
    Adds groups' earlier later := by
  obtain ⟨more, hl, hm⟩ := h
  exact ⟨more, hl, fun entry he => hs (hm entry he)⟩

theorem adds_lookup (hg : group ∉ groups) (h : Adds groups earlier later) :
    later.lookup group = earlier.lookup group := by
  obtain ⟨more, rfl, hm⟩ := h
  have hn : more.lookup group = none := by
    rw [List.lookup_eq_none_iff]
    intro entry he
    have : entry.1 ≠ group := fun hc => hg (hc ▸ hm entry he)
    simpa using this.symm
  simp [List.lookup_append, hn]

theorem extends_refl (groups : List Nat) (spot : Spot) : Extends groups spot spot :=
  ⟨Nat.le_refl _, adds_refl _ _, adds_refl _ _⟩

theorem extends_trans (h : Extends groups spot mid) (h' : Extends groups mid next) :
    Extends groups spot next :=
  ⟨Nat.le_trans h.pos h'.pos, adds_trans h.opened h'.opened, adds_trans h.closed h'.closed⟩

theorem extends_mono (hs : groups ⊆ groups') (h : Extends groups spot next) :
    Extends groups' spot next :=
  ⟨h.pos, adds_mono hs h.opened, adds_mono hs h.closed⟩

/-- What a group took is still there after a pattern without the group. -/
theorem extends_span? (hg : group ∉ groups) (h : Extends groups spot next) :
    next.span? group = spot.span? group := by
  rw [Spot.span?, Spot.span?, adds_lookup hg h.opened, adds_lookup hg h.closed]

/-- A way after another. -/
theorem flatMap_extends {more : Ways} (hb : ∀ next ∈ body spot, Extends groups spot next)
    (hm : ∀ mid, ∀ next ∈ more mid, Extends groups mid next)
    (h : next ∈ (body spot).flatMap more) : Extends groups spot next := by
  obtain ⟨mid, hmid, hn⟩ := List.mem_flatMap.1 h
  exact extends_trans (hb mid hmid) (hm mid next hn)

theorem greedy_extends (hb : ∀ spot, ∀ next ∈ body spot, Extends groups spot next)
    {fuel count : Nat} {start : Option Nat}
    (h : next ∈ Ways.greedy body least most fuel count start spot) : Extends groups spot next := by
  induction fuel generalizing count start spot next with
  | zero =>
    obtain rfl := List.mem_singleton.1 h
    exact extends_refl _ _
  | succ fuel ih =>
    have hround {start : Option Nat} (h : next ∈ (body spot).flatMap
        (Ways.greedy body least most fuel (count + 1) start)) : Extends groups spot next :=
      flatMap_extends (hb spot) (fun _ _ hn => ih hn) h
    unfold Ways.greedy at h
    split at h
    · exact hround h
    · split at h
      · obtain h | h := List.mem_append.1 h
        · exact hround h
        · obtain rfl := List.mem_singleton.1 h
          exact extends_refl _ _
      · obtain rfl := List.mem_singleton.1 h
        exact extends_refl _ _

theorem reluctant_extends (hb : ∀ spot, ∀ next ∈ body spot, Extends groups spot next)
    {fuel count : Nat} {start : Option Nat}
    (h : next ∈ Ways.reluctant body least most fuel count start spot) :
    Extends groups spot next := by
  induction fuel generalizing count start spot next with
  | zero =>
    obtain rfl := List.mem_singleton.1 h
    exact extends_refl _ _
  | succ fuel ih =>
    have hround {start : Option Nat} (h : next ∈ (body spot).flatMap
        (Ways.reluctant body least most fuel (count + 1) start)) : Extends groups spot next :=
      flatMap_extends (hb spot) (fun _ _ hn => ih hn) h
    unfold Ways.reluctant at h
    split at h
    · exact hround h
    · split at h
      · obtain rfl | h := List.mem_cons.1 h
        · exact extends_refl _ _
        · exact hround h
      · obtain rfl := List.mem_singleton.1 h
        exact extends_refl _ _

theorem possessive_extends (hb : ∀ spot, ∀ next ∈ body spot, Extends groups spot next)
    {fuel count : Nat} {start : Option Nat}
    (h : Ways.possessive body least most fuel count start spot = some next) :
    Extends groups spot next := by
  induction fuel generalizing count start spot with
  | zero =>
    obtain rfl := Option.some.inj h
    exact extends_refl _ _
  | succ fuel ih =>
    unfold Ways.possessive at h
    split at h
    · obtain ⟨mid, hm, hn⟩ := Option.bind_eq_some_iff.1 h
      exact extends_trans (hb spot mid (List.mem_of_head? hm)) (ih hn)
    · split at h
      · split at h
        · next mid hm => exact extends_trans (hb spot mid (List.mem_of_head? hm)) (ih h)
        · obtain rfl := Option.some.inj h
          exact extends_refl _ _
      · obtain rfl := Option.some.inj h
        exact extends_refl _ _

theorem look_extends {negated : Bool} {last : Option Spot}
    (hl : ∀ found ∈ last, Adds groups spot.opened found.opened ∧
      Adds groups spot.closed found.closed)
    (h : next ∈ Ways.look negated spot last) : Extends groups spot next := by
  cases last with
  | none =>
    cases negated with
    | false => simp [Ways.look] at h
    | true =>
      obtain rfl := List.mem_singleton.1 h
      exact extends_refl _ _
  | some found =>
    cases negated with
    | true => simp [Ways.look] at h
    | false =>
      obtain rfl := List.mem_singleton.1 h
      obtain ⟨ho, hc⟩ := hl found rfl
      exact ⟨Nat.le_refl _, ho, hc⟩

/-- Every way of a pattern goes to the right and touches only the groups that the pattern captures.
-/
theorem ways_extends {text : Array Char} {node : Node} (h : next ∈ node.ways text spot) :
    Extends node.captures spot next := by
  induction node generalizing spot next with
  | empty =>
    obtain rfl := List.mem_singleton.1 h
    exact extends_refl _ _
  | seq a b ha hb =>
    refine flatMap_extends (fun mid hm => ?_) (fun mid next hn => ?_) h
    · exact extends_mono (List.subset_append_left _ _) (ha hm)
    · exact extends_mono (List.subset_append_right _ _) (hb hn)
  | alt a b ha hb =>
    obtain h | h := List.mem_append.1 h
    · exact extends_mono (List.subset_append_left _ _) (ha h)
    · exact extends_mono (List.subset_append_right _ _) (hb h)
  | one flags test =>
    simp only [Node.ways] at h
    split at h
    · split at h
      · obtain rfl := List.mem_singleton.1 h
        exact ⟨Nat.le_succ _, adds_refl _ _, adds_refl _ _⟩
      · simp at h
    · simp at h
  | anchor place =>
    simp only [Node.ways] at h
    split at h
    · obtain rfl := List.mem_singleton.1 h
      exact extends_refl _ _
    · simp at h
  | capture group body ih =>
    obtain ⟨last, hl, rfl⟩ := List.mem_map.1 h
    have hi := extends_mono (List.subset_cons_self group _) (ih hl)
    refine ⟨hi.pos, ?_, adds_cons _ (List.mem_cons_self ..) hi.closed⟩
    exact adds_trans (adds_cons _ (List.mem_cons_self ..) (adds_refl _ _)) hi.opened
  | bracket body ih => exact ih h
  | atomic body ih => exact ih (List.mem_of_head? (Option.mem_toList.1 h))
  | backref group flags =>
    simp only [Node.ways] at h
    split at h
    · split at h
      · obtain rfl := List.mem_singleton.1 h
        exact ⟨Nat.le_add_right _ _, adds_refl _ _, adds_refl _ _⟩
      · simp at h
    · simp at h
  | conditional group yes no hyes hno =>
    simp only [Node.ways] at h
    split at h
    · exact extends_mono (List.subset_append_left _ _) (hyes h)
    · exact extends_mono (List.subset_append_right _ _) (hno h)
  | times greed least most body ih =>
    cases greed with
    | greedy => exact greedy_extends (fun _ _ hn => ih hn) h
    | reluctant => exact reluctant_extends (fun _ _ hn => ih hn) h
    | possessive => exact possessive_extends (fun _ _ hn => ih hn) (Option.mem_toList.1 h)
  | ahead negated body ih =>
    refine look_extends ?_ h
    intro found hf
    have hi := ih (List.mem_of_head? hf)
    exact ⟨hi.opened, hi.closed⟩
  | behind negated width body ih =>
    refine look_extends ?_ h
    intro found hf
    split at hf
    · have hi := ih (List.mem_of_head? hf)
      exact ⟨hi.opened, hi.closed⟩
    · simp at hf

/-- What parentheses took stays theirs through everything that follows without their group. -/
theorem capture_span? {text : Array Char} {node : Node}
    (h : next ∈ (Node.capture group node).ways text spot) (hg : group ∉ node.captures) :
    next.span? group = some (spot.pos, next.pos) := by
  obtain ⟨last, hl, rfl⟩ := List.mem_map.1 h
  have hi := ways_extends hl
  have ho : last.opened.lookup group = some spot.pos := by
    simpa using adds_lookup hg hi.opened
  have hp : spot.pos ≤ last.pos := hi.pos
  simp [Spot.span?, ho, hp]

end NameSlots.Regex
