import NameSlots.Key.Match
import NameSlots.Proofs.Key.Source
import NameSlots.Proofs.Names.Lookup
import NameSlots.Proofs.Regex.Alike
import NameSlots.Proofs.Regex.Words

/-! The order of the mapped keys and keys that are mapped again change nothing about what matches:
words that stand at one place and are equally long are equal, so that a slot tries the same words in
the same order, under any pattern around it. -/
namespace NameSlots.Key

open Regex

/-- The same keys, empty ones apart. -/
def SameKeys (keys keys' : List Text) : Prop := ∀ key, key ≠ [] → (key ∈ keys ↔ key ∈ keys')

variable {keys keys' words : List Text} {a b : Reading} {segments : List Segment} {group : Nat}
  {made made' : Draft} {table table' : List Mapping} {mode : SlotMode}

theorem mem_ordered_iff (h : SameKeys keys keys') (key : Text) :
    key ∈ ordered keys ↔ key ∈ ordered keys' := by
  rw [mem_ordered, mem_ordered]
  constructor
  · rintro ⟨hm, hk⟩
    exact ⟨(h key hk).1 hm, hk⟩
  · rintro ⟨hm, hk⟩
    exact ⟨(h key hk).2 hm, hk⟩

/-! ## Words -/

/-- Where words that do not fail are equal as soon as they are equally long, the longest of these
comes first. -/
theorem findSome?_eq_some_longest {α : Type} {f : Text → Option α} {found : α}
    (hs : words.Pairwise fun a b => b.length ≤ a.length)
    (hf : ∀ a b, f a ≠ none → f b ≠ none → a.length = b.length → a = b) :
    words.findSome? f = some found ↔
      ∃ word ∈ words, f word = some found ∧
        ∀ other ∈ words, word.length < other.length → f other = none := by
  induction words with
  | nil => simp
  | cons word words ih =>
    obtain ⟨hle, hs⟩ := List.pairwise_cons.1 hs
    rw [List.findSome?_cons]
    cases hw : f word with
    | none =>
      simp only [ih hs, List.exists_mem_cons_iff, hw, List.forall_mem_cons]
      simp
    | some first =>
      simp only [List.exists_mem_cons_iff, hw, List.forall_mem_cons]
      constructor
      · intro he
        exact Or.inl ⟨he, fun hl => absurd hl (Nat.lt_irrefl _),
          fun other ho hl => absurd hl (Nat.not_lt.2 (hle other ho))⟩
      · rintro (⟨he, -⟩ | ⟨other, ho, he, hlong, -⟩)
        · exact he
        · rcases Nat.lt_or_ge other.length word.length with hl | hl
          · cases hlong hl
          · obtain rfl := hf word other (by simp [hw]) (by simp [he])
              (Nat.le_antisymm hl (hle other ho))
            rw [← he, hw]

theorem ways_choice {nodes : List Node} (hn : nodes ≠ []) (text : Array Char) (spot : Spot) :
    (Node.choice nodes).ways text spot = nodes.flatMap fun node => node.ways text spot := by
  induction nodes with
  | nil => exact (hn rfl).elim
  | cons node nodes ih =>
    cases nodes with
    | nil => simp [Node.choice]
    | cons node' nodes => exact congrArg (node.ways text spot ++ ·) (ih (by simp))

theorem matcher_words (hw : words ≠ []) (hs : words.Pairwise fun a b => b.length ≤ a.length)
    (input : Text) (spot found : Spot) (rest : Spot → Option Spot) :
    (Node.choice (words.map .word)).matcher input.toArray spot rest = some found ↔
      ∃ word ∈ words, ((Node.word word).ways input.toArray spot).findSome? rest = some found ∧
        ∀ other ∈ words, word.length < other.length →
          ((Node.word other).ways input.toArray spot).findSome? rest = none := by
  rw [matcher_tries, ways_choice (by simpa using hw), List.flatMap_map, findSome?_flatMap]
  apply findSome?_eq_some_longest hs
  -- words that stand at the spot are the starts of one text
  have hfront (word : Text)
      (h : ((Node.word word).ways input.toArray spot).findSome? rest ≠ none) :
      word <+: input.drop spot.pos := by
    obtain ⟨found, hf⟩ := Option.ne_none_iff_exists'.1 h
    obtain ⟨next, hm, -⟩ := List.exists_of_findSome?_eq_some hf
    exact (mem_ways_word.1 hm).1
  intro word other hword hother hlength
  exact (List.prefix_of_prefix_length_le (hfront word hword) (hfront other hother)
    (Nat.le_of_eq hlength)).eq_of_length hlength

theorem isAnchor_words (words : List Text) :
    (Node.choice (words.map .word)).isAnchor = false ∧
      (Node.choice (words.map .word)).isTimes = false := by
  rcases words with _ | ⟨_ | ⟨c, text⟩, _ | ⟨word', words⟩⟩ <;> exact ⟨rfl, rfl⟩

theorem words_alike (h : SameKeys keys keys') (hk : ordered keys ≠ []) (hk' : ordered keys' ≠ []) :
    (Node.choice ((ordered keys).map .word)).Alike (.choice ((ordered keys').map .word)) := by
  obtain ⟨hanchor, htimes⟩ := isAnchor_words (ordered keys)
  obtain ⟨hanchor', htimes'⟩ := isAnchor_words (ordered keys')
  refine ⟨fun text => ?_, hanchor.trans hanchor'.symm, htimes.trans htimes'.symm⟩
  funext spot rest
  apply Option.ext
  intro found
  have htext : text.toList.toArray = text := Array.toArray_toList
  rw [← htext, matcher_words hk (longestFirst_pairwise id keys),
    matcher_words hk' (longestFirst_pairwise id keys')]
  simp only [mem_ordered_iff h]

theorem slotNode_alike (h : SameKeys keys keys') (hk : ordered keys ≠ [])
    (hk' : ordered keys' ≠ []) (which : Slot) :
    (slotNode keys which).Alike (slotNode keys' which) := by
  have hwords := words_alike h hk hk'
  cases which with
  | single => exact hwords
  | several =>
    have hbracket : (Node.bracket (.choice ((ordered keys).map .word))).Alike
        (.bracket (.choice ((ordered keys').map .word))) := by
      refine ⟨fun text => ?_, rfl, rfl⟩
      simp only [Node.matcher, hwords.matcher]
    exact sequence_alike (.cons (times_alike hbracket .greedy 1 none) .nil)

/-! ## Reading -/

theorem openNext_alike (h : a.Alike b) : a.openNext.Alike b.openNext := by
  unfold Reading.openNext
  rw [h.groups]
  exact openFrame_alike (setGroups_alike h _) _ _

theorem pushCapture_alike {m n : Node} (h : a.Alike b) (hn : m.Alike n) (group : Nat)
    (width : Width) : (a.pushCapture group m width).Alike (b.pushCapture group n width) := by
  have hcapture : (Node.capture group m).Alike (.capture group n) := by
    refine ⟨fun text => ?_, rfl, rfl⟩
    simp only [Node.matcher, hn.matcher]
  exact ⟨push_alike h.top ⟨hcapture, rfl⟩, h.below,
    congrArg (fun groups : Groups => { groups with
      count := group, closed := (group, width) :: groups.closed }) h.groups, h.global, h.late⟩

theorem pushAll_alike (h : a.Alike b) (pieces : List Piece) :
    (a.pushAll pieces).Alike (b.pushAll pieces) := by
  have hsame : List.Forall₂ Piece.Alike pieces.reverse pieces.reverse :=
    List.forall₂_same.2 fun piece _ => Piece.alike_refl piece
  exact ⟨⟨h.top.opener, h.top.flags, h.top.branches, List.rel_append hsame h.top.pieces⟩, h.below,
    h.groups, h.global, h.late⟩

/-- What keys are mapped decides neither on the groups of slots nor on whether there is a source. -/
theorem draft_alike (alternatives alternatives' : Text) (group : Nat) (segments : List Segment) :
    SameResult (fun made made' => made.slots = made'.slots) (draft alternatives group segments)
      (draft alternatives' group segments) := by
  induction segments generalizing group with
  | nil => exact .ok rfl
  | cons segment segments ih =>
    cases segment with
    | literal text => exact sameResult_bind (ih group) fun _ _ h => .ok h
    | regex body flags =>
      unfold draft
      split
      · exact ih group
      · exact sameResult_both fun alone => sameResult_bind (ih _) fun _ _ h => .ok h
    | slot which =>
      exact sameResult_bind (ih (group + 1)) fun _ _ h => .ok (congrArg (group :: ·) h)

/-- A slot is read alike for the same keys. -/
theorem readAll_slot_alike (hs : SameKeys keys keys') (hk : ∃ key ∈ keys, key ≠ [])
    (hk' : ∃ key ∈ keys', key ≠ []) (h : a.Alike b) (root : AtRoot a) (root' : AtRoot b)
    (which : Slot) (more more' : Text) :
    ∃ next next', next.Alike next' ∧ AtRoot next ∧ AtRoot next' ∧
      a.readAll (Token.ofText (slotSource (alternation keys) which ++ more)) =
        next.readAll (Token.ofText more) ∧
      b.readAll (Token.ofText (slotSource (alternation keys') which ++ more')) =
        next'.readAll (Token.ofText more') := by
  obtain ⟨width, hwidth, hr⟩ := readAll_slot root.flags root.global hk which more
  obtain ⟨width', hwidth', hr'⟩ := readAll_slot root'.flags root'.global hk' which more'
  obtain rfl : width = width' := by
    refine covers_unique hwidth (covers_congr ?_ hwidth')
    intro other
    simp only [List.mem_map, mem_ordered_iff hs]
  refine ⟨_, _, ?_, atRoot_pushSlot _ which root, atRoot_pushSlot _ which root', hr, hr'⟩
  rw [h.groups]
  exact pushCapture_alike h (slotNode_alike hs (ordered_ne_nil hk) (ordered_ne_nil hk') which) _ _

/-- An embedded pattern is read alike whatever stands before it. -/
theorem readAll_body_alike {body : Text} {alone : Pattern} (hc : compile {} body = .ok alone)
    (h : a.Alike b) (root : AtRoot a) (root' : AtRoot b) {more more' : Text}
    (hmore : ∀ next next' : Reading, next.Alike next' → AtRoot next → AtRoot next' →
      SameResult Reading.Alike (next.readAll (Token.ofText more))
        (next'.readAll (Token.ofText more'))) :
    SameResult Reading.Alike (a.readAll (Token.ofText ('(' :: body ++ ')' :: more)))
      (b.readAll (Token.ofText ('(' :: body ++ ')' :: more'))) := by
  rw [readAll_body hc root, readAll_body hc root']
  have hopen := readAll_alike (openNext_alike h) (Token.ofText body)
  cases hj : a.openNext.readAll (Token.ofText body) with
  | error why =>
    rw [hj] at hopen
    generalize b.openNext.readAll (Token.ofText body) = other at hopen ⊢
    cases hopen
    exact .error why
  | ok joined =>
    rw [hj] at hopen
    cases hj' : b.openNext.readAll (Token.ofText body) with
    | error why =>
      rw [hj'] at hopen
      cases hopen
    | ok joined' =>
      rw [hj'] at hopen
      obtain ⟨-, next, hclose, hroot, -⟩ := close_body hc root hj
      obtain ⟨-, next', hclose', hroot', -⟩ := close_body hc root' hj'
      have hnext : next.Alike next' := by
        cases hopen with
        | ok halike =>
          have hsame := close_alike halike
          rw [hclose, hclose'] at hsame
          cases hsame with
          | ok hnext => exact hnext
      change SameResult _ (joined.readAll _) (joined'.readAll _)
      rw [readAll_close hclose, readAll_close hclose']
      exact hmore next next' hnext hroot hroot'

/-- The sources of segments over the same keys are read alike. -/
theorem readAll_draft_alike (hs : SameKeys keys keys') (hk : ∃ key ∈ keys, key ≠ [])
    (hk' : ∃ key ∈ keys', key ≠ []) (hd : draft (alternation keys) group segments = .ok made)
    (hd' : draft (alternation keys') group segments = .ok made') (h : a.Alike b) (root : AtRoot a)
    (root' : AtRoot b) (more : Text) :
    SameResult Reading.Alike (a.readAll (Token.ofText (made.source ++ more)))
      (b.readAll (Token.ofText (made'.source ++ more))) := by
  induction segments generalizing a b group made made' with
  | nil =>
    obtain rfl := Except.ok.inj hd
    obtain rfl := Except.ok.inj hd'
    exact readAll_alike h _
  | cons segment segments ih =>
    cases segment with
    | literal text =>
      obtain ⟨tail, ht, hd⟩ := bind_eq_ok.1 hd
      obtain ⟨tail', ht', hd'⟩ := bind_eq_ok.1 hd'
      obtain rfl := Except.ok.inj hd
      obtain rfl := Except.ok.inj hd'
      rw [List.append_assoc, List.append_assoc, readAll_quote root.flags, readAll_quote root'.flags]
      exact ih ht ht' (pushAll_alike h _) (atRoot_pushAll captures_char root)
        (atRoot_pushAll captures_char root')
    | regex body flags =>
      unfold draft at hd hd'
      cases hb : body.isEmpty with
      | true =>
        rw [hb] at hd hd'
        exact ih hd hd' h root root'
      | false =>
        rw [hb] at hd hd'
        obtain ⟨alone, hc, hd⟩ := bind_eq_ok.1 hd
        obtain ⟨alone', hc', hd'⟩ := bind_eq_ok.1 hd'
        obtain rfl : alone = alone' := Except.ok.inj (hc.symm.trans hc')
        obtain ⟨tail, ht, hd⟩ := bind_eq_ok.1 hd
        obtain ⟨tail', ht', hd'⟩ := bind_eq_ok.1 hd'
        obtain rfl := Except.ok.inj hd
        obtain rfl := Except.ok.inj hd'
        have hsource (source : Text) : '(' :: body ++ ')' :: source ++ more =
            '(' :: body ++ ')' :: (source ++ more) := by simp
        rw [hsource, hsource]
        exact readAll_body_alike hc h root root' fun next next' hnext hroot hroot' =>
          ih ht ht' hnext hroot hroot'
    | slot which =>
      obtain ⟨tail, ht, hd⟩ := bind_eq_ok.1 hd
      obtain ⟨tail', ht', hd'⟩ := bind_eq_ok.1 hd'
      obtain rfl := Except.ok.inj hd
      obtain rfl := Except.ok.inj hd'
      rw [List.append_assoc, List.append_assoc]
      obtain ⟨next, next', hnext, hroot, hroot', hr, hr'⟩ :=
        readAll_slot_alike hs hk hk' h root root' which (tail.source ++ more) (tail'.source ++ more)
      rw [hr, hr']
      exact ih ht ht' hnext hroot hroot'

/-! ## Matching -/

/-- Joined patterns that match alike. -/
structure Joined.Alike (joined joined' : Joined) : Prop where
  node : joined.pattern.node.Alike joined'.pattern.node
  slots : joined.slots = joined'.slots

theorem join_alike (hs : SameKeys keys keys') (hk : ∃ key ∈ keys, key ≠ [])
    (hk' : ∃ key ∈ keys', key ≠ []) (segments : List Segment) :
    SameResult Joined.Alike (join segments keys) (join segments keys') := by
  unfold join
  have hdraft := draft_alike (alternation keys) (alternation keys') 1 segments
  cases hd : draft (alternation keys) 1 segments with
  | error why =>
    rw [hd] at hdraft
    generalize draft (alternation keys') 1 segments = other at hdraft ⊢
    cases hdraft
    exact .error why
  | ok made =>
    rw [hd] at hdraft
    cases hd' : draft (alternation keys') 1 segments with
    | error why =>
      rw [hd'] at hdraft
      cases hdraft
    | ok made' =>
      rw [hd'] at hdraft
      cases hdraft with
      | ok hslots =>
        have halike : started.Alike started :=
          ⟨⟨.refl _, rfl, .nil, .cons (Piece.alike_refl _) .nil⟩, .nil, rfl, rfl, rfl⟩
        have hread := readAll_draft_alike hs hk hk' hd hd' halike atRoot_started atRoot_started
          ['$']
        refine sameResult_bind (R := fun pattern pattern' : Pattern =>
          pattern.node.Alike pattern'.node) ?_ fun pattern pattern' hp => .ok ⟨hp, hslots⟩
        unfold compile
        rw [List.cons_append, List.cons_append, readAll_started, readAll_started]
        exact sameResult_bind hread fun x y hxy =>
          sameResult_bind (finish_alike hxy) fun _ _ hp => .ok hp.1

theorem slotTexts?_congr {joined joined' : Joined} (h : joined.Alike joined') (input : Text) :
    joined.slotTexts? input = joined'.slotTexts? input := by
  simp only [Joined.slotTexts?, fullMatch?, h.node.matcher, h.slots]

theorem matchJoined_congr {joined joined' : Joined} (h : joined.Alike joined')
    (ht : SameLookup table table') (mode : SlotMode) (input : Text) :
    matchJoined joined table mode input = matchJoined joined' table' mode input := by
  have hnames : slotNames table mode = slotNames table' mode := by
    funext taken
    exact congrArg (List.flatMap · _) (funext fun text => decode_congr ht _)
  simp only [matchJoined, slotTexts?_congr h, hnames]

theorem sameKeys_of_sameLookup (h : SameLookup table table') :
    SameKeys ((table.map (·.key)).filter (!·.isEmpty))
      ((table'.map (·.key)).filter (!·.isEmpty)) := by
  intro key hk
  simp only [List.mem_filter, mem_keys_iff h hk]

theorem exists_key {table : List Mapping}
    (h : ((table.map (·.key)).filter (!·.isEmpty)).isEmpty = false) :
    ∃ key ∈ (table.map (·.key)).filter (!·.isEmpty), key ≠ [] := by
  obtain ⟨key, hm⟩ := List.isEmpty_eq_false_iff_exists_mem.1 h
  exact ⟨key, hm, by simpa using (List.mem_filter.1 hm).2⟩

theorem matchSegments_congr (h : SameLookup table table') (segments : List Segment)
    (mode : SlotMode) (input : Text) :
    matchSegments segments table mode input = matchSegments segments table' mode input := by
  have hs := sameKeys_of_sameLookup h
  have hempty : ((table.map (·.key)).filter (!·.isEmpty)).isEmpty =
      ((table'.map (·.key)).filter (!·.isEmpty)).isEmpty := by
    rw [Bool.eq_iff_iff, List.isEmpty_iff, List.isEmpty_iff, List.filter_eq_nil_iff,
      List.filter_eq_nil_iff]
    constructor
    · intro hall key hm hk
      exact hall key ((mem_keys_iff h (by simpa using hk)).2 hm) hk
    · intro hall key hm hk
      exact hall key ((mem_keys_iff h (by simpa using hk)).1 hm) hk
  unfold matchSegments target
  simp only [hempty]
  cases he : ((table'.map (·.key)).filter (!·.isEmpty)).isEmpty with
  | true => simp
  | false =>
    cases segments.any (·.isSlot) with
    | false => rfl
    | true =>
      have hjoin := join_alike hs (exists_key (hempty.trans he)) (exists_key he) segments
      generalize join segments ((table.map (·.key)).filter (!·.isEmpty)) = joined at hjoin
      generalize join segments ((table'.map (·.key)).filter (!·.isEmpty)) = joined' at hjoin
      cases hjoin with
      | error why => cases why <;> rfl
      | ok hj => exact congrArg Except.ok (matchJoined_congr hj h mode input)

/-- Only the lookup of a table matters: tables that differ in the order of their keys, in later
mappings of a key and in empty keys decode and match alike. -/
theorem sameLookup_matches (h : SameLookup table table') :
    (∀ text, decode table text = decode table' text) ∧
      ∀ key mode input, matchInput key table mode input = matchInput key table' mode input := by
  refine ⟨decode_congr h, fun key mode input => ?_⟩
  unfold matchInput
  cases Key.segments key with
  | error why => rfl
  | ok segments => exact matchSegments_congr h segments mode input

/-- A key that starts another comes before it or after it, with an empty key and a second mapping. -/
theorem sameLookup_matches_reordered :
    let table : List Mapping := [⟨['a'], ['1']⟩, ⟨['a', 'b'], ['2']⟩]
    let table' : List Mapping :=
      [⟨['a', 'b'], ['2']⟩, ⟨[], ['0']⟩, ⟨['a'], ['1']⟩, ⟨['a', 'b'], ['3']⟩]
    SameLookup table table' ∧ decode table ['a', 'b', 'a'] = decode table' ['a', 'b', 'a'] ∧
      matchInput "x<p,>".toList table .all ['x', 'a', 'b', 'a'] =
        matchInput "x<p,>".toList table' .all ['x', 'a', 'b', 'a'] := by
  intro table table'
  have h : SameLookup table table' := by
    intro key hk
    by_cases ha : ['a'] = key
    · subst ha
      rfl
    · by_cases hab : ['a', 'b'] = key
      · subst hab
        rfl
      · simp [lookup?, table, table', ha, hab, hk.symm]
  obtain ⟨hdecode, hmatch⟩ := sameLookup_matches h
  exact ⟨h, hdecode _, hmatch _ _ _⟩

end NameSlots.Key
