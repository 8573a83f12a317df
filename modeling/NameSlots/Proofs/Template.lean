import NameSlots.Template

/-! Filling a template puts names between its pieces and changes nothing else: no name that was put
in is looked at again. -/
namespace NameSlots.Template

/-- How a place for names is written. -/
def place : Text := ['<', 'p', '>']

/-- How a slot for several names is written in a key; in a template it is text. -/
def severalSlot : Text := ['<', 'p', ',', '>']

/-- The pieces of a text between the occurrences of a mark, each of them the first one in what is
left of the text. -/
inductive Between (mark : Text) : Text → List Text → Prop where
  | last {text : Text} : ¬ mark <:+: text → Between mark text [text]
  | cons {piece rest : Text} {parts : List Text} :
      (∀ front back, piece ++ mark ++ rest = front ++ mark ++ back →
        piece.length ≤ front.length) →
      Between mark rest parts → Between mark (piece ++ mark ++ rest) (piece :: parts)

/-- What a number of places take: nothing without names, all names if there is one place, otherwise
the first name in the first place and the others in every other place. -/
def fillings (names : List Text) (places : Nat) : List Text :=
  match names, places with
  | [], places => List.replicate places []
  | _, 0 => []
  | names, 1 => [list names]
  | name :: others, places + 2 => name :: List.replicate (places + 1) (list others)

/-- A piece, and then a filling before every further piece. -/
def weave (first : Text) (fillings rest : List Text) : Text :=
  first ++ (List.zipWith (· ++ ·) fillings rest).flatten

/-- Texts that stand in a text one after another. -/
inductive InOrder : List Text → Text → Prop where
  | nil (text : Text) : InOrder [] text
  | cons {back : Text} {names : List Text} (front name : Text) : InOrder names back →
      InOrder (name :: names) (front ++ (name ++ back))

variable {mark text template piece first left right front back : Text} {c : Char}
  {names parts others more rest before after : List Text}

/-! ## Pieces -/

theorem between_unique (h : Between mark text parts) (h' : Between mark text others) :
    others = parts := by
  induction h generalizing others with
  | last hno =>
    cases h' with
    | last _ => rfl
    | @cons piece rest _ _ _ => exact (hno ⟨piece, rest, rfl⟩).elim
  | @cons piece rest parts hfirst _ ih =>
    generalize ht : piece ++ mark ++ rest = text at h'
    cases h' with
    | last hno => exact (hno ⟨piece, rest, ht⟩).elim
    | @cons piece' rest' _ hfirst' htail =>
      have hle := hfirst _ _ ht
      have hge := hfirst' _ _ ht.symm
      rw [List.append_assoc, List.append_assoc] at ht
      obtain ⟨rfl, hrest⟩ := List.append_inj ht (Nat.le_antisymm hle hge)
      obtain rfl := List.append_cancel_left hrest
      rw [ih htail]

/-- A character that starts no mark belongs to the first piece. -/
theorem between_cons (hc : ¬ mark <+: c :: text) (h : Between mark text (piece :: more)) :
    Between mark (c :: text) ((c :: piece) :: more) := by
  cases h with
  | last hno =>
    refine .last fun hi => ?_
    rcases List.infix_cons_iff.1 hi with hp | hi
    · exact hc hp
    · exact hno hi
  | @cons _ rest _ hfirst htail =>
    have hfirst' : ∀ front back, (c :: piece) ++ mark ++ rest = front ++ mark ++ back →
        (c :: piece).length ≤ front.length := by
      intro front back he
      cases front with
      | nil => exact (hc ⟨back, he.symm⟩).elim
      | cons d front =>
        obtain ⟨-, he⟩ := List.cons.inj he
        exact Nat.succ_le_succ (hfirst front back he)
    exact .cons hfirst' htail

theorem pieces_ne_nil (text : Text) : pieces text ≠ [] := by
  fun_cases pieces text <;> simp

theorem pieces_cons (hc : ¬ place <+: c :: text) (h : pieces text = piece :: more) :
    pieces (c :: text) = (c :: piece) :: more := by
  have hno : ∀ rest, c = '<' → text = 'p' :: '>' :: rest → False := by
    rintro rest rfl rfl
    exact hc ⟨rest, rfl⟩
  rw [pieces, h]
  exact hno

theorem not_place (h : ∀ rest, c = '<' → text = 'p' :: '>' :: rest → False) :
    ¬ place <+: c :: text := by
  rintro ⟨rest, he⟩
  obtain ⟨rfl, rfl⟩ := List.cons.inj he
  exact h rest rfl rfl

theorem between_pieces (text : Text) : Between place text (pieces text) := by
  fun_induction pieces text with
  | case1 => exact .last (by simp [place])
  | case2 rest ih =>
    have hfirst : ∀ front back, [] ++ place ++ rest = front ++ place ++ back →
        ([] : Text).length ≤ front.length := fun _ _ _ => Nat.zero_le _
    exact .cons hfirst ih
  | case3 c rest _ hnil => exact (pieces_ne_nil rest hnil).elim
  | case4 c rest hno piece more hp ih => exact between_cons (not_place hno) (hp ▸ ih)

theorem not_place_append (back : Text) (h : ¬ place <+: c :: text) :
    ¬ place <+: c :: (text ++ (severalSlot ++ back)) := by
  rcases text with _ | ⟨d, _ | ⟨e, text⟩⟩
  · simp [place, severalSlot]
  · simp [place, severalSlot]
  · simpa [place] using h

/-- A slot for several names is no place and ends none: it belongs to one piece with what stands
before and after it. -/
theorem pieces_several (hf : pieces front = before ++ [left]) (hb : pieces back = right :: after) :
    pieces (front ++ (severalSlot ++ back)) =
      before ++ (left ++ (severalSlot ++ right)) :: after := by
  fun_induction pieces front generalizing before left with
  | case1 =>
    obtain ⟨rfl, rfl⟩ : before = [] ∧ left = [] := by
      cases before <;> simp_all
    refine pieces_cons (by simp [place]) (pieces_cons (by simp [place]) ?_)
    exact pieces_cons (by simp [place]) (pieces_cons (by simp [place]) hb)
  | case2 rest ih =>
    cases before with
    | nil => exact (pieces_ne_nil rest (List.cons.inj hf).2).elim
    | cons piece before =>
      obtain ⟨rfl, hrest⟩ := List.cons.inj hf
      exact congrArg ([] :: ·) (ih hrest)
  | case3 c rest _ hnil => exact (pieces_ne_nil rest hnil).elim
  | case4 c rest hno piece more hp ih =>
    have hc := not_place_append back (not_place hno)
    cases before with
    | nil =>
      obtain ⟨rfl, rfl⟩ := List.cons.inj hf
      exact pieces_cons hc (@ih piece [] hp)
    | cons piece' before =>
      obtain ⟨rfl, rfl⟩ := List.cons.inj hf
      exact pieces_cons hc (@ih left (piece :: before) hp)

/-! ## Filling -/

theorem join_eq_weave (separator first : Text) (rest : List Text) :
    Text.join separator (first :: rest) =
      weave first (List.replicate rest.length separator) rest := by
  induction rest generalizing first with
  | nil => simp [Text.join, weave]
  | cons piece rest ih => simp [Text.join, ih, weave, List.replicate_succ]

theorem flatten_eq_weave (first : Text) (rest : List Text) :
    (first :: rest).flatten = weave first (List.replicate rest.length []) rest := by
  induction rest generalizing first with
  | nil => rfl
  | cons piece rest ih => simpa [weave, List.replicate_succ] using ih piece

theorem expand_eq (h : pieces template = first :: rest) (names : List Text) :
    expand template names = weave first (fillings names rest.length) rest := by
  unfold expand
  rw [h]
  match rest, names with
  | [], names => cases names <;> simp [weave, fillings]
  | [last], [] => simp [weave, fillings, list, Text.join]
  | [last], name :: names => simp [weave, fillings]
  | second :: third :: rest, [] => exact flatten_eq_weave first (second :: third :: rest)
  | second :: third :: rest, name :: names =>
    have hjoin := join_eq_weave (list names) second (third :: rest)
    simp [hjoin, weave, fillings, List.replicate_succ]

/-! ## Names in their order -/

theorem inOrder_append_left (front : Text) (h : InOrder names text) :
    InOrder names (front ++ text) := by
  cases h with
  | nil => exact .nil _
  | cons middle name h =>
    rw [← List.append_assoc]
    exact .cons _ name h

theorem inOrder_append_right (back : Text) (h : InOrder names text) :
    InOrder names (text ++ back) := by
  induction h with
  | nil => exact .nil _
  | cons front name _ ih =>
    rw [List.append_assoc, List.append_assoc]
    exact .cons front name ih

theorem inOrder_list (names : List Text) : InOrder names (list names) := by
  induction names with
  | nil => exact .nil _
  | cons name names ih =>
    cases names with
    | nil => simpa [list, Text.join] using InOrder.cons [] name (.nil [])
    | cons other names =>
      have hrest := InOrder.cons [] name (inOrder_append_left ", ".toList ih)
      simpa [list, Text.join] using hrest

/-- Where there is a place, the fillings have all names in their order. -/
theorem inOrder_weave (first : Text) (names : List Text) (hr : rest ≠ []) :
    InOrder names (weave first (fillings names rest.length) rest) := by
  match rest, names with
  | [], _ => contradiction
  | _ :: _, [] => exact .nil _
  | [last], name :: names =>
    have hall := inOrder_append_right last (inOrder_list (name :: names))
    simpa [weave, fillings] using inOrder_append_left first hall
  | second :: third :: rest, name :: names =>
    have hothers := inOrder_append_left second (inOrder_append_right
      (third ++ (List.zipWith (· ++ ·) (List.replicate rest.length (list names)) rest).flatten)
      (inOrder_list names))
    simpa [weave, fillings, List.replicate_succ] using InOrder.cons first name hothers

/-- A template is expanded to its pieces with the names between them. Names that hold a place are
not looked at again, and a slot for several names is no place but part of one piece. Where there is
a place, all names stand in the output in their order. -/
theorem expand_weave (template : Text) (names : List Text) :
    ∃ first rest, Between place template (first :: rest) ∧
      (∀ parts, Between place template parts → parts = first :: rest) ∧
      expand template names = weave first (fillings names rest.length) rest ∧
      (∀ front back, template = front ++ (severalSlot ++ back) →
        ∃ before left right after,
          first :: rest = before ++ (left ++ (severalSlot ++ right)) :: after ∧
          Between place front (before ++ [left]) ∧ Between place back (right :: after)) ∧
      (rest ≠ [] → InOrder names (expand template names)) := by
  obtain ⟨first, rest, hp⟩ := List.exists_cons_of_ne_nil (pieces_ne_nil template)
  have hb := between_pieces template
  rw [hp] at hb
  refine ⟨first, rest, hb, fun _ => between_unique hb, expand_eq hp names, ?_, fun hr => ?_⟩
  · rintro front back rfl
    obtain ⟨right, after, hback⟩ := List.exists_cons_of_ne_nil (pieces_ne_nil back)
    have hfront := (List.dropLast_concat_getLast (pieces_ne_nil front)).symm
    refine ⟨_, _, right, after, hp.symm.trans (pieces_several hfront hback), ?_, ?_⟩
    · exact hfront ▸ between_pieces front
    · exact hback ▸ between_pieces back
  · rw [expand_eq hp names]
    exact inOrder_weave first names hr

/-- A place inside what looks like one, a slot for several names, and a name that is written as a
place. -/
theorem expand_weave_nested :
    Between place "<<p>p> <p,> <p>".toList [['<'], "p> <p,> ".toList, []] ∧
      expand "<<p>p> <p,> <p>".toList ["<p>".toList, ['x'], ['y']] = "<<p>p> <p,> x, y".toList ∧
      InOrder ["<p>".toList, ['x'], ['y']] "<<p>p> <p,> x, y".toList := by
  have hpieces : Between place "<<p>p> <p,> <p>".toList [['<'], "p> <p,> ".toList, []] :=
    between_pieces "<<p>p> <p,> <p>".toList
  obtain ⟨first, rest, -, hunique, hexpand, -, horder⟩ :=
    expand_weave "<<p>p> <p,> <p>".toList ["<p>".toList, ['x'], ['y']]
  obtain ⟨rfl, rfl⟩ := List.cons.inj (hunique _ hpieces)
  exact ⟨hpieces, hexpand, horder (by simp)⟩

end NameSlots.Template
