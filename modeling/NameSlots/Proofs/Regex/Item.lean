import NameSlots.Regex.Item.Reader

/-! Reading an item looks no further than a closing parenthesis that follows the tokens. -/
namespace NameSlots.Regex

variable {α β : Type} {tokens left rest : List Token} {token : Token} {x : α}

/-- What is left of tokens when some have been taken, none of them a dangling backslash. -/
def Leaves (tokens left : List Token) : Prop := ∃ used, .dangling ∉ used ∧ tokens = used ++ left

/-- The reader takes the same of these tokens where a closing parenthesis follows them. -/
def Local (f : List Token → Except Fault (α × List Token)) (tokens : List Token) : Prop :=
  ∀ x left, f tokens = .ok (x, left) → Leaves tokens left ∧
    ∀ more, f (tokens ++ .plain ')' :: more) = .ok (x, left ++ .plain ')' :: more)

theorem leaves_refl (tokens : List Token) : Leaves tokens tokens := ⟨[], by simp, rfl⟩

theorem leaves_cons (ht : token ≠ .dangling) (h : Leaves rest left) :
    Leaves (token :: rest) left := by
  obtain ⟨used, hu, rfl⟩ := h
  exact ⟨token :: used, by simp [hu, ht.symm], rfl⟩

theorem leaves_trans (h : Leaves tokens rest) (h' : Leaves rest left) : Leaves tokens left := by
  obtain ⟨used, hu, rfl⟩ := h
  obtain ⟨used', hu', rfl⟩ := h'
  exact ⟨used ++ used', by simp [hu, hu'], by simp⟩

theorem leaves_length (h : Leaves tokens left) : left.length ≤ tokens.length := by
  obtain ⟨used, -, rfl⟩ := h
  simp

theorem local_pure (x : α) (tokens : List Token) :
    Local (fun tokens => pure (x, tokens)) tokens := by
  intro y left h
  obtain ⟨rfl, rfl⟩ := Prod.mk.inj (Except.ok.inj h)
  exact ⟨leaves_refl _, fun _ => rfl⟩

theorem local_error (why : Fault) (tokens : List Token) :
    Local (fun _ => (.error why : Except Fault (α × List Token))) tokens := by
  intro x left h
  simp at h

theorem local_of_error {f : List Token → Except Fault (α × List Token)} (why : Fault)
    (h : f tokens = .error why) : Local f tokens := by
  intro x left he
  simp [h] at he

theorem local_bind {f : List Token → Except Fault (α × List Token)}
    {g : α × List Token → Except Fault (β × List Token)} (hf : Local f tokens)
    (hg : ∀ x left, Leaves tokens left → Local (fun tokens => g (x, tokens)) left) :
    Local (fun tokens => f tokens >>= g) tokens := by
  intro y left h
  cases hr : f tokens with
  | error why => simp [hr, bind, Except.bind] at h
  | ok found =>
    obtain ⟨x, rest⟩ := found
    simp only [hr, bind, Except.bind] at h
    obtain ⟨hl, he⟩ := hf x rest hr
    obtain ⟨hl', he'⟩ := hg x rest hl y left h
    exact ⟨leaves_trans hl hl', fun more => by simp only [he, bind, Except.bind, he']⟩

theorem local_ite {p : Prop} [Decidable p] {f g : List Token → Except Fault (α × List Token)}
    (hf : Local f tokens) (hg : Local g tokens) :
    Local (fun tokens => if p then f tokens else g tokens) tokens := by
  split
  · exact hf
  · exact hg

theorem local_cons {f g : List Token → Except Fault (α × List Token)} (ht : token ≠ .dangling)
    (hf : ∀ rest, f (token :: rest) = g rest) (hg : Local g rest) : Local f (token :: rest) := by
  intro x left h
  rw [hf] at h
  obtain ⟨hl, he⟩ := hg x left h
  exact ⟨leaves_cons ht hl, fun more => (hf _).trans (he more)⟩

/-- A reader that takes nothing unless the first token is one of some plain characters, none of them
a closing parenthesis. -/
theorem local_of_head {f : List Token → Except Fault (α × List Token)} (x : α)
    (chars : List Char) (hc : ')' ∉ chars)
    (hf : ∀ tokens, (∀ c rest, tokens = .plain c :: rest → c ∉ chars) →
      f tokens = pure (x, tokens))
    (hg : ∀ c rest, c ∈ chars → Local f (.plain c :: rest)) : Local f tokens := by
  by_cases hp : ∃ c rest, tokens = .plain c :: rest ∧ c ∈ chars
  · obtain ⟨c, rest, rfl, hm⟩ := hp
    exact hg c rest hm
  · have hn : ∀ c rest, tokens = .plain c :: rest → c ∉ chars :=
      fun c rest he hm => hp ⟨c, rest, he, hm⟩
    intro y left h
    rw [hf tokens hn] at h
    obtain ⟨rfl, rfl⟩ := Prod.mk.inj (Except.ok.inj h)
    refine ⟨leaves_refl _, fun more => hf _ ?_⟩
    intro c rest he
    cases tokens with
    | nil =>
      obtain ⟨he, -⟩ := List.cons.inj he
      rwa [← Token.plain.inj he]
    | cons token tokens =>
      obtain ⟨rfl, -⟩ := List.cons.inj he
      exact hn c tokens rfl

theorem takePlain_append {accept : Char → Bool} (hc : accept ')' = false) (limit : Nat)
    (tokens more : List Token) : takePlain accept limit (tokens ++ .plain ')' :: more) =
      ((takePlain accept limit tokens).1,
        (takePlain accept limit tokens).2 ++ .plain ')' :: more) := by
  induction limit generalizing tokens with
  | zero => simp [takePlain]
  | succ limit ih =>
    cases tokens with
    | nil => simp [takePlain, Token.plain?, hc]
    | cons token tokens => cases token <;> grind [takePlain, Token.plain?]

theorem takePlain_leaves (accept : Char → Bool) (limit : Nat) (tokens : List Token) :
    Leaves tokens (takePlain accept limit tokens).2 := by
  induction limit generalizing tokens with
  | zero => exact leaves_refl _
  | succ limit ih =>
    cases tokens with
    | nil => exact leaves_refl _
    | cons token tokens =>
      cases token with
      | plain c =>
        simp only [takePlain, Token.plain?]
        split
        · exact leaves_cons (by simp) (ih tokens)
        · exact leaves_refl _
      | escaped c => exact leaves_refl _
      | dangling => exact leaves_refl _

theorem readRun_local {accept : Char → Bool} (hc : accept ')' = false) (limit : Nat)
    (tokens : List Token) : Local (readRun accept limit) tokens := by
  intro x left h
  have he : takePlain accept limit tokens = (x, left) := Except.ok.inj h
  have hl := takePlain_leaves accept limit tokens
  rw [he] at hl
  exact ⟨hl, fun more => by simp only [readRun, takePlain_append hc, he]; rfl⟩

/-- A limit that the number of tokens does not reach is none. -/
theorem takePlain_limit {accept : Char → Bool} {limit : Nat} (h : tokens.length ≤ limit) :
    takePlain accept limit tokens = takePlain accept tokens.length tokens := by
  induction tokens generalizing limit with
  | nil => cases limit <;> rfl
  | cons token tokens ih =>
    obtain ⟨limit, rfl⟩ := Nat.exists_eq_add_of_lt h
    have : takePlain accept (tokens.length + limit) tokens =
        takePlain accept tokens.length tokens :=
      ih (by omega)
    grind [takePlain]

/-! ## Names and escapes -/

theorem readUntil_local (stop : Char) (tokens : List Token) : Local (readUntil stop) tokens := by
  induction tokens with
  | nil => intro x left h; simp [readUntil, malformed] at h
  | cons token rest ih =>
    cases token with
    | dangling => intro x left h; simp [readUntil, malformed] at h
    | plain c =>
      exact local_cons (by simp) (fun _ => rfl)
        (local_ite (local_pure _ _) (local_bind ih fun _ _ _ => local_pure _ _))
    | escaped c =>
      exact local_cons (by simp) (fun _ => rfl)
        (local_ite (local_pure _ _) (local_bind ih fun _ _ _ => local_pure _ _))

theorem readName_local (stop : Char) (tokens : List Token) : Local (readName stop) tokens :=
  local_bind (readUntil_local stop tokens) fun _ _ _ =>
    local_ite (local_error _ _) (local_pure _ _)

theorem readGroupName_local (stop : Char) (tokens : List Token) :
    Local (readGroupName stop) tokens :=
  local_bind (readName_local stop tokens) fun _ _ _ =>
    local_ite (local_pure _ _) (local_error _ _)

theorem readHex_local (length : Nat) (tokens : List Token) : Local (readHex length) tokens :=
  local_bind (readRun_local (by decide) length tokens) fun _ _ _ =>
    local_ite (local_error _ _) (local_ite (local_error _ _) (local_pure _ _))

theorem readCharacterName_local (tokens : List Token) : Local readCharacterName tokens := by
  by_cases h : ∃ rest, tokens = .plain '\x7b' :: rest
  · obtain ⟨rest, rfl⟩ := h
    refine local_cons (by simp) (fun _ => rfl)
      (local_bind (readName_local _ _) fun name left _ => ?_)
    dsimp only
    cases Unicode.characterNamed? name with
    | none => exact local_error _ _
    | some code => exact local_pure _ _
  · apply local_of_error (.malformed .missingName)
    unfold readCharacterName
    split
    · next rest => exact (h ⟨rest, rfl⟩).elim
    · rfl

theorem readCharEscape_local (c : Char) (tokens : List Token) :
    Local (readCharEscape c) tokens := by
  unfold readCharEscape
  split
  · exact local_pure _ _
  · split
    · exact readHex_local _ _
    · exact readHex_local _ _
    · exact readHex_local _ _
    · exact readCharacterName_local _
    · exact local_ite (local_error _ _) (local_pure _ _)

theorem local_octal {x : Nat → α} (digits : Text) (tokens : List Token) :
    Local (fun tokens => octalCode digits >>= fun code => pure (x code, tokens)) tokens := by
  cases octalCode digits with
  | error why => exact local_error _ _
  | ok code => exact local_pure _ _

theorem readClassEscape_local (c : Char) (tokens : List Token) :
    Local (readClassEscape c) tokens := by
  unfold readClassEscape
  split
  · exact local_pure _ _
  · refine local_ite (local_pure _ _) (local_ite ?_ ?_)
    · exact local_bind (readRun_local (by decide) 2 tokens)
        fun more left _ => local_octal (c :: more) left
    · exact local_bind (readCharEscape_local c tokens) fun _ _ _ => local_pure _ _

theorem readNumbered_local (c : Char) (tokens : List Token) : Local (readNumbered c) tokens := by
  refine local_bind (readRun_local (by decide) 1 tokens) fun second left _ => ?_
  intro x rest h
  have hl := takePlain_leaves isOctal 1 left
  simp only [readRun, pure_bind, takePlain_append (show isOctal ')' = false by decide)] at h ⊢
  split at h
  · next ho =>
    have := local_octal (x := Item.code) (c :: second ++ (takePlain isOctal 1 left).1) _ x rest h
    exact ⟨leaves_trans hl this.1, fun more => by simpa only [ho, if_true] using this.2 more⟩
  · next ho =>
    obtain ⟨rfl, rfl⟩ := Prod.mk.inj (Except.ok.inj h)
    exact ⟨leaves_refl _, fun more => by simp only [ho]; rfl⟩

theorem readEscape_local (c : Char) (tokens : List Token) : Local (readEscape c) tokens := by
  unfold readEscape
  split
  · exact local_pure _ _
  · split
    · exact local_pure _ _
    · exact local_pure _ _
    · exact local_pure _ _
    · exact local_pure _ _
    · exact local_bind (readRun_local (by decide) 2 tokens) fun _ _ _ => local_pure _ _
    · exact local_ite (readNumbered_local c tokens)
        (local_bind (readCharEscape_local c tokens) fun _ _ _ => local_pure _ _)

/-! ## Classes -/

theorem readClassEnd_local (token : Token) (tokens : List Token) :
    Local (readClassEnd token) tokens := by
  cases token with
  | plain c => exact local_pure _ _
  | escaped c => exact readClassEscape_local c tokens
  | dangling => exact local_error _ _

theorem local_range (first last : ClassItem) (tokens : List Token) :
    Local (fun tokens => classRange first last >>= fun range => pure (range, tokens)) tokens := by
  cases classRange first last with
  | error why => exact local_error _ _
  | ok range => exact local_pure _ _

theorem readRange_local (first : ClassItem) (tokens : List Token) :
    Local (readRange first) tokens := by
  refine local_of_head first ['-'] (by decide) ?_ ?_
  · intro tokens hn
    unfold readRange
    split <;> simp_all
  · intro c rest hc
    obtain rfl := List.mem_singleton.1 hc
    cases rest with
    | nil => exact local_of_error (.malformed .unclosedClass) rfl
    | cons token rest =>
      by_cases hb : token = .plain ']'
      · subst hb
        intro x left h
        obtain ⟨rfl, rfl⟩ := Prod.mk.inj (Except.ok.inj h)
        exact ⟨leaves_refl _, fun _ => rfl⟩
      by_cases ht : token = .dangling
      · subst ht
        exact local_of_error (.malformed .danglingBackslash) rfl
      have hr : Local (fun rest => readClassEnd token rest >>= fun found =>
          classRange first found.1 >>= fun range => pure (range, found.2)) rest :=
        local_bind (readClassEnd_local token rest) fun last left _ => local_range first last left
      refine local_cons (by simp) (fun _ => rfl) (local_cons ht (fun more => ?_) hr)
      simp [readRange]

theorem readClassMember_local (token : Token) (tokens : List Token) :
    Local (readClassMember token) tokens :=
  local_bind (readClassEnd_local token tokens) fun item left _ => readRange_local item left

theorem readClassItems_local (fuel : Nat) (first : Bool) (tokens : List Token) :
    Local (readClassItems fuel first) tokens := by
  induction fuel generalizing first tokens with
  | zero => exact local_error _ _
  | succ fuel ih =>
    cases tokens with
    | nil => exact local_of_error (.malformed .unclosedClass) rfl
    | cons token rest =>
      by_cases ht : token = .dangling
      · subst ht
        exact local_of_error (.malformed .danglingBackslash) (by simp [readClassItems]; rfl)
      exact local_cons ht (fun _ => rfl) (local_ite (local_pure _ _)
        (local_bind (readClassMember_local token rest) fun item left _ =>
          local_bind (ih false left) fun _ _ _ => local_pure _ _))

/-- More fuel reads the same members. -/
theorem readClassItems_fuel (more : Nat) {fuel : Nat} {first : Bool}
    {found : List ClassItem × List Token} (h : readClassItems fuel first tokens = .ok found) :
    readClassItems (fuel + more) first tokens = .ok found := by
  induction fuel generalizing first tokens found with
  | zero => simp [readClassItems, malformed] at h
  | succ fuel ih =>
    rw [Nat.succ_add]
    cases tokens with
    | nil => simp [readClassItems, malformed] at h
    | cons token rest =>
      by_cases hc : token = .plain ']' ∧ ¬ first
      · rw [readClassItems, if_pos hc] at h ⊢
        exact h
      · rw [readClassItems, if_neg hc] at h ⊢
        cases hm : readClassMember token rest with
        | error why => simp [hm, bind, Except.bind] at h
        | ok member =>
          cases hi : readClassItems fuel false member.2 with
          | error why => simp [hm, hi, bind, Except.bind] at h
          | ok items =>
            simp only [hm, hi, bind, Except.bind] at h
            simp only [ih hi, bind, Except.bind, h]

theorem readNegation_local (tokens : List Token) : Local readNegation tokens := by
  refine local_of_head false ['^'] (by decide) ?_ ?_
  · intro tokens hn
    unfold readNegation
    split <;> simp_all
  · intro c rest hc
    obtain rfl := List.mem_singleton.1 hc
    exact local_cons (by simp) (fun _ => rfl) (local_pure _ _)

theorem readClassBody_local (tokens : List Token) : Local readClassBody tokens := by
  intro x left h
  obtain ⟨hl, he⟩ := readClassItems_local _ _ _ _ _ h
  refine ⟨hl, fun more => ?_⟩
  have hf := readClassItems_fuel (more.length + 1) (he more)
  rw [readClassBody, ← hf]
  simp only [List.length_append, List.length_cons]
  congr 1
  omega

theorem readClass_local (tokens : List Token) : Local readClass tokens :=
  local_bind (readNegation_local tokens) fun _ left _ =>
    local_bind (readClassBody_local left) fun _ _ _ => local_pure _ _

/-! ## Repeats -/

theorem readGreed_local (tokens : List Token) : Local readGreed tokens := by
  refine local_of_head .greedy ['?', '+'] (by decide) ?_ ?_
  · intro tokens hn
    unfold readGreed
    split <;> simp_all
  · intro c rest hc
    obtain rfl | rfl : c = '?' ∨ c = '+' := by simpa using hc
    · exact local_cons (by simp) (fun _ => rfl) (local_pure _ _)
    · exact local_cons (by simp) (fun _ => rfl) (local_pure _ _)

theorem readTimes_local (least : Nat) (most : Option Nat) (tokens : List Token) :
    Local (readTimes least most) tokens :=
  local_bind (readGreed_local tokens) fun _ _ _ => local_pure _ _

theorem readCounts_local (low high : Text) (tokens : List Token) :
    Local (readCounts low high) tokens := by
  unfold readCounts
  cases repeatCount low with
  | error why => exact local_error _ _
  | ok least =>
    cases repeatCount high with
    | error why => exact local_error _ _
    | ok most => exact local_ite (local_error _ _) (readTimes_local _ _ _)

theorem takePlain_length_append {accept : Char → Bool} (hc : accept ')' = false)
    (tokens more : List Token) :
    takePlain accept (tokens ++ .plain ')' :: more).length (tokens ++ .plain ')' :: more) =
      ((takePlain accept tokens.length tokens).1,
        (takePlain accept tokens.length tokens).2 ++ .plain ')' :: more) := by
  rw [takePlain_append hc, takePlain_limit (by simp)]

theorem dropPlain?_append {c : Char} (hc : c ≠ ')') (tokens more : List Token) :
    dropPlain? c (tokens ++ .plain ')' :: more) =
      (dropPlain? c tokens).map (· ++ .plain ')' :: more) := by
  cases tokens with
  | nil => simp [dropPlain?, hc.symm]
  | cons token rest => cases token <;> grind [dropPlain?]

theorem dropPlain?_leaves {c : Char} (h : dropPlain? c tokens = some left) :
    Leaves tokens left := by
  unfold dropPlain? at h
  split at h
  · next d rest =>
    split at h
    · obtain rfl := Option.some.inj h
      exact leaves_cons (by simp) (leaves_refl _)
    · simp at h
  · simp at h

theorem braceDigits?_append (tokens more : List Token) :
    braceDigits? (tokens ++ .plain ')' :: more) = (braceDigits? tokens).map
      fun found => (found.1, found.2.1, found.2.2 ++ .plain ')' :: more) := by
  simp only [braceDigits?, takePlain_length_append (show Char.isDigit ')' = false by decide),
    dropPlain?_append (show ',' ≠ ')' by decide), dropPlain?_append (show '\x7d' ≠ ')' by decide)]
  generalize takePlain Char.isDigit tokens.length tokens = found
  cases dropPlain? ',' found.2 with
  | none => cases he : found.1.isEmpty <;> simp [Function.comp_def]
  | some rest =>
    simp only [Option.map_some, takePlain_length_append (show Char.isDigit ')' = false by decide),
      dropPlain?_append (show '\x7d' ≠ ')' by decide), Option.map_map, Function.comp_def]

theorem braceDigits?_leaves {low high : Text} (h : braceDigits? tokens = some (low, high, left)) :
    Leaves tokens left := by
  have hl := takePlain_leaves Char.isDigit tokens.length tokens
  simp only [braceDigits?] at h
  split at h
  · next rest hr =>
    obtain ⟨left', hd, he⟩ := Option.map_eq_some_iff.1 h
    obtain ⟨-, -, rfl⟩ : _ ∧ _ ∧ left' = left := by simpa using he
    exact leaves_trans hl (leaves_trans (dropPlain?_leaves hr)
      (leaves_trans (takePlain_leaves _ _ _) (dropPlain?_leaves hd)))
  · split at h
    · simp at h
    · obtain ⟨left', hd, he⟩ := Option.map_eq_some_iff.1 h
      obtain ⟨-, -, rfl⟩ : _ ∧ _ ∧ left' = left := by simpa using he
      exact leaves_trans hl (dropPlain?_leaves hd)

theorem readBraces_local (tokens : List Token) : Local readBraces tokens := by
  intro x left h
  unfold readBraces at h
  split at h
  · next hb =>
    obtain ⟨rfl, rfl⟩ := Prod.mk.inj (Except.ok.inj h)
    refine ⟨leaves_refl _, fun more => ?_⟩
    simp [readBraces, braceDigits?_append, hb]
    rfl
  · next low high rest hb =>
    split at h
    · simp [malformed] at h
    · next hd =>
      obtain ⟨hl, he⟩ := readCounts_local low high rest x left h
      refine ⟨leaves_trans (braceDigits?_leaves hb) hl, fun more => ?_⟩
      have hne : rest ++ .plain ')' :: more ≠ [.dangling] := by cases rest <;> simp
      simp [readBraces, braceDigits?_append, hb, hne, he]

/-! ## Parentheses -/

theorem readDropped_local (drop : Flags) (any : Bool) (tokens : List Token) :
    Local (readDropped drop any) tokens := by
  induction tokens generalizing drop any with
  | nil => exact local_of_error (.malformed .badInlineFlags) rfl
  | cons token rest ih =>
    cases token with
    | escaped c => exact local_of_error (.malformed .badInlineFlags) rfl
    | dangling => exact local_of_error (.malformed .badInlineFlags) rfl
    | plain c =>
      refine local_cons (by simp) (fun _ => rfl) (local_ite (local_pure _ _) ?_)
      cases Flags.ofLetter? c with
      | none => exact local_error _ _
      | some flag => exact local_ite (local_error _ _) (ih _ _)

theorem local_inside {x : Item → α} (add drop : Flags) (tokens : List Token) :
    Local (fun tokens => insideFlags add drop >>= fun item => pure (x item, tokens)) tokens := by
  cases insideFlags add drop with
  | error why => exact local_error _ _
  | ok item => exact local_pure _ _

theorem readInlineFlags_local (add : Flags) (tokens : List Token) :
    Local (readInlineFlags add) tokens := by
  induction tokens generalizing add with
  | nil => exact local_of_error (.malformed .badInlineFlags) rfl
  | cons token rest ih =>
    cases token with
    | escaped c => exact local_of_error (.malformed .badInlineFlags) rfl
    | dangling => exact local_of_error (.malformed .badInlineFlags) rfl
    | plain c =>
      by_cases hp : c = ')'
      · subst hp
        exact local_cons (by simp) (fun _ => rfl) (local_pure _ _)
      by_cases hc : c = ':'
      · subst hc
        exact local_cons (by simp) (fun _ => rfl) (local_inside (x := id) add {} rest)
      by_cases hm : c = '-'
      · subst hm
        exact local_cons (by simp) (fun _ => rfl) (local_ite (local_error _ _)
          (local_bind (readDropped_local {} false rest) fun drop left _ =>
            local_inside (x := id) add drop left))
      cases hf : Flags.ofLetter? c with
      | none =>
        exact local_of_error (.malformed .badInlineFlags) (by simp [readInlineFlags, hf]; rfl)
      | some flag =>
        have he (more : List Token) : readInlineFlags add (.plain c :: more) =
            if (flag.choosesAlphabet && add.choosesAlphabet && !add.meets flag) = true then
              malformed .badInlineFlags
            else readInlineFlags (add.union flag) more := by
          simp [readInlineFlags, hf]
        exact local_cons (by simp) he (local_ite (local_error _ _) (ih _))

theorem skipComment_local (tokens : List Token) :
    Local (fun tokens => skipComment tokens >>= fun rest => pure (Item.blank, rest)) tokens := by
  induction tokens with
  | nil => exact local_of_error (.malformed .unclosedComment) rfl
  | cons token rest ih =>
    cases token with
    | escaped c => exact local_cons (by simp) (fun _ => rfl) ih
    | dangling => exact local_of_error (.malformed .danglingBackslash) rfl
    | plain c =>
      by_cases hc : c = ')'
      · subst hc
        exact local_cons (by simp) (fun _ => rfl) (local_pure _ _)
      · exact local_cons (by simp) (fun _ => by simp [skipComment, hc]) ih

theorem readCondition_local (tokens : List Token) : Local readCondition tokens := by
  refine local_bind (readName_local ')' tokens) fun name left _ => local_ite (local_pure _ _) ?_
  cases Number.whole name with
  | error why => exact local_error _ _
  | ok number =>
    match number with
    | .ofNat 0 => exact local_error _ _
    | .ofNat (n + 1) => exact local_pure _ _
    | .negSucc n => exact local_error _ _

theorem readExtension_flags {c : Char} (hc : (c = '-' || (Flags.ofLetter? c).isSome) = true)
    (tokens : List Token) :
    readExtension (.plain c :: tokens) = readInlineFlags {} (.plain c :: tokens) := by
  unfold readExtension
  split
  all_goals try (exfalso; simp_all [Flags.ofLetter?]; done)
  next c' tokens' _ _ _ _ _ _ _ _ _ _ he =>
    obtain ⟨ht, rfl⟩ := List.cons.inj he
    obtain rfl := Token.plain.inj ht
    rw [if_pos hc]

theorem readExtension_local (tokens : List Token) : Local readExtension tokens := by
  intro x left h
  have hf := h
  unfold readExtension at h
  split at h
  · next rest =>
    exact local_cons (by simp) (fun _ => rfl) (local_cons (by simp) (fun _ => rfl)
      (local_bind (readGroupName_local '>' rest) fun name left _ =>
        local_pure (Item.capture (some name)) left)) x left hf
  · next rest =>
    exact local_cons (by simp) (fun _ => rfl) (local_cons (by simp) (fun _ => rfl)
      (local_bind (readGroupName_local ')' rest) fun name left _ =>
        local_pure (Item.backref (.name name)) left)) x left hf
  · exact local_cons (by simp) (fun _ => rfl) (local_pure Item.bracket _) x left hf
  · exact local_cons (by simp) (fun _ => rfl) (skipComment_local _) x left hf
  · exact local_cons (by simp) (fun _ => rfl) (local_pure (Item.ahead false) _) x left hf
  · exact local_cons (by simp) (fun _ => rfl) (local_pure (Item.ahead true) _) x left hf
  · exact local_cons (by simp) (fun _ => rfl) (local_cons (by simp) (fun _ => rfl)
      (local_pure (Item.behind false) _)) x left hf
  · exact local_cons (by simp) (fun _ => rfl) (local_cons (by simp) (fun _ => rfl)
      (local_pure (Item.behind true) _)) x left hf
  · exact local_cons (by simp) (fun _ => rfl) (readCondition_local _) x left hf
  · exact local_cons (by simp) (fun _ => rfl) (local_pure Item.atomic _) x left hf
  · next c rest _ _ _ _ _ _ _ _ _ _ =>
    split at h
    · next hc =>
      obtain ⟨hl, he⟩ := readInlineFlags_local {} _ x left h
      exact ⟨hl, fun more => (readExtension_flags hc _).trans (he more)⟩
    · simp [malformed] at h
  · simp [malformed] at h

theorem readParenthesis_local (tokens : List Token) : Local readParenthesis tokens := by
  refine local_of_head (.capture none) ['?'] (by decide) ?_ ?_
  · intro tokens hn
    unfold readParenthesis
    split <;> simp_all
  · intro c rest hc
    obtain rfl := List.mem_singleton.1 hc
    exact local_cons (by simp) (fun _ => rfl) (readExtension_local rest)

/-! ## Items -/

theorem readPlain_local (c : Char) (tokens : List Token) : Local (Item.readPlain c) tokens := by
  unfold Item.readPlain
  split
  · exact local_pure _ _
  · exact local_pure _ _
  · exact readClass_local _
  · exact readTimes_local _ _ _
  · exact readTimes_local _ _ _
  · exact readTimes_local _ _ _
  · exact readBraces_local _
  · exact readParenthesis_local _
  · exact local_pure _ _
  · exact local_pure _ _
  · exact local_pure _ _
  · exact local_pure _ _

theorem skipLine_leaves (h : skipLine tokens = .ok left) : Leaves tokens left := by
  induction tokens with
  | nil =>
    obtain rfl := Except.ok.inj h
    exact leaves_refl _
  | cons token rest ih =>
    unfold skipLine at h
    split at h
    · next he => simp at he
    · simp [malformed] at h
    · next he =>
      obtain ⟨rfl, rfl⟩ := List.cons.inj he
      obtain rfl := Except.ok.inj h
      exact leaves_cons (by simp) (leaves_refl _)
    · next t r hd _ he =>
      obtain ⟨rfl, rfl⟩ := List.cons.inj he
      exact leaves_cons (by rintro rfl; simp_all) (ih h)

/-- A comment ends at a line feed, or else it takes all tokens. -/
theorem skipLine_append (h : skipLine tokens = .ok left) :
    left = [] ∨ ∀ more, skipLine (tokens ++ more) = .ok (left ++ more) := by
  induction tokens with
  | nil => exact Or.inl (Except.ok.inj h).symm
  | cons token rest ih =>
    cases token with
    | dangling => simp [skipLine, malformed] at h
    | escaped c => exact ih h
    | plain c =>
      by_cases hc : c = '\n'
      · subst hc
        obtain rfl := Except.ok.inj h
        exact Or.inr fun _ => rfl
      · have hs (more : List Token) : skipLine (.plain c :: more) = skipLine more := by
          simp [skipLine, hc]
        rw [hs] at h
        simpa only [List.cons_append, hs] using ih h

/-- A reader of items takes the same tokens if a closing parenthesis follows them, but for a
comment that runs to the end of the line and of the tokens. -/
theorem read_local {verbose : Bool} {item : Item}
    (h : Item.read verbose token tokens = .ok (item, left)) :
    token ≠ .dangling ∧ Leaves tokens left ∧ ((verbose = true ∧ item = .blank ∧ left = []) ∨
      ∀ more, Item.read verbose token (tokens ++ .plain ')' :: more) =
        .ok (item, left ++ .plain ')' :: more)) := by
  cases token with
  | dangling => simp [Item.read, malformed] at h
  | escaped c =>
    obtain ⟨hl, he⟩ := readEscape_local c tokens item left h
    exact ⟨by simp, hl, Or.inr he⟩
  | plain c =>
    refine ⟨by simp, ?_⟩
    simp only [Item.read] at h ⊢
    by_cases hb : (verbose && Unicode.isAsciiBlank c) = true
    · simp only [hb, if_true] at h ⊢
      obtain ⟨hl, he⟩ := local_pure Item.blank tokens item left h
      exact ⟨hl, Or.inr he⟩
    by_cases hh : (verbose && decide (c = '#')) = true
    · simp only [hb, hh, if_true] at h ⊢
      cases hs : skipLine tokens with
      | error why => simp [hs, bind, Except.bind] at h
      | ok rest =>
        simp only [hs, bind, Except.bind] at h
        obtain ⟨rfl, rfl⟩ := Prod.mk.inj (Except.ok.inj h)
        refine ⟨skipLine_leaves hs, ?_⟩
        obtain rfl | ha := skipLine_append hs
        · exact Or.inl ⟨(Bool.and_eq_true_iff.1 hh).1, rfl, rfl⟩
        · exact Or.inr fun more => by simp only [ha, bind, Except.bind]; rfl
    · simp only [hb, hh] at h ⊢
      obtain ⟨hl, he⟩ := readPlain_local c tokens item left h
      exact ⟨hl, Or.inr he⟩

end NameSlots.Regex
