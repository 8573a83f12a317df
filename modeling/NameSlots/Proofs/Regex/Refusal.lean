import NameSlots.Proofs.Regex.Nested
import NameSlots.Proofs.Results

/-! Which patterns are refused outright. A pattern that is not refused by itself is not refused inside
the parentheses of a group, nor under other flags for how it matches. -/
namespace NameSlots.Regex

/-- Reading stops at what is refused outright, not at broken syntax. -/
def Refused {α : Type} (result : Except Fault α) : Prop := ∃ why, result = .error (.refused why)

/-- A pattern sets flags for itself that ask for ASCII and for Unicode. -/
def Reading.Torn (reading : Reading) : Prop :=
  reading.global.ascii = true ∧ reading.global.unicode = true

variable {α β : Type} {reading a b a' b' last : Reading} {tokens : List Token} {item : Item}
  {source : Text} {flags flags' : Flags} {pattern : Pattern} {group : Nat} {outer : List Frame}

theorem not_refused_ok (x : α) : ¬ Refused (.ok x) := by
  rintro ⟨why, h⟩
  cases h

theorem not_refused_malformed (why : Malformed) : ¬ Refused (malformed why : Except Fault α) := by
  rintro ⟨why', h⟩
  simp [malformed] at h

theorem refused_bind {result : Except Fault α} {f : α → Except Fault β} :
    Refused (result >>= f) ↔ Refused result ∨ ∃ x, result = .ok x ∧ Refused (f x) := by
  simp only [Refused, bind_eq_error, exists_or]
  refine or_congr_right ⟨?_, ?_⟩
  · rintro ⟨why, x, hx, h⟩
    exact ⟨x, hx, why, h⟩
  · rintro ⟨x, hx, why, h⟩
    exact ⟨why, x, hx, h⟩

theorem not_refused_bind {result : Except Fault α} {f : α → Except Fault β}
    (hr : ¬ Refused result) (hf : ∀ x, ¬ Refused (f x)) : ¬ Refused (result >>= f) := by
  intro h
  rcases refused_bind.1 h with h | ⟨x, -, h⟩
  · exact hr h
  · exact hf x h

/-! ## One item -/

theorem closedWidth_not_refused (groups : Groups) (group : Nat) :
    ¬ Refused (groups.closedWidth group) := by
  unfold Groups.closedWidth
  split
  · exact not_refused_malformed _
  · split
    · exact not_refused_malformed _
    · exact not_refused_ok _

theorem backref_not_refused (reading : Reading) (ref : GroupRef) :
    ¬ Refused (reading.backref ref) := by
  unfold Reading.backref
  split
  · exact not_refused_bind (closedWidth_not_refused _ _) fun _ => not_refused_ok _
  · exact not_refused_malformed _

theorem repeatLatest_not_refused (reading : Reading) (greed : Greed) (least : Nat)
    (most : Option Nat) : ¬ Refused (reading.repeatLatest greed least most) := by
  unfold Reading.repeatLatest
  split
  · exact not_refused_malformed _
  · split
    · exact not_refused_malformed _
    · split
      · exact not_refused_malformed _
      · exact not_refused_ok _

theorem openCapture_not_refused (reading : Reading) (name : Option Text) :
    ¬ Refused (reading.openCapture name) := by
  refine not_refused_bind ?_ fun _ => not_refused_ok _
  unfold Groups.openCapture
  split
  · exact not_refused_ok _
  · split
    · exact not_refused_malformed _
    · exact not_refused_ok _

theorem openCondition_not_refused (reading : Reading) (on : GroupRef) :
    ¬ Refused (reading.openCondition on) := by
  refine not_refused_bind ?_ fun _ => not_refused_bind ?_ fun _ => not_refused_ok _
  · unfold Groups.testing
    split
    · exact not_refused_ok _
    · split
      · exact not_refused_ok _
      · exact not_refused_malformed _
  · unfold Groups.checkTested
    split
    · exact not_refused_bind (closedWidth_not_refused _ _) fun _ => not_refused_ok _
    · exact not_refused_ok _

theorem bar_not_refused (reading : Reading) : ¬ Refused reading.bar := by
  simp only [Reading.bar]
  split
  · exact not_refused_ok _
  · exact not_refused_ok _
  · exact not_refused_malformed _
  · exact not_refused_ok _

theorem closing_not_refused (reading : Reading) : ¬ Refused reading.closing := by
  simp only [Reading.closing]
  split
  · exact not_refused_malformed _
  all_goals exact not_refused_ok _

theorem close_refused (h : Refused reading.close) : reading.below = [] ∧ reading.Torn := by
  unfold Reading.close at h
  split at h
  · next hb =>
    split at h
    · next htorn => exact ⟨hb, by simpa [Reading.Torn] using htorn⟩
    · exact (not_refused_malformed _ h).elim
  · exact (not_refused_bind (closing_not_refused _) (fun _ => not_refused_ok _) h).elim

theorem setGlobal_not_refused (reading : Reading) (add : Flags) :
    ¬ Refused (reading.setGlobal add) := by
  simp only [Reading.setGlobal]
  split
  · exact not_refused_ok _
  · exact not_refused_malformed _

/-- Of the items only a closing parenthesis can be refused, where no parenthesis is open. -/
theorem take_refused (h : Refused (reading.take item)) :
    item = .close ∧ reading.below = [] ∧ reading.Torn := by
  cases item with
  | close => exact ⟨rfl, close_refused h⟩
  | backref ref => exact (backref_not_refused _ _ h).elim
  | times greed least most => exact (repeatLatest_not_refused _ _ _ _ h).elim
  | bar => exact (bar_not_refused _ h).elim
  | capture name => exact (openCapture_not_refused _ _ h).elim
  | condition on => exact (openCondition_not_refused _ _ h).elim
  | global add => exact (setGlobal_not_refused _ _ h).elim
  | _ => exact (not_refused_ok _ h).elim

theorem finish_refused_iff :
    Refused reading.finish ↔ reading.below = [] ∧ reading.Torn := by
  unfold Reading.finish Reading.Torn
  cases hb : reading.below with
  | cons frame below => simpa using not_refused_malformed _
  | nil =>
    by_cases htorn : reading.global.ascii = true ∧ reading.global.unicode = true
    · refine iff_of_true ⟨.asciiAndUnicode, ?_⟩ ⟨rfl, htorn⟩
      simp [htorn]
    · refine iff_of_false ?_ fun h => htorn h.2
      have hflags : (reading.global.ascii && reading.global.unicode) = false := by
        simpa using htorn
      simp only [List.isEmpty_nil, Bool.not_true, Bool.false_eq_true, if_false, hflags]
      split
      · exact not_refused_malformed _
      · split
        · exact not_refused_malformed _
        · exact not_refused_ok _

/-! ## In step -/

/-- States in which the same items are read, so that none is refused in the second one if all can be
taken in the first one. -/
structure InStep (R : Reading → Reading → Prop) : Prop where
  verbose : ∀ {a b}, R a b → b.top.flags.verbose = a.top.flags.verbose
  refused : ∀ {a b item a'}, R a b → a.take item = .ok a' → ¬ Refused (b.take item)
  take : ∀ {a b item a' b'}, R a b → a.take item = .ok a' → b.take item = .ok b' → R a' b'

variable {R : Reading → Reading → Prop}

theorem InStep.readAll (hR : InStep R) (ha : Reads a tokens last) (h : R a b) :
    ¬ Refused (b.readAll tokens) ∧ ∀ last', b.readAll tokens = .ok last' → R last last' := by
  induction ha generalizing b with
  | nil =>
    refine ⟨not_refused_ok _, fun last' hlast => ?_⟩
    obtain rfl := Except.ok.inj hlast
    exact h
  | @cons a next last token rest left item hr ht _ ih =>
    have hstep : b.step token rest = b.take item >>= fun next => .ok (next, left) := by
      unfold Reading.step
      rw [hR.verbose h, hr]
      rfl
    rw [readAll_cons, hstep]
    cases htake : b.take item with
    | error why =>
      refine ⟨?_, fun last' hlast => by cases hlast⟩
      rintro ⟨why', hwhy⟩
      apply hR.refused h ht
      rw [htake]
      exact ⟨why', hwhy⟩
    | ok next' => exact ih (hR.take h ht htake)

theorem inside_inStep (hne : outer ≠ []) : InStep (Inside group outer) where
  verbose := inside_verbose
  refused := by
    intro a b item a' h _ hrefused
    obtain ⟨-, hbelow, -⟩ := take_refused hrefused
    obtain ⟨inner, hb, -⟩ := h.frames
    rw [hbelow] at hb
    exact hne (List.append_eq_nil_iff.1 hb.symm).2
  take := fun h => inside_take h hne

/-! ## Flags for how a pattern matches -/

/-- Flags that differ at most in how a pattern matches, not in how it is read. -/
structure Flags.Level (a b : Flags) : Prop where
  verbose : b.verbose = a.verbose
  ascii : b.ascii = a.ascii
  unicode : b.unicode = a.unicode

/-- Frames of which both or none is the pattern as a whole, with the same blanks in them. -/
structure Frame.Level (a b : Frame) : Prop where
  whole : a.opener = .whole ↔ b.opener = .whole
  verbose : b.flags.verbose = a.flags.verbose

/-- States that differ in no flag that changes how a pattern is read. -/
structure Reading.Level (a b : Reading) : Prop where
  frames : List.Forall₂ Frame.Level (a.top :: a.below) (b.top :: b.below)
  global : a.global.Level b.global

theorem level_top (h : a.Level b) : a.top.Level b.top := (List.forall₂_cons.1 h.frames).1

theorem level_below (h : a.Level b) : List.Forall₂ Frame.Level a.below b.below :=
  (List.forall₂_cons.1 h.frames).2

theorem level_torn (h : a.Level b) : b.Torn ↔ a.Torn := by
  rw [Reading.Torn, Reading.Torn, h.global.ascii, h.global.unicode]

theorem level_keeps (h : a.Level b) (ha : Keeps a a') (hb : Keeps b b') : a'.Level b' := by
  have ht := level_top h
  refine ⟨.cons ⟨?_, ?_⟩ ?_, ?_⟩
  · rw [ha.opener, hb.opener]
    exact ht.whole
  · rw [ha.flags, hb.flags]
    exact ht.verbose
  · rw [ha.below, hb.below]
    exact level_below h
  · rw [ha.global, hb.global]
    exact h.global

theorem level_opens (h : a.Level b) (ho : item.isOpening = true) (ha : a.take item = .ok a')
    (hb : b.take item = .ok b') : a'.Level b' := by
  obtain ⟨oa, ga, hwa, -, -, rfl⟩ := take_opens ho ha
  obtain ⟨ob, gb, hwb, -, -, rfl⟩ := take_opens ho hb
  refine ⟨.cons ⟨?_, ?_⟩ h.frames, h.global⟩
  · exact iff_of_false hwa hwb
  · have hv := (level_top h).verbose
    cases item with
    | flagged add drop =>
      simp only [Reading.openFrame, Item.flagsInside, Flags.within, Flags.union, Flags.without]
      split <;> simp only [hv]
    | _ => exact hv

theorem level_bars (h : a.Level b) (ha : Bars a a') (hb : Bars b b') : a'.Level b' := by
  have ht := level_top h
  have hopener {a a' : Reading} (ha : Bars a a') :
      a'.top.opener = .whole ↔ a.top.opener = .whole := by
    rcases ha.opener with ho | ⟨group, yes, ho, ho'⟩
    · rw [ho]
    · rw [ho, ho']
      exact iff_of_false (by simp) (by simp)
  refine ⟨.cons ⟨?_, ?_⟩ ?_, ?_⟩
  · rw [hopener ha, hopener hb]
    exact ht.whole
  · by_cases hw : a.top.opener = .whole
    · rw [ha.whole hw, hb.whole (ht.whole.1 hw)]
      exact h.global.verbose
    · rw [ha.flags hw, hb.flags fun hw' => hw (ht.whole.2 hw')]
      exact ht.verbose
  · rw [ha.below, hb.below]
    exact level_below h
  · rw [ha.global, hb.global]
    exact h.global

theorem level_closes (h : a.Level b) {fa fb : Frame} {pa pb : Piece} (ha : Closes a a' fa pa)
    (hb : Closes b b' fb pb) : a'.Level b' := by
  have hbelow := level_below h
  rw [ha.below, hb.below] at hbelow
  obtain ⟨ht, hbelow⟩ := List.forall₂_cons.1 hbelow
  refine ⟨.cons ⟨?_, ?_⟩ hbelow, ?_⟩
  · rw [ha.top, hb.top]
    exact ht.whole
  · rw [ha.top, hb.top]
    exact ht.verbose
  · rw [ha.global, hb.global]
    exact h.global

theorem union_level (h : flags.Level flags') (add : Flags) :
    (flags.union add).Level (flags'.union add) :=
  ⟨congrArg (· || add.verbose) h.verbose, congrArg (· || add.ascii) h.ascii,
    congrArg (· || add.unicode) h.unicode⟩

theorem setGlobal_eq_ok {add : Flags} (h : a.setGlobal add = .ok a') :
    a' = { a with
      global := a.global.union add
      top := { a.top with flags := { a.global.union add with unicode := false } } } := by
  simp only [Reading.setGlobal] at h
  split at h
  · exact (Except.ok.inj h).symm
  · simp [malformed] at h

theorem level_global (h : a.Level b) {add : Flags} (ha : a.setGlobal add = .ok a')
    (hb : b.setGlobal add = .ok b') : a'.Level b' := by
  obtain rfl := setGlobal_eq_ok ha
  obtain rfl := setGlobal_eq_ok hb
  have hbelow := level_below h
  have hglobal := union_level h.global add
  exact ⟨.cons ⟨(level_top h).whole, hglobal.verbose⟩ hbelow, hglobal⟩

theorem level_inStep : InStep Reading.Level where
  verbose := fun h => (level_top h).verbose
  refused := by
    intro a b item a' h ha hrefused
    obtain ⟨rfl, hbelow, htorn⟩ := take_refused hrefused
    have hb := level_below h
    rw [hbelow, List.forall₂_nil_right_iff] at hb
    obtain ⟨hascii, hunicode⟩ := (level_torn h).1 htorn
    simp [Reading.take, Reading.close, hb, hascii, hunicode] at ha
  take := by
    intro a b item a' b' h ha hb
    rcases item.kinds with hi | ho | rfl | rfl | ⟨add, rfl⟩
    · exact level_keeps h (take_keeps hi ha) (take_keeps hi hb)
    · exact level_opens h ho ha hb
    · exact level_bars h (bar_bars ha) (bar_bars hb)
    · obtain ⟨fa, pa, hca⟩ := close_closes ha
      obtain ⟨fb, pb, hcb⟩ := close_closes hb
      exact level_closes h hca hcb
    · exact level_global h ha hb

/-- A pattern that compiles is not refused under other flags for how it matches. -/
theorem compile_not_refused (hf : flags.Level flags') (h : compile flags source = .ok pattern) :
    ¬ Refused (compile flags' source) := by
  obtain ⟨last, hr, hfin⟩ := compile_eq_ok.1 h
  have hstart : (Reading.start flags).Level (.start flags') :=
    ⟨.cons ⟨Iff.rfl, hf.verbose⟩ .nil, hf⟩
  obtain ⟨hread, hlast⟩ := level_inStep.readAll hr hstart
  intro hrefused
  rcases refused_bind.1 hrefused with hrefused | ⟨last', hlast', hrefused⟩
  · exact hread hrefused
  · have hlevel := hlast last' hlast'
    rcases refused_bind.1 hrefused with hrefused | ⟨found, -, hrefused⟩
    · obtain ⟨hbelow, htorn⟩ := finish_refused_iff.1 hrefused
      have hb := level_below hlevel
      rw [hbelow, List.forall₂_nil_right_iff] at hb
      have hfinish : Refused last.finish := finish_refused_iff.2 ⟨hb, (level_torn hlevel).1 htorn⟩
      rw [hfin] at hfinish
      exact not_refused_ok _ hfinish
    · exact not_refused_ok _ hrefused

end NameSlots.Regex
