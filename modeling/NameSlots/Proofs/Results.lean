/-! Results that are there or say why not. -/
namespace NameSlots

variable {α β γ δ ε : Type} {a : Except ε α} {x : α} {y : β}

theorem bind_eq_ok {f : α → Except ε β} : (a >>= f) = .ok y ↔ ∃ x, a = .ok x ∧ f x = .ok y := by
  cases a <;> simp [bind, Except.bind]

theorem bind_eq_error {f : α → Except ε β} {why : ε} :
    (a >>= f) = .error why ↔ a = .error why ∨ ∃ x, a = .ok x ∧ f x = .error why := by
  cases a <;> simp [bind, Except.bind]

theorem pure_eq_ok {z : α} : (pure x : Except ε α) = .ok z ↔ z = x := by
  simp [pure, Except.pure, eq_comm]

/-- Steps that only let pass come before the result. -/
theorem unit_bind_eq_ok {first : Except ε Unit} {rest : Except ε α} :
    (first >>= fun _ => rest) = .ok x ↔ first = .ok () ∧ rest = .ok x := by
  cases first <;> simp [bind, Except.bind]

theorem toOption_eq_some : a.toOption = some x ↔ a = .ok x := by
  cases a <;> simp [Except.toOption]

@[simp] theorem mapError_ok (why : ε → δ) (x : α) : (Except.ok x).mapError why = .ok x := rfl

@[simp] theorem mapError_error (why : ε → δ) (e : ε) :
    (Except.error e : Except ε α).mapError why = .error (why e) := rfl

theorem mapError_eq_ok {why : ε → δ} : a.mapError why = .ok x ↔ a = .ok x := by
  cases a <;> simp

theorem map_eq_error {f : α → β} {why : ε} : f <$> a = .error why ↔ a = .error why := by
  cases a <;> simp [Functor.map, Except.map]

theorem mapM_cons_eq_ok {f : α → Except ε β} {first : α} {rest : List α} {ys : List β} :
    (first :: rest).mapM f = .ok ys ↔
      ∃ z zs, f first = .ok z ∧ rest.mapM f = .ok zs ∧ ys = z :: zs := by
  simp only [List.mapM_cons, bind_eq_ok, pure, Except.pure, Except.ok.injEq]
  constructor
  · rintro ⟨z, hz, zs, hzs, rfl⟩
    exact ⟨z, zs, hz, hzs, rfl⟩
  · rintro ⟨z, zs, hz, hzs, rfl⟩
    exact ⟨z, hz, zs, hzs, rfl⟩

theorem mapM_cons_eq_error {f : α → Except ε β} {first : α} {rest : List α} {why : ε} :
    (first :: rest).mapM f = .error why ↔
      f first = .error why ∨ ∃ y, f first = .ok y ∧ rest.mapM f = .error why := by
  simp [List.mapM_cons, bind_eq_error, pure, Except.pure]

/-- The first step that fails tells why there is no list. -/
theorem mapM_eq_error {f : α → Except ε β} {xs : List α} {why : ε} : xs.mapM f = .error why ↔
    ∃ before x after ys, xs = before ++ x :: after ∧ before.mapM f = .ok ys ∧ f x = .error why := by
  induction xs with
  | nil => simp [pure, Except.pure]
  | cons first rest ih =>
    rw [mapM_cons_eq_error, ih]
    constructor
    · rintro (h | ⟨y, hy, before, x, after, ys, rfl, hys, hx⟩)
      · exact ⟨[], first, rest, [], rfl, rfl, h⟩
      · exact ⟨first :: before, x, after, y :: ys, rfl, mapM_cons_eq_ok.2 ⟨y, ys, hy, hys, rfl⟩, hx⟩
    · rintro ⟨before, x, after, ys, hxs, hys, hx⟩
      cases before with
      | nil =>
        obtain ⟨rfl, rfl⟩ := List.cons.inj hxs
        exact .inl hx
      | cons other before =>
        obtain ⟨rfl, rfl⟩ := List.cons.inj hxs
        obtain ⟨y, zs, hy, hzs, -⟩ := mapM_cons_eq_ok.1 hys
        exact .inr ⟨y, hy, before, x, after, zs, rfl, hzs, hx⟩

/-- There is a list of results where every step has one. -/
theorem exists_mapM_eq_ok {f : α → Except ε β} {xs : List α} :
    (∃ ys, xs.mapM f = .ok ys) ↔ ∀ x ∈ xs, ∃ y, f x = .ok y := by
  induction xs with
  | nil => simp [pure, Except.pure]
  | cons x xs ih =>
    rw [List.forall_mem_cons, ← ih]
    constructor
    · rintro ⟨_, h⟩
      obtain ⟨y, ys, hy, hys, -⟩ := mapM_cons_eq_ok.1 h
      exact ⟨⟨y, hy⟩, ys, hys⟩
    · rintro ⟨⟨y, hy⟩, ys, hys⟩
      exact ⟨y :: ys, mapM_cons_eq_ok.2 ⟨y, ys, hy, hys, rfl⟩⟩

theorem mapM_map_ok {f : β → Except ε γ} {g : α → β} {h : α → γ} {xs : List α}
    (hf : ∀ x ∈ xs, f (g x) = .ok (h x)) : (xs.map g).mapM f = .ok (xs.map h) := by
  induction xs with
  | nil => rfl
  | cons x xs ih =>
    obtain ⟨hx, hxs⟩ := List.forall_mem_cons.1 hf
    exact mapM_cons_eq_ok.2 ⟨h x, xs.map h, hx, ih hxs, rfl⟩

/-- Steps that fail for the same reasons, told otherwise, do so over a list. -/
theorem mapM_mapError {f : α → Except ε β} {g : γ → Except δ β} {h : α → γ} (why : ε → δ)
    (hg : ∀ x, g (h x) = (f x).mapError why) (xs : List α) :
    (xs.map h).mapM g = (xs.mapM f).mapError why := by
  induction xs with
  | nil => rfl
  | cons x xs ih =>
    rw [List.map_cons, List.mapM_cons, List.mapM_cons, hg, ih]
    cases f x with
    | error e => rfl
    | ok y => cases xs.mapM f <;> rfl

/-- What holds of all results of one step holds of all results of a list. -/
theorem forall_mem_of_mapM {f : α → Except ε β} {P : β → Prop} {xs : List α} {ys : List β}
    (h : xs.mapM f = .ok ys) (hf : ∀ x ∈ xs, ∀ y, f x = .ok y → P y) : ∀ y ∈ ys, P y := by
  induction xs generalizing ys with
  | nil =>
    cases h
    simp
  | cons x xs ih =>
    obtain ⟨hx, hxs⟩ := List.forall_mem_cons.1 hf
    obtain ⟨z, zs, hz, hzs, rfl⟩ := mapM_cons_eq_ok.1 h
    exact List.forall_mem_cons.2 ⟨hx z hz, ih hzs hxs⟩

/-- What every result shows of what it came from all results show. -/
theorem map_of_mapM {f : α → Except ε β} {shown : β → γ} {source : α → γ} {xs : List α}
    {ys : List β} (h : xs.mapM f = .ok ys) (hf : ∀ x y, f x = .ok y → shown y = source x) :
    ys.map shown = xs.map source := by
  induction xs generalizing ys with
  | nil =>
    cases h
    rfl
  | cons x xs ih =>
    obtain ⟨z, zs, hz, hzs, rfl⟩ := mapM_cons_eq_ok.1 h
    rw [List.map_cons, List.map_cons, hf x z hz, ih hzs]

/-- What is counted among all results is counted among what they came from. -/
theorem countP_of_mapM {f : α → Except ε β} {p : β → Bool} {q : α → Bool} {xs : List α} {ys : List β}
    (h : xs.mapM f = .ok ys) (hf : ∀ x y, f x = .ok y → p y = q x) : ys.countP p = xs.countP q := by
  have hcount := congrArg (List.countP id) (map_of_mapM h hf)
  rwa [List.countP_map, List.countP_map] at hcount

theorem forM_eq_ok {f : α → Except ε Unit} {xs : List α} {u : Unit} :
    xs.forM f = .ok u ↔ ∀ x ∈ xs, f x = .ok u := by
  rw [List.forM_eq_forM]
  induction xs with
  | nil => simp [pure, Except.pure]
  | cons x xs ih =>
    rw [List.forM_cons, bind_eq_ok, List.forall_mem_cons, ← ih]
    constructor
    · rintro ⟨u', hx, hxs⟩
      exact ⟨hx, hxs⟩
    · rintro ⟨hx, hxs⟩
      exact ⟨u, hx, hxs⟩

/-! ## What may be wrong -/

/-- If a result is missing the reason is of a kind. -/
def FailsOnly (kind : ε → Prop) (a : Except ε α) : Prop := ∀ why, a = .error why → kind why

section

variable {kind : ε → Prop} {f : α → Except ε β} {why : ε}

@[simp] theorem failsOnly_ok (x : α) : FailsOnly kind (.ok x) := nofun

@[simp] theorem failsOnly_pure (x : α) : FailsOnly kind (pure x) := nofun

@[simp] theorem failsOnly_error : FailsOnly kind (.error why : Except ε α) ↔ kind why := by
  simp [FailsOnly]

theorem FailsOnly.mono {kind' : ε → Prop} (h : FailsOnly kind a) (hk : ∀ why, kind why → kind' why) :
    FailsOnly kind' a := fun why ha => hk why (h why ha)

@[simp] theorem failsOnly_bind : FailsOnly kind (a >>= f) ↔
    FailsOnly kind a ∧ ∀ x, a = .ok x → FailsOnly kind (f x) := by
  cases a with
  | ok x => simp [bind, Except.bind]
  | error why => simp [bind, Except.bind]

@[simp] theorem failsOnly_map {f : α → β} : FailsOnly kind (f <$> a) ↔ FailsOnly kind a := by
  simp only [FailsOnly, map_eq_error]

theorem mapError_eq_error {why' : ε → δ} {e : δ} :
    a.mapError why' = .error e ↔ ∃ why, a = .error why ∧ why' why = e := by
  cases a <;> simp

theorem failsOnly_mapError {kind : δ → Prop} {why' : ε → δ} :
    FailsOnly kind (a.mapError why') ↔ FailsOnly (fun why => kind (why' why)) a := by
  cases a <;> simp

@[simp] theorem failsOnly_ite {c : Prop} [Decidable c] {b : Except ε α} :
    FailsOnly kind (if c then a else b) ↔ (c → FailsOnly kind a) ∧ (¬ c → FailsOnly kind b) := by
  split <;> simp_all

/-- A result that is there is good, and one that is missing is so for a reason of a kind. -/
def Yields (kind : ε → Prop) (good : α → Prop) : Except ε α → Prop
  | .ok x => good x
  | .error why => kind why

variable {good : α → Prop} {last : β → Prop}

theorem Yields.failsOnly (h : Yields kind good a) : FailsOnly kind a := by
  rintro why rfl
  exact h

theorem Yields.ok (h : Yields kind good a) (ha : a = .ok x) : good x := by
  rw [ha] at h
  exact h

theorem Yields.bind (h : Yields kind good a) (hf : ∀ x, good x → Yields kind last (f x)) :
    Yields kind last (a >>= f) := by
  cases a with
  | ok x => exact hf x h
  | error why => exact h

theorem yields_mapM (last : β → Prop) {xs : List α} (h : ∀ x ∈ xs, Yields kind last (f x)) :
    Yields kind (fun ys => ∀ y ∈ ys, last y) (xs.mapM f) := by
  induction xs with
  | nil => exact fun _ hm => absurd hm List.not_mem_nil
  | cons x xs ih =>
    obtain ⟨hx, hxs⟩ := List.forall_mem_cons.1 h
    rw [List.mapM_cons]
    exact hx.bind fun y hy => (ih hxs).bind fun ys hys => List.forall_mem_cons.2 ⟨hy, hys⟩

end

/-- Results that are both there and stand in a relation, or both miss for one reason. -/
inductive SameResult (R : α → β → Prop) : Except ε α → Except ε β → Prop where
  | ok {x : α} {y : β} : R x y → SameResult R (.ok x) (.ok y)
  | error (why : ε) : SameResult R (.error why) (.error why)

theorem sameResult_bind {R : α → β → Prop} {S : γ → δ → Prop} {b : Except ε β}
    {f : α → Except ε γ} {g : β → Except ε δ} (h : SameResult R a b)
    (hf : ∀ x y, R x y → SameResult S (f x) (g y)) : SameResult S (a >>= f) (b >>= g) := by
  cases h with
  | ok hr => exact hf _ _ hr
  | error why => exact .error why

/-- Results of which each stands to a third one are the same in what they share with it. -/
theorem sameResult_of_common {R : α → β → Prop} {S : β → β → Prop} {b c : Except ε β}
    (hR : ∀ x y z, R x y → R x z → S y z) (hb : SameResult R a b) (hc : SameResult R a c) :
    SameResult S b c := by
  cases hb with
  | error why =>
    cases hc
    exact .error why
  | ok hy =>
    cases hc with
    | ok hz => exact .ok (hR _ _ _ hy hz)

/-- A step that both take before they go on. -/
theorem sameResult_both {S : γ → δ → Prop} {f : α → Except ε γ} {g : α → Except ε δ}
    (hf : ∀ x, SameResult S (f x) (g x)) : SameResult S (a >>= f) (a >>= g) := by
  cases a with
  | ok x => exact hf x
  | error why => exact .error why

end NameSlots
