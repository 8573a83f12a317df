import NameSlots.Files.Action
import NameSlots.Proofs.Results

/-! What actions on files give, step by step. -/
namespace NameSlots.Action

variable {ε δ α β : Type} {action : Action ε α} {next : α → Action ε β} {files mid after : Files}
  {wrap : FileError → ε} {how : Files → Except FileError Files} {x : α} {y : β}
  {result : Except ε α}

@[simp] theorem perform_pure (x : α) (files : Files) :
    (pure x : Action ε α).perform files = (.ok x, files) := rfl

theorem perform_bind (action : Action ε α) (next : α → Action ε β) (files : Files) :
    (action >>= next).perform files = match action.perform files with
      | (.ok x, mid) => (next x).perform mid
      | (.error e, mid) => (.error e, mid) := by
  change (ExceptT.run (action >>= next)).run files = _
  rw [ExceptT.run_bind, StateT.run_bind]
  simp only [perform]
  cases h : (ExceptT.run action).run files with
  | mk result mid => cases result <;> rfl

theorem perform_bind_of_ok (h : action.perform files = (.ok x, mid)) :
    (action >>= next).perform files = (next x).perform mid := by
  rw [perform_bind, h]

theorem perform_tryCatch (action : Action ε α) (handler : ε → Action ε α) (files : Files) :
    (tryCatch action handler).perform files = match action.perform files with
      | (.ok x, mid) => (.ok x, mid)
      | (.error e, mid) => (handler e).perform mid := by
  change (ExceptT.run action >>= fun result => match result with
    | .ok x => pure (.ok x)
    | .error e => ExceptT.run (handler e) : StateM Files (Except ε α)).run files = _
  rw [StateT.run_bind]
  simp only [perform]
  cases h : (ExceptT.run action).run files with
  | mk result mid => cases result <;> rfl

/-- What succeeds is not caught. -/
theorem perform_tryCatch_of_ok {handler : ε → Action ε α} (h : action.perform files = (.ok x, mid)) :
    (tryCatch action handler).perform files = (.ok x, mid) := by
  rw [perform_tryCatch, h]

/-- What is caught by something that gives no result has a result only without being caught. -/
theorem perform_tryCatch_eq_ok {handler : ε → Action ε α}
    (hh : ∀ e mid, ((handler e).perform mid).1 ≠ .ok x) :
    (tryCatch action handler).perform files = (.ok x, after) ↔ action.perform files = (.ok x, after) := by
  refine ⟨fun h => ?_, perform_tryCatch_of_ok⟩
  rw [perform_tryCatch] at h
  cases hrun : action.perform files with
  | mk result mid =>
    rw [hrun] at h
    cases result with
    | ok y => exact h
    | error e => exact absurd (congrArg Prod.fst h) (hh e mid)

theorem perform_bind_of_error {e : ε} (h : action.perform files = (.error e, mid)) :
    (action >>= next).perform files = (.error e, mid) := by
  rw [perform_bind, h]

theorem perform_bind_eq_ok : (action >>= next).perform files = (.ok y, after) ↔
    ∃ x mid, action.perform files = (.ok x, mid) ∧ (next x).perform mid = (.ok y, after) := by
  rw [perform_bind]
  cases h : action.perform files with
  | mk result mid =>
    cases result with
    | error e => simp
    | ok x =>
      constructor
      · intro hy
        exact ⟨x, mid, rfl, hy⟩
      · rintro ⟨x', mid', he, hy⟩
        cases he
        exact hy

/-- What ends with an error has no result. -/
theorem perform_bind_throw_ne_ok (action : Action ε α) (e : ε) (files : Files) :
    ((action >>= fun _ => throw e : Action ε β).perform files).1 ≠ .ok y := by
  intro h
  obtain ⟨_, _, -, h⟩ := perform_bind_eq_ok.1 (Prod.ext h rfl)
  cases congrArg Prod.fst h

theorem perform_map (f : α → β) (h : action.perform files = (result, mid)) :
    (f <$> action).perform files = (result.map f, mid) := by
  change (action >>= fun x => pure (f x)).perform files = _
  rw [perform_bind, h]
  cases result <;> rfl

/-- What is asked of files leaves them as they are. -/
theorem perform_ask (wrap : FileError → ε) (question : Files → Except FileError α) (files : Files) :
    (ask wrap question).perform files =
      (match question files with
        | .ok x => .ok x
        | .error e => .error (wrap e), files) := by
  unfold ask
  rw [perform_bind]
  change (match question files with
    | .ok x => pure x
    | .error e => throw (wrap e) : Action ε α).perform files = _
  cases question files <;> rfl

theorem perform_ofExcept (wrap : δ → ε) (result : Except δ α) (files : Files) :
    (ofExcept wrap result : Action ε α).perform files =
      (match result with
        | .ok x => .ok x
        | .error e => .error (wrap e), files) := by
  cases result <;> rfl

theorem perform_change (wrap : FileError → ε) (how : Files → Except FileError Files) (files : Files) :
    (change wrap how).perform files = match how files with
      | .ok changed => (.ok (), changed)
      | .error e => (.error (wrap e), files) := by
  unfold change
  rw [perform_bind, perform_ask]
  cases how files <;> rfl

theorem perform_change_eq_ok {u : Unit} :
    (change wrap how).perform files = (.ok u, after) ↔ how files = .ok after := by
  rw [perform_change]
  cases how files <;> simp

theorem perform_change_of_ok (h : how files = .ok after) :
    (change wrap how).perform files = (.ok (), after) := perform_change_eq_ok.2 h

theorem perform_change_of_error {e : FileError} (h : how files = .error e) :
    (change wrap how).perform files = (.error (wrap e), files) := by
  rw [perform_change, h]

/-- The errors of an action told otherwise. -/
theorem perform_adapt (f : ε → δ) (action : Action ε α) (files : Files) :
    perform (ExceptT.adapt f action) files =
      ((action.perform files).1.mapError f, (action.perform files).2) := by
  change (Except.mapError f <$> ExceptT.run action : StateM Files (Except δ α)).run files = _
  rw [StateT.run_map]
  rfl

/-! ## Actions that only read -/

/-- An action that leaves the files as they are, whether it fails or not. -/
def Reads (action : Action ε α) : Prop := ∀ files, (action.perform files).2 = files

theorem reads_pure (x : α) : Reads (pure x : Action ε α) := fun _ => rfl

theorem reads_throw (e : ε) : Reads (throw e : Action ε α) := fun _ => rfl

theorem reads_ask (wrap : FileError → ε) (question : Files → Except FileError α) :
    Reads (ask wrap question) := fun files => by rw [perform_ask]

theorem reads_ofExcept (wrap : δ → ε) (result : Except δ α) :
    Reads (ofExcept wrap result : Action ε α) := fun files => by rw [perform_ofExcept]

theorem Reads.bind (h : Reads action) (hn : ∀ x, Reads (next x)) : Reads (action >>= next) := by
  intro files
  have hmid := h files
  rw [perform_bind]
  cases hrun : action.perform files with
  | mk result mid =>
    obtain rfl : mid = files := by rwa [hrun] at hmid
    cases result with
    | ok x => exact hn x mid
    | error e => rfl

theorem Reads.map (h : Reads action) (f : α → β) : Reads (f <$> action) := by
  rw [← bind_pure_comp]
  exact h.bind fun x => reads_pure (f x)

theorem Reads.adapt (h : Reads action) (f : ε → δ) : Reads (ExceptT.adapt f action) := by
  intro files
  rw [perform_adapt]
  exact h files

theorem Reads.perform_eq (h : Reads action) (files : Files) :
    action.perform files = ((action.perform files).1, files) := Prod.ext rfl (h files)

/-- How an action that fails leaves the files. -/
def Leaves (left : Files → Files → Prop) (action : Action ε α) : Prop :=
  ∀ files e after, action.perform files = (.error e, after) → left files after

variable {left : Files → Files → Prop}

theorem Leaves.mono {left' : Files → Files → Prop} (h : Leaves left action)
    (hl : ∀ files after, left files after → left' files after) : Leaves left' action :=
  fun files e after hrun => hl files after (h files e after hrun)

theorem Reads.leaves (h : Reads action) (hl : ∀ files, left files files) : Leaves left action := by
  intro files e after hrun
  have hafter := h files
  rw [hrun] at hafter
  exact hafter ▸ hl files

/-- What comes after an action that only reads may fail too. -/
theorem Reads.bind_leaves (h : Reads action) (hl : ∀ files, left files files)
    (hn : ∀ x, Leaves left (next x)) : Leaves left (action >>= next) := by
  intro files e after hrun
  rw [perform_bind, h.perform_eq] at hrun
  cases hresult : (action.perform files).1 with
  | ok x =>
    rw [hresult] at hrun
    exact hn x files e after hrun
  | error e' =>
    rw [hresult] at hrun
    cases hrun
    exact hl files

/-- What comes after an action may have a result whatever the files are. -/
theorem Leaves.bind (h : Leaves left action) (hn : ∀ x files, ∃ y, ((next x).perform files).1 = .ok y) :
    Leaves left (action >>= next) := by
  intro files e after hrun
  rw [perform_bind] at hrun
  cases hfirst : action.perform files with
  | mk result mid =>
    rw [hfirst] at hrun
    cases result with
    | error e' =>
      cases hrun
      exact h files e after hfirst
    | ok x =>
      obtain ⟨y, hy⟩ := hn x mid
      cases hy.symm.trans (congrArg Prod.fst hrun)

theorem Leaves.adapt (h : Leaves left action) (f : ε → δ) : Leaves left (ExceptT.adapt f action) := by
  intro files e after hrun
  rw [perform_adapt] at hrun
  obtain ⟨hresult, hafter⟩ := Prod.mk.inj hrun
  cases hfirst : (action.perform files).1 with
  | ok x =>
    rw [hfirst] at hresult
    cases hresult
  | error e' => exact h files e' after (Prod.ext hfirst hafter)

end NameSlots.Action
