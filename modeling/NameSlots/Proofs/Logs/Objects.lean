import Mathlib.Logic.ExistsUnique
import NameSlots.Proofs.Logs.Refusal

/-! The objects in a log, one a line, and those of them that tell the end of a request. -/
namespace NameSlots.Logs

variable {counts : Text → Bool} {line operation label : Text} {payload : Json} {event : Event}
  {files : Files} {path : Path}

/-! ## Lines -/

/-- The object that a line holds. -/
def object? (line : Text) : Option Json :=
  match Json.read (Text.trim line) with
  | .ok (.object fields) => some (.object fields)
  | _ => none

/-- The objects in a file, one a line. -/
def objects (files : Files) (path : Path) : List Json := (linesOf files path).filterMap object?

/-- A line without an object is blank, or faulty, or has a number with too many digits. -/
theorem isSome_object? : (object? line).isSome ↔ (Text.trim line).isEmpty = false ∧
    isFaulty line = false ∧ ∀ count, Json.read (Text.trim line) ≠ .error (.tooManyDigits count) := by
  unfold object? isFaulty
  split
  · next fields hread =>
    refine iff_of_true rfl ⟨Bool.eq_false_iff.2 fun hempty => ?_, by rw [hread], by rw [hread]; nofun⟩
    cases (read_blank hempty).symm.trans hread
  · next hobject =>
    refine iff_of_false (by simp) ?_
    rintro ⟨hempty, hfaulty, hdigits⟩
    split at hfaulty
    · next fields hread => exact hobject fields hread
    · next count hread => exact hdigits count hread
    · simp [hempty] at hfaulty

/-! ## Ends of requests -/

theorem eventOf_told (h : eventOf operation payload = .ok event) : event.operation = operation ∧
    event.outcome = (textField? "outcome" payload).getD "unknown".toList := by
  unfold eventOf at h
  simp only [bind_eq_ok, pure_eq_ok] at h
  obtain ⟨-, -, -, -, -, -, rfl⟩ := h
  exact ⟨rfl, rfl⟩

/-- An object tells the end of a request for an operation that counts, with its outcome. -/
structure Ends (counts : Text → Bool) (payload : Json) (operation outcome : Text) : Prop where
  event : ∃ name ∈ lastEvents, payload.field? "event" = some (.string name)
  isOperation : textField? "operation" payload = some operation
  isCounted : counts operation = true
  isOutcome : (textField? "outcome" payload).getD "unknown".toList = outcome

/-- An object that tells the end of a request does so wherever its operation counts. -/
theorem Ends.of_counts {counts' : Text → Bool} (h : Ends counts payload operation label)
    (hcounts : counts' operation = true) : Ends counts' payload operation label :=
  { h with isCounted := hcounts }

/-- The operation and the outcome of the request whose end an object tells. -/
def end? (counts : Text → Bool) (payload : Json) : Option (Text × Text) :=
  match isLast (payload.field? "event"), textField? "operation" payload with
  | .ok true, some operation =>
    if counts operation then some (operation, (textField? "outcome" payload).getD "unknown".toList)
    else none
  | _, _ => none

theorem end?_eq_some : end? counts payload = some (operation, label) ↔
    Ends counts payload operation label := by
  have hends : Ends counts payload operation label ↔ isLast (payload.field? "event") = .ok true ∧
      textField? "operation" payload = some operation ∧ counts operation = true ∧
      (textField? "outcome" payload).getD "unknown".toList = label := by
    rw [isLast_eq_true]
    exact ⟨fun h => ⟨h.1, h.2, h.3, h.4⟩, fun h => ⟨h.1, h.2.1, h.2.2.1, h.2.2.2⟩⟩
  rw [hends]
  unfold end?
  split
  · next other hlast hother =>
    rw [hlast, hother]
    by_cases hcounts : counts other = true
    · rw [if_pos hcounts]
      constructor
      · intro h
        obtain ⟨rfl, rfl⟩ := Prod.mk.inj (Option.some.inj h)
        exact ⟨rfl, rfl, hcounts, rfl⟩
      · rintro ⟨-, hsame, -, rfl⟩
        rw [Option.some.inj hsame]
    · rw [if_neg hcounts]
      refine ⟨nofun, ?_⟩
      rintro ⟨-, hsame, hcounts', -⟩
      exact (hcounts (Option.some.inj hsame ▸ hcounts')).elim
  · next hnot => exact ⟨nofun, fun h => (hnot operation h.1 h.2.1).elim⟩

instance : Decidable (Ends counts payload operation label) := decidable_of_iff _ end?_eq_some

/-- Of an object that tells the end of a request there is one operation and one outcome. -/
theorem tellsEnd_iff_existsUnique :
    TellsEnd counts payload ↔ ∃! told : Text × Text, Ends counts payload told.1 told.2 := by
  constructor
  · rintro ⟨hevent, operation, htext, hcounts⟩
    refine ⟨(operation, _), ⟨hevent, htext, hcounts, rfl⟩, ?_⟩
    rintro ⟨other, label⟩ ⟨-, hother, -, rfl⟩
    exact Prod.ext (Option.some.inj (hother.symm.trans htext)) rfl
  · rintro ⟨⟨operation, label⟩, h, -⟩
    exact ⟨h.event, operation, h.isOperation, h.isCounted⟩

theorem isSome_end? : (end? counts payload).isSome ↔ TellsEnd counts payload := by
  rw [tellsEnd_iff_existsUnique, Option.isSome_iff_exists]
  constructor
  · rintro ⟨told, h⟩
    refine ⟨told, end?_eq_some.1 h, fun other hother => ?_⟩
    exact Option.some.inj ((end?_eq_some.2 hother).symm.trans h)
  · rintro ⟨told, h, -⟩
    exact ⟨told, end?_eq_some.2 h⟩

instance : Decidable (TellsEnd counts payload) := decidable_of_iff _ isSome_end?

/-- The event of an object has the operation and the outcome whose end the object tells. -/
theorem lineOf_told {found : Line} (h : lineOf counts payload = .ok found) :
    (∃ event, Ends counts payload event.operation event.outcome ∧
        eventOf event.operation payload = .ok event ∧ found = .event event) ∨
      (end? counts payload = none ∧ found = .skipped) := by
  rcases lineOf_eq_ok h with
    ⟨⟨hlast, other, hother, hcounts⟩, operation, event, htext, hevent, rfl⟩ | ⟨hnot, rfl⟩
  · obtain ⟨rfl, houtcome⟩ := eventOf_told hevent
    obtain rfl := Option.some.inj (hother.symm.trans htext)
    exact .inl ⟨event, ⟨hlast, htext, hcounts, houtcome.symm⟩, hevent, rfl⟩
  · exact .inr ⟨Option.not_isSome_iff_eq_none.1 fun hsome => hnot (isSome_end?.1 hsome), rfl⟩

/-- The event that a line tells. -/
def toldBy (counts : Text → Bool) (line : Text) : Option Event :=
  (readLine counts line).toOption.bind Line.event?

theorem toldBy_eq (counts : Text → Bool) (line : Text) : toldBy counts line =
    (object? line).bind fun payload => (lineOf counts payload).toOption.bind Line.event? := by
  unfold toldBy readLine object?
  dsimp only
  split
  · next hempty =>
    rw [read_blank hempty]
    rfl
  · cases hread : Json.read (Text.trim line) with
    | ok value => cases value <;> rfl
    | error fault => cases fault <;> rfl

theorem not_stray_of_object? (h : ¬ StrayLine counts line) (ho : object? line = some payload) :
    ¬ Stray counts payload := by
  unfold object? at ho
  split at ho
  · next fields hread =>
    obtain rfl := Option.some.inj ho
    exact fun hstray => h (.object hread hstray)
  · cases ho

theorem toldBy_end (h : ¬ StrayLine counts line) :
    ((toldBy counts line).map fun event => (event.operation, event.outcome)) =
      (object? line).bind (end? counts) := by
  rw [toldBy_eq]
  cases ho : object? line with
  | none => rfl
  | some payload =>
    obtain ⟨found, hfound⟩ := exists_lineOf.2 (not_stray_of_object? h ho)
    rw [Option.bind_some, Option.bind_some, hfound]
    rcases lineOf_told hfound with ⟨event, hends, -, rfl⟩ | ⟨hnone, rfl⟩
    · exact (end?_eq_some.2 hends).symm
    · rw [hnone]
      rfl

end NameSlots.Logs
