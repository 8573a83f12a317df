import NameSlots.Logs.Summary
import NameSlots.Proofs.Results

/-! Logs that have no summary. A file that cannot be read and a line that is no object are counted, but
bytes that are no text, a number with too many digits, a list or a table for the name of an event, and
a time that is no number or infinite leave no summary of any file. -/
namespace NameSlots.Logs

variable {counts : Text → Bool} {line operation : Text} {name : String} {payload timing : Json}
  {files : Files} {path : Path} {paths : List Path}

/-- The times of a request that has ended. -/
def timeNames : List String := ["total_ms", "worker_ms", "queue_wait_ms"]

/-- Some time is no number or infinite. -/
def HasBadTime (timing : Json) : Prop :=
  ∃ name ∈ timeNames, ∃ x, timing.field? name = some (.float x) ∧ x.truncate? = none

/-- An object tells the end of a request for an operation that counts. -/
def TellsEnd (counts : Text → Bool) (payload : Json) : Prop :=
  (∃ name ∈ lastEvents, payload.field? "event" = some (.string name)) ∧
    ∃ operation, textField? "operation" payload = some operation ∧ counts operation = true

/-- An object has a list or a table for the name of its event, or a time that cannot be counted. -/
inductive Stray (counts : Text → Bool) (payload : Json) : Prop where
  | list {items : List Json} : payload.field? "event" = some (.array items) → Stray counts payload
  | table {fields : List (Text × Json)} :
      payload.field? "event" = some (.object fields) → Stray counts payload
  | time : TellsEnd counts payload → HasBadTime ((payload.field? "timing").getD .null) →
      Stray counts payload

/-- A line is an object that strays, or has a number with too many digits. -/
inductive StrayLine (counts : Text → Bool) (line : Text) : Prop where
  | object {fields : List (Text × Json)} : Json.read (Text.trim line) = .ok (.object fields) →
      Stray counts (.object fields) → StrayLine counts line
  | digits {count : Nat} : Json.read (Text.trim line) = .error (.tooManyDigits count) →
      StrayLine counts line

/-- Whether a line is neither blank nor an object. -/
def isFaulty (line : Text) : Bool :=
  match Json.read (Text.trim line) with
  | .ok (.object _) | .error (.tooManyDigits _) => false
  | _ => !(Text.trim line).isEmpty

/-! ## Objects -/

theorem exists_time : (∃ ms, time? name timing = .ok ms) ↔
    ∀ x, timing.field? name = some (.float x) → x.truncate? ≠ none := by
  unfold time?
  split
  · next h => simp [h]
  · next h => simp [h]
  · next h =>
    have hnan : Double.nan.truncate? = none := rfl
    simp [h, hnan]
  · next x _ h =>
    rw [h]
    cases hx : x.truncate? with
    | none => simp [hx]
    | some n => simp [hx]
  · next hint hbool hnan hfloat =>
    exact ⟨fun _ x h => (hfloat x h).elim, fun _ => ⟨none, rfl⟩⟩

theorem exists_eventOf : (∃ event, eventOf operation payload = .ok event) ↔
    ¬ HasBadTime ((payload.field? "timing").getD .null) := by
  have htimes {timing : Json} : ¬ HasBadTime timing ↔
      ∀ name ∈ timeNames, ∃ ms, time? name timing = .ok ms := by
    simp only [exists_time, HasBadTime, not_exists, not_and]
  rw [htimes]
  unfold eventOf
  simp only [bind_eq_ok, pure_eq_ok, timeNames, List.forall_mem_cons]
  constructor
  · rintro ⟨event, total, htotal, worker, hworker, wait, hwait, -⟩
    exact ⟨⟨total, htotal⟩, ⟨worker, hworker⟩, ⟨wait, hwait⟩, nofun⟩
  · rintro ⟨⟨total, htotal⟩, ⟨worker, hworker⟩, ⟨wait, hwait⟩, -⟩
    exact ⟨_, total, htotal, worker, hworker, wait, hwait, rfl⟩

theorem isLast_eq_error {event : Option Json} : (∃ why, isLast event = .error why) ↔
    (∃ items, event = some (.array items)) ∨ ∃ fields, event = some (.object fields) := by
  unfold isLast
  split <;> simp_all

theorem isLast_eq_true {event : Option Json} :
    isLast event = .ok true ↔ ∃ name ∈ lastEvents, event = some (.string name) := by
  unfold isLast
  split <;> simp_all

/-- An object is an event, or is left out, unless it strays. -/
theorem exists_lineOf : (∃ found, lineOf counts payload = .ok found) ↔ ¬ Stray counts payload := by
  have hskipped : ∃ found, (pure .skipped : Except LogError Line) = .ok found := ⟨_, rfl⟩
  have hstrays (hevent : ∀ why, isLast (payload.field? "event") ≠ .error why) :
      Stray counts payload ↔
        TellsEnd counts payload ∧ HasBadTime ((payload.field? "timing").getD .null) := by
    refine ⟨fun h => ?_, fun h => .time h.1 h.2⟩
    cases h with
    | list h | table h => simp [h, isLast] at hevent
    | time hends htime => exact ⟨hends, htime⟩
  unfold lineOf
  cases hlast : isLast (payload.field? "event") with
  | error why =>
    have hstray : Stray counts payload := by
      rcases isLast_eq_error.1 ⟨why, hlast⟩ with ⟨items, h⟩ | ⟨fields, h⟩
      · exact .list h
      · exact .table h
    simp [bind, Except.bind, hstray]
  | ok ends =>
    rw [hstrays (by simp [hlast]), TellsEnd, ← isLast_eq_true, hlast]
    cases ends with
    | false => simpa [bind, Except.bind] using hskipped
    | true =>
      cases htext : textField? "operation" payload with
      | none => simpa [bind, Except.bind] using hskipped
      | some operation =>
        cases hcounts : counts operation with
        | false => simpa [bind, Except.bind, hcounts] using hskipped
        | true =>
          have hends : ∃ other, some operation = some other ∧ counts other = true := ⟨_, rfl, hcounts⟩
          rw [and_iff_right ⟨rfl, hends⟩, ← @exists_eventOf operation payload]
          change (∃ found, (if counts operation then _ else _) = Except.ok found) ↔ _
          rw [if_pos hcounts]
          simp only [bind_eq_ok, pure_eq_ok]
          exact ⟨fun ⟨_, event, h, _⟩ => ⟨event, h⟩, fun ⟨event, h⟩ => ⟨_, event, h, rfl⟩⟩

/-- Counted are the objects that tell the end of a request, and no others. -/
theorem lineOf_eq_ok {found : Line} (h : lineOf counts payload = .ok found) :
    (TellsEnd counts payload ∧ ∃ operation event, textField? "operation" payload = some operation ∧
        eventOf operation payload = .ok event ∧ found = .event event) ∨
      (¬ TellsEnd counts payload ∧ found = .skipped) := by
  obtain ⟨ends, hlast, h⟩ := bind_eq_ok.1 h
  unfold TellsEnd
  rw [← isLast_eq_true, hlast]
  split at h
  · next hends =>
    subst hends
    split at h
    · next operation htext =>
      split at h
      · next hcounts =>
        obtain ⟨event, hevent, h⟩ := bind_eq_ok.1 h
        exact .inl ⟨⟨rfl, operation, htext, hcounts⟩, operation, event, htext, hevent, pure_eq_ok.1 h⟩
      · next hcounts =>
        refine .inr ⟨?_, pure_eq_ok.1 h⟩
        rintro ⟨-, other, hother, hcounts'⟩
        rw [htext] at hother
        exact hcounts (Option.some.inj hother ▸ hcounts')
    · next hnone =>
      refine .inr ⟨?_, pure_eq_ok.1 h⟩
      rintro ⟨-, other, hother, -⟩
      rw [hnone] at hother
      cases hother
  · next hends => exact .inr ⟨fun htells => hends (Except.ok.inj htells.1), pure_eq_ok.1 h⟩

/-! ## Lines -/

theorem read_blank (h : (Text.trim line).isEmpty = true) :
    Json.read (Text.trim line) = .error (.malformed .value 0) := by
  rw [List.isEmpty_iff.1 h]
  rfl

theorem exists_readLine :
    (∃ found, readLine counts line = .ok found) ↔ ¬ StrayLine counts line := by
  have hstrays (hdigits : ∀ count, Json.read (Text.trim line) ≠ .error (.tooManyDigits count)) :
      StrayLine counts line ↔ ∃ fields, Json.read (Text.trim line) = .ok (.object fields) ∧
        Stray counts (.object fields) := by
    refine ⟨fun h => ?_, fun ⟨fields, hread, h⟩ => .object hread h⟩
    cases h with
    | object hread h => exact ⟨_, hread, h⟩
    | digits h => exact (hdigits _ h).elim
  unfold readLine
  dsimp only
  split
  · next hempty =>
    have hread := read_blank hempty
    simp [hstrays, hread]
  · split
    · next fields hread => simp [hstrays, hread, exists_lineOf]
    · next value hobject hread => simpa [hstrays, hread] using fun fields h => (hobject fields h).elim
    · next what left hread => simp [hstrays, hread]
    · next count hread => simp [StrayLine.digits hread]

/-- Lines that are no objects, and only those, are faulty. -/
theorem readLine_faulty {found : Line} (h : readLine counts line = .ok found) :
    found = .faulty ↔ isFaulty line = true := by
  unfold readLine at h
  unfold isFaulty
  dsimp only at h
  split at h
  · next hempty =>
    have hread := read_blank hempty
    cases h
    simp [hread, hempty]
  · next hne =>
    split at h
    · next fields hread =>
      rw [hread]
      refine ⟨fun hfaulty => ?_, nofun⟩
      rcases lineOf_eq_ok h with ⟨-, -, event, -, -, hevent⟩ | ⟨-, hskipped⟩
      · cases hevent.symm.trans hfaulty
      · cases hskipped.symm.trans hfaulty
    · next value hobject hread =>
      cases h
      cases value with
      | object fields => exact (hobject fields rfl).elim
      | _ => simpa [hread] using hne
    · next what left hread =>
      cases h
      simpa [hread] using hne
    · cases h

/-! ## Files -/

/-- The lines of a file that can be read. -/
def linesOf (files : Files) (path : Path) : List Text :=
  (files.readText path).toOption.elim [] Text.splitLines

/-- A file leaves a summary where its bytes are a text and no line strays. -/
structure Summarized (counts : Text → Bool) (files : Files) (path : Path) : Prop where
  decodable : ∀ fault, files.readText path ≠ .error (.undecodable fault)
  lines : ∀ line ∈ linesOf files path, ¬ StrayLine counts line

theorem exists_fileLines :
    (∃ found, fileLines? counts files path = .ok found) ↔ Summarized counts files path := by
  unfold fileLines?
  split
  · next content hread =>
    have hlines : linesOf files path = Text.splitLines content := by rw [linesOf, hread]; rfl
    simp only [bind_eq_ok, pure_eq_ok]
    constructor
    · rintro ⟨_, lines, h, rfl⟩
      refine ⟨fun fault hfault => ?_, fun line hm => ?_⟩
      · rw [hread] at hfault
        cases hfault
      · exact exists_readLine.1 (exists_mapM_eq_ok.1 ⟨lines, h⟩ line (hlines ▸ hm))
    · intro h
      obtain ⟨lines, hfound⟩ := exists_mapM_eq_ok.2 fun line hm =>
        exists_readLine.2 (h.lines line (hlines ▸ hm))
      exact ⟨_, lines, hfound, rfl⟩
  · next fault hread =>
    exact ⟨nofun, fun h => (h.decodable fault hread).elim⟩
  · next why hwhy hread =>
    refine ⟨fun _ => ⟨fun fault h => ?_, fun line hm => ?_⟩, fun _ => ⟨none, rfl⟩⟩
    · rw [hread] at h
      exact hwhy fault (Except.error.inj h)
    · simp [linesOf, hread, Except.toOption] at hm

theorem fileLines_eq_ok {found : Option (List Line)} (h : fileLines? counts files path = .ok found) :
    (found = none ∧ ∃ why, files.readText path = .error why) ∨
      ∃ content lines, files.readText path = .ok content ∧ readLines counts content = .ok lines ∧
        found = some lines := by
  unfold fileLines? at h
  split at h
  · next content hread =>
    obtain ⟨lines, hlines, h⟩ := bind_eq_ok.1 h
    exact .inr ⟨content, lines, hread, hlines, pure_eq_ok.1 h⟩
  · cases h
  · next why _ hread => exact .inl ⟨(Except.ok.inj h).symm, why, hread⟩

theorem fileLines_none {found : Option (List Line)} (h : fileLines? counts files path = .ok found) :
    (found == none) = (files.readText path).toOption.isNone := by
  rcases fileLines_eq_ok h with ⟨rfl, why, hread⟩ | ⟨content, lines, hread, -, rfl⟩
  · rw [hread]
    rfl
  · rw [hread]
    rfl

theorem fileLines_faulty {found : Option (List Line)} (h : fileLines? counts files path = .ok found) :
    (found.getD []).count .faulty = (linesOf files path).countP isFaulty := by
  rcases fileLines_eq_ok h with ⟨rfl, why, hread⟩ | ⟨content, lines, hread, hlines, rfl⟩
  · rw [linesOf, hread]
    rfl
  · rw [linesOf, hread]
    exact countP_of_mapM hlines fun line found h =>
      Bool.eq_iff_iff.2 (beq_iff_eq.trans (readLine_faulty h))

theorem flatten_lines (found : List (Option (List Line))) :
    (found.filterMap id).flatten = found.flatMap (·.getD []) := by
  induction found with
  | nil => rfl
  | cons lines found ih =>
    cases lines with
    | none => exact ih
    | some lines => exact congrArg (lines ++ ·) ih

variable {operations : Option (List Text)}

/-- There is a summary of files just where none has bytes that are no text, or a line that strays. -/
theorem exists_summary : (∃ summary, summarize files paths operations = .ok summary) ↔
    ∀ path ∈ paths, Summarized (isAmong operations) files path := by
  simp only [← exists_fileLines, ← exists_mapM_eq_ok, summarize, bind_eq_ok, pure_eq_ok]
  exact ⟨fun ⟨_, found, h, _⟩ => ⟨found, h⟩, fun ⟨found, h⟩ => ⟨_, found, h, rfl⟩⟩

/-- Files that cannot be read and lines that are no objects are counted. -/
theorem summary_counts {summary : Summary} (h : summarize files paths operations = .ok summary) :
    summary.unreadableFiles = paths.countP (fun path => (files.readText path).toOption.isNone) ∧
      summary.faultyLines = (paths.flatMap (linesOf files)).countP isFaulty := by
  obtain ⟨found, hfound, h⟩ := bind_eq_ok.1 h
  obtain rfl := pure_eq_ok.1 h
  constructor
  · exact countP_of_mapM hfound fun _ _ => fileLines_none
  · have hcounts := map_of_mapM hfound fun _ _ => fileLines_faulty
    change ((found.filterMap id).flatten).count .faulty = _
    rw [flatten_lines, List.count_flatMap, List.countP_flatMap]
    exact congrArg List.sum hcounts

/-- No event has a table for its name. -/
example : readLine counts "\x7b\"event\":\x7b\x7d\x7d".toList = .error .nameless := by cbv

end NameSlots.Logs
