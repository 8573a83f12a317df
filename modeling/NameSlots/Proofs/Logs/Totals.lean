import NameSlots.Proofs.Files.Places
import NameSlots.Proofs.Logs.Objects
import NameSlots.Proofs.Logs.Percentile
import NameSlots.Proofs.Rules.Tally
import NameSlots.Proofs.Text.Lines

/-!
What a summary counts. It depends on the lines of the files and not on their order, it adds up over
files, a filter leaves out operations and nothing else, and every object that tells the end of a request
is counted once.
-/
namespace NameSlots.Logs

variable {counts : Text → Bool} {line operation label : Text} {payload : Json} {event : Event}
  {events others : List Event} {files files' : Files} {path path' : Path} {paths paths' : List Path}
  {operations : Option (List Text)} {summary other : Summary}

/-! ## Events -/

/-- The events of each operation, in code-point order. -/
def operationsOf (events : List Event) : List (Text × Stats) :=
  ((events.map (·.operation)).eraseDups.mergeSort Text.le).map fun operation =>
    (operation, Stats.ofEvents (events.filter (·.operation == operation)))

theorem keys_operationsOf (events : List Event) : (operationsOf events).map Prod.fst =
    (events.map (·.operation)).eraseDups.mergeSort Text.le := by
  rw [operationsOf, List.map_map]
  exact List.map_id _

theorem ascending_operationsOf (events : List Event) :
    Text.Ascending ((operationsOf events).map Prod.fst) :=
  keys_operationsOf events ▸ Text.ascending_eraseDups _

theorem mem_keys_operationsOf : operation ∈ (operationsOf events).map Prod.fst ↔
    ∃ event ∈ events, event.operation = operation := by
  rw [keys_operationsOf, List.mem_mergeSort, List.mem_eraseDups, List.mem_map]

theorem ofEvents_perm (h : events.Perm others) : Stats.ofEvents events = Stats.ofEvents others := by
  have houtcomes := h.map (·.outcome)
  have htimes (p : Int) (time? : Event → Option Int) :
      timePercentile? p time? events = timePercentile? p time? others :=
    percentile?_perm (h.filterMap time?) _
  simp only [Stats.ofEvents, h.length_eq, tally_perm houtcomes, matchRate?, houtcomes.count_eq,
    tally_perm (h.filterMap (·.errorCode)), htimes]

theorem operationsOf_perm (h : events.Perm others) : operationsOf events = operationsOf others := by
  have hkeys := (ascending_operationsOf events).ext (ascending_operationsOf others) fun operation => by
    simp only [mem_keys_operationsOf, h.mem_iff]
  rw [keys_operationsOf, keys_operationsOf] at hkeys
  rw [operationsOf, operationsOf, hkeys]
  exact List.map_congr_left fun operation _ => by rw [ofEvents_perm (h.filter _)]

/-- The statistics of an operation, which are those of no request where it is missing. -/
def Summary.stats (summary : Summary) (operation : Text) : Stats :=
  (summary.operations.lookup operation).getD (Stats.ofEvents [])

theorem stats_operationsOf (h : summary.operations = operationsOf events) (operation : Text) :
    summary.stats operation = Stats.ofEvents (events.filter (·.operation == operation)) := by
  rw [Summary.stats, h, operationsOf, Table.lookup_map_keys]
  split
  · rfl
  · next hm =>
    rw [List.mem_mergeSort, List.mem_eraseDups, List.mem_map] at hm
    have hnone : events.filter (·.operation == operation) = [] := by
      refine List.filter_eq_nil_iff.2 fun event he hsame => hm ⟨event, he, eq_of_beq hsame⟩
    rw [hnone]
    rfl

/-- What is counted among the events of each of some operations is counted among all, if these are all
operations and each of them is there once. -/
theorem sum_countP_operations {keys : List Text} (hn : keys.Nodup)
    (hall : ∀ event ∈ events, event.operation ∈ keys) (p : Event → Bool) :
    (keys.map fun operation => (events.filter (·.operation == operation)).countP p).sum =
      events.countP p := by
  induction events with
  | nil => simp
  | cons event events ih =>
    obtain ⟨hm, hrest⟩ := List.forall_mem_cons.1 hall
    have hone (n : Nat) :
        (keys.map fun operation => if event.operation = operation then n else 0).sum = n := by
      rw [← List.sum_toFinset _ hn, Finset.sum_ite_eq, if_pos (List.mem_toFinset.2 hm)]
    have hcons (operation : Text) : ((event :: events).filter (·.operation == operation)).countP p =
        (events.filter (·.operation == operation)).countP p +
          if event.operation = operation then (if p event then 1 else 0) else 0 := by
      rw [List.filter_cons]
      by_cases hsame : event.operation = operation
      · rw [if_pos (by simpa using hsame), if_pos hsame, List.countP_cons]
      · rw [if_neg (by simpa using hsame), if_neg hsame, Nat.add_zero]
    simp only [hcons]
    rw [List.sum_map_add, ih hrest, hone, List.countP_cons]

/-- What statistics tell of each operation adds up to what is counted among all events. -/
theorem sum_operationsOf {f : Stats → Int} {p : Event → Bool}
    (hf : ∀ events, f (Stats.ofEvents events) = events.countP p) (events : List Event) :
    ((operationsOf events).map fun row => f row.2).sum = events.countP p := by
  have hkeys : ∀ event ∈ events,
      event.operation ∈ (events.map (·.operation)).eraseDups.mergeSort Text.le := by
    intro event hm
    rw [List.mem_mergeSort, List.mem_eraseDups]
    exact List.mem_map_of_mem hm
  rw [← sum_countP_operations (Text.ascending_eraseDups _).nodup hkeys p, operationsOf, List.map_map,
    Nat.cast_list_sum, List.map_map]
  exact congrArg List.sum (List.map_congr_left fun operation _ => hf _)

/-! ## Lines -/

theorem fileLines_events {found : Option (List Line)} (h : fileLines? counts files path = .ok found) :
    (found.getD []).filterMap Line.event? = (linesOf files path).filterMap (toldBy counts) := by
  rcases fileLines_eq_ok h with ⟨rfl, why, hread⟩ | ⟨content, lines, hread, hlines, rfl⟩
  · rw [linesOf, hread]
    rfl
  · rw [linesOf, hread]
    have htold : lines.map Line.event? = (Text.splitLines content).map (toldBy counts) :=
      map_of_mapM hlines fun line found h => by
        rw [toldBy, h]
        rfl
    have hboth := congrArg (List.filterMap id) htold
    rwa [List.filterMap_map, List.filterMap_map] at hboth

/-- A summary counts the events of all lines. -/
theorem summary_events (h : summarize files paths operations = .ok summary) :
    let events := (paths.flatMap (linesOf files)).filterMap (toldBy (isAmong operations))
    summary.operations = operationsOf events ∧
      summary.busyRejections = events.countP (·.errorCode == some busyCode) := by
  intro events
  obtain ⟨found, hfound, h⟩ := bind_eq_ok.1 h
  obtain rfl := pure_eq_ok.1 h
  have hevents : ((found.filterMap id).flatten).filterMap Line.event? = events := by
    have hmap := map_of_mapM hfound fun _ _ => fileLines_events
    rw [flatten_lines, List.filterMap_flatMap, List.flatMap_def, hmap, ← List.flatMap_def,
      ← List.filterMap_flatMap]
  constructor
  · rw [← hevents]
    rfl
  · rw [← hevents]
    rfl

/-! ## Order -/

/-- Files of which each holds the lines of another one in any order, or is read just as that one. -/
inductive Reordered (files files' : Files) (path path' : Path) : Prop where
  | lines {content content' : Text} : files.readText path = .ok content →
      files'.readText path' = .ok content' →
      (Text.splitLines content).Perm (Text.splitLines content') → Reordered files files' path path'
  | same : files'.readText path' = files.readText path → Reordered files files' path path'

namespace Reordered

variable (h : Reordered files files' path path')

include h

theorem linesOf_perm : (linesOf files path).Perm (linesOf files' path') := by
  cases h with
  | lines hread hread' hperm =>
    rw [linesOf, linesOf, hread, hread']
    exact hperm
  | same hread => rw [linesOf, linesOf, hread]

theorem isNone : (files'.readText path').toOption.isNone = (files.readText path).toOption.isNone := by
  cases h with
  | lines hread hread' _ =>
    rw [hread, hread']
    rfl
  | same hread => rw [hread]

theorem summarized (hs : Summarized counts files path) : Summarized counts files' path' := by
  refine ⟨fun fault hfault => ?_, fun line hm => hs.lines line (h.linesOf_perm.mem_iff.2 hm)⟩
  cases h with
  | lines _ hread' _ =>
    rw [hread'] at hfault
    cases hfault
  | same hread => exact hs.decodable fault (hread ▸ hfault)

end Reordered

/-- What two summaries tell alike: everything but the names of the files. -/
structure Summary.SameCounts (summary other : Summary) : Prop where
  operations : other.operations = summary.operations
  faultyLines : other.faultyLines = summary.faultyLines
  unreadableFiles : other.unreadableFiles = summary.unreadableFiles
  busyRejections : other.busyRejections = summary.busyRejections

section

variable {paths paths' : List Path} (h : List.Forall₂ (Reordered files files') paths paths')

include h

theorem linesOf_reordered : (paths.flatMap (linesOf files)).Perm (paths'.flatMap (linesOf files')) := by
  induction h with
  | nil => exact .nil
  | cons hone _ ih =>
    rw [List.flatMap_cons, List.flatMap_cons]
    exact hone.linesOf_perm.append ih

theorem unreadable_reordered : paths'.countP (fun path => (files'.readText path).toOption.isNone) =
    paths.countP (fun path => (files.readText path).toOption.isNone) := by
  induction h with
  | nil => rfl
  | cons hone _ ih => rw [List.countP_cons, List.countP_cons, ih, hone.isNone]

theorem summarized_reordered (hs : ∀ path ∈ paths, Summarized counts files path) :
    ∀ path ∈ paths', Summarized counts files' path := by
  induction h with
  | nil => exact fun _ hm => absurd hm List.not_mem_nil
  | cons hone _ ih =>
    rw [List.forall_mem_cons] at hs ⊢
    exact ⟨hone.summarized hs.1, ih hs.2⟩

end

/-- The order of files, and of lines in each of them, is not summarized. -/
theorem summarize_reordered (h : summarize files paths operations = .ok summary) {mid : List Path}
    (hperm : paths.Perm mid) (hall : List.Forall₂ (Reordered files files') mid paths') :
    ∃ other, summarize files' paths' operations = .ok other ∧ summary.SameCounts other := by
  have hread := exists_summary.1 ⟨summary, h⟩
  obtain ⟨other, hother⟩ := exists_summary.2 (summarized_reordered hall fun path hm =>
    hread path (hperm.mem_iff.2 hm))
  have hlines := (hperm.flatMap_right (linesOf files)).trans (linesOf_reordered hall)
  have hevents := hlines.filterMap (toldBy (isAmong operations))
  obtain ⟨hoperations, hbusy⟩ := summary_events h
  obtain ⟨hoperations', hbusy'⟩ := summary_events hother
  obtain ⟨hunreadable, hfaulty⟩ := summary_counts h
  obtain ⟨hunreadable', hfaulty'⟩ := summary_counts hother
  refine ⟨other, hother, ?_, ?_, ?_, ?_⟩
  · rw [hoperations, hoperations', operationsOf_perm hevents]
  · rw [hfaulty, hfaulty', hlines.countP_eq]
  · rw [hunreadable, hunreadable', unreadable_reordered hall, hperm.countP_eq]
  · rw [hbusy, hbusy', hevents.countP_eq]

/-! ## Sums -/

/-- A summary that adds up two others. -/
structure Summary.Sums (summary other total : Summary) : Prop where
  faultyLines : total.faultyLines = summary.faultyLines + other.faultyLines
  unreadableFiles : total.unreadableFiles = summary.unreadableFiles + other.unreadableFiles
  busyRejections : total.busyRejections = summary.busyRejections + other.busyRejections
  keys : total.operations.map Prod.fst =
    ((summary.operations ++ other.operations).map Prod.fst).eraseDups.mergeSort Text.le
  requests : ∀ operation, (total.stats operation).requests =
    (summary.stats operation).requests + (other.stats operation).requests
  outcomes : ∀ operation, (total.stats operation).outcomes =
    addCounts (summary.stats operation).outcomes (other.stats operation).outcomes
  errorCodes : ∀ operation, (total.stats operation).errorCodes =
    addCounts (summary.stats operation).errorCodes (other.stats operation).errorCodes

theorem summarize_append (h : summarize files paths operations = .ok summary)
    (h' : summarize files paths' operations = .ok other) :
    ∃ total, summarize files (paths ++ paths') operations = .ok total ∧ summary.Sums other total := by
  obtain ⟨total, htotal⟩ : ∃ total, summarize files (paths ++ paths') operations = .ok total := by
    rw [exists_summary, List.forall_mem_append]
    exact ⟨exists_summary.1 ⟨summary, h⟩, exists_summary.1 ⟨other, h'⟩⟩
  obtain ⟨hoperations, hbusy⟩ := summary_events h
  obtain ⟨hoperations', hbusy'⟩ := summary_events h'
  obtain ⟨hall, hbusyAll⟩ := summary_events htotal
  obtain ⟨hunreadable, hfaulty⟩ := summary_counts h
  obtain ⟨hunreadable', hfaulty'⟩ := summary_counts h'
  obtain ⟨hunreadableAll, hfaultyAll⟩ := summary_counts htotal
  rw [List.flatMap_append, List.filterMap_append] at hbusyAll hall
  have hstats (operation : Text) := stats_operationsOf hall operation
  have hone (operation : Text) := stats_operationsOf hoperations operation
  have htwo (operation : Text) := stats_operationsOf hoperations' operation
  refine ⟨total, htotal, ?_, ?_, ?_, ?_, fun operation => ?_, fun operation => ?_, fun operation => ?_⟩
  · rw [hfaultyAll, hfaulty, hfaulty', List.flatMap_append, List.countP_append]
  · rw [hunreadableAll, hunreadable, hunreadable', List.countP_append]
  · rw [hbusyAll, hbusy, hbusy', List.countP_append]
  · rw [hall, hoperations, hoperations']
    refine (ascending_operationsOf _).ext (Text.ascending_eraseDups _) fun operation => ?_
    rw [List.mem_mergeSort, List.mem_eraseDups, List.map_append, List.mem_append]
    simp only [mem_keys_operationsOf, List.mem_append, or_and_right, exists_or]
  · rw [hstats, hone, htwo, List.filter_append]
    exact List.length_append
  · rw [hstats, hone, htwo, List.filter_append, Stats.ofEvents, List.map_append]
    exact tally_append _ _
  · rw [hstats, hone, htwo, List.filter_append, Stats.ofEvents, List.filterMap_append]
    exact tally_append _ _

/-! ## Filters -/

/-- A summary of some operations only. -/
structure Summary.Restricts (names : List Text) (summary filtered : Summary) : Prop where
  operations : filtered.operations = summary.operations.filter (·.1 ∈ names)
  faultyLines : filtered.faultyLines = summary.faultyLines
  unreadableFiles : filtered.unreadableFiles = summary.unreadableFiles

theorem stray_mono {counts' : Text → Bool}
    (hle : ∀ operation, counts' operation = true → counts operation = true) (h : Stray counts' payload) : Stray counts payload := by
  cases h with
  | list h => exact .list h
  | table h => exact .table h
  | time hends htime =>
    obtain ⟨hevent, operation, htext, hcounts⟩ := hends
    exact .time ⟨hevent, operation, htext, hle operation hcounts⟩ htime

theorem summarized_mono {counts' : Text → Bool}
    (hle : ∀ operation, counts' operation = true → counts operation = true)
    (h : Summarized counts files path) : Summarized counts' files path := by
  refine ⟨h.decodable, fun line hm hstray => h.lines line hm ?_⟩
  cases hstray with
  | object hread hstray => exact .object hread (stray_mono hle hstray)
  | digits hread => exact .digits hread

/-- Of the objects that tell an event for an operation those count whose operation does. -/
theorem lineOf_narrower {counts' : Text → Bool}
    (hle : ∀ operation, counts' operation = true → counts operation = true)
    (h : ¬ Stray counts payload) :
    (lineOf counts' payload).toOption.bind Line.event? =
      ((lineOf counts payload).toOption.bind Line.event?).filter fun event => counts' event.operation := by
  obtain ⟨found, hfound⟩ := exists_lineOf.2 h
  obtain ⟨found', hfound'⟩ := exists_lineOf.2 fun hstray => h (stray_mono hle hstray)
  rw [hfound, hfound']
  rcases lineOf_told hfound with ⟨event, hends, hevent, rfl⟩ | ⟨hnone, rfl⟩
  · change _ = (some event).filter _
    rw [Option.filter_some]
    rcases lineOf_told hfound' with ⟨event', hends', hevent', rfl⟩ | ⟨hnone', rfl⟩
    · have hsame := Option.some.inj (hends'.isOperation.symm.trans hends.isOperation)
      rw [hsame] at hevent'
      obtain rfl := Except.ok.inj (hevent'.symm.trans hevent)
      rw [if_pos hends'.isCounted]
      rfl
    · rw [if_neg fun hcounts => ?_]
      · rfl
      · cases hnone'.symm.trans (end?_eq_some.2 (hends.of_counts hcounts))
  · rcases lineOf_told hfound' with ⟨event', hends', -, rfl⟩ | ⟨-, rfl⟩
    · cases hnone.symm.trans (end?_eq_some.2 (hends'.of_counts (hle _ hends'.isCounted)))
    · rfl

theorem toldBy_narrower {counts' : Text → Bool}
    (hle : ∀ operation, counts' operation = true → counts operation = true)
    (h : ¬ StrayLine counts line) :
    toldBy counts' line = (toldBy counts line).filter fun event => counts' event.operation := by
  rw [toldBy_eq, toldBy_eq]
  cases ho : object? line with
  | none => rfl
  | some payload => exact lineOf_narrower hle (not_stray_of_object? h ho)

theorem operationsOf_filter (p : Text → Bool) (events : List Event) :
    operationsOf (events.filter fun event => p event.operation) =
      (operationsOf events).filter fun row => p row.1 := by
  have hkeys : (operationsOf (events.filter fun event => p event.operation)).map Prod.fst =
      ((operationsOf events).map Prod.fst).filter p := by
    have hall := ascending_operationsOf events
    refine (ascending_operationsOf _).ext ⟨hall.ordered.filter _, hall.nodup.filter _⟩ fun operation => ?_
    rw [List.mem_filter]
    simp only [mem_keys_operationsOf, List.mem_filter]
    constructor
    · rintro ⟨event, ⟨hm, hp⟩, rfl⟩
      exact ⟨⟨event, hm, rfl⟩, hp⟩
    · rintro ⟨⟨event, hm, rfl⟩, hp⟩
      exact ⟨event, ⟨hm, hp⟩, rfl⟩
  rw [keys_operationsOf, keys_operationsOf] at hkeys
  rw [operationsOf, operationsOf, hkeys, List.filter_map]
  refine List.map_congr_left fun operation hm => ?_
  have hp : p operation = true := (List.mem_filter.1 hm).2
  rw [List.filter_filter]
  congr 2
  refine List.filter_congr fun event _ => ?_
  by_cases hsame : event.operation = operation
  · simp [hsame, hp]
  · simp [hsame]

theorem summarize_restricted (h : summarize files paths none = .ok summary) (names : List Text) :
    ∃ filtered, summarize files paths (some names) = .ok filtered ∧ summary.Restricts names filtered := by
  have hread := exists_summary.1 ⟨summary, h⟩
  have hle (operation : Text) : isAmong (some names) operation = true → isAmong none operation = true :=
    fun _ => rfl
  obtain ⟨filtered, hfiltered⟩ := exists_summary.2 fun path hm => summarized_mono hle (hread path hm)
  obtain ⟨hoperations, -⟩ := summary_events h
  obtain ⟨hoperations', -⟩ := summary_events hfiltered
  obtain ⟨hunreadable, hfaulty⟩ := summary_counts h
  obtain ⟨hunreadable', hfaulty'⟩ := summary_counts hfiltered
  refine ⟨filtered, hfiltered, ?_, hfaulty'.trans hfaulty.symm, hunreadable'.trans hunreadable.symm⟩
  have hevents : (paths.flatMap (linesOf files)).filterMap (toldBy (isAmong (some names))) =
      ((paths.flatMap (linesOf files)).filterMap (toldBy (isAmong none))).filter
        fun event => isAmong (some names) event.operation := by
    rw [List.filter_filterMap]
    refine List.filterMap_congr fun line hm => ?_
    obtain ⟨path, hpath, hline⟩ := List.mem_flatMap.1 hm
    exact toldBy_narrower hle ((hread path hpath).lines line hline)
  rw [hoperations', hoperations, hevents, operationsOf_filter]
  rfl

/-- Busy rejections are those that the error codes of all operations count. -/
theorem busyRejections_eq_sum (h : summarize files paths operations = .ok summary) :
    (summary.busyRejections : Int) =
      (summary.operations.map fun row => countOf row.2.errorCodes busyCode).sum := by
  obtain ⟨hoperations, hbusy⟩ := summary_events h
  rw [hbusy, hoperations]
  refine (sum_operationsOf (f := fun stats => countOf stats.errorCodes busyCode) (fun events => ?_) _).symm
  refine (countOf_tally _ _).trans ?_
  rw [List.count_filterMap]

/-! ## Ends of requests -/

/-- A summary counts objects that tell the end of a request once: under their operation, and there under
their outcome. -/
structure Summary.CountsOnce (counts : Text → Bool) (payloads : List Json) (summary : Summary) :
    Prop where
  keys : Text.Ascending (summary.operations.map Prod.fst)
  outcomes : ∀ operation outcome, countOf (summary.stats operation).outcomes outcome =
    payloads.countP (Ends counts · operation outcome)
  requests : ∀ operation, ((summary.stats operation).outcomes.map Prod.snd).sum =
    (summary.stats operation).requests
  total : (summary.operations.map fun row => (row.2.requests : Int)).sum =
    payloads.countP (TellsEnd counts ·)

theorem summary_countsOnce (h : summarize files paths operations = .ok summary) :
    summary.CountsOnce (isAmong operations) (paths.flatMap (objects files)) := by
  have hread := exists_summary.1 ⟨summary, h⟩
  obtain ⟨hoperations, -⟩ := summary_events h
  have htold : (((paths.flatMap (linesOf files)).filterMap (toldBy (isAmong operations))).map
      fun event => (event.operation, event.outcome)) =
        (paths.flatMap (objects files)).filterMap (end? (isAmong operations)) := by
    rw [List.map_filterMap, List.filterMap_flatMap, List.filterMap_flatMap]
    refine List.flatMap_congr fun path hm => ?_
    rw [objects, List.filterMap_filterMap]
    exact List.filterMap_congr fun line hline => toldBy_end ((hread path hm).lines line hline)
  have hstats (operation : Text) := stats_operationsOf hoperations operation
  refine ⟨?_, fun operation outcome => ?_, fun operation => ?_, ?_⟩
  · rw [hoperations]
    exact ascending_operationsOf _
  · rw [hstats]
    refine (countOf_tally _ outcome).trans ?_
    have hcount := congrArg (List.count (operation, outcome)) htold
    rw [List.count_filterMap, List.count_eq_countP, List.countP_map] at hcount
    rw [List.count_eq_countP, List.countP_map, List.countP_filter, Nat.cast_inj]
    refine Eq.trans ?_ (hcount.trans ?_)
    · refine List.countP_congr fun event _ => ?_
      simp [and_comm]
    · refine List.countP_congr fun payload _ => ?_
      rw [beq_iff_eq, decide_eq_true_eq, end?_eq_some]
  · rw [hstats]
    refine (sum_tally _).trans ?_
    rw [List.length_map]
    rfl
  · rw [hoperations, sum_operationsOf (f := fun stats => (stats.requests : Int)) (p := fun _ => true)]
    · have hlength := congrArg List.length htold
      rw [List.length_map, List.length_filterMap_eq_countP (f := end? _)] at hlength
      rw [List.countP_true, hlength, Nat.cast_inj]
      refine List.countP_congr fun payload _ => ?_
      rw [decide_eq_true_eq, isSome_end?]
    · intro events
      rw [List.countP_true]
      rfl

/-! ## Totals -/

/-- What a summary counts does not depend on the order of files or of lines in them; the counts of two
lists of files together are the sums of theirs; of the table of all operations a filter leaves those that
it names; busy rejections are those among the error codes of the table; and each object that tells the
end of a request for an operation that counts is counted in one outcome of one operation. -/
theorem summarize_totals (h : summarize files paths operations = .ok summary) :
    (∀ files' mid paths', paths.Perm mid → List.Forall₂ (Reordered files files') mid paths' →
      ∃ other, summarize files' paths' operations = .ok other ∧ summary.SameCounts other) ∧
    (∀ paths' other, summarize files paths' operations = .ok other →
      ∃ total, summarize files (paths ++ paths') operations = .ok total ∧ summary.Sums other total) ∧
    (operations = none → ∀ names, ∃ filtered, summarize files paths (some names) = .ok filtered ∧
      summary.Restricts names filtered) ∧
    (summary.busyRejections : Int) =
      (summary.operations.map fun row => countOf row.2.errorCodes busyCode).sum ∧
    (∀ payload, TellsEnd (isAmong operations) payload ↔
      ∃! told : Text × Text, Ends (isAmong operations) payload told.1 told.2) ∧
    summary.CountsOnce (isAmong operations) (paths.flatMap (objects files)) := by
  refine ⟨fun _ _ _ => summarize_reordered h, fun _ _ => summarize_append h, ?_,
    busyRejections_eq_sum h, fun _ => tellsEnd_iff_existsUnique, summary_countsOnce h⟩
  rintro rfl names
  exact summarize_restricted h names

/-- Lines of which two tell the end of a request, one of them that the service is busy. -/
def busyLines : List Text :=
  ["\x7b\"event\":\"done\",\"operation\":\"match\",\"outcome\":\"matched\"\x7d".toList, "no object".toList,
    "\x7b\"event\":\"start\"\x7d".toList,
    "\x7b\"event\":\"error\",\"operation\":\"parse\",\"error_code\":\"TOO_MANY_REQUESTS\"\x7d".toList]

/-- Files of which one is a log with these lines, and no other is there. -/
def logFiles (lines : List Text) : Files :=
  ⟨[(Path.ofText ['a'], .file (Utf8.encode (Text.ofLines lines)))]⟩

theorem summarize_totals_busy :
    let paths := [Path.ofText ['a'], Path.ofText ['b']]
    ∃ summary, summarize (logFiles busyLines) paths none = .ok summary ∧
      (∃ other, summarize (logFiles busyLines.reverse) paths.reverse none = .ok other ∧
        summary.SameCounts other) ∧
      (∃ total, summarize (logFiles busyLines) (paths ++ paths) none = .ok total ∧
        summary.Sums summary total) ∧
      (∃ filtered, summarize (logFiles busyLines) paths (some ["parse".toList]) = .ok filtered ∧
        summary.Restricts ["parse".toList] filtered) ∧
      summary.CountsOnce (isAmong none) (paths.flatMap (objects (logFiles busyLines))) := by
  intro paths
  have hsome : (summarize (logFiles busyLines) paths none).toOption.isSome = true := by decide +kernel
  obtain ⟨summary, h⟩ := Option.isSome_iff_exists.1 hsome
  rw [toOption_eq_some] at h
  have hread (lines : List Text) : (logFiles lines).readText (Path.ofText ['a']) =
      .ok (Text.unifyLineEnds (Text.ofLines lines)) := Files.readText_of_look? rfl
  have hlines : Reordered (logFiles busyLines) (logFiles busyLines.reverse) (Path.ofText ['a'])
      (Path.ofText ['a']) := .lines (hread _) (hread _) (by decide +kernel)
  have hmissing (lines : List Text) : (logFiles lines).readText (Path.ofText ['b']) = .error .notFound :=
    rfl
  have hall : List.Forall₂ (Reordered (logFiles busyLines) (logFiles busyLines.reverse)) paths.reverse
      paths.reverse :=
    .cons (.same ((hmissing _).trans (hmissing _).symm)) (.cons hlines .nil)
  obtain ⟨hreordered, hsums, hfilter, -, -, hcounts⟩ := summarize_totals h
  exact ⟨summary, h, hreordered _ _ _ (List.reverse_perm paths).symm hall, hsums _ _ h, hfilter rfl _,
    hcounts⟩

end NameSlots.Logs
