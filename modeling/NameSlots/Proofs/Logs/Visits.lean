import Mathlib
import NameSlots.Proofs.Logs.Lines
import NameSlots.Proofs.Service.Limits

/-!
What the log tells of one request, against what its client was told: one event if it posts to an
operation, with the label of a result or the code of a failure, and none otherwise.
-/
namespace NameSlots

namespace Service

/-- Counts that are those of the outcomes. -/
def Answer.Counted : Answer → Prop
  | .resolution outcomes summary => summary = summarize outcomes
  | _ => True

theorem run_counted {task : Task} {answer : Answer} (h : task.run = .ok answer) : answer.Counted := by
  unfold Task.run at h
  split at h
  · obtain ⟨value, -, h⟩ := bind_eq_ok.1 h
    obtain ⟨key, -, h⟩ := bind_eq_ok.1 h
    cases hs : Task.segments key <;> rw [hs] at h <;> cases h
    trivial
  · obtain ⟨items, -, h⟩ := bind_eq_ok.1 h
    obtain ⟨parts, -, h⟩ := bind_eq_ok.1 h
    obtain ⟨table, -, h⟩ := bind_eq_ok.1 h
    obtain ⟨input, -, h⟩ := bind_eq_ok.1 h
    obtain ⟨key, -, h⟩ := bind_eq_ok.1 h
    obtain ⟨given, -, h⟩ := bind_eq_ok.1 h
    obtain ⟨mode, -, h⟩ := bind_eq_ok.1 h
    obtain ⟨text, -, h⟩ := bind_eq_ok.1 h
    obtain ⟨segments, -, h⟩ := bind_eq_ok.1 h
    obtain ⟨result, -, h⟩ := bind_eq_ok.1 h
    split at h
    · cases h
      trivial
    · cases h
      trivial
    · split at h <;> cases h
      trivial
  · obtain ⟨value, -, h⟩ := bind_eq_ok.1 h
    obtain ⟨given, -, h⟩ := bind_eq_ok.1 h
    split at h
    · obtain ⟨names, -, h⟩ := bind_eq_ok.1 h
      cases h
      trivial
    · cases h
  · obtain ⟨rules, -, h⟩ := bind_eq_ok.1 h
    obtain ⟨ruleSet, -, h⟩ := bind_eq_ok.1 h
    obtain ⟨given, -, h⟩ := bind_eq_ok.1 h
    obtain ⟨inputs, -, h⟩ := bind_eq_ok.1 h
    obtain ⟨outcomes, -, h⟩ := bind_eq_ok.1 h
    cases h
    rfl
  · cases h

/-- What an answer with a result reports: a match or none, where it says so. -/
def Reply.label? (reply : Reply) : Option Label :=
  if reply.status = 200 then
    match reply.body.field? "matched",
        (reply.body.field? "summary").bind (Json.field? "matched_count") with
    | some (.bool matched), _ => some (if matched then .matched else .noMatch)
    | _, some (.int count) => some (if 0 < count then .matched else .noMatch)
    | _, _ => some .ok
  else none

theorem label?_answer {answer : Answer} (h : answer.Counted) :
    Reply.label? ⟨200, answer.toJson⟩ = some answer.label := by
  cases answer with
  | segments all => rfl
  | matching result output => rfl
  | expansion text => rfl
  | resolution outcomes summary =>
    obtain rfl := h
    have hcount : 0 ≤ (summarize outcomes).matchedCount := Int.natCast_nonneg _
    have hfield : Reply.label? ⟨200, (Answer.resolution outcomes (summarize outcomes)).toJson⟩ =
        some (if 0 < (summarize outcomes).matchedCount then .matched else .noMatch) := rfl
    rw [hfield, Answer.label]
    congr 1
    split_ifs <;> first | rfl | omega

/-! ## How requests end -/

/-- The error of a request that finds no free slot is told by its code and by its status. -/
theorem Failure.code_eq_busy (failure : Failure) :
    failure.code = Logs.busyCode ↔ failure.status = 429 := by
  unfold code status Refusal.code Refusal.status Logs.busyCode
  cases failure with
  | refused why => cases why <;> dsimp only <;> decide
  | _ => dsimp only; decide

theorem Failure.status_ne_ok (failure : Failure) : failure.status ≠ 200 := by
  cases failure with
  | refused why => cases why <;> simp [status, Refusal.status]
  | _ => simp [status]

theorem Failure.outcome_ne (failure : Failure) (label : Label) : failure.outcome ≠ label.text := by
  unfold outcome Label.text
  cases failure <;> cases label <;> dsimp only <;> decide

theorem Label.text_inj {label other : Label} : label.text = other.text ↔ label = other := by
  cases label <;> cases other <;> decide

namespace Context

variable {context : Context} {operation : Operation} {method path : Text} {body : Bytes}

/-- A request that waits for a slot without end. -/
def Endless (context : Context) (operation : Operation) (body : Bytes) : Prop :=
  (∃ task, Plan.task context.settings context.files operation body = .ok task) ∧
    ¬ context.slots.taken < context.slots.capacity ∧ context.settings.queueTimeout.units? = none

/-- What is made of a request for an operation, before it is seen whether it can be written: at most
a start is logged before the end, and what is told of a busy service can be written. -/
inductive Ended (context : Context) (operation : Operation) : Exchange → Prop where
  | done {first : List LogEntry} {answer : Answer} (slots : Slots) :
      (∀ entry ∈ first, entry = .start operation context.settings.timeout) → answer.Counted →
      Ended context operation
        ⟨⟨200, answer.toJson⟩, first ++ [.done operation answer.label], slots⟩
  | failed {first : List LogEntry} (stage : Stage) {failure : Failure} (slots : Slots) :
      (∀ entry ∈ first, entry = .start operation context.settings.timeout) →
      (failure.code = Logs.busyCode → (context.failureReply failure).body.isFinite = true) →
      Ended context operation
        ⟨context.failureReply failure, first ++ [.failed operation stage failure], slots⟩

/-- What comes of a request: the service's answer, unless the request waits without end. An operation
that runs may also be given up as late, or its worker may fail. -/
inductive Gives (context : Context) (method path : Text) (body : Bytes) : Exchange → Prop where
  | answered :
      (∀ operation : Operation, method = "POST".toList → path = operation.path →
        ¬ context.Endless operation body) →
      Gives context method path body (context.answer method path body)
  | cut {operation : Operation} {failure : Failure} :
      method = "POST".toList → path = operation.path → context.Holds operation body →
      (failure = .late context.settings.timeout ∨ ∃ message, failure = .broken message) →
      Gives context method path body (context.ensureWritten path
        ⟨context.failureReply failure, [.start operation context.settings.timeout,
          .failed operation (.work operation) failure], context.slots⟩)

theorem work_eq_ok {task : Task} {answer : Answer} (h : context.work task = .ok answer) :
    task.run = .ok answer := by
  unfold work at h
  split at h
  · cases h
  · split at h
    · cases h
    · exact mapError_eq_ok.1 h

theorem Course.ended {exchange : Exchange} (h : context.Course operation body exchange)
    (hends : ¬ context.Endless operation body) : context.Ended operation exchange := by
  have hnone : ∀ entry ∈ ([] : List LogEntry),
      entry = .start operation context.settings.timeout := by simp
  have hstart : ∀ entry ∈ [LogEntry.start operation context.settings.timeout],
      entry = .start operation context.settings.timeout := by simp
  cases h with
  | @refused why hplan =>
    refine .failed .validate context.slots hnone fun hcode => ?_
    have hstatus := Plan.checks_task _ _ _ _ why hplan
    have hbusy : why.status = 429 := (Failure.code_eq_busy (.refused why)).1 hcode
    simp [hbusy] at hstatus
  | unread hplan =>
    refine .failed .validate context.slots hnone fun _ => isFinite_broken _ _
  | busy hplan hfull =>
    refine .failed .acquire context.slots hnone fun _ => isFinite_busy _ ?_
    rw [Option.isSome_iff_ne_none]
    exact fun htime => hends ⟨⟨_, hplan⟩, hfull, htime⟩
  | answered slots hholds hwork =>
    exact .done slots hstart (run_counted (work_eq_ok hwork))
  | failed slots hholds hwork =>
    refine .failed (.work operation) slots hstart fun hcode => ?_
    have hbusy := (Failure.code_eq_busy _).1 hcode
    rcases work_status hwork with hs | hs <;> omega

/-- What comes of a request for an operation has ended, and is put off if it cannot be written. -/
theorem Gives.ended {exchange : Exchange}
    (h : context.Gives "POST".toList operation.path body exchange) :
    ∃ made, context.Ended operation made ∧
      exchange = context.ensureWritten operation.path made := by
  cases h with
  | answered hends =>
    refine ⟨context.perform operation body, ?_, answer_operation context operation body⟩
    exact (perform_course context operation body).ended (hends operation rfl rfl)
  | @cut other failure _ hpath hholds hfailure =>
    obtain rfl := Operation.path_inj.1 hpath
    refine ⟨_, .failed (.work operation) context.slots (List.forall_mem_singleton.2 rfl)
      fun hcode => ?_, rfl⟩
    have hbusy := (Failure.code_eq_busy _).1 hcode
    rcases hfailure with rfl | ⟨message, rfl⟩ <;> cases hbusy

/-- A request for no operation tells nothing of one in the log. -/
theorem Gives.elsewhere {exchange : Exchange} (h : context.Gives method path body exchange)
    (hroute : ¬ ∃ operation : Operation, method = "POST".toList ∧ path = operation.path) :
    (∀ entry ∈ exchange.log, entry = .unanswered) ∧ exchange.reply.status ≠ 429 := by
  cases h with
  | answered _ =>
    obtain ⟨hlog, hstatus⟩ := answer_elsewhere context body hroute
    refine ⟨hlog, fun h => ?_⟩
    simp [h] at hstatus
  | cut hmethod hpath _ _ => exact (hroute ⟨_, hmethod, hpath⟩).elim

end Context

/-! ## What the log tells of one request -/

/-- The one event of a request for an operation tells what its client was told. -/
structure Tells (operation : Operation) (reply : Reply) (event : Logs.Event) : Prop where
  operation : event.operation = operation.name
  outcome : ∀ label : Label, event.outcome = label.text ↔ reply.label? = some label
  busy : event.errorCode = some Logs.busyCode ↔ reply.status = 429

variable {context : Context} {operation : Operation} {made : Exchange}

theorem Context.Ended.tells (h : context.Ended operation made) (timing : Timing) :
    ∃ event, (context.ensureWritten operation.path made).log.filterMap (LogEntry.event? timing) =
        [event] ∧
      Tells operation (context.ensureWritten operation.path made).reply event := by
  have hstarts {first : List LogEntry}
      (h : ∀ entry ∈ first, entry = .start operation context.settings.timeout) :
      first.filterMap (LogEntry.event? timing) = [] := by
    rw [List.filterMap_eq_nil_iff]
    intro entry hm
    rw [h entry hm]
    rfl
  cases h with
  | @done first answer slots hfirst hcounted =>
    rw [Context.ensureWritten, if_pos answer.isFinite_toJson, List.filterMap_append, hstarts hfirst]
    refine ⟨_, rfl, rfl, fun label => ?_, ?_⟩
    · rw [label?_answer hcounted, Option.some.injEq]
      exact Label.text_inj
    · simp
  | @failed first stage failure slots hfirst hbusy =>
    have hnone {reply : Reply} (hs : reply.status ≠ 200) (label : Label) :
        failure.outcome = label.text ↔ reply.label? = some label := by
      rw [Reply.label?, if_neg hs]
      simpa using failure.outcome_ne label
    obtain ⟨event, hevent, hname, houtcome, hcode⟩ :
        ∃ event, (LogEntry.failed operation stage failure).event? timing = some event ∧
          event.operation = operation.name ∧ event.outcome = failure.outcome ∧
            event.errorCode = some failure.code := ⟨_, rfl, rfl, rfl, rfl⟩
    unfold Context.ensureWritten
    split
    · refine ⟨event, by simp [hstarts hfirst, hevent], hname, ?_, ?_⟩
      · rw [houtcome]
        exact hnone failure.status_ne_ok
      · rw [hcode, Option.some.injEq]
        exact failure.code_eq_busy
    · next hfinite =>
      have hunanswered : LogEntry.unanswered.event? timing = none := rfl
      refine ⟨event, by simp [hstarts hfirst, hevent, hunanswered], hname, ?_, ?_⟩
      · rw [houtcome]
        exact hnone (by simp [Context.brokenReply])
      · rw [hcode, Option.some.injEq]
        exact iff_of_false (fun h => hfinite (hbusy h)) (by simp [Context.brokenReply])

/-- A request to the service, under settings that come from variables, with what came of it. -/
structure Visit where
  environment : Variables
  context : Context
  method : Text
  path : Text
  body : Bytes
  exchange : Exchange
  settings : context.settings = .ofVariables environment
  requestId : context.requestId.Plain
  timing : context.timing.Short
  gives : context.Gives method path body exchange

namespace Visit

variable {visit : Visit}

/-- The lines that a request adds to the log. -/
def lines (visit : Visit) : List Text :=
  visit.exchange.log.map (·.line visit.context.requestId visit.context.timing)

/-- The events that the log tells of a request. -/
def events (visit : Visit) : List Logs.Event :=
  visit.exchange.log.filterMap (LogEntry.event? visit.context.timing)

end Visit

end Service

end NameSlots
