import NameSlots.Proofs.Service.Replies

/-!
What the log says of a request against what the client is told. The log of a request starts with the
operation if a slot was held, and its last line agrees with the answer. It is the only line that ends
the request, unless what was wrong with the request holds a number that JSON has no text for: then
the answer is another one than that logged first.
-/
namespace NameSlots.Service

/-- How a request ended: the status, and the code of the error if there was one. -/
structure Ending where
  status : Nat
  code : Option Text
deriving DecidableEq

/-- The ending that an entry of the log is about. -/
def LogEntry.ending? : LogEntry → Option Ending
  | .start .. => none
  | .done .. => some ⟨200, none⟩
  | .failed _ _ failure => some ⟨failure.status, some failure.code⟩
  | .unanswered => some ⟨500, some "INTERNAL_ERROR".toList⟩

/-- The ending that a line of the log tells. -/
def lineEnding? (line : Json) : Option Ending :=
  match line.field? "event", line.field? "http_status", line.field? "status_code",
      line.field? "error_code" with
  | some (.string event), some (.int status), none, none =>
    if event = "done".toList then some ⟨status.toNat, none⟩ else none
  | some (.string event), none, some (.int status), some (.string code) =>
    if event = "error".toList then some ⟨status.toNat, some code⟩ else none
  | _, _, _, _ => none

/-- The ending that a client is told. -/
def Reply.ending (reply : Reply) : Ending where
  status := reply.status
  code := match reply.body.field? "error_code" with
    | some (.string code) => some code
    | _ => none

/-- The id that an answer gives for an error. -/
def Reply.requestId? (reply : Reply) : Option Json :=
  reply.body.field? "detail" >>= Json.field? "request_id"

namespace LogEntry

variable (requestId : Text) (timing : Timing) (entry : LogEntry)

theorem field_requestId :
    (entry.toJson requestId timing).field? "request_id" = some (.string requestId) := rfl

/-- The line of an entry tells what the entry is about. -/
theorem lineEnding_toJson : lineEnding? (entry.toJson requestId timing) = entry.ending? := by
  cases entry with
  | start operation timeout => rfl
  | done operation label => rfl
  | failed operation stage failure => cases failure <;> rfl
  | unanswered => rfl

end LogEntry

/-- Results have no code of an error. -/
theorem Answer.field_errorCode (answer : Answer) : answer.toJson.field? "error_code" = none := by
  cases answer <;> rfl

theorem Operation.path_inj {operation other : Operation} :
    operation.path = other.path ↔ operation = other := by
  cases operation <;> cases other <;> decide

namespace Context

variable {context : Context} {operation : Operation} {body : Bytes} {task : Task} {path : Text}

/-- A request gets a slot: there is a task for it, and a slot is free. -/
def Holds (context : Context) (operation : Operation) (body : Bytes) : Prop :=
  (∃ task, Plan.task context.settings context.files operation body = .ok task) ∧
    context.slots.taken < context.slots.capacity

theorem ending_answer (answer : Answer) : Reply.ending ⟨200, answer.toJson⟩ = ⟨200, none⟩ := by
  simp only [Reply.ending, answer.field_errorCode]

/-- The courses that a request can take, with what comes of it. -/
inductive Course (context : Context) (operation : Operation) (body : Bytes) : Exchange → Prop where
  | refused {why : Refusal} :
      Plan.task context.settings context.files operation body = .error (.refused why) →
      Course context operation body (context.fail operation .validate (.refused why))
  | unread {message : Text} :
      Plan.task context.settings context.files operation body = .error (.broken message) →
      Course context operation body (context.fail operation .validate (.broken message))
  | busy {task : Task} :
      Plan.task context.settings context.files operation body = .ok task →
      ¬ context.slots.taken < context.slots.capacity →
      Course context operation body (context.fail operation .acquire
        (.refused (.busy context.slots.capacity context.settings.queueTimeout)))
  | answered {task : Task} {answer : Answer} (slots : Slots) :
      context.Holds operation body → context.work task = .ok answer →
      Course context operation body
        ⟨⟨200, answer.toJson⟩, [.start operation context.settings.timeout,
          .done operation answer.label], slots⟩
  | failed {task : Task} {failure : Failure} (slots : Slots) :
      context.Holds operation body → context.work task = .error failure →
      Course context operation body
        ⟨context.failureReply failure, [.start operation context.settings.timeout,
          .failed operation (.work operation) failure], slots⟩

theorem perform_course (context : Context) (operation : Operation) (body : Bytes) :
    context.Course operation body (context.perform operation body) := by
  unfold perform
  cases hplan : Plan.task context.settings context.files operation body with
  | error fault =>
    cases fault with
    | refused why => exact .refused hplan
    | broken message => exact .unread hplan
  | ok task =>
    by_cases hslot : context.slots.taken < context.slots.capacity
    · obtain ⟨held, hheld⟩ := acquire?_eq hslot
      have hholds : context.Holds operation body := ⟨⟨task, hplan⟩, hslot⟩
      simp only [hheld, runHolding]
      cases hwork : context.work task with
      | ok answer => exact .answered _ hholds hwork
      | error failure => exact .failed _ hholds hwork
    · have hfull : context.slots.acquire? = none := by simp [Slots.acquire?, hslot]
      simp only [hfull]
      exact .busy hplan hslot

theorem not_holds_of_error {fault : PlanFault}
    (h : Plan.task context.settings context.files operation body = .error fault) :
    ¬ context.Holds operation body := by
  rintro ⟨⟨task, htask⟩, -⟩
  rw [h] at htask
  cases htask

/-! ## Requests for no operation -/

/-- A path leads to an operation, or to what the service tells of itself. -/
theorem route?_eq_some {takes : String} {respond : Bytes → Exchange}
    (h : context.route? path = some (takes, respond)) :
    (∃ operation : Operation,
      takes = "POST" ∧ path = operation.path ∧ respond = context.perform operation) ∨
    ∃ told, respond = fun _ => context.plain 200 told := by
  unfold route? at h
  split at h
  · obtain ⟨rfl, rfl⟩ := Prod.mk.inj (Option.some.inj h)
    exact .inr ⟨_, rfl⟩
  · split at h
    · obtain ⟨rfl, rfl⟩ := Prod.mk.inj (Option.some.inj h)
      exact .inr ⟨_, rfl⟩
    · obtain ⟨name, hname, h⟩ := Option.bind_eq_some_iff.1 h
      obtain ⟨operation, hop, h⟩ := Option.bind_eq_some_iff.1 h
      obtain ⟨rfl, rfl⟩ := Prod.mk.inj (Option.some.inj h)
      have hsame : operation.name = name := by simpa using List.find?_some hop
      refine .inl ⟨operation, rfl, ?_, rfl⟩
      rw [Text.dropFront?_eq_some_iff.1 hname, Operation.path, hsame]

theorem ensureWritten_plain (context : Context) (path : Text) (status : Nat) (told : Json) :
    let exchange := context.ensureWritten path (context.plain status told)
    (∀ entry ∈ exchange.log, entry = .unanswered) ∧ exchange.reply.status ∈ [status, 500] := by
  unfold ensureWritten
  split
  · simp [plain]
  · simp [plain, brokenReply]

/-- A request for no operation is not held up by others, and logged only if what the service tells of
itself cannot be written. -/
theorem answer_elsewhere (context : Context) {method : Text} (body : Bytes)
    (h : ¬ ∃ operation : Operation, method = "POST".toList ∧ path = operation.path) :
    let exchange := context.answer method path body
    (∀ entry ∈ exchange.log, entry = .unanswered) ∧
      exchange.reply.status ∈ [200, 307, 404, 405, 500] := by
  unfold answer
  split
  · dsimp only [elsewhere]
    split <;> simp [plain]
  · next takes respond hroute =>
    split
    · next hmethod =>
      rcases route?_eq_some hroute with ⟨operation, rfl, rfl, rfl⟩ | ⟨told, rfl⟩
      · exact (h ⟨operation, hmethod, rfl⟩).elim
      · obtain ⟨hlog, hstatus⟩ := ensureWritten_plain context path 200 told
        refine ⟨hlog, ?_⟩
        rcases List.mem_pair.1 hstatus with hs | hs <;> simp [hs]
    · simp [plain]

/-! ## Endings -/

/-- The log of a request that ends as the client is told: it starts with the operation if the request
got a slot, and its one ending is its last line. -/
inductive Logged (context : Context) (operation : Operation) (body : Bytes) (reply : Reply) :
    List LogEntry → Prop where
  | held {last : LogEntry} : context.Holds operation body → last.ending? = some reply.ending →
      Logged context operation body reply [.start operation context.settings.timeout, last]
  | unheld {last : LogEntry} : ¬ context.Holds operation body →
      last.ending? = some reply.ending → Logged context operation body reply [last]

/-- What was done for a request is logged as it was. -/
theorem Course.logged {exchange : Exchange} (h : context.Course operation body exchange) :
    context.Logged operation body exchange.reply exchange.log := by
  cases h with
  | refused hplan => exact .unheld (not_holds_of_error hplan) rfl
  | unread hplan => exact .unheld (not_holds_of_error hplan) rfl
  | busy _ hfull => exact .unheld (fun hholds => hfull hholds.2) rfl
  | answered _ hholds _ =>
    apply Logged.held hholds
    rw [ending_answer]
    rfl
  | failed _ hholds _ => exact .held hholds rfl

theorem Logged.getLast? {reply : Reply} {log : List LogEntry}
    (h : context.Logged operation body reply log) :
    log.getLast?.bind LogEntry.ending? = some reply.ending := by
  cases h with
  | held _ hlast => exact hlast
  | unheld _ hlast => exact hlast

/-- A log that has its ending has no other line after it. -/
theorem Logged.not_append {reply reply' : Reply} {log : List LogEntry} (entry : LogEntry)
    (h : context.Logged operation body reply log) :
    ¬ context.Logged operation body reply' (log ++ [entry]) := by
  intro h'
  cases h with
  | held hholds _ => cases h'
  | unheld _ hlast =>
    cases h' with
    | held => simp [LogEntry.ending?] at hlast

/-- The last line of the log tells how the request ended for the client. -/
theorem answer_getLast? (context : Context) (operation : Operation) (body : Bytes) :
    let exchange := context.answer "POST".toList operation.path body
    exchange.log.getLast?.bind LogEntry.ending? = some exchange.reply.ending := by
  have hlog := (perform_course context operation body).logged
  rw [answer_operation, ensureWritten]
  split
  · exact hlog.getLast?
  · simp only [List.getLast?_append, List.getLast?_singleton, Option.some_or]
    rfl

/-- The log tells nothing but what the client is told just where the answer that was made first can
be written. -/
theorem answer_logged_iff (context : Context) (operation : Operation) (body : Bytes) :
    let exchange := context.answer "POST".toList operation.path body
    context.Logged operation body exchange.reply exchange.log ↔
      (context.perform operation body).reply.body.isFinite = true := by
  have hlog := (perform_course context operation body).logged
  rw [answer_operation, ensureWritten]
  split
  · next hfinite => exact ⟨fun _ => hfinite, fun _ => hlog⟩
  · next hfinite =>
    constructor
    · intro h
      exact (hlog.not_append _ h).elim
    · intro h
      exact (hfinite h).elim

/-- A request whose key is the number NaN is turned down with a copy of it, which JSON has no text
for: the log tells two endings, and the client is told the second one only. -/
example :
    let context : Context :=
      { settings := .ofVariables [], files := ⟨[]⟩, slots := .held 4 0, requestId := [] }
    let exchange := context.answer "POST".toList Operation.parse.path
      (Utf8.encode "\x7b\"key\":NaN\x7d".toList)
    exchange.log.filterMap LogEntry.ending? =
        [⟨400, some "INVALID_REQUEST".toList⟩, ⟨500, some "INTERNAL_ERROR".toList⟩] ∧
      exchange.reply.ending = ⟨500, some "INTERNAL_ERROR".toList⟩ := by
  decide +kernel

/-! ## Answers that cannot be written -/

theorem isFinite_failureReply {failure : Failure}
    (h : ∀ entry ∈ failure.detail context.timing, entry.2.isFinite = true) :
    (context.failureReply failure).body.isFinite = true := by
  have hdetail : (failure.detail context.timing).all (fun entry => entry.2.isFinite) = true :=
    List.all_eq_true.2 h
  simp [failureReply, hdetail]

theorem isFinite_broken (context : Context) (message : Text) :
    (context.failureReply (.broken message)).body.isFinite = true := by
  apply isFinite_failureReply
  intro entry hentry
  rcases List.mem_pair.1 hentry with rfl | rfl <;> rfl

theorem isFinite_late {timeout : Double} (h : timeout.units?.isSome = true) :
    (context.failureReply (.late timeout)).body.isFinite = true := by
  apply isFinite_failureReply
  intro entry hentry
  rcases List.mem_pair.1 hentry with rfl | rfl
  · exact h
  · rfl

theorem isFinite_busy {timeout : Double} (capacity : Nat) (h : timeout.units?.isSome = true) :
    (context.failureReply (.refused (.busy capacity timeout))).body.isFinite = true := by
  apply isFinite_failureReply
  intro entry hentry
  rcases List.mem_pair.1 hentry with rfl | rfl
  · rfl
  · exact h

theorem isFinite_work {failure : Failure} (htime : context.settings.timeout.units?.isSome = true)
    (h : context.work task = .error failure) :
    (context.failureReply failure).body.isFinite = true := by
  unfold work at h
  split at h
  · obtain rfl := Except.error.inj h
    exact isFinite_broken _ _
  · split at h
    · obtain rfl := Except.error.inj h
      exact isFinite_late htime
    · cases hrun : task.run with
      | ok answer => simp [hrun] at h
      | error fault =>
        rw [hrun] at h
        obtain rfl := Except.error.inj h
        exact isFinite_broken _ _

/-- Where the limits are finite, an answer that cannot be written turns down what the request says.
-/
theorem Course.refused_of_not_finite {exchange : Exchange}
    (h : context.Course operation body exchange)
    (htime : context.settings.timeout.units?.isSome = true)
    (hqueue : context.settings.queueTimeout.units?.isSome = true)
    (hfinite : exchange.reply.body.isFinite = false) :
    ∃ why, Plan.task context.settings context.files operation body = .error (.refused why) := by
  have habsurd {reply : Reply} (h : reply.body.isFinite = true)
      (h' : reply.body.isFinite = false) : False := by
    rw [h] at h'
    cases h'
  cases h with
  | refused hplan => exact ⟨_, hplan⟩
  | unread _ => exact (habsurd (isFinite_broken _ _) hfinite).elim
  | busy _ _ => exact (habsurd (isFinite_busy _ hqueue) hfinite).elim
  | answered _ _ _ => exact (habsurd (Answer.isFinite_toJson _) hfinite).elim
  | failed _ _ hwork => exact (habsurd (isFinite_work htime hwork) hfinite).elim

/-- The log of a request that is not turned down tells nothing but what the client is told. -/
theorem answer_logged_of_task (htime : context.settings.timeout.units?.isSome = true)
    (hqueue : context.settings.queueTimeout.units?.isSome = true)
    (hplan : Plan.task context.settings context.files operation body = .ok task) :
    let exchange := context.answer "POST".toList operation.path body
    context.Logged operation body exchange.reply exchange.log := by
  apply (answer_logged_iff context operation body).2
  cases hfinite : (context.perform operation body).reply.body.isFinite with
  | true => rfl
  | false =>
    have hcourse := perform_course context operation body
    obtain ⟨why, hwhy⟩ := hcourse.refused_of_not_finite htime hqueue hfinite
    rw [hplan] at hwhy
    cases hwhy

/-! ## Ids -/

theorem requestId_failureReply (context : Context) (failure : Failure) :
    (context.failureReply failure).requestId? = some (.string context.requestId) := by
  cases failure with
  | refused why => cases why <;> rfl
  | late timeout => rfl
  | broken message => rfl

theorem Course.requestId {exchange : Exchange} (h : context.Course operation body exchange) :
    exchange.reply.status = 200 ∨
      exchange.reply.requestId? = some (.string context.requestId) := by
  cases h with
  | answered _ _ _ => exact .inl rfl
  | _ => exact .inr (requestId_failureReply _ _)

/-- Every line of the log has the id of the request, and so has an answer that tells an error. -/
theorem answer_requestId (context : Context) (operation : Operation) (body : Bytes) :
    let exchange := context.answer "POST".toList operation.path body
    (∀ entry ∈ exchange.log, (entry.toJson context.requestId context.timing).field? "request_id" =
      some (.string context.requestId)) ∧
    (exchange.reply.status = 200 ∨
      exchange.reply.requestId? = some (.string context.requestId)) := by
  refine ⟨fun entry _ => entry.field_requestId _ _, ?_⟩
  have hreply := (perform_course context operation body).requestId
  rw [answer_operation, ensureWritten]
  split
  · exact hreply
  · exact .inr rfl

end Context
end NameSlots.Service
