import NameSlots.Number.Arithmetic
import NameSlots.Service.Log
import NameSlots.Service.Plan
import NameSlots.Service.Slots

/-!
The service: requests and answers over HTTP. An operation runs only while it holds a slot, and gives
it back however it ends.
-/

namespace NameSlots.Service

/-- What the service knows when it gets a request. -/
structure Context where
  settings : Settings
  files : Files
  slots : Slots
  requestId : Text
  timing : Timing := {}

/-- An answer with its status. -/
structure Reply where
  status : Nat
  body : Json

/-- An answer, what was logged on the way, and the slots after it. -/
structure Exchange where
  reply : Reply
  log : List LogEntry
  slots : Slots

namespace Context

variable (context : Context)

/-- The answer to a request that failed. -/
def failureReply (failure : Failure) : Reply where
  status := failure.status
  body := .record [("error_code", .string failure.code), ("message", .string failure.message),
    ("detail", .record
      (failure.detail context.timing ++ [("request_id", .string context.requestId)]))]

/-- The answer in place of one that cannot be written. -/
def brokenReply (path : Text) : Reply where
  status := 500
  body := .record [("error_code", .text "INTERNAL_ERROR"),
    ("message", .text "internal server error"),
    ("detail", .record [("path", .string path), ("request_id", .string context.requestId)])]

/-! ## Operations -/

/-- What is said of a worker that failed. -/
def workerMessage (fault : TaskFault) : Text :=
  "Runner subprocess failed: ".toList ++ fault.kind ++ ": ".toList ++ fault.message

/-- What a worker makes of a task within the time it has. -/
def work (task : Task) : Except Failure Answer :=
  match Task.delay context.settings.delay with
  | .error fault => .error (.broken (workerMessage fault))
  | .ok delay =>
    if context.settings.timeout.le delay then .error (.late context.settings.timeout)
    else task.run.mapError fun fault => .broken (workerMessage fault)

/-- A request that fails at a stage. -/
def fail (operation : Operation) (stage : Stage) (failure : Failure) : Exchange where
  reply := context.failureReply failure
  log := [.failed operation stage failure]
  slots := context.slots

/-- A task that holds a slot. -/
def runHolding (slots : Slots) (operation : Operation) (task : Task) : Exchange :=
  let started : LogEntry := .start operation context.settings.timeout
  match context.work task with
  | .ok answer =>
    { reply := ⟨200, answer.toJson⟩
      log := [started, .done operation answer.label]
      slots := slots.release }
  | .error failure =>
    { reply := context.failureReply failure
      log := [started, .failed operation (.work operation) failure]
      slots := slots.release }

/-- A request for an operation. -/
def perform (operation : Operation) (body : Bytes) : Exchange :=
  match Plan.task context.settings context.files operation body with
  | .error (.refused why) => context.fail operation .validate (.refused why)
  | .error (.broken message) => context.fail operation .validate (.broken message)
  | .ok task =>
    match context.slots.acquire? with
    | some slots => context.runHolding slots operation task
    | none =>
      context.fail operation .acquire
        (.refused (.busy context.slots.capacity context.settings.queueTimeout))

/-! ## About the service -/

/-- The version of the service. -/
def version : Json := .text "0.1.0"

/-- What clients may want to know: the form of keys, and the limits. -/
def about : Json :=
  let settings := context.settings
  .record [
    ("key_grammar", .record [
      ("name_slots", .texts [Key.Slot.single.text, Key.Slot.several.text]),
      ("regex", .text "/body/flags"),
      ("regex_flags", .texts ("dgimsuvy".toList.map fun c => [c]))]),
    ("value_placeholders", .texts [Key.Slot.single.text]),
    ("slot_modes", .texts [SlotMode.all.text, SlotMode.first.text]),
    ("limits", .record [
      ("max_input_chars", .ofNat settings.maxChars),
      ("max_mappings", .ofNat settings.maxMappings),
      ("max_rules", .ofNat settings.maxRules),
      ("timeout_seconds", .float settings.timeout),
      ("max_concurrency", .ofNat settings.capacity),
      ("queue_timeout_seconds", .float settings.queueTimeout)]),
    ("default_ruleset_configured", .bool settings.ruleSetPath.isSome),
    ("version", version),
    ("package_version", version)]

/-! ## Routes -/

/-- An answer that is not logged. -/
def plain (status : Nat) (body : Json) : Exchange := ⟨⟨status, body⟩, [], context.slots⟩

def detailOnly (what : String) : Json := .record [("detail", .text what)]

/-- What a path leads to, with the method that it takes. -/
def route? (path : Text) : Option (String × (Bytes → Exchange)) :=
  if path == "/healthz".toList then
    some ("GET", fun _ => context.plain 200 (.record [("status", .text "ok")]))
  else if path == "/v1/meta".toList then some ("GET", fun _ => context.plain 200 context.about)
  else do
    let operation ← Operation.ofName? (← Text.dropFront? "/v1/".toList path)
    some ("POST", context.perform operation)

/-- Puts an answer that cannot be written off with another one. -/
def ensureWritten (path : Text) (exchange : Exchange) : Exchange :=
  if exchange.reply.body.isFinite then exchange
  else { exchange with reply := context.brokenReply path, log := exchange.log ++ [.unanswered] }

/-- The path without slashes at its end. -/
def dropLastSlashes (path : Text) : Text := (path.reverse.dropWhile (· == '/')).reverse

/-- The answer where a path leads nowhere: without slashes at its end it may lead somewhere. -/
def elsewhere (path : Text) : Exchange :=
  let plainPath := dropLastSlashes path
  if plainPath ≠ path && (context.route? plainPath).isSome then context.plain 307 .null
  else context.plain 404 (detailOnly "Not Found")

/-- Answers a request. -/
def answer (method path : Text) (body : Bytes) : Exchange :=
  match context.route? path with
  | none => context.elsewhere path
  | some (takes, respond) =>
    if method = takes.toList then context.ensureWritten path (respond body)
    else context.plain 405 (detailOnly "Method Not Allowed")

end Context

end NameSlots.Service
