import NameSlots.Json.Writer
import NameSlots.Service.Answer
import NameSlots.Service.Refusal

/-! What the service writes to its log: when an operation starts, and how each request ends. -/

namespace NameSlots.Service

/-- How long the parts of a request took, in thousandths of a second. -/
structure Timing where
  queueWait : Nat := 0
  worker : Nat := 0
  total : Nat := 0

/-- What was done for a request when it failed. -/
inductive Stage where
  | validate
  | acquire
  | work (operation : Operation)
deriving DecidableEq

def Stage.text : Stage → Text
  | .validate => "validate_request".toList
  | .acquire => "acquire_slot".toList
  | .work operation => operation.name

/-- Why a request has no result. -/
inductive Failure where
  | refused (why : Refusal)
  | late (timeout : Double)
  | broken (message : Text)

namespace Failure

/-- The status of the answer. -/
def status : Failure → Nat
  | .refused why => why.status
  | .late _ => 408
  | .broken _ => 500

/-- The code of the error. -/
def code : Failure → Text
  | .refused why => why.code
  | .late _ => "REQUEST_TIMEOUT".toList
  | .broken _ => "INTERNAL_ERROR".toList

def message : Failure → Text
  | .refused why => why.message
  | .late _ => "request timed out".toList
  | .broken _ => "internal server error".toList

/-- What the answer tells beside the message. -/
def detail (timing : Timing) : Failure → List (String × Json)
  | .refused why => why.detail
  | .late timeout => [("timeout_seconds", .float timeout), ("terminated", .bool true)]
  | .broken message => [("error", .string message), ("total_ms", .ofNat timing.total)]

/-- What the log says of how the request ended. -/
def outcome : Failure → Text
  | .refused _ => "rejected".toList
  | .late _ => "timeout".toList
  | .broken _ => "error".toList

end Failure

/-- An entry of the log. -/
inductive LogEntry where
  | start (operation : Operation) (timeout : Double)
  | done (operation : Operation) (label : Label)
  | failed (operation : Operation) (stage : Stage) (failure : Failure)
  /-- The answer could not be written. -/
  | unanswered

namespace LogEntry

/-- The fields of an entry beside the request's id. -/
def fields (timing : Timing) : LogEntry → List (String × Json)
  | .start operation timeout =>
    [("event", .text "start"), ("operation", .string operation.name),
      ("timeout_seconds", .float timeout), ("queue_wait_ms", .ofNat timing.queueWait)]
  | .done operation label =>
    [("event", .text "done"), ("operation", .string operation.name),
      ("outcome", .string label.text), ("http_status", .int 200),
      ("timing", .record [("queue_wait_ms", .ofNat timing.queueWait),
        ("worker_ms", .ofNat timing.worker), ("total_ms", .ofNat timing.total)])]
  | .failed operation stage failure =>
    let times := match failure with
      | .broken _ => []
      | _ => [("timing", .record [("total_ms", .ofNat timing.total)])]
    [("event", .text "error"), ("operation", .string operation.name),
      ("outcome", .string failure.outcome), ("error_code", .string failure.code),
      ("status_code", .ofNat failure.status), ("failure_stage", .string stage.text)] ++ times
  | .unanswered =>
    [("event", .text "error"), ("error_code", .text "INTERNAL_ERROR"), ("status_code", .int 500),
      ("failure_stage", .text "middleware")]

def toJson (requestId : Text) (timing : Timing) (entry : LogEntry) : Json :=
  .record (("request_id", .string requestId) :: entry.fields timing)

/-- The line of an entry. -/
def line (requestId : Text) (timing : Timing) (entry : LogEntry) : Text :=
  (entry.toJson requestId timing).compact

end LogEntry

end NameSlots.Service
