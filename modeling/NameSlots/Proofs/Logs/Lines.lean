import NameSlots.Logs.Summary
import NameSlots.Proofs.Json.Line
import NameSlots.Proofs.Names.StoreData
import NameSlots.Proofs.Service.Log
import NameSlots.Proofs.Text.Lines

/-! The lines that the service writes to its log, as the summary of logs reads them. -/
namespace NameSlots

namespace Service

/-! ## What is written -/

/-- Times that are written with no more digits than a number may have. -/
structure Timing.Short (timing : Timing) : Prop where
  queueWait : (Text.ofNat timing.queueWait).length ≤ Number.maxDigits
  worker : (Text.ofNat timing.worker).length ≤ Number.maxDigits
  total : (Text.ofNat timing.total).length ≤ Number.maxDigits

/-- The time in an entry is one that text can hold. -/
def LogEntry.Timed : LogEntry → Prop
  | .start _ timeout => timeout.Normal
  | _ => True

/-- What an entry tells of a request that has ended. -/
def LogEntry.event? (timing : Timing) : LogEntry → Option Logs.Event
  | .done operation label =>
    some { operation := operation.name, outcome := label.text, errorCode := none
           totalMs := some timing.total, workerMs := some timing.worker
           queueWaitMs := some timing.queueWait }
  | .failed operation _ failure =>
    some { operation := operation.name, outcome := failure.outcome, errorCode := some failure.code
           totalMs := match failure with
             | .broken _ => none
             | _ => some timing.total
           workerMs := none, queueWaitMs := none }
  | _ => none

namespace LogEntry

variable {requestId : Text} {timing : Timing} {entry : LogEntry}

theorem nodup_fields (requestId : Text) (timing : Timing) (entry : LogEntry) :
    ((("request_id", Json.string requestId) :: entry.fields timing).map Prod.fst).Nodup := by
  cases entry with
  | start operation timeout => simp [fields]
  | done operation label => simp [fields]
  | failed operation stage failure => cases failure <;> simp [fields]
  | unanswered => simp [fields]

theorem wellFormed_toJson (ht : timing.Short) (hx : entry.Timed) :
    (entry.toJson requestId timing).WellFormed := by
  have hint {n : Nat} (h : (Text.ofNat n).length ≤ Number.maxDigits) : (Json.ofNat n).WellFormed :=
    .int h
  have hlow : (Json.int 200).WellFormed ∧ (Json.int 500).WellFormed :=
    ⟨.int (by decide), .int (by decide)⟩
  have htotal : (Json.record [("total_ms", .ofNat timing.total)]).WellFormed :=
    Json.wellFormed_record (by simp) (by simp [hint ht.total])
  refine Json.wellFormed_record (nodup_fields requestId timing entry) ?_
  cases entry with
  | start operation timeout =>
    simp [fields, Json.text, Json.WellFormed.string, Json.WellFormed.float hx, hint ht.queueWait]
  | done operation label =>
    have htimes : (Json.record [("queue_wait_ms", .ofNat timing.queueWait),
        ("worker_ms", .ofNat timing.worker), ("total_ms", .ofNat timing.total)]).WellFormed :=
      Json.wellFormed_record (by simp)
        (by simp [hint ht.queueWait, hint ht.worker, hint ht.total])
    simp [fields, Json.text, Json.WellFormed.string, hlow, htimes]
  | failed operation stage failure =>
    have hstatus : (Json.ofNat failure.status).WellFormed := by
      cases failure with
      | refused why =>
        cases why <;> simp only [Failure.status, Refusal.status] <;> exact hint (by decide)
      | _ =>
        simp only [Failure.status]
        exact hint (by decide)
    cases failure <;>
      simp [fields, Json.text, Json.WellFormed.string, hstatus, htotal]
  | unanswered => simp [fields, Json.text, Json.WellFormed.string, hlow]

/-- What the summary takes an entry for. -/
def read (timing : Timing) (entry : LogEntry) : Logs.Line :=
  (entry.event? timing).elim .skipped .event

end LogEntry

end Service

end NameSlots
