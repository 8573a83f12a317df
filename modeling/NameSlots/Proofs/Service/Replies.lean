import NameSlots.Proofs.Service.Plan
import NameSlots.Proofs.Service.Work
import NameSlots.Service.Exchange

/-! What the service answers: the result of the engine, or else why there is none. -/
namespace NameSlots

/-! ## Answers can be written -/

namespace Json

@[simp] theorem isFinite_bool (b : Bool) : (bool b).isFinite = true := rfl

@[simp] theorem isFinite_int (n : Int) : (int n).isFinite = true := rfl

@[simp] theorem isFinite_string (s : Text) : (string s).isFinite = true := rfl

@[simp] theorem isFinite_array (items : List Json) : isFinite (.array items) = items.all isFinite := by
  rw [isFinite]
  induction items with
  | nil => rfl
  | cons item rest ih => rw [itemsFinite, ih, List.all_cons]

@[simp] theorem isFinite_object (fields : List (Text × Json)) :
    isFinite (.object fields) = fields.all fun field => field.2.isFinite := by
  rw [isFinite]
  induction fields with
  | nil => rfl
  | cons field rest ih => rw [fieldsFinite, ih, List.all_cons]

@[simp] theorem isFinite_record (entries : List (String × Json)) :
    (record entries).isFinite = entries.all fun entry => entry.2.isFinite := by
  rw [record, isFinite_object, List.all_map]
  rfl

@[simp] theorem isFinite_texts (items : List Text) : (texts items).isFinite = true := by
  rw [texts, isFinite_array, List.all_map]
  exact List.all_eq_true.2 fun _ _ => rfl

@[simp] theorem isFinite_ofOption_string (o : Option Text) :
    (ofOption string o).isFinite = true := by
  cases o <;> rfl

@[simp] theorem isFinite_ofOption_int (o : Option Int) : (ofOption int o).isFinite = true := by
  cases o <;> rfl

end Json

@[simp] theorem Key.Segment.isFinite_toJson (segment : Segment) : segment.toJson.isFinite = true := by
  simp [toJson]

@[simp] theorem Outcome.isFinite_toJson (outcome : Outcome) : outcome.toJson.isFinite = true := by
  simp [toJson]

@[simp] theorem Summary.isFinite_toJson (summary : Summary) : summary.toJson.isFinite = true := by
  simp [toJson]

namespace Service

/-- Answers hold no numbers but counts. -/
theorem Answer.isFinite_toJson (answer : Answer) : answer.toJson.isFinite = true := by
  cases answer <;> simp [toJson, resolutionJson]

namespace Context

/-- A service whose workers do not wait until their time is over. -/
def Timely (context : Context) : Prop :=
  ∃ delay, Task.delay context.settings.delay = .ok delay ∧ context.settings.timeout.le delay = false

variable {context : Context} {operation : Operation} {body : Bytes} {task : Task} {answer : Answer}

theorem answer_operation (context : Context) (operation : Operation) (body : Bytes) :
    context.answer "POST".toList operation.path body =
      context.ensureWritten operation.path (context.perform operation body) := by
  cases operation <;> rfl

theorem acquire?_eq {slots : Slots} (h : slots.taken < slots.capacity) :
    ∃ held, slots.acquire? = some held := by
  simp [Slots.acquire?, h]

theorem work_timely (h : context.Timely) (task : Task) :
    context.work task = task.run.mapError fun fault => .broken (workerMessage fault) := by
  obtain ⟨delay, hd, ht⟩ := h
  simp [work, hd, ht]

/-- The answer of the worker is the answer of the service. -/
theorem reply_of_task (htime : context.Timely) (hslot : context.slots.taken < context.slots.capacity)
    (hplan : Plan.task context.settings context.files operation body = .ok task)
    (hrun : task.run = .ok answer) :
    (context.answer "POST".toList operation.path body).reply = ⟨200, answer.toJson⟩ := by
  obtain ⟨held, hheld⟩ := acquire?_eq hslot
  have hwork : context.work task = .ok answer := by
    rw [work_timely htime]
    exact mapError_eq_ok.2 hrun
  have hperform : (context.perform operation body).reply = ⟨200, answer.toJson⟩ := by
    simp [perform, hplan, hheld, runHolding, hwork]
  rw [answer_operation, ensureWritten, hperform, if_pos answer.isFinite_toJson, hperform]

end Context

/-! ## What comes of requests -/

section Requests

variable {context : Context} {body : Bytes} {answer : Answer}
  (htime : context.Timely) (hslot : context.slots.taken < context.slots.capacity)
include htime hslot

theorem ParseRequest.reply {request : ParseRequest} (hbody : Holds check body request)
    (hfits : request.Within context.settings) (h : request.answer = .ok answer) :
    (context.answer "POST".toList Operation.parse.path body).reply = ⟨200, answer.toJson⟩ := by
  refine Context.reply_of_task htime hslot (Plan.task_parse_eq_ok.2 ⟨request, hbody, hfits, rfl⟩) ?_
  rw [Task.run_parse, h]
  rfl

theorem MatchRequest.reply {request : MatchRequest} (hbody : Holds check body request)
    (hfits : request.Within context.settings) (h : request.answer = .ok answer) :
    (context.answer "POST".toList Operation.matching.path body).reply = ⟨200, answer.toJson⟩ := by
  obtain ⟨fields, hread, hcheck⟩ := hbody
  refine Context.reply_of_task htime hslot
    (Plan.task_matching_eq_ok.2 ⟨request, ⟨fields, hread, hcheck⟩, hfits, rfl⟩) ?_
  rw [Task.run_matching (key_ne_nil hcheck), h]
  rfl

theorem ExpandRequest.reply {request : ExpandRequest} (hbody : Holds check body request)
    (hfits : request.Within context.settings) :
    (context.answer "POST".toList Operation.expand.path body).reply =
      ⟨200, request.answer.toJson⟩ :=
  Context.reply_of_task htime hslot (Plan.task_expand_eq_ok.2 ⟨request, hbody, hfits, rfl⟩)
    (Task.run_expand request)

theorem ResolveRequest.reply {request : ResolveRequest} {ruleSet : RuleSet}
    (hbody : Holds check body request) (huses : request.Uses context.settings context.files ruleSet)
    (hfits : request.Within context.settings ruleSet)
    (h : resolution ruleSet request.slotMode request.inputs = .ok answer) :
    (context.answer "POST".toList Operation.resolve.path body).reply = ⟨200, answer.toJson⟩ := by
  obtain ⟨fields, hread, hcheck⟩ := hbody
  refine Context.reply_of_task htime hslot
    (Plan.task_resolve_eq_ok.2 ⟨request, ruleSet, ⟨fields, hread, hcheck⟩, huses, hfits, rfl⟩) ?_
  rw [payload, Task.run_resolve (huses.valid hcheck), h]
  rfl

end Requests
end Service
end NameSlots
