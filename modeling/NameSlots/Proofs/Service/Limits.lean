import NameSlots.Proofs.Service.Log

/-!
What the limits do: a worker never sees a request that goes beyond one of them, and a request that
keeps to all of them is never turned down as too large. Nothing is taken for granted of the settings,
so that this holds of all that variables can set them to.
-/
namespace NameSlots.Service.Context

/-- The tasks that may go to a worker for a body: the body holds a request that keeps to the limits,
and so does the rule set that the request is resolved by. -/
inductive Admits (context : Context) (body : Bytes) : Operation → Task → Prop where
  | parse {request : ParseRequest} : Service.Holds ParseRequest.check body request →
      request.Within context.settings →
      Admits context body .parse ⟨Operation.parse.name, request.toJson⟩
  | matching {request : MatchRequest} : Service.Holds MatchRequest.check body request →
      request.Within context.settings →
      Admits context body .matching ⟨Operation.matching.name, request.toJson⟩
  | expand {request : ExpandRequest} : Service.Holds ExpandRequest.check body request →
      request.Within context.settings →
      Admits context body .expand ⟨Operation.expand.name, request.toJson⟩
  | resolve {request : ResolveRequest} {ruleSet : RuleSet} :
      Service.Holds ResolveRequest.check body request →
      request.Uses context.settings context.files ruleSet →
      request.Within context.settings ruleSet →
      Admits context body .resolve ⟨Operation.resolve.name, request.payload ruleSet⟩

/-- A body whose request keeps to the limits, whether or not there is a rule set for it. -/
inductive Keeps (context : Context) (body : Bytes) : Operation → Prop where
  | parse {request : ParseRequest} : Service.Holds ParseRequest.check body request →
      request.Within context.settings → Keeps context body .parse
  | matching {request : MatchRequest} : Service.Holds MatchRequest.check body request →
      request.Within context.settings → Keeps context body .matching
  | expand {request : ExpandRequest} : Service.Holds ExpandRequest.check body request →
      request.Within context.settings → Keeps context body .expand
  | resolve {request : ResolveRequest} : Service.Holds ResolveRequest.check body request →
      (∀ input ∈ request.inputs, input.length ≤ context.settings.maxChars) →
      (∀ t ∈ request.ruleSetText, t.length ≤ context.settings.maxChars * Plan.ruleSetScale) →
      (∀ ruleSet, request.Uses context.settings context.files ruleSet →
        ruleSet.Within context.settings) →
      Keeps context body .resolve

variable {context : Context} {operation : Operation} {body : Bytes} {task : Task} {why : Refusal}

theorem task_eq_ok_iff : Plan.task context.settings context.files operation body = .ok task ↔
    context.Admits body operation task := by
  constructor
  · intro h
    cases operation with
    | parse =>
      obtain ⟨request, hbody, hfits, rfl⟩ := Plan.task_parse_eq_ok.1 h
      exact .parse hbody hfits
    | matching =>
      obtain ⟨request, hbody, hfits, rfl⟩ := Plan.task_matching_eq_ok.1 h
      exact .matching hbody hfits
    | expand =>
      obtain ⟨request, hbody, hfits, rfl⟩ := Plan.task_expand_eq_ok.1 h
      exact .expand hbody hfits
    | resolve =>
      obtain ⟨request, ruleSet, hbody, huses, hfits, rfl⟩ := Plan.task_resolve_eq_ok.1 h
      exact .resolve hbody huses hfits
  · intro h
    cases h with
    | parse hbody hfits => exact Plan.task_parse_eq_ok.2 ⟨_, hbody, hfits, rfl⟩
    | matching hbody hfits => exact Plan.task_matching_eq_ok.2 ⟨_, hbody, hfits, rfl⟩
    | expand hbody hfits => exact Plan.task_expand_eq_ok.2 ⟨_, hbody, hfits, rfl⟩
    | resolve hbody huses hfits => exact Plan.task_resolve_eq_ok.2 ⟨_, _, hbody, huses, hfits, rfl⟩

theorem uses_unique {settings : Settings} {files : Files} {request : ResolveRequest}
    {ruleSet other : RuleSet} (h : request.Uses settings files ruleSet)
    (h' : request.Uses settings files other) : ruleSet = other :=
  Except.ok.inj ((Plan.ruleSet_eq_ok.2 h).symm.trans (Plan.ruleSet_eq_ok.2 h'))

theorem Admits.keeps (h : context.Admits body operation task) : context.Keeps body operation := by
  cases h with
  | parse hbody hfits => exact .parse hbody hfits
  | matching hbody hfits => exact .matching hbody hfits
  | expand hbody hfits => exact .expand hbody hfits
  | resolve hbody huses hfits =>
    refine .resolve hbody hfits.inputs ?_ fun other h => uses_unique huses h ▸ hfits.ruleSet
    cases huses with
    | data _ htext => simp [htext]
    | text _ htext hlimit _ => simpa [htext] using hlimit
    | file _ htext _ _ => simp [htext]

/-! ## Before a worker -/

/-- A start in the log is that of the operation asked for, and its task is what the worker got. -/
theorem perform_start {started : Operation} {timeout : Double}
    (h : .start started timeout ∈ (context.perform operation body).log) :
    started = operation ∧ ∃ task held, context.Admits body operation task ∧
      context.slots.acquire? = some held ∧
      context.perform operation body = context.runHolding held operation task := by
  unfold perform at h ⊢
  cases hplan : Plan.task context.settings context.files operation body with
  | error fault => cases fault <;> simp [hplan, fail] at h
  | ok task =>
    cases hheld : context.slots.acquire? with
    | none => simp [hplan, hheld, fail] at h
    | some held =>
      simp only [hplan, hheld, runHolding] at h
      refine ⟨?_, task, held, task_eq_ok_iff.1 hplan, rfl, rfl⟩
      cases hwork : context.work task <;> simp [hwork] at h <;> exact h.1

/-- The log of an answer put in the place of another one has no other starts. -/
theorem start_of_ensureWritten {path : Text} {exchange : Exchange} {started : Operation}
    {timeout : Double}
    (h : .start started timeout ∈ (context.ensureWritten path exchange).log) :
    .start started timeout ∈ exchange.log := by
  unfold ensureWritten at h
  split at h
  · exact h
  · simpa using h

/-! ## Refusals -/

/-- Of a rule set that does not come about, the text alone can be too large. -/
theorem ruleSet_refusal {request : ResolveRequest}
    (ht : ∀ t ∈ request.ruleSetText, t.length ≤ context.settings.maxChars * Plan.ruleSetScale)
    (h : Plan.ruleSet context.settings context.files request = .error (.refused why)) :
    why.status = 400 := by
  have hsource {result : Except RuleSetError RuleSet}
      (h : Plan.source result = .error (.refused why)) : why.status = 400 := by
    cases result with
    | ok ruleSet => cases h
    | error fault =>
      simp only [Plan.source] at h
      split at h
      · cases h
        rfl
      · cases h
  unfold Plan.ruleSet at h
  split at h
  · cases h
    rfl
  · cases h
  · next t _ htext =>
    have hlimit : Plan.limitText (context.settings.maxChars * Plan.ruleSetScale)
        "ruleset_yaml".toList t = .ok () := Plan.limitText_eq_ok.2 (ht t htext)
    rw [hlimit] at h
    exact hsource h
  · exact hsource h
  · cases h
    rfl

/-- A request that keeps to the limits is turned down for other reasons only. -/
theorem Keeps.refusal (h : context.Keeps body operation)
    (hplan : Plan.task context.settings context.files operation body = .error (.refused why)) :
    why.status = 400 := by
  have habsurd {task : Task} (h : context.Admits body operation task) : why.status = 400 := by
    rw [task_eq_ok_iff.2 h] at hplan
    cases hplan
  cases h with
  | parse hbody hfits => exact habsurd (.parse hbody hfits)
  | matching hbody hfits => exact habsurd (.matching hbody hfits)
  | expand hbody hfits => exact habsurd (.expand hbody hfits)
  | @resolve request hbody hinputs htext hset =>
    cases hsource : Plan.ruleSet context.settings context.files request with
    | ok ruleSet =>
      have huses := Plan.ruleSet_eq_ok.1 hsource
      exact habsurd (.resolve hbody huses ⟨hinputs, hset ruleSet huses⟩)
    | error fault =>
      have hread := Plan.readRequest_eq_ok.2 hbody
      have hlimit := Plan.limitTexts_inputs_eq_ok (u := ()).2 hinputs
      simp only [Plan.task, Plan.resolve, hread, hlimit, hsource, bind, Except.bind] at hplan
      cases hplan
      exact ruleSet_refusal htext hsource

/-- A worker that gives no result was too late or failed. -/
theorem work_status {failure : Failure} (h : context.work task = .error failure) :
    failure.status = 408 ∨ failure.status = 500 := by
  unfold work at h
  split at h
  · cases h
    exact .inr rfl
  · split at h
    · cases h
      exact .inl rfl
    · cases hrun : task.run <;> rw [hrun] at h <;> cases h
      exact .inr rfl

theorem Keeps.course_status {exchange : Exchange} (h : context.Keeps body operation)
    (hcourse : context.Course operation body exchange) : exchange.reply.status ≠ 413 := by
  cases hcourse with
  | refused hplan => simp [fail, failureReply, Failure.status, h.refusal hplan]
  | unread _ => simp [fail, failureReply, Failure.status]
  | busy _ _ => simp [fail, failureReply, Failure.status, Refusal.status]
  | answered _ _ _ => simp
  | failed _ _ hwork => rcases work_status hwork with hs | hs <;> simp [failureReply, hs]

/-! ## Both together -/

/-- If an operation starts, the limits hold of what its worker gets, wherever the rule set comes
from; and no request that keeps to the limits is told that it is too large. -/
theorem answer_limits (context : Context) (method path : Text) (body : Bytes) :
    (∀ operation timeout, .start operation timeout ∈ (context.answer method path body).log →
      method = "POST".toList ∧ path = operation.path ∧
      ∃ task held, context.Admits body operation task ∧ context.slots.acquire? = some held ∧
        context.perform operation body = context.runHolding held operation task) ∧
    ∀ operation, context.Keeps body operation →
      (context.answer "POST".toList operation.path body).reply.status ≠ 413 := by
  constructor
  · intro started timeout h
    by_cases hroute : ∃ operation : Operation, method = "POST".toList ∧ path = operation.path
    · obtain ⟨operation, rfl, rfl⟩ := hroute
      rw [answer_operation] at h
      obtain ⟨rfl, hstart⟩ := perform_start (start_of_ensureWritten h)
      exact ⟨rfl, rfl, hstart⟩
    · have hlog := (answer_elsewhere context body hroute).1 _ h
      cases hlog
  · intro operation h
    have hstatus := h.course_status (perform_course context operation body)
    rw [answer_operation, ensureWritten]
    split
    · exact hstatus
    · simp [brokenReply]

/-- A service that takes texts of one character and one rule. -/
def narrow : Context where
  settings := .ofVariables [("NAMEKEY_MAX_INPUT_CHARS".toList, ['1']),
    ("NAMEKEY_MAX_RULES".toList, ['1'])]
  files := ⟨[]⟩
  slots := .held 4 0
  requestId := []

/-- A request to the service that is as large as it may be. -/
def largest : Bytes :=
  Utf8.encode ("\x7b\"inputs\":[\"a\"],\"ruleset\":\x7b\"rules\":" ++
    "[\x7b\"key\":\"a\",\"value\":\"b\"\x7d]\x7d\x7d").toList

theorem answer_limits_largest : (∃ task, narrow.Admits largest .resolve task) ∧
    (narrow.answer "POST".toList Operation.resolve.path largest).reply.status ≠ 413 := by
  have hany : ((narrow.answer "POST".toList Operation.resolve.path largest).log.any
      (·.ending?.isNone)) = true := by decide +kernel
  obtain ⟨entry, hmem, hnone⟩ := List.any_eq_true.1 hany
  obtain ⟨operation, timeout, rfl⟩ : ∃ operation timeout, entry = .start operation timeout := by
    cases entry with
    | start operation timeout => exact ⟨operation, timeout, rfl⟩
    | _ => cases hnone
  obtain ⟨hadmits, hstatus⟩ :=
    answer_limits narrow "POST".toList Operation.resolve.path largest
  obtain ⟨-, hpath, task, held, htask, -⟩ := hadmits operation timeout hmem
  obtain rfl := Operation.path_inj.1 hpath
  exact ⟨⟨task, htask⟩, hstatus .resolve htask.keeps⟩

end NameSlots.Service.Context
