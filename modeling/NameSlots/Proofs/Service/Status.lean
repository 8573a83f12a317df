import NameSlots.Proofs.Service.Replies

/-!
The statuses of answers. Where no hook holds workers up, a request is answered with a result or with
what is wrong with it, unless something in it cannot be read at all, the engine refuses a pattern, or
the answer holds a number that JSON has no text for.
-/
namespace NameSlots.Service

namespace Settings

end Settings

namespace Context

variable {context : Context} {operation : Operation} {body : Bytes} {task : Task}

/-- Why a request is answered as one that broke the service. -/
inductive Fails (context : Context) (operation : Operation) (body : Bytes) : Prop where
  /-- A number in the body has too many digits, or the rule set holds what cannot be read. -/
  | unread {message : Text} :
      Plan.task context.settings context.files operation body = .error (.broken message) →
      Fails context operation body
  | refused {task : Task} {why : MatchError} :
      Plan.task context.settings context.files operation body = .ok task →
      context.slots.taken < context.slots.capacity → task.run = .error (.matching why) →
      Fails context operation body
  /-- What is said of the request holds a number that is not finite. -/
  | unwritten : (context.perform operation body).reply.body.isFinite = false →
      Fails context operation body

/-- A worker fails only where the engine refuses a pattern. -/
theorem run_of_task (h : Plan.task context.settings context.files operation body = .ok task) :
    ∃ result : Except MatchError Answer, task.run = result.mapError .matching := by
  cases operation with
  | parse =>
    obtain ⟨request, -, -, rfl⟩ := Plan.task_parse_eq_ok.1 h
    exact ⟨_, Task.run_parse request⟩
  | matching =>
    obtain ⟨request, ⟨fields, -, hcheck⟩, -, rfl⟩ := Plan.task_matching_eq_ok.1 h
    exact ⟨_, Task.run_matching (MatchRequest.key_ne_nil hcheck)⟩
  | expand =>
    obtain ⟨request, -, -, rfl⟩ := Plan.task_expand_eq_ok.1 h
    exact ⟨.ok request.answer, Task.run_expand request⟩
  | resolve =>
    obtain ⟨request, ruleSet, ⟨fields, -, hcheck⟩, huses, -, rfl⟩ := Plan.task_resolve_eq_ok.1 h
    exact ⟨_, Task.run_resolve (huses.valid hcheck) request.inputs request.slotMode⟩

/-- The statuses of requests that do not break the service. -/
def usualStatuses : List Nat := [200, 400, 413, 429]

theorem refusal_status (why : Refusal) : why.status ∈ usualStatuses := by
  cases why <;> simp [Refusal.status, usualStatuses]

/-- What is made of a request has a usual status, or there is a reason why not. -/
theorem perform_status (htime : context.Timely) (operation : Operation) (body : Bytes) :
    (context.perform operation body).reply.status ∈ usualStatuses ∨
      (context.perform operation body).reply.status = 500 ∧ context.Fails operation body := by
  cases hplan : Plan.task context.settings context.files operation body with
  | error fault =>
    cases fault with
    | refused why =>
      left
      simp only [perform, hplan]
      exact refusal_status why
    | broken message =>
      right
      simp only [perform, hplan]
      exact ⟨rfl, .unread hplan⟩
  | ok task =>
    by_cases hslot : context.slots.taken < context.slots.capacity
    · obtain ⟨held, hheld⟩ := acquire?_eq hslot
      have hwork := work_timely htime task
      obtain ⟨result, hrun⟩ := run_of_task hplan
      rw [hrun] at hwork
      cases result with
      | ok answer =>
        left
        simp only [perform, hplan, hheld, runHolding, hwork, mapError_ok]
        decide
      | error why =>
        right
        simp only [perform, hplan, hheld, runHolding, hwork, mapError_error]
        exact ⟨rfl, .refused hplan hslot hrun⟩
    · left
      have hfull : context.slots.acquire? = none := by simp [Slots.acquire?, hslot]
      simp only [perform, hplan, hfull]
      exact refusal_status (.busy context.slots.capacity context.settings.queueTimeout)

theorem Fails.perform_status (htime : context.Timely) (h : context.Fails operation body) :
    (context.perform operation body).reply.status = 500 ∨
      (context.perform operation body).reply.body.isFinite = false := by
  cases h with
  | unread hplan =>
    left
    simp only [perform, hplan]
    rfl
  | refused hplan hslot hrun =>
    left
    obtain ⟨held, hheld⟩ := acquire?_eq hslot
    have hwork := work_timely htime
    simp only [perform, hplan, hheld, runHolding, hwork, hrun, mapError_error]
    rfl
  | unwritten h => exact .inr h

/-- A request breaks the service for one of three reasons only, and else has a usual status. -/
theorem status_iff (htime : context.Timely) (operation : Operation) (body : Bytes) :
    let status := (context.answer "POST".toList operation.path body).reply.status
    (status = 500 ↔ context.Fails operation body) ∧ (status ∈ usualStatuses ∨ status = 500) := by
  have husual : 500 ∉ usualStatuses := by decide
  rw [answer_operation]
  unfold ensureWritten
  split
  · next hfinite =>
    rcases perform_status htime operation body with hs | ⟨hs, hfails⟩
    · refine ⟨⟨fun h => (husual (h ▸ hs)).elim, fun h => ?_⟩, .inl hs⟩
      rcases h.perform_status htime with h | h
      · exact h
      · rw [hfinite] at h
        cases h
    · exact ⟨⟨fun _ => hfails, fun _ => hs⟩, .inr hs⟩
  · next hfinite =>
    exact ⟨⟨fun _ => .unwritten (by simpa using hfinite), fun _ => rfl⟩, .inr rfl⟩

end Context
end NameSlots.Service
