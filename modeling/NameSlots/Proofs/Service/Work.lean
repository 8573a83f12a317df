import NameSlots.Proofs.Rules.Data
import NameSlots.Service.Request
import NameSlots.Service.Task

/-!
What a worker makes of the data of a request is what the engine makes of the request: no value
changes on its way through the data.
-/
namespace NameSlots

/-- The outcomes of inputs, by a slot mode or else by that of the rule set. -/
def RuleSet.outcomes (ruleSet : RuleSet) (mode : Option SlotMode) (inputs : List Text) :
    Except MatchError (List Outcome) :=
  ruleSet.resolveAll { mode := some (mode.getD ruleSet.slotMode).text } inputs

theorem RuleSet.outcomes_eq (ruleSet : RuleSet) (mode : Option SlotMode) (inputs : List Text) :
    ruleSet.outcomes mode inputs =
      ruleSet.resolveAll { mode := mode.map SlotMode.text } inputs := by
  have hmode : Overrides.slotMode { mode := some (mode.getD ruleSet.slotMode).text } ruleSet =
      Overrides.slotMode { mode := mode.map SlotMode.text } ruleSet := by
    cases mode with
    | none =>
      simp only [Option.getD_none, Option.map_none]
      generalize hs : ruleSet.slotMode = mode
      cases mode <;> simp [Overrides.slotMode, hs] <;> rfl
    | some mode => rfl
  have hresolve : ruleSet.resolve { mode := some (mode.getD ruleSet.slotMode).text } =
      ruleSet.resolve { mode := mode.map SlotMode.text } := by
    funext input
    simp only [RuleSet.resolve, hmode]
    rfl
  rw [RuleSet.outcomes, RuleSet.resolveAll, RuleSet.resolveAll, hresolve]

namespace Service

/-! ## What the engine makes of requests -/

def ParseRequest.answer (request : ParseRequest) : Except MatchError Answer :=
  (Answer.segments <$> Key.segments request.key).mapError .refused

/-- The template of a request with the names of a match; none without a match. -/
def MatchRequest.output (request : MatchRequest) (result : MatchResult) : Option Text :=
  if result.isMatched then request.value.map (Template.expand · result.names) else none

def MatchRequest.answer (request : MatchRequest) : Except MatchError Answer := do
  let result ← Key.matchInput request.key request.mappings request.slotMode request.input
  pure (.matching result (request.output result))

def ExpandRequest.answer (request : ExpandRequest) : Answer :=
  .expansion (Template.expand request.value request.names)

def resolution (ruleSet : RuleSet) (mode : Option SlotMode) (inputs : List Text) :
    Except MatchError Answer := do
  let outcomes ← ruleSet.outcomes mode inputs
  pure (.resolution outcomes (summarize outcomes))

/-! ## What workers make of their data -/

namespace Task

variable {entries : List (String × Json)} {value : Json}

theorem field_record (name : String) (h : entries.lookup name = some value) :
    field (.record entries) name = .ok value := by
  have hl := Json.lookup_record entries name
  rw [h] at hl
  simp [field, Json.record, Json.field?, hl]

theorem field?_record (name : String) (h : entries.lookup name = some value) :
    field? (.record entries) name = value := by
  have hl := Json.lookup_record entries name
  rw [h] at hl
  simp [field?, Json.record, Json.field?, hl]

theorem slotMode_toJson (mode : SlotMode) : slotMode mode.toJson = .ok mode := by
  cases mode <;> rfl

theorem segments_eq (key : Text) :
    segments key = ((Key.segments key).mapError MatchError.refused).mapError .matching := by
  unfold segments
  cases Key.segments key <;> rfl

/-- A text is matched as the engine matches it. -/
theorem matchData_text (key input : Text) (table : List Mapping) (mode : SlotMode) :
    (do matchData (← segments key) table mode (.string input)) =
      (Key.matchInput key table mode input).mapError .matching := by
  rw [segments_eq]
  unfold Key.matchInput
  cases Key.segments key <;> rfl

/-- The names of a request come out of their data. -/
theorem names_texts (template : Text) (given : List Text) :
    names template (.texts given) = .ok given := by
  cases given with
  | nil => rfl
  | cons first rest =>
    have hall : ((first :: rest).map Json.string).mapM text = .ok ((first :: rest).map id) :=
      mapM_map_ok fun _ _ => rfl
    rw [List.map_id] at hall
    exact hall

theorem resolveData_text (ruleSet : RuleSet) (mode : SlotMode) (input : Text) :
    resolveData ruleSet (.ok mode) (.string input) =
      (ruleSet.resolve { mode := some mode.text } input).mapError .matching := by
  unfold resolveData
  cases ruleSet.rules <;> rfl

theorem run_parse (request : ParseRequest) :
    run ⟨Operation.parse.name, request.toJson⟩ = request.answer.mapError .matching := by
  change parse request.toJson = _
  rw [parse, ParseRequest.toJson, field_record "key" rfl]
  change Answer.segments <$> segments request.key = _
  rw [segments_eq]
  unfold ParseRequest.answer
  cases Key.segments request.key <;> rfl

theorem run_matching {request : MatchRequest} (h : ∀ mapping ∈ request.mappings, mapping.key ≠ []) :
    run ⟨Operation.matching.name, request.toJson⟩ = request.answer.mapError .matching := by
  have hcheck : (request.mappings.map Mapping.toJson).mapM
      (fun item => (Mapping.check item).mapError TaskFault.invalid) =
        .ok (request.mappings.map id) :=
    mapM_map_ok fun mapping hm => mapError_eq_ok.2 (Mapping.check_toJson (h mapping hm))
  have hmatch := matchData_text request.key request.input request.mappings request.slotMode
  rw [List.map_id] at hcheck
  change matching request.toJson = _
  rw [matching, MatchRequest.toJson, field_record "name_mappings" rfl, field_record "key" rfl,
    field_record "input" rfl, field_record "slot_mode" rfl, field?_record "value" rfl]
  change (((request.mappings.map Mapping.toJson).mapM
    (fun item => (Mapping.check item).mapError TaskFault.invalid)) >>= _) = _
  rw [hcheck]
  change (slotMode request.slotMode.toJson >>= _) = _
  rw [slotMode_toJson]
  change (segments request.key >>= fun found => matchData found request.mappings request.slotMode
    (.string request.input) >>= _) = _
  rw [← bind_assoc, hmatch]
  unfold MatchRequest.answer MatchRequest.output
  cases Key.matchInput request.key request.mappings request.slotMode request.input with
  | error why => rfl
  | ok result => cases request.value <;> cases result <;> rfl

theorem run_expand (request : ExpandRequest) :
    run ⟨Operation.expand.name, request.toJson⟩ = .ok request.answer := by
  change expand request.toJson = _
  rw [expand, ExpandRequest.toJson, field_record "value" rfl, field_record "names" rfl]
  change (names request.value (.texts request.names) >>= _) = _
  rw [names_texts]
  rfl

theorem run_resolve {ruleSet : RuleSet} (h : ruleSet.Valid) (inputs : List Text)
    (mode : Option SlotMode) :
    run ⟨Operation.resolve.name, .record [("inputs", .texts inputs), ("ruleset", ruleSet.toJson),
      ("slot_mode", .ofOption SlotMode.toJson mode)]⟩ =
        (resolution ruleSet mode inputs).mapError .matching := by
  have hmode : (if isEmpty (.ofOption SlotMode.toJson mode) then .ok ruleSet.slotMode
      else slotMode (.ofOption SlotMode.toJson mode)) = .ok (mode.getD ruleSet.slotMode) := by
    cases mode with
    | none => rfl
    | some mode => cases mode <;> rfl
  have hall := mapM_mapError TaskFault.matching
    (resolveData_text ruleSet (mode.getD ruleSet.slotMode)) inputs
  change resolve _ = _
  rw [resolve, field_record "inputs" rfl, field_record "ruleset" rfl, field?_record "slot_mode" rfl]
  change (((RuleSet.check ruleSet.toJson).mapError TaskFault.invalid) >>= _) = _
  rw [RuleSet.check_toJson h]
  change (inputs.map Json.string).mapM (resolveData ruleSet _) >>= _ = _
  rw [hmode, hall]
  unfold resolution RuleSet.outcomes RuleSet.resolveAll
  cases inputs.mapM (ruleSet.resolve _) <;> rfl

end Task
end Service
end NameSlots
