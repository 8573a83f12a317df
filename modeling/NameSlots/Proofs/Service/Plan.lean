import NameSlots.Proofs.Rules.Data
import NameSlots.Service.Plan

/-! Which bodies come to a task: those that hold a request of their kind which keeps to the limits.
-/
namespace NameSlots

/-- A rule set that keeps to the limits. -/
structure RuleSet.Within (settings : Service.Settings) (ruleSet : RuleSet) : Prop where
  mappings : ruleSet.mappings.length ≤ settings.maxMappings
  rules : ruleSet.rules.length ≤ settings.maxRules
  keys : ∀ rule ∈ ruleSet.rules, rule.key.length ≤ settings.maxChars
  values : ∀ rule ∈ ruleSet.rules, rule.value.length ≤ settings.maxChars

namespace Service

/-- A body holds a request if it is an object that the check of its kind takes as that request. -/
def Holds {α : Type} (check : Check α) (body : Bytes) (request : α) : Prop :=
  ∃ fields, readBody body = .ok (.object fields) ∧ check (.object fields) = .ok request

def ParseRequest.Within (settings : Settings) (request : ParseRequest) : Prop :=
  request.key.length ≤ settings.maxChars

structure MatchRequest.Within (settings : Settings) (request : MatchRequest) : Prop where
  key : request.key.length ≤ settings.maxChars
  input : request.input.length ≤ settings.maxChars
  value : ∀ value ∈ request.value, value.length ≤ settings.maxChars
  mappings : request.mappings.length ≤ settings.maxMappings

def ExpandRequest.Within (settings : Settings) (request : ExpandRequest) : Prop :=
  request.value.length ≤ settings.maxChars

namespace ResolveRequest

/-- The rule set that a request is resolved by: its own, as data or as text, but not both, or else
that of the service. -/
inductive Uses (settings : Settings) (files : Files) (request : ResolveRequest) : RuleSet → Prop where
  | data {ruleSet : RuleSet} : request.ruleSet = some ruleSet → request.ruleSetText = none →
      Uses settings files request ruleSet
  | text {ruleSet : RuleSet} {t : Text} : request.ruleSet = none → request.ruleSetText = some t →
      t.length ≤ settings.maxChars * Plan.ruleSetScale →
      RuleSet.ofYaml RuleSet.inlineLabel t = .ok ruleSet → Uses settings files request ruleSet
  | file {ruleSet : RuleSet} {path : Path} : request.ruleSet = none →
      request.ruleSetText = none → settings.ruleSetPath = some path →
      RuleSet.load files path = .ok ruleSet → Uses settings files request ruleSet

/-- A request whose inputs and rule set keep to the limits. -/
structure Within (settings : Settings) (request : ResolveRequest) (ruleSet : RuleSet) : Prop where
  inputs : ∀ input ∈ request.inputs, input.length ≤ settings.maxChars
  ruleSet : ruleSet.Within settings

/-- What a worker is given for a request. -/
def payload (request : ResolveRequest) (ruleSet : RuleSet) : Json :=
  .record [("inputs", .texts request.inputs), ("ruleset", ruleSet.toJson),
    ("slot_mode", .ofOption SlotMode.toJson request.slotMode)]

end ResolveRequest

namespace MatchRequest

/-- The keys of mappings are not empty: the check of a request sees to it. -/
theorem key_ne_nil {request : MatchRequest} {data : Json} (h : check data = .ok request) :
    ∀ mapping ∈ request.mappings, mapping.key ≠ [] := by
  obtain ⟨fields, -, hall, -⟩ := Check.record_eq_ok.1 h
  obtain ⟨withValue, mode, hvalue, -, rfl⟩ := Check.also_eq_ok.1 hall
  obtain ⟨withMappings, value, htable, -, rfl⟩ := Check.also_eq_ok.1 hvalue
  obtain ⟨withInput, mappings, hinput, hmappings, rfl⟩ := Check.also_eq_ok.1 htable
  obtain ⟨withKey, input, hkey, -, rfl⟩ := Check.also_eq_ok.1 hinput
  obtain ⟨make, key, hmake, -, rfl⟩ := Check.also_eq_ok.1 hkey
  cases hmake
  exact Check.of_optional (P := fun table : List Mapping => ∀ mapping ∈ table, mapping.key ≠ [])
    hmappings (by simp) fun _ _ hc => Check.forall_mem_of_list (fun _ _ => Mapping.key_ne_nil) hc

end MatchRequest

namespace ResolveRequest

variable {settings : Settings} {files : Files} {request : ResolveRequest} {ruleSet : RuleSet}
  {data : Json}

theorem valid_of_check (h : check data = .ok request) : ∀ own ∈ request.ruleSet, own.Valid := by
  obtain ⟨fields, -, hall, -⟩ := Check.record_eq_ok.1 h
  obtain ⟨withText, mode, htext, -, rfl⟩ := Check.also_eq_ok.1 hall
  obtain ⟨withRules, text, hrules, -, rfl⟩ := Check.also_eq_ok.1 htext
  obtain ⟨withInputs, own, hinputs, hown, rfl⟩ := Check.also_eq_ok.1 hrules
  obtain ⟨make, inputs, hmake, -, rfl⟩ := Check.also_eq_ok.1 hinputs
  cases hmake
  refine Check.of_optional (P := fun own : Option RuleSet => ∀ set ∈ own, set.Valid) hown (by simp)
    fun data own hc => ?_
  unfold Check.orNull at hc
  split at hc
  · cases hc
    simp
  · split at hc
    · next found hfound =>
      cases hc
      simpa using RuleSet.valid_of_check hfound
    · simp at hc

/-- Wherever the rule set comes from, its keys are not empty. -/
theorem Uses.valid (hc : check data = .ok request) (h : request.Uses settings files ruleSet) :
    ruleSet.Valid := by
  cases h with
  | data hown _ => exact valid_of_check hc ruleSet hown
  | text _ _ _ hread => exact RuleSet.valid_of_yaml hread
  | file _ _ _ hload => exact RuleSet.valid_of_load hload

end ResolveRequest

namespace Plan

variable {settings : Settings} {files : Files} {most : Nat} {field : Text} {u : Unit} {α : Type}
  {check : Check α} {body : Bytes} {request : α} {payload : Json} {ruleSet : RuleSet}

theorem readRequest_eq_ok : readRequest check body = .ok request ↔ Holds check body request := by
  unfold readRequest readObject Holds
  cases hb : readBody body with
  | error fault =>
    cases fault with
    | json text why => cases why <;> simp [bind, Except.bind, refuse]
    | _ => simp [bind, Except.bind, refuse]
  | ok data => cases data <;> simp [bind, Except.bind, refuse, mapError_eq_ok]

/-! ## Limits -/

theorem limitText_eq_ok {t : Text} : limitText most field t = .ok u ↔ t.length ≤ most := by
  unfold limitText
  split
  · next h => simpa [refuse] using h
  · next h => simpa using h

theorem limitTexts_eq_ok {texts : List (Text × Text)} :
    limitTexts most texts = .ok u ↔ ∀ entry ∈ texts, entry.2.length ≤ most := by
  unfold limitTexts
  rw [forM_eq_ok]
  simp only [limitText_eq_ok]

theorem limitMappings_eq_ok {count : Nat} :
    limitMappings settings count = .ok u ↔ count ≤ settings.maxMappings := by
  unfold limitMappings
  split
  · next h => simpa [refuse] using h
  · next h => simpa using h

theorem limitTexts_rules_eq_ok {rules : List Rule} : limitTexts most (ruleTexts rules) = .ok u ↔
    ∀ rule ∈ rules, rule.key.length ≤ most ∧ rule.value.length ≤ most := by
  rw [limitTexts_eq_ok]
  simp only [ruleTexts, List.mem_flatten, List.mem_mapIdx]
  constructor
  · intro h rule hm
    obtain ⟨index, hi, rfl⟩ := List.getElem_of_mem hm
    have hall := fun entry he => h entry ⟨_, ⟨index, hi, rfl⟩, he⟩
    simpa using hall
  · rintro h entry ⟨texts, ⟨index, hi, rfl⟩, he⟩
    have hrule := h rules[index] (List.getElem_mem hi)
    rcases List.mem_pair.1 he with rfl | rfl
    · exact hrule.1
    · exact hrule.2

theorem limitTexts_inputs_eq_ok {inputs : List Text} :
    limitTexts most (inputs.mapIdx fun index input => (itemName "inputs" index "", input)) = .ok u ↔
      ∀ input ∈ inputs, input.length ≤ most := by
  rw [limitTexts_eq_ok]
  simp only [List.mem_mapIdx]
  constructor
  · intro h input hm
    obtain ⟨index, hi, rfl⟩ := List.getElem_of_mem hm
    exact h _ ⟨index, hi, rfl⟩
  · rintro h entry ⟨index, hi, rfl⟩
    exact h _ (List.getElem_mem hi)

theorem limitRuleSet_eq_ok : limitRuleSet settings ruleSet = .ok u ↔ ruleSet.Within settings := by
  unfold limitRuleSet
  rw [unit_bind_eq_ok, limitMappings_eq_ok]
  constructor
  · rintro ⟨hmappings, h⟩
    split at h
    · simp [refuse, bind, Except.bind] at h
    · next hrules =>
      have htexts := limitTexts_rules_eq_ok.1 h
      exact ⟨hmappings, by omega, fun rule hm => (htexts rule hm).1, fun rule hm => (htexts rule hm).2⟩
  · intro h
    refine ⟨h.mappings, ?_⟩
    rw [if_neg (by have := h.rules; omega)]
    exact limitTexts_rules_eq_ok.2 fun rule hm => ⟨h.keys rule hm, h.values rule hm⟩

/-! ## Payloads -/

theorem parse_eq_ok {request : ParseRequest} :
    parse settings request = .ok payload ↔ request.Within settings ∧ payload = request.toJson := by
  unfold parse
  rw [unit_bind_eq_ok, limitText_eq_ok, pure_eq_ok]
  rfl

theorem matching_eq_ok {request : MatchRequest} : matching settings request = .ok payload ↔
    request.Within settings ∧ payload = request.toJson := by
  have hvalue : request.value.forM (limitText settings.maxChars "value".toList) =
      (.ok () : Plan Unit) ↔ ∀ value ∈ request.value, value.length ≤ settings.maxChars := by
    cases request.value with
    | none => simp [Option.forM, pure, Except.pure]
    | some value => simp [Option.forM, limitText_eq_ok]
  unfold matching
  rw [unit_bind_eq_ok, unit_bind_eq_ok, unit_bind_eq_ok, unit_bind_eq_ok, limitText_eq_ok,
    limitText_eq_ok, hvalue, limitMappings_eq_ok, pure_eq_ok]
  constructor
  · rintro ⟨hkey, hinput, hvalue, hmappings, rfl⟩
    exact ⟨⟨hkey, hinput, hvalue, hmappings⟩, rfl⟩
  · rintro ⟨h, rfl⟩
    exact ⟨h.key, h.input, h.value, h.mappings, rfl⟩

theorem expand_eq_ok {request : ExpandRequest} :
    expand settings request = .ok payload ↔ request.Within settings ∧ payload = request.toJson := by
  unfold expand
  rw [unit_bind_eq_ok, limitText_eq_ok, pure_eq_ok]
  rfl

theorem source_eq_ok {result : Except RuleSetError RuleSet} :
    source result = .ok ruleSet ↔ result = .ok ruleSet := by
  cases result with
  | ok found => simp [source]
  | error why => cases hr : why.isReported <;> simp [source, hr, refuse]

theorem ruleSet_eq_ok {request : ResolveRequest} :
    Plan.ruleSet settings files request = .ok ruleSet ↔ request.Uses settings files ruleSet := by
  constructor
  · intro h
    unfold Plan.ruleSet at h
    split at h
    · simp [refuse] at h
    · next hown htext =>
      obtain rfl := Except.ok.inj h
      exact .data hown htext
    · next t hown htext =>
      obtain ⟨hlimit, hread⟩ := unit_bind_eq_ok.1 h
      exact .text hown htext (limitText_eq_ok.1 hlimit) (source_eq_ok.1 hread)
    · next hown htext hpath => exact .file hown htext hpath (source_eq_ok.1 h)
    · simp [refuse] at h
  · intro h
    unfold Plan.ruleSet
    cases h with
    | data hown htext => rw [hown, htext]
    | text hown htext hlimit hread =>
      rw [hown, htext]
      exact unit_bind_eq_ok.2 ⟨limitText_eq_ok.2 hlimit, source_eq_ok.2 hread⟩
    | file hown htext hpath hload =>
      rw [hown, htext, hpath]
      exact source_eq_ok.2 hload

theorem resolve_eq_ok {request : ResolveRequest} : resolve settings files request = .ok payload ↔
    ∃ ruleSet, request.Uses settings files ruleSet ∧ request.Within settings ruleSet ∧
      payload = request.payload ruleSet := by
  unfold resolve
  rw [unit_bind_eq_ok, limitTexts_inputs_eq_ok, bind_eq_ok]
  constructor
  · rintro ⟨hinputs, ruleSet, huses, h⟩
    obtain ⟨hlimit, hpayload⟩ := unit_bind_eq_ok.1 h
    exact ⟨ruleSet, ruleSet_eq_ok.1 huses, ⟨hinputs, limitRuleSet_eq_ok.1 hlimit⟩,
      pure_eq_ok.1 hpayload⟩
  · rintro ⟨ruleSet, huses, h, hpayload⟩
    exact ⟨h.inputs, ruleSet, ruleSet_eq_ok.2 huses,
      unit_bind_eq_ok.2 ⟨limitRuleSet_eq_ok.2 h.ruleSet, pure_eq_ok.2 hpayload⟩⟩

/-! ## Tasks -/

variable {task : Task}

theorem task_eq_ok (plan : α → Plan Json) {Fits : α → Prop} {encode : α → Json} {name : Text}
    (hplan : ∀ request payload,
      plan request = .ok payload ↔ Fits request ∧ payload = encode request) :
    (do
      let request ← readRequest check body
      let payload ← plan request
      pure (Task.mk name payload)) = .ok task ↔
      ∃ request, Holds check body request ∧ Fits request ∧ task = ⟨name, encode request⟩ := by
  simp only [bind_eq_ok, pure_eq_ok, readRequest_eq_ok]
  constructor
  · rintro ⟨request, hbody, payload, h, rfl⟩
    obtain ⟨hfits, rfl⟩ := (hplan request payload).1 h
    exact ⟨request, hbody, hfits, rfl⟩
  · rintro ⟨request, hbody, hfits, rfl⟩
    exact ⟨request, hbody, encode request, (hplan _ _).2 ⟨hfits, rfl⟩, rfl⟩

theorem task_parse_eq_ok : Plan.task settings files .parse body = .ok task ↔
    ∃ request, Holds ParseRequest.check body request ∧ request.Within settings ∧
      task = ⟨Operation.parse.name, request.toJson⟩ :=
  task_eq_ok (parse settings) fun _ _ => parse_eq_ok

theorem task_matching_eq_ok : Plan.task settings files .matching body = .ok task ↔
    ∃ request, Holds MatchRequest.check body request ∧ request.Within settings ∧
      task = ⟨Operation.matching.name, request.toJson⟩ :=
  task_eq_ok (matching settings) fun _ _ => matching_eq_ok

theorem task_expand_eq_ok : Plan.task settings files .expand body = .ok task ↔
    ∃ request, Holds ExpandRequest.check body request ∧ request.Within settings ∧
      task = ⟨Operation.expand.name, request.toJson⟩ :=
  task_eq_ok (expand settings) fun _ _ => expand_eq_ok

theorem task_resolve_eq_ok : Plan.task settings files .resolve body = .ok task ↔
    ∃ request ruleSet, Holds ResolveRequest.check body request ∧
      request.Uses settings files ruleSet ∧ request.Within settings ruleSet ∧
        task = ⟨Operation.resolve.name, request.payload ruleSet⟩ := by
  simp only [Plan.task, bind_eq_ok, pure_eq_ok, readRequest_eq_ok, resolve_eq_ok]
  constructor
  · rintro ⟨request, hbody, payload, ⟨ruleSet, huses, hfits, rfl⟩, rfl⟩
    exact ⟨request, ruleSet, hbody, huses, hfits, rfl⟩
  · rintro ⟨request, ruleSet, hbody, huses, hfits, rfl⟩
    exact ⟨request, hbody, _, ⟨ruleSet, huses, hfits, rfl⟩, rfl⟩

/-! ## Refusals -/

/-- A step that turns down nothing but what a request says or how large it is. -/
def Checks {α : Type} (plan : Plan α) : Prop :=
  ∀ why, plan = .error (.refused why) → why.status ∈ [400, 413]

theorem checks_ok (x : α) : Checks (.ok x : Plan α) := fun _ h => by cases h

theorem checks_refuse {why : Refusal} (h : why.status ∈ [400, 413]) :
    Checks (refuse why : Plan α) := fun _ he => by
  cases he
  exact h

theorem checks_bind {β : Type} {plan : Plan α} {next : α → Plan β} (h : Checks plan)
    (hnext : ∀ x, Checks (next x)) : Checks (plan >>= next) := by
  cases plan with
  | ok x => exact hnext x
  | error fault =>
    intro why he
    cases he
    exact h why rfl

theorem checks_limitText (most : Nat) (field t : Text) : Checks (limitText most field t) := by
  unfold limitText
  split
  · exact checks_refuse (by simp [Refusal.status])
  · exact checks_ok _

theorem checks_limitTexts (most : Nat) (texts : List (Text × Text)) :
    Checks (limitTexts most texts) := by
  unfold limitTexts
  rw [List.forM_eq_forM]
  induction texts with
  | nil => exact checks_ok _
  | cons entry texts ih =>
    rw [List.forM_cons]
    exact checks_bind (checks_limitText _ _ _) fun _ => ih

theorem checks_limitMappings (settings : Settings) (count : Nat) :
    Checks (limitMappings settings count) := by
  unfold limitMappings
  split
  · exact checks_refuse (by simp [Refusal.status])
  · exact checks_ok _

theorem checks_limitRuleSet (settings : Settings) (ruleSet : RuleSet) :
    Checks (limitRuleSet settings ruleSet) := by
  refine checks_bind (checks_limitMappings _ _) fun _ => ?_
  split
  · exact checks_bind (checks_refuse (by simp [Refusal.status])) fun _ => checks_limitTexts _ _
  · exact checks_limitTexts _ _

theorem checks_readRequest (check : Check α) (body : Bytes) : Checks (readRequest check body) := by
  refine checks_bind ?_ fun data => ?_
  · unfold readObject
    split
    · exact checks_ok _
    · exact checks_refuse (by simp [Refusal.status])
    · exact fun _ h => by cases h
    · exact checks_refuse (by simp [Refusal.status])
  · intro why h
    cases hc : check data with
    | ok request =>
      rw [hc] at h
      cases h
    | error issues =>
      rw [hc] at h
      cases h
      simp [Refusal.status]

theorem checks_source (result : Except RuleSetError RuleSet) : Checks (source result) := by
  unfold source
  split
  · exact checks_ok _
  · split
    · exact checks_refuse (by simp [Refusal.status])
    · exact fun _ h => by cases h

theorem checks_ruleSet (settings : Settings) (files : Files) (request : ResolveRequest) :
    Checks (Plan.ruleSet settings files request) := by
  unfold Plan.ruleSet
  split
  · exact checks_refuse (by simp [Refusal.status])
  · exact checks_ok _
  · exact checks_bind (checks_limitText _ _ _) fun _ => checks_source _
  · exact checks_source _
  · exact checks_refuse (by simp [Refusal.status])

/-- A request for which there is no task is turned down for what it says or how large it is. -/
theorem checks_task (settings : Settings) (files : Files) (operation : Operation) (body : Bytes) :
    Checks (Plan.task settings files operation body) := by
  have hreads {α : Type} {check : Check α} {plan : α → Plan Json} {name : Text}
      (hplan : ∀ request, Checks (plan request)) : Checks (do
        let request ← readRequest check body
        let payload ← plan request
        pure (Task.mk name payload)) :=
    checks_bind (checks_readRequest _ _) fun request =>
      checks_bind (hplan request) fun _ => checks_ok _
  cases operation with
  | parse => exact hreads fun _ => checks_bind (checks_limitText _ _ _) fun _ => checks_ok _
  | matching =>
    refine hreads fun request => checks_bind (checks_limitText _ _ _) fun _ =>
      checks_bind (checks_limitText _ _ _) fun _ => checks_bind ?_ fun _ =>
        checks_bind (checks_limitMappings _ _) fun _ => checks_ok _
    cases request.value with
    | none => exact checks_ok _
    | some value => exact checks_limitText _ _ _
  | expand => exact hreads fun _ => checks_bind (checks_limitText _ _ _) fun _ => checks_ok _
  | resolve =>
    exact hreads fun request => checks_bind (checks_limitTexts _ _) fun _ =>
      checks_bind (checks_ruleSet _ _ _) fun _ =>
        checks_bind (checks_limitRuleSet _ _) fun _ => checks_ok _

end Plan
end Service
end NameSlots
