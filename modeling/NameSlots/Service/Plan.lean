import NameSlots.Service.Body
import NameSlots.Service.Refusal
import NameSlots.Service.Request
import NameSlots.Service.Settings
import NameSlots.Service.Task

/-! From a request to the task for a worker: the body is read and checked, and the limits are held.
-/

namespace NameSlots.Service

/-- Why there is no task for a request: it is turned down, or something in it cannot be read at all.
-/
inductive PlanFault where
  | refused (why : Refusal)
  | broken (message : Text)

/-- A step from a request to a task. -/
abbrev Plan := Except PlanFault

namespace Plan

def refuse {α : Type} (why : Refusal) : Plan α := .error (.refused why)

/-- Reads a body as an object. -/
def readObject (body : Bytes) : Plan Json :=
  match readBody body with
  | .ok (.object fields) => .ok (.object fields)
  | .ok _ => refuse .notObject
  | .error (.json _ (.tooManyDigits count)) => .error (.broken (Number.tooManyDigitsMessage count))
  | .error fault => refuse (.notJson fault.message)

/-- Reads a body as a request of a kind. -/
def readRequest {α : Type} (check : Check α) (body : Bytes) : Plan α := do
  let data ← readObject body
  (check data).mapError fun issues => .refused (.invalid issues)

/-! ## Limits -/

/-- Holds a text to a length. -/
def limitText (most : Nat) (field : Text) (t : Text) : Plan Unit :=
  if most < t.length then refuse (.textTooLong field most t.length) else .ok ()

/-- The name of a part of a list. -/
def itemName (list : String) (index : Nat) (part : String) : Text :=
  list.toList ++ '[' :: Text.ofNat index ++ ']' :: part.toList

/-- Holds the texts of a list to a length. -/
def limitTexts (most : Nat) (texts : List (Text × Text)) : Plan Unit :=
  texts.forM fun (field, t) => limitText most field t

def limitMappings (settings : Settings) (count : Nat) : Plan Unit :=
  if settings.maxMappings < count then refuse (.tooManyMappings settings.maxMappings count)
  else .ok ()

/-- The texts of rules with their names. -/
def ruleTexts (rules : List Rule) : List (Text × Text) :=
  (rules.mapIdx fun index rule =>
    [(itemName "rules" index ".key", rule.key),
      (itemName "rules" index ".value", rule.value)]).flatten

/-- Holds a rule set to the limits. -/
def limitRuleSet (settings : Settings) (ruleSet : RuleSet) : Plan Unit := do
  limitMappings settings ruleSet.mappings.length
  if settings.maxRules < ruleSet.rules.length then
    refuse (.tooManyRules settings.maxRules ruleSet.rules.length)
  limitTexts settings.maxChars (ruleTexts ruleSet.rules)

/-! ## Tasks -/

def parse (settings : Settings) (request : ParseRequest) : Plan Json := do
  limitText settings.maxChars "key".toList request.key
  pure request.toJson

def matching (settings : Settings) (request : MatchRequest) : Plan Json := do
  limitText settings.maxChars "key".toList request.key
  limitText settings.maxChars "input".toList request.input
  request.value.forM (limitText settings.maxChars "value".toList)
  limitMappings settings request.mappings.length
  pure request.toJson

def expand (settings : Settings) (request : ExpandRequest) : Plan Json := do
  limitText settings.maxChars "value".toList request.value
  pure request.toJson

/-- The characters of a rule set's text for each one of another text. -/
def ruleSetScale : Nat := 100

/-- A rule set from outside the request's data. -/
def source (result : Except RuleSetError RuleSet) : Plan RuleSet :=
  match result with
  | .ok ruleSet => .ok ruleSet
  | .error why =>
    if why.isReported then refuse (.badRuleSet why) else .error (.broken why.message)

/-- The rule set for a request: its own, as data or as text, or that of the service. -/
def ruleSet (settings : Settings) (files : Files) (request : ResolveRequest) : Plan RuleSet :=
  match request.ruleSet, request.ruleSetText, settings.ruleSetPath with
  | some _, some _, _ => refuse .bothRuleSets
  | some ruleSet, none, _ => .ok ruleSet
  | none, some t, _ => do
    limitText (settings.maxChars * ruleSetScale) "ruleset_yaml".toList t
    source (RuleSet.ofYaml RuleSet.inlineLabel t)
  | none, none, some path => source (RuleSet.load files path)
  | none, none, none => refuse .noRuleSet

def resolve (settings : Settings) (files : Files) (request : ResolveRequest) : Plan Json := do
  limitTexts settings.maxChars
    (request.inputs.mapIdx fun index input => (itemName "inputs" index "", input))
  let ruleSet ← ruleSet settings files request
  limitRuleSet settings ruleSet
  pure (.record [("inputs", .texts request.inputs), ("ruleset", ruleSet.toJson),
    ("slot_mode", .ofOption SlotMode.toJson request.slotMode)])

/-- The task that a body asks for. -/
def task (settings : Settings) (files : Files) (operation : Operation) (body : Bytes) :
    Plan Task := do
  let payload ← match operation with
    | .parse => do parse settings (← readRequest ParseRequest.check body)
    | .matching => do matching settings (← readRequest MatchRequest.check body)
    | .expand => do expand settings (← readRequest ExpandRequest.check body)
    | .resolve => do resolve settings files (← readRequest ResolveRequest.check body)
  pure { operation := operation.name, payload }

end Plan

end NameSlots.Service
