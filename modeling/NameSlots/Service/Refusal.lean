import NameSlots.Rules.Source
import NameSlots.Schema.Issue

/-! Why a request is turned down, and what is answered then. -/

namespace NameSlots.Service

/-- Why a request is turned down. -/
inductive Refusal where
  | notJson (why : Text)
  | notObject
  | invalid (issues : List Issue)
  | bothRuleSets
  | noRuleSet
  | badRuleSet (why : RuleSetError)
  | textTooLong (field : Text) (most actual : Nat)
  | tooManyMappings (most actual : Nat)
  | tooManyRules (most actual : Nat)
  | busy (capacity : Nat) (queueTimeout : Double)

namespace Refusal

/-- The status of the answer. -/
def status : Refusal → Nat
  | .textTooLong .. | .tooManyMappings .. | .tooManyRules .. => 413
  | .busy .. => 429
  | _ => 400

/-- The code of the error. -/
def code : Refusal → Text
  | .notJson _ | .notObject => "INVALID_JSON".toList
  | .invalid _ => "INVALID_REQUEST".toList
  | .bothRuleSets => "INVALID_ARGUMENT_CONFLICT".toList
  | .noRuleSet | .badRuleSet _ => "INVALID_ARGUMENT".toList
  | .textTooLong .. | .tooManyMappings .. | .tooManyRules .. => "PAYLOAD_TOO_LARGE".toList
  | .busy .. => "TOO_MANY_REQUESTS".toList

def message : Refusal → Text
  | .notJson _ => "request body must be valid UTF-8 JSON".toList
  | .notObject => "request body must be a JSON object".toList
  | .invalid _ => "request schema validation failed".toList
  | .bothRuleSets => "ruleset and ruleset_yaml cannot be used together".toList
  | .noRuleSet => "a rule set is required".toList
  | .badRuleSet _ => "invalid rule set".toList
  | .textTooLong field .. => field ++ " is too long".toList
  | .tooManyMappings .. => "too many name mappings".toList
  | .tooManyRules .. => "too many rules".toList
  | .busy .. => "server busy".toList

/-- The fields by which a rule set comes along. -/
def ruleSetFields : Json := .array [.text "ruleset", .text "ruleset_yaml"]

/-- What the answer tells beside the message. -/
def detail : Refusal → List (String × Json)
  | .notJson why => [("error", .string why)]
  | .notObject => []
  | .invalid issues => [("errors", .array (issues.map Issue.toJson))]
  | .bothRuleSets | .noRuleSet => [("fields", ruleSetFields)]
  | .badRuleSet why => [("field", .text "ruleset_yaml"), ("error", .string why.message)]
  | .textTooLong field most actual =>
    [("field", .string field), ("max_chars", .ofNat most), ("actual_chars", .ofNat actual)]
  | .tooManyMappings most actual =>
    [("field", .text "name_mappings"), ("max_mappings", .ofNat most), ("actual", .ofNat actual)]
  | .tooManyRules most actual =>
    [("field", .text "rules"), ("max_rules", .ofNat most), ("actual", .ofNat actual)]
  | .busy capacity queueTimeout =>
    [("max_concurrency", .ofNat capacity), ("queue_timeout_seconds", .float queueTimeout)]

end Refusal

end NameSlots.Service
