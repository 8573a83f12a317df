import NameSlots.Rules.Data

/-! What a client of the service asks for. -/

namespace NameSlots.Service

/-- Asks for the segments of a key. -/
structure ParseRequest where
  key : Text

/-- Asks whether an input matches a key. -/
structure MatchRequest where
  key : Text
  input : Text
  mappings : List Mapping
  value : Option Text
  slotMode : SlotMode

/-- Asks to fill a template. -/
structure ExpandRequest where
  value : Text
  names : List Text

/-- Asks to resolve inputs, by rules that come along, as data or as text, or by the service's own.
-/
structure ResolveRequest where
  inputs : List Text
  ruleSet : Option RuleSet
  ruleSetText : Option Text
  slotMode : Option SlotMode

namespace ParseRequest

def check : Check ParseRequest :=
  Check.record "ParseRequest" ["key"] fun fields =>
    Check.also (.ok ParseRequest.mk) (Check.required fields "key" Check.text)

def toJson (request : ParseRequest) : Json := .record [("key", .string request.key)]

end ParseRequest

namespace MatchRequest

def check : Check MatchRequest :=
  Check.record "MatchRequest" ["key", "input", "name_mappings", "value", "slot_mode"] fun fields =>
    Check.also (Check.also (Check.also (Check.also (Check.also (.ok MatchRequest.mk)
      (Check.required fields "key" Check.text))
      (Check.required fields "input" Check.text))
      (Check.optional fields "name_mappings" [] (Check.list Mapping.check)))
      (Check.optional fields "value" none (Check.orNull Check.text)))
      (Check.optional fields "slot_mode" .all SlotMode.check)

def toJson (request : MatchRequest) : Json :=
  .record [("key", .string request.key), ("input", .string request.input),
    ("name_mappings", .array (request.mappings.map Mapping.toJson)),
    ("value", .ofOption .string request.value), ("slot_mode", request.slotMode.toJson)]

end MatchRequest

namespace ExpandRequest

def check : Check ExpandRequest :=
  Check.record "ExpandRequest" ["value", "names"] fun fields =>
    Check.also (Check.also (.ok ExpandRequest.mk) (Check.required fields "value" Check.text))
      (Check.optional fields "names" [] (Check.list Check.text))

def toJson (request : ExpandRequest) : Json :=
  .record [("value", .string request.value), ("names", .texts request.names)]

end ExpandRequest

namespace ResolveRequest

def check : Check ResolveRequest :=
  Check.record "ResolveRequest" ["inputs", "ruleset", "ruleset_yaml", "slot_mode"] fun fields =>
    Check.also (Check.also (Check.also (Check.also (.ok ResolveRequest.mk)
      (Check.required fields "inputs" (Check.nonemptyList Check.text)))
      (Check.optional fields "ruleset" none (Check.orNull RuleSet.check)))
      (Check.optional fields "ruleset_yaml" none (Check.orNull Check.text)))
      (Check.optional fields "slot_mode" none (Check.orNull SlotMode.check))

def toJson (request : ResolveRequest) : Json :=
  .record [("inputs", .texts request.inputs), ("ruleset", .ofOption RuleSet.toJson request.ruleSet),
    ("ruleset_yaml", .ofOption .string request.ruleSetText),
    ("slot_mode", .ofOption SlotMode.toJson request.slotMode)]

end ResolveRequest

end NameSlots.Service
