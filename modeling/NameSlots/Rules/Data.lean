import NameSlots.Rules.Summary
import NameSlots.Schema.Check

/-! Rule sets, outcomes and summaries as data. -/

namespace NameSlots

namespace Mapping

def check : Check Mapping :=
  Check.record "NameMappingEntry" ["key", "value"] fun fields =>
    Check.also (Check.also (.ok Mapping.mk) (Check.required fields "key" Check.nonemptyText))
      (Check.required fields "value" Check.text)

def toJson (mapping : Mapping) : Json :=
  .record [("key", .string mapping.key), ("value", .string mapping.value)]

end Mapping

namespace SlotMode

def choices : Text := "'all' or 'first'".toList

def check : Check SlotMode
  | .string t =>
    match ofText? t with
    | some mode => .ok mode
    | none => Check.fail (.notChoice choices) (.string t)
  | input => Check.fail (.notChoice choices) input

def toJson (mode : SlotMode) : Json := .string mode.text

end SlotMode

namespace Rule

def check : Check Rule :=
  Check.record "Rule" ["key", "value", "note"] fun fields =>
    Check.also (Check.also (Check.also (.ok Rule.mk)
      (Check.required fields "key" Check.nonemptyText))
      (Check.required fields "value" Check.text))
      (Check.optional fields "note" none (Check.orNull Check.text))

def toJson (rule : Rule) : Json :=
  .record [("key", .string rule.key), ("value", .string rule.value),
    ("note", .ofOption .string rule.note)]

end Rule

namespace RuleSet

def check : Check RuleSet :=
  Check.record "RuleSet" ["version", "slot_mode", "name_mappings", "rules"] fun fields =>
    Check.also (Check.also (Check.also (Check.also (.ok RuleSet.mk)
      (Check.optional fields "version" 1 Check.whole))
      (Check.optional fields "slot_mode" .all SlotMode.check))
      (Check.optional fields "name_mappings" [] (Check.list Mapping.check)))
      (Check.optional fields "rules" [] (Check.list Rule.check))

def toJson (ruleSet : RuleSet) : Json :=
  .record [("version", .int ruleSet.version), ("slot_mode", ruleSet.slotMode.toJson),
    ("name_mappings", .array (ruleSet.mappings.map Mapping.toJson)),
    ("rules", .array (ruleSet.rules.map Rule.toJson))]

end RuleSet

namespace Outcome

def check : Check Outcome :=
  Check.record "ResolveOutcome"
      ["input", "matched", "rule_index", "rule_key", "names", "output", "attempts"] fun fields =>
    Check.also (Check.also (Check.also (Check.also (Check.also (Check.also (Check.also
      (.ok Outcome.mk)
      (Check.required fields "input" Check.text))
      (Check.required fields "matched" Check.flag))
      (Check.optional fields "rule_index" none (Check.orNull Check.whole)))
      (Check.optional fields "rule_key" none (Check.orNull Check.text)))
      (Check.optional fields "names" [] (Check.list Check.text)))
      (Check.optional fields "output" none (Check.orNull Check.text)))
      (Check.optional fields "attempts" 0 Check.whole)

def toJson (outcome : Outcome) : Json :=
  .record [("input", .string outcome.input), ("matched", .bool outcome.matched),
    ("rule_index", .ofOption .int outcome.ruleIndex),
    ("rule_key", .ofOption .string outcome.ruleKey), ("names", .texts outcome.names),
    ("output", .ofOption .string outcome.output), ("attempts", .int outcome.attempts)]

end Outcome

namespace Summary

def check : Check Summary :=
  Check.record "ResolveSummary" ["total", "matched_count", "unmatched_count", "rule_hits"]
      fun fields =>
    Check.also (Check.also (Check.also (Check.also (.ok Summary.mk)
      (Check.required fields "total" Check.whole))
      (Check.required fields "matched_count" Check.whole))
      (Check.required fields "unmatched_count" Check.whole))
      (Check.optional fields "rule_hits" [] (Check.table Check.whole))

def toJson (summary : Summary) : Json :=
  .record [("total", .int summary.total), ("matched_count", .int summary.matchedCount),
    ("unmatched_count", .int summary.unmatchedCount),
    ("rule_hits", .object (summary.ruleHits.map fun (key, count) => (key, .int count)))]

end Summary

/-- Outcomes with their summary. -/
def resolutionJson (outcomes : List Outcome) (summary : Summary) : Json :=
  .record [("outcomes", .array (outcomes.map Outcome.toJson)), ("summary", summary.toJson)]

end NameSlots
