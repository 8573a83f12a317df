import NameSlots.Rules.RuleSet
import NameSlots.Template

/-! Resolving an input: the first rule whose key matches gives the output. -/

namespace NameSlots

/-- What became of an input. -/
structure Outcome where
  input : Text
  matched : Bool
  ruleIndex : Option Int := none
  ruleKey : Option Text := none
  names : List Text := []
  output : Option Text := none
  attempts : Int := 0
deriving DecidableEq

/-- Tries rules whose first one has the given index. The mode counts once there is a rule to try. -/
def tryRules (table : List Mapping) (mode : Except MatchError SlotMode) (input : Text)
    (index : Nat) : List Rule → Except MatchError Outcome
  | [] => .ok { input, matched := false, attempts := index }
  | rule :: rest => do
    match ← Key.matchInput rule.key table (← mode) input with
    | .matched names =>
      pure {
        input
        matched := true
        ruleIndex := some index
        ruleKey := some rule.key
        names
        output := some (Template.expand rule.value names)
        attempts := index + 1 }
    | _ => tryRules table mode input (index + 1) rest

/-- What replaces a rule set's own mappings and slot mode. -/
structure Overrides where
  mappings : Option (List Mapping) := none
  /-- An empty text leaves the rule set's own mode. -/
  mode : Option Text := none

namespace Overrides

/-- The mappings in force. -/
def table (overrides : Overrides) (ruleSet : RuleSet) : List Mapping :=
  overrides.mappings.getD ruleSet.mappings

/-- The slot mode in force. -/
def slotMode (overrides : Overrides) (ruleSet : RuleSet) : Except MatchError SlotMode :=
  match overrides.mode with
  | none | some [] => .ok ruleSet.slotMode
  | some mode => SlotMode.read mode

end Overrides

namespace RuleSet

/-- Resolves one input. -/
def resolve (ruleSet : RuleSet) (overrides : Overrides) (input : Text) :
    Except MatchError Outcome :=
  tryRules (overrides.table ruleSet) (overrides.slotMode ruleSet) input 0 ruleSet.rules

/-- Resolves inputs one by one. -/
def resolveAll (ruleSet : RuleSet) (overrides : Overrides) (inputs : List Text) :
    Except MatchError (List Outcome) :=
  inputs.mapM (ruleSet.resolve overrides)

end RuleSet

end NameSlots
