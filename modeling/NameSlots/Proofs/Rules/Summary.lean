import NameSlots.Proofs.Rules.Resolve
import NameSlots.Proofs.Rules.Tally

/-! Summaries lose nothing: every input is counted once, under the key of the first rule that it
matches. What is counted of outcomes does not depend on their order, and adds up. -/
namespace NameSlots

/-- An input is resolved by a rule of this key. -/
def ResolvedBy (table : List Mapping) (mode : SlotMode) (rules : List Rule) (input key : Text) : Prop :=
  ∃ before rule after names, FirstMatch table mode input rules before rule after names ∧ rule.key = key

/-- An input has no outcome: of the rules that are tried on it one has a key without segments. -/
def Unresolved (table : List Mapping) (mode : SlotMode) (rules : List Rule) (input : Text)
    (why : MatchError) : Prop :=
  ∃ before rule after refusal, rules = before ++ rule :: after ∧
    (∀ other ∈ before, other.Misses table mode input) ∧
    Key.segments rule.key = .error refusal ∧ why = .refused refusal

/-- The key of the rule that resolves an input. -/
def resolvingKey? (table : List Mapping) (mode : SlotMode) (rules : List Rule) (input : Text) :
    Option Text :=
  (tryRules table (.ok mode) input 0 rules).toOption.bind Outcome.ruleKey

/-- Two summaries together, field by field. -/
def Summary.add (summary other : Summary) : Summary where
  total := summary.total + other.total
  matchedCount := summary.matchedCount + other.matchedCount
  unmatchedCount := summary.unmatchedCount + other.unmatchedCount
  ruleHits := addCounts summary.ruleHits other.ruleHits

variable {table : List Mapping} {mode : SlotMode} {rules : List Rule} {input key : Text}
  {inputs : List Text} {outcome : Outcome} {outcomes others : List Outcome}

/-! ## Any outcomes -/

/-- The order of outcomes is not summed up. -/
theorem summarize_perm (h : outcomes.Perm others) : summarize outcomes = summarize others := by
  simp only [summarize, h.length_eq, h.countP_eq, tally_perm (h.filterMap Outcome.ruleKey)]

/-- Outcomes of two lists are summed up in each of them. -/
theorem summarize_append (outcomes others : List Outcome) :
    summarize (outcomes ++ others) = (summarize outcomes).add (summarize others) := by
  simp only [summarize, Summary.add, List.length_append, List.countP_append, List.filterMap_append,
    tally_append, Int.natCast_add, Summary.mk.injEq, true_and, and_true]
  omega

/-! ## Outcomes of rules -/

theorem resolvingKey?_of_outcome (h : tryRules table (.ok mode) input 0 rules = .ok outcome) :
    outcome.ruleKey = resolvingKey? table mode rules input := by
  rw [resolvingKey?, h]
  rfl

theorem resolvingKey?_eq_some :
    resolvingKey? table mode rules input = some key ↔ ResolvedBy table mode rules input key := by
  constructor
  · intro h
    obtain ⟨outcome, hresolve, hkey⟩ := Option.bind_eq_some_iff.1 h
    rw [toOption_eq_some] at hresolve
    have htries := tries_tryRules table mode input rules
    rw [hresolve] at htries
    cases htries with
    | none => cases hkey
    | @first before after rule names hfirst =>
      exact ⟨before, rule, after, names, hfirst, Option.some.inj hkey⟩
  · rintro ⟨before, rule, after, names, hfirst, rfl⟩
    rw [← resolvingKey?_of_outcome (tryRules_first hfirst)]
    rfl

instance : Decidable (ResolvedBy table mode rules input key) :=
  decidable_of_iff _ resolvingKey?_eq_some

/-- An outcome that is matched has the key of a rule, and no other one has. -/
theorem isSome_ruleKey (h : tryRules table (.ok mode) input 0 rules = .ok outcome) :
    outcome.ruleKey.isSome = outcome.matched := by
  have htries := tries_tryRules table mode input rules
  rw [h] at htries
  cases htries <;> rfl

/-- What a summary has to tell of inputs and the rules that were tried on them. -/
structure Summary.Tells (table : List Mapping) (mode : SlotMode) (rules : List Rule)
    (inputs : List Text) (summary : Summary) : Prop where
  total : summary.total = inputs.length
  split : summary.matchedCount + summary.unmatchedCount = summary.total
  counted : Counted summary.ruleHits
  hits : ∀ key, countOf summary.ruleHits key = inputs.countP (ResolvedBy table mode rules · key)
  sum : (summary.ruleHits.map Prod.snd).sum = summary.matchedCount

theorem tells_summarize
    (h : inputs.mapM (fun input => tryRules table (.ok mode) input 0 rules) = .ok outcomes) :
    (summarize outcomes).Tells table mode rules inputs := by
  have hkeys : outcomes.map Outcome.ruleKey = inputs.map (resolvingKey? table mode rules) :=
    map_of_mapM h fun _ _ => resolvingKey?_of_outcome
  have hmatched : ∀ outcome ∈ outcomes, outcome.ruleKey.isSome = outcome.matched :=
    forall_mem_of_mapM h fun _ _ _ => isSome_ruleKey
  have hhits : outcomes.filterMap Outcome.ruleKey = inputs.filterMap (resolvingKey? table mode rules) := by
    have hboth := congrArg (List.filterMap id) hkeys
    rwa [List.filterMap_map, List.filterMap_map] at hboth
  refine ⟨?_, ?_, counted_tally _, fun key => ?_, ?_⟩
  · have hlength := congrArg List.length hkeys
    rw [List.length_map, List.length_map] at hlength
    rw [← hlength]
    rfl
  · simp only [summarize]
    omega
  · refine (countOf_tally _ key).trans ?_
    rw [hhits, List.count_filterMap]
    congr 2
    funext input
    rw [Bool.eq_iff_iff, beq_iff_eq, decide_eq_true_eq, resolvingKey?_eq_some]
  · refine (sum_tally _).trans ?_
    rw [List.length_filterMap_eq_countP]
    simp only [summarize]
    rw [List.countP_congr fun outcome hm => by rw [hmatched outcome hm]]

/-! ## Rule sets -/

/-- The summary of inputs that are resolved counts each of them once: under the key of the first rule
whose key it matches under the mappings and the slot mode in force, or as one that matches none. Inputs
are not resolved only where a rule that is tried on one of them has a key without segments. Of any
outcomes the summary does not depend on the order, and the summary of two lists is the sum of theirs. -/
theorem summarize_resolveAll (ruleSet : RuleSet) (mappings : Option (List Mapping))
    (mode : Option SlotMode) :
    let table := mappings.getD ruleSet.mappings
    let slotMode := mode.getD ruleSet.slotMode
    let overrides : Overrides := ⟨mappings, mode.map SlotMode.text⟩
    (∀ inputs outcomes, ruleSet.resolveAll overrides inputs = .ok outcomes →
      (summarize outcomes).Tells table slotMode ruleSet.rules inputs) ∧
    (∀ inputs why, ruleSet.resolveAll overrides inputs = .error why ↔
      ∃ before input after, inputs = before ++ input :: after ∧
        (∀ other ∈ before, ∃ outcome, ruleSet.resolve overrides other = .ok outcome) ∧
        Unresolved table slotMode ruleSet.rules input why) ∧
    (∀ outcomes others : List Outcome, outcomes.Perm others → summarize outcomes = summarize others) ∧
    ∀ outcomes others : List Outcome,
      summarize (outcomes ++ others) = (summarize outcomes).add (summarize others) := by
  intro table slotMode overrides
  have hresolve : ruleSet.resolve overrides = fun input =>
      tryRules table (.ok slotMode) input 0 ruleSet.rules :=
    funext fun input => resolve_eq ruleSet mappings mode input
  refine ⟨fun inputs outcomes h => ?_, fun inputs why => ?_, fun _ _ => summarize_perm,
    summarize_append⟩
  · rw [RuleSet.resolveAll, hresolve] at h
    exact tells_summarize h
  · rw [RuleSet.resolveAll, mapM_eq_error]
    constructor
    · rintro ⟨before, input, after, outcomes, hinputs, hbefore, hinput⟩
      refine ⟨before, input, after, hinputs, exists_mapM_eq_ok.1 ⟨outcomes, hbefore⟩, ?_⟩
      rw [hresolve] at hinput
      exact tryRules_eq_error_iff.1 hinput
    · rintro ⟨before, input, after, hinputs, hbefore, hinput⟩
      obtain ⟨outcomes, hbefore⟩ := exists_mapM_eq_ok.2 hbefore
      refine ⟨before, input, after, outcomes, hinputs, hbefore, ?_⟩
      rw [hresolve]
      exact tryRules_eq_error_iff.2 hinput

theorem summarize_resolveAll_overridden :
    let table : List Mapping := [⟨['a'], ['A']⟩]
    let inputs : List Text := [['a'], ['x', 'a'], ['a']]
    (∃ outcomes, overridden.resolveAll ⟨some table, none⟩ inputs = .ok outcomes ∧
      summarize outcomes = ⟨3, 3, 0, [("<p>".toList, 2), ("x<p>".toList, 1)]⟩ ∧
      (summarize outcomes).Tells table .all overridden.rules inputs ∧
      summarize outcomes.reverse = summarize outcomes) ∧
    ∃ before input after, inputs ++ [['b']] = before ++ input :: after ∧
      (∀ other ∈ before, ∃ outcome, overridden.resolve ⟨some table, none⟩ other = .ok outcome) ∧
      Unresolved table .all overridden.rules input (.refused .asciiAndUnicode) := by
  intro table inputs
  have hresolve : overridden.resolveAll ⟨some table, none⟩ inputs = .ok
      [.ofRule ['a'] 1 ⟨"<p>".toList, "<p>!".toList, none⟩ [['A']],
        .ofRule ['x', 'a'] 0 ⟨"x<p>".toList, [], none⟩ [['A']],
        .ofRule ['a'] 1 ⟨"<p>".toList, "<p>!".toList, none⟩ [['A']]] := by
    cbv
  have hrefuse : overridden.resolveAll ⟨some table, none⟩ (inputs ++ [['b']]) =
      .error (.refused .asciiAndUnicode) := by
    cbv
  obtain ⟨htells, herror, hperm, -⟩ := summarize_resolveAll overridden (some table) none
  exact ⟨⟨_, hresolve, by cbv, htells _ _ hresolve, hperm _ _ (List.reverse_perm _)⟩,
    (herror _ _).1 hrefuse⟩

end NameSlots
