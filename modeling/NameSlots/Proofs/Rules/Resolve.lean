import Mathlib
import NameSlots.Proofs.Key.Decoding
import NameSlots.Proofs.Key.Refusal
import NameSlots.Rules.Resolve

/-! An input is resolved by the first rule whose key it matches: rules before that one only count,
and rules after it are not tried. -/
namespace NameSlots

/-- An input matches the key of a rule, with these names. -/
def Rule.Matches (table : List Mapping) (mode : SlotMode) (input : Text) (rule : Rule)
    (names : List Text) : Prop :=
  Key.matchInput rule.key table mode input = .ok (.matched names)

/-- An input does not match the key of a rule. -/
def Rule.Misses (table : List Mapping) (mode : SlotMode) (input : Text) (rule : Rule) : Prop :=
  ∃ result, Key.matchInput rule.key table mode input = .ok result ∧ result.isMatched = false

/-- The outcome of an input that matches the key of the rule at an index. -/
def Outcome.ofRule (input : Text) (index : Nat) (rule : Rule) (names : List Text) : Outcome where
  input := input
  matched := true
  ruleIndex := some index
  ruleKey := some rule.key
  names := names
  output := some (Template.expand rule.value names)
  attempts := index + 1

/-- The first one of rules whose key an input matches. -/
structure FirstMatch (table : List Mapping) (mode : SlotMode) (input : Text)
    (rules before : List Rule) (rule : Rule) (after : List Rule) (names : List Text) : Prop where
  rules : rules = before ++ rule :: after
  before : ∀ other ∈ before, other.Misses table mode input
  rule : rule.Matches table mode input names
  names : names ≠ []

/-- What comes of trying rules: none matches, or the first that does gives the outcome, or a rule
before any match has a key without segments. -/
inductive Tries (table : List Mapping) (mode : SlotMode) (input : Text) (rules : List Rule) :
    Except MatchError Outcome → Prop where
  | none : (∀ rule ∈ rules, rule.Misses table mode input) →
      Tries table mode input rules (.ok ⟨input, false, .none, .none, [], .none, rules.length⟩)
  | first {before after : List Rule} {rule : Rule} {names : List Text} :
      FirstMatch table mode input rules before rule after names →
      Tries table mode input rules (.ok (.ofRule input before.length rule names))
  | refused {before after : List Rule} {rule : Rule} {refusal : Regex.Refusal} :
      rules = before ++ rule :: after → (∀ other ∈ before, other.Misses table mode input) →
      Key.segments rule.key = .error refusal →
      Tries table mode input rules (.error (.refused refusal))

/-- What an outcome has to tell of an input and the rules that were tried on it. -/
structure Outcome.Tells (table : List Mapping) (mode : SlotMode) (input : Text) (rules : List Rule)
    (outcome : Outcome) : Prop where
  matched : outcome.matched = true ↔
    ∃ rule ∈ rules, ∃ names, rule.Matches table mode input names
  first : outcome.matched = true → ∃ before rule after names,
    FirstMatch table mode input rules before rule after names ∧
      outcome = .ofRule input before.length rule names
  none : outcome.matched = false → outcome = ⟨input, false, none, none, [], none, rules.length⟩

variable {table : List Mapping} {mode : SlotMode} {input key : Text} {rule : Rule} {index : Nat}
  {names : List Text} {rules before after : List Rule} {why : MatchError} {outcome : Outcome}

theorem not_matches_of_misses (h : rule.Misses table mode input) :
    ¬ rule.Matches table mode input names := by
  obtain ⟨result, hr, hn⟩ := h
  intro hm
  obtain rfl := Except.ok.inj (hr.symm.trans hm)
  cases hn

/-- A match has a name. -/
theorem names_of_matches (h : rule.Matches table mode input names) : names ≠ [] := by
  obtain ⟨parsed, joined, -, -, hm⟩ := Key.matchInput_joined h
  exact Key.matchJoined_named hm

/-! ## Trying rules -/

theorem tryRules_cons (rule : Rule) (rules : List Rule) :
    tryRules table (.ok mode) input index (rule :: rules) =
      (Key.matchInput rule.key table mode input).bind fun result => match result with
        | .matched names => .ok (.ofRule input index rule names)
        | _ => tryRules table (.ok mode) input (index + 1) rules := by
  rw [tryRules]
  rfl

theorem tryRules_matches (h : rule.Matches table mode input names) (rules : List Rule) :
    tryRules table (.ok mode) input index (rule :: rules) =
      .ok (.ofRule input index rule names) := by
  unfold Rule.Matches at h
  rw [tryRules_cons, h]
  rfl

theorem tryRules_error (h : Key.matchInput rule.key table mode input = .error why)
    (rules : List Rule) : tryRules table (.ok mode) input index (rule :: rules) = .error why := by
  rw [tryRules_cons, h]
  rfl

theorem tryRules_miss (h : rule.Misses table mode input) (rules : List Rule) :
    tryRules table (.ok mode) input index (rule :: rules) =
      tryRules table (.ok mode) input (index + 1) rules := by
  obtain ⟨result, hr, hn⟩ := h
  rw [tryRules_cons, hr]
  cases result with
  | matched names => cases hn
  | unmatched => rfl
  | uncompilable => rfl

/-- Rules that do not match only count. -/
theorem tryRules_misses (h : ∀ other ∈ before, other.Misses table mode input) (index : Nat)
    (rules : List Rule) : tryRules table (.ok mode) input index (before ++ rules) =
      tryRules table (.ok mode) input (index + before.length) rules := by
  induction before generalizing index with
  | nil => rfl
  | cons first before ih =>
    obtain ⟨hfirst, hbefore⟩ := List.forall_mem_cons.1 h
    rw [List.cons_append, tryRules_miss hfirst, ih hbefore, List.length_cons]
    congr 1
    omega

theorem tryRules_none (h : ∀ rule ∈ rules, rule.Misses table mode input) :
    tryRules table (.ok mode) input 0 rules =
      .ok ⟨input, false, none, none, [], none, rules.length⟩ := by
  have htry := tryRules_misses h 0 []
  rw [List.append_nil, Nat.zero_add] at htry
  exact htry

theorem tryRules_first (h : FirstMatch table mode input rules before rule after names) :
    tryRules table (.ok mode) input 0 rules = .ok (.ofRule input before.length rule names) := by
  rw [h.rules, tryRules_misses h.before, Nat.zero_add, tryRules_matches h.rule]

theorem tryRules_refused {refusal : Regex.Refusal} (hr : rules = before ++ rule :: after)
    (hb : ∀ other ∈ before, other.Misses table mode input)
    (hs : Key.segments rule.key = .error refusal) :
    tryRules table (.ok mode) input 0 rules = .error (.refused refusal) := by
  rw [hr, tryRules_misses hb]
  exact tryRules_error (Key.matchInput_eq_error_iff.2 ⟨refusal, hs, rfl⟩) after

/-- Of rules either none matches, or one of them is the first that does or has no answer. -/
theorem rules_cases (table : List Mapping) (mode : SlotMode) (input : Text) (rules : List Rule) :
    (∀ rule ∈ rules, rule.Misses table mode input) ∨
      ∃ before rule after, rules = before ++ rule :: after ∧
        (∀ other ∈ before, other.Misses table mode input) ∧
        ((∃ names, rule.Matches table mode input names) ∨
          ∃ refusal, Key.segments rule.key = .error refusal) := by
  induction rules with
  | nil => exact .inl (by simp)
  | cons rule rules ih =>
    cases hr : Key.matchInput rule.key table mode input with
    | error why =>
      obtain ⟨refusal, hs, -⟩ := Key.matchInput_eq_error_iff.1 hr
      exact .inr ⟨[], rule, rules, rfl, by simp, .inr ⟨refusal, hs⟩⟩
    | ok result =>
      cases hm : result.isMatched with
      | true =>
        cases result with
        | matched names => exact .inr ⟨[], rule, rules, rfl, by simp, .inl ⟨names, hr⟩⟩
        | unmatched | uncompilable => cases hm
      | false =>
        have hmiss : rule.Misses table mode input := ⟨result, hr, hm⟩
        rcases ih with hall | ⟨before, first, after, rfl, hbefore, hfirst⟩
        · exact .inl (List.forall_mem_cons.2 ⟨hmiss, hall⟩)
        · refine .inr ⟨rule :: before, first, after, rfl, ?_, hfirst⟩
          exact List.forall_mem_cons.2 ⟨hmiss, hbefore⟩

theorem tries_tryRules (table : List Mapping) (mode : SlotMode) (input : Text)
    (rules : List Rule) :
    Tries table mode input rules (tryRules table (.ok mode) input 0 rules) := by
  rcases rules_cases table mode input rules with
    hall | ⟨before, rule, after, hr, hbefore, ⟨names, hm⟩ | ⟨refusal, hs⟩⟩
  · rw [tryRules_none hall]
    exact .none hall
  · have hfirst : FirstMatch table mode input rules before rule after names :=
      ⟨hr, hbefore, hm, names_of_matches hm⟩
    rw [tryRules_first hfirst]
    exact .first hfirst
  · rw [tryRules_refused hr hbefore hs]
    exact .refused hr hbefore hs

/-! ## Resolving -/

theorem resolve_eq (ruleSet : RuleSet) (mappings : Option (List Mapping)) (mode : Option SlotMode)
    (input : Text) : ruleSet.resolve ⟨mappings, mode.map SlotMode.text⟩ input =
      tryRules (mappings.getD ruleSet.mappings) (.ok (mode.getD ruleSet.slotMode)) input 0
        ruleSet.rules := by
  have hmode : Overrides.slotMode ⟨mappings, mode.map SlotMode.text⟩ ruleSet =
      .ok (mode.getD ruleSet.slotMode) := by
    cases mode with
    | none => rfl
    | some mode => cases mode <;> rfl
  rw [RuleSet.resolve, hmode]
  rfl

theorem tells_of_tries (h : Tries table mode input rules (.ok outcome)) :
    outcome.Tells table mode input rules := by
  cases h with
  | none hall =>
    refine ⟨⟨nofun, ?_⟩, nofun, fun _ => rfl⟩
    rintro ⟨rule, hr, names, hm⟩
    exact (not_matches_of_misses (hall rule hr) hm).elim
  | @first before after rule names hfirst =>
    refine ⟨⟨fun _ => ⟨rule, ?_, names, hfirst.rule⟩, fun _ => rfl⟩,
      fun _ => ⟨before, rule, after, names, hfirst, rfl⟩, nofun⟩
    rw [hfirst.rules]
    exact List.mem_append_right before (List.mem_cons_self ..)

/-- There is no outcome just where a rule that is tried has a key without segments. -/
theorem tryRules_eq_error_iff : tryRules table (.ok mode) input 0 rules = .error why ↔
    ∃ before rule after refusal, rules = before ++ rule :: after ∧
      (∀ other ∈ before, other.Misses table mode input) ∧
      Key.segments rule.key = .error refusal ∧ why = .refused refusal := by
  constructor
  · intro h
    have htries := tries_tryRules table mode input rules
    rw [h] at htries
    cases htries with
    | @refused before after rule refusal hr hbefore hs =>
      exact ⟨before, rule, after, refusal, hr, hbefore, hs, rfl⟩
  · rintro ⟨before, rule, after, refusal, hr, hbefore, hs, rfl⟩
    exact tryRules_refused hr hbefore hs

/-- An outcome tells of the first rule whose key matches under the mappings and the slot mode in
force, or that none does. It does not depend on rules after that one, and rules before it that do
not match only count. Without an outcome one of the rules that were tried has a key without
segments. -/
theorem resolve_first_match (ruleSet : RuleSet) (mappings : Option (List Mapping))
    (mode : Option SlotMode) (input : Text) :
    let table := mappings.getD ruleSet.mappings
    let slotMode := mode.getD ruleSet.slotMode
    let resolve := fun rules : List Rule =>
      { ruleSet with rules := rules }.resolve ⟨mappings, mode.map SlotMode.text⟩ input
    (∀ outcome, resolve ruleSet.rules = .ok outcome →
      outcome.Tells table slotMode input ruleSet.rules) ∧
    (∀ before rule after names before' after',
      FirstMatch table slotMode input ruleSet.rules before rule after names →
      (∀ other ∈ before', other.Misses table slotMode input) →
      ∃ outcome, resolve ruleSet.rules = .ok outcome ∧
        resolve (before ++ rule :: after') = .ok outcome ∧
        resolve (before' ++ rule :: after') = .ok { outcome with
          ruleIndex := outcome.ruleIndex.map (· + (before'.length - before.length))
          attempts := outcome.attempts + (before'.length - before.length) }) ∧
    ∀ why, resolve ruleSet.rules = .error why ↔
      ∃ before rule after refusal, ruleSet.rules = before ++ rule :: after ∧
        (∀ other ∈ before, other.Misses table slotMode input) ∧
        Key.segments rule.key = .error refusal ∧ why = .refused refusal := by
  intro table slotMode resolve
  have htry (rules : List Rule) :
      resolve rules = tryRules table (.ok slotMode) input 0 rules := resolve_eq ..
  simp only [htry]
  refine ⟨fun outcome h => ?_, ?_, fun _ => tryRules_eq_error_iff⟩
  · exact tells_of_tries (h ▸ tries_tryRules table slotMode input ruleSet.rules)
  intro before rule after names before' after' hfirst hbefore'
  have hedit : FirstMatch table slotMode input (before' ++ rule :: after') before' rule after'
      names := ⟨rfl, hbefore', hfirst.rule, hfirst.names⟩
  refine ⟨_, tryRules_first hfirst, tryRules_first { hfirst with rules := rfl }, ?_⟩
  rw [tryRules_first hedit]
  have hindex : (before.length : Int) + (before'.length - before.length) = before'.length := by
    omega
  have hattempts : (before.length : Int) + 1 + (before'.length - before.length) =
      before'.length + 1 := by omega
  simp only [Outcome.ofRule, Option.map_some, hindex, hattempts]

/-- A rule that misses, one that matches by a mapping in place of those of the rule set, and one
whose key has no segments. -/
def overridden : RuleSet where
  mappings := [⟨['b'], ['B']⟩]
  rules := [⟨"x<p>".toList, [], none⟩, ⟨"<p>".toList, "<p>!".toList, none⟩,
    ⟨"/(?a)(?u)b/".toList, [], none⟩]

theorem resolve_first_match_overridden :
    FirstMatch [⟨['a'], ['A']⟩] .all ['a'] overridden.rules [⟨"x<p>".toList, [], none⟩]
        ⟨"<p>".toList, "<p>!".toList, none⟩ [⟨"/(?a)(?u)b/".toList, [], none⟩] [['A']] ∧
      overridden.resolve ⟨some [⟨['a'], ['A']⟩], none⟩ ['a'] = .ok ⟨['a'], true, some 1,
        some "<p>".toList, [['A']], some "A!".toList, 2⟩ ∧
      { overridden with rules := [⟨"<p>".toList, "<p>!".toList, none⟩] }.resolve
          ⟨some [⟨['a'], ['A']⟩], none⟩ ['a'] = .ok ⟨['a'], true, some 0,
        some "<p>".toList, [['A']], some "A!".toList, 1⟩ := by
  have hfirst : FirstMatch [⟨['a'], ['A']⟩] .all ['a'] overridden.rules
      [⟨"x<p>".toList, [], none⟩] ⟨"<p>".toList, "<p>!".toList, none⟩
      [⟨"/(?a)(?u)b/".toList, [], none⟩] [['A']] := by
    refine ⟨rfl, List.forall_mem_singleton.2 ⟨.unmatched, ?_, rfl⟩, ?_, by simp⟩
    · cbv
    · unfold Rule.Matches
      cbv
  obtain ⟨-, hedit, -⟩ := resolve_first_match overridden (some [⟨['a'], ['A']⟩]) none ['a']
  obtain ⟨outcome, hresolve, -, hdelete⟩ := hedit _ _ _ _ [] [] hfirst (by simp)
  have htry := (resolve_eq overridden (some [⟨['a'], ['A']⟩]) none ['a']).trans
    (tryRules_first hfirst)
  obtain rfl := Except.ok.inj (htry.symm.trans hresolve)
  exact ⟨hfirst, htry, hdelete⟩

end NameSlots
