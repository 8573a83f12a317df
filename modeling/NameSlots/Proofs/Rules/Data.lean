import NameSlots.Proofs.Files.Places
import NameSlots.Proofs.Names.StoreData
import NameSlots.Rules.Source

/-! What checks, documents and files give as a rule set, its data gives again. -/
namespace NameSlots

theorem SlotMode.check_toJson (mode : SlotMode) : check mode.toJson = .ok mode := by
  cases mode <;> rfl

namespace Rule

variable {rule : Rule} {data : Json}

theorem check_toJson (h : rule.key ≠ []) : check rule.toJson = .ok rule := by
  obtain ⟨key, value, note⟩ := rule
  cases key with
  | nil => exact (h rfl).elim
  | cons c key => cases note <;> rfl

theorem key_ne_nil (h : check data = .ok rule) : rule.key ≠ [] := by
  obtain ⟨fields, -, hall, -⟩ := Check.record_eq_ok.1 h
  obtain ⟨withValue, note, hvalue, -, rfl⟩ := Check.also_eq_ok.1 hall
  obtain ⟨withKey, value, hkey, -, rfl⟩ := Check.also_eq_ok.1 hvalue
  obtain ⟨make, key, hmake, hfield, rfl⟩ := Check.also_eq_ok.1 hkey
  obtain ⟨found, -, hfound⟩ := Check.required_eq_ok.1 hfield
  cases hmake
  exact Check.nonemptyText_ne_nil hfound

end Rule

namespace RuleSet

/-- A rule set whose keys are not empty, as checks want it. -/
structure Valid (ruleSet : RuleSet) : Prop where
  mappings : ∀ mapping ∈ ruleSet.mappings, mapping.key ≠ []
  rules : ∀ rule ∈ ruleSet.rules, rule.key ≠ []

variable {ruleSet : RuleSet} {data : Json} {label text : Text} {files : Files} {path : Path}

theorem check_toJson (h : ruleSet.Valid) : check ruleSet.toJson = .ok ruleSet := by
  obtain ⟨version, mode, mappings, rules⟩ := ruleSet
  have hmode := mode.check_toJson
  have hmappings : Check.list Mapping.check (.array (mappings.map Mapping.toJson)) = .ok mappings :=
    Check.list_map fun mapping hm => Mapping.check_toJson (h.mappings mapping hm)
  have hrules : Check.list Rule.check (.array (rules.map Rule.toJson)) = .ok rules :=
    Check.list_map fun rule hm => Rule.check_toJson (h.rules rule hm)
  refine Check.record_eq_ok.2 ⟨_, rfl, ?_, by simp [Check.extras]⟩
  simp [Check.optional, List.lookup_cons, hmode, hmappings, hrules, Check.whole, Check.under, Check.also]

theorem valid_of_check (h : check data = .ok ruleSet) : ruleSet.Valid := by
  obtain ⟨fields, -, hall, -⟩ := Check.record_eq_ok.1 h
  obtain ⟨withMappings, rules, htable, hrules, rfl⟩ := Check.also_eq_ok.1 hall
  obtain ⟨withMode, mappings, hmode, hmappings, rfl⟩ := Check.also_eq_ok.1 htable
  obtain ⟨withVersion, mode, hversion, -, rfl⟩ := Check.also_eq_ok.1 hmode
  obtain ⟨make, version, hmake, -, rfl⟩ := Check.also_eq_ok.1 hversion
  cases hmake
  constructor
  · exact Check.of_optional (P := fun table : List Mapping => ∀ mapping ∈ table, mapping.key ≠ [])
      hmappings (by simp) fun _ _ hc => Check.forall_mem_of_list (fun _ _ => Mapping.key_ne_nil) hc
  · exact Check.of_optional (P := fun rules : List Rule => ∀ rule ∈ rules, rule.key ≠ [])
      hrules (by simp) fun _ _ hc => Check.forall_mem_of_list (fun _ _ => Rule.key_ne_nil) hc

theorem valid_of_entries {entries : List (Yaml.Value × Yaml.Value)}
    (h : ofEntries label entries = .ok ruleSet) : ruleSet.Valid := by
  obtain ⟨listed, -, h⟩ := bind_eq_ok.1 h
  split at h
  · simp at h
  · next data _ =>
    split at h
    · simp at h
    · exact valid_of_check (mapError_eq_ok.1 h)

theorem valid_of_yaml (h : ofYaml label text = .ok ruleSet) : ruleSet.Valid := by
  unfold ofYaml at h
  split at h
  · simp at h
  · simp at h
  · exact valid_of_entries h
  · exact valid_of_entries h
  · simp at h

theorem valid_of_load (h : load files path = .ok ruleSet) : ruleSet.Valid := by
  unfold load at h
  split at h
  · exact valid_of_yaml h
  · simp at h
  · simp at h

/-- A rule set is loaded from what its file has in it. -/
theorem load_of_look? {after : Files} {content : Bytes} (h : files.look? path = some (.file content))
    (h' : after.look? path = some (.file content)) (hload : load files path = .ok ruleSet) :
    load after path = .ok ruleSet := by
  have hread : after.readText path = files.readText path := by
    unfold Files.readText
    rw [Files.read_of_look? h, Files.read_of_look? h']
  unfold load at hload ⊢
  rw [hread]
  exact hload

end RuleSet
end NameSlots
