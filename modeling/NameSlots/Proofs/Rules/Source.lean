import NameSlots.Proofs.Files.Action
import NameSlots.Proofs.Files.Saving
import NameSlots.Proofs.Rules.Document

/-!
A rule set that was written is read again with its texts as they are read back: a character for the
next line is a line end in single quotes.
-/
namespace NameSlots

open Yaml

/-! ## Records -/

/-- The mapping with its texts as they are read back. -/
def Mapping.readBack (mapping : Mapping) : Mapping :=
  { key := Yaml.readBack mapping.key, value := Yaml.readBack mapping.value }

def Mapping.texts (mapping : Mapping) : List Text := [mapping.key, mapping.value]

/-- The rule with its texts as they are read back. -/
def Rule.readBack (rule : Rule) : Rule :=
  { key := Yaml.readBack rule.key, value := Yaml.readBack rule.value
    note := rule.note.map Yaml.readBack }

def Rule.texts (rule : Rule) : List Text := rule.key :: rule.value :: rule.note.toList

/-- The data of a record. -/
def recordJson (fields : List Field) : Json :=
  .object (fields.map fun field => (field.1.toList, .string (Yaml.readBack field.2)))

theorem toJson?_recordValue (fields : List Field) :
    (recordValue fields).toJson? = some (recordJson fields) := by
  have hentries : Value.entriesJson? (fields.map fun field =>
      (.text field.1.toList, .text (Yaml.readBack field.2))) =
        some (fields.map fun field => (field.1.toList, .string (Yaml.readBack field.2))) := by
    induction fields with
    | nil => rfl
    | cons field fields ih =>
      rw [List.map_cons, Value.entriesJson?, ih]
      rfl
  rw [recordValue, Value.toJson?, hentries]
  rfl

theorem itemsJson?_records (records : List (List Field)) :
    Value.itemsJson? (records.map recordValue) = some (records.map recordJson) := by
  induction records with
  | nil => rfl
  | cons fields records ih =>
    rw [List.map_cons, Value.itemsJson?, ih, toJson?_recordValue]
    rfl

theorem Mapping.check_recordJson {mapping : Mapping} (h : mapping.key ≠ []) :
    check (recordJson mapping.fields) = .ok mapping.readBack := by
  have hkey : mapping.readBack.key ≠ [] := readBack_ne_nil h
  exact check_toJson hkey

theorem Rule.check_recordJson {rule : Rule} (h : rule.key ≠ []) :
    check (recordJson rule.fields) = .ok rule.readBack := by
  obtain ⟨key, value, note⟩ := rule
  have hkey : (readBack ⟨key, value, note⟩).key ≠ [] := readBack_ne_nil h
  cases note with
  | some note => exact check_toJson hkey
  | none =>
    obtain ⟨c, t, hkey⟩ := List.exists_cons_of_ne_nil hkey
    have hkey : Yaml.readBack key = c :: t := hkey
    simp only [recordJson, fields, readBack, List.map_cons, hkey]
    rfl

namespace RuleSet

variable {ruleSet : RuleSet} {label : Text}

/-! ## The rule set -/

def documentJson (ruleSet : RuleSet) : Json :=
  .record [("version", .int ruleSet.version), ("slot_mode", ruleSet.slotMode.toJson),
    ("name_mappings", .array (ruleSet.mappings.map fun mapping => recordJson mapping.fields)),
    ("rules", .array (ruleSet.rules.map fun rule => recordJson rule.fields))]

theorem toJson?_documentEntries :
    (Value.table ruleSet.documentEntries).toJson? = some ruleSet.documentJson := by
  simp only [documentEntries, Value.toJson?, Value.entriesJson?, itemsJson?_records]
  simp only [documentJson, mappingRecords, ruleRecords, List.map_map]
  rfl

/-- The rule set with its texts as they are read back. -/
def readBack (ruleSet : RuleSet) : RuleSet :=
  { ruleSet with
    mappings := ruleSet.mappings.map Mapping.readBack, rules := ruleSet.rules.map Rule.readBack }

theorem check_documentJson (h : ruleSet.Valid) : check ruleSet.documentJson = .ok ruleSet.readBack := by
  have hmode := ruleSet.slotMode.check_toJson
  have hmappings : Check.list Mapping.check (.array (ruleSet.mappings.map fun mapping =>
      recordJson mapping.fields)) = .ok (ruleSet.mappings.map Mapping.readBack) :=
    Check.items_map (fun mapping hm => Mapping.check_recordJson (h.mappings mapping hm)) 0
  have hrules : Check.list Rule.check (.array (ruleSet.rules.map fun rule =>
      recordJson rule.fields)) = .ok (ruleSet.rules.map Rule.readBack) :=
    Check.items_map (fun rule hm => Rule.check_recordJson (h.rules rule hm)) 0
  refine Check.record_eq_ok.2 ⟨_, rfl, ?_, by simp [Check.extras]⟩
  simp [Check.optional, List.lookup_cons, hmode, hmappings, hrules, Check.whole, Check.under, Check.also,
    readBack]

/-- A rule set is read from its document with its texts as they are read back. -/
theorem ofYaml_toYaml (h : ruleSet.Valid) (hw : ruleSet.isWritable = true) :
    ofYaml label ruleSet.toYaml = .ok ruleSet.readBack := by
  have hlist : withMappingList label ruleSet.documentEntries = .ok ruleSet.documentEntries := rfl
  have hbytes : hasByteMode ruleSet.documentEntries = false := rfl
  have hentries : ofEntries label ruleSet.documentEntries = .ok ruleSet.readBack := by
    refine bind_eq_ok.2 ⟨_, hlist, ?_⟩
    rw [toJson?_documentEntries]
    change (if _ then _ else _ : Except RuleSetError RuleSet) = _
    rw [hbytes, if_neg Bool.false_ne_true, check_documentJson h]
    rfl
  unfold ofYaml
  rw [read_toYaml hw]
  exact hentries

/-- The texts of a rule set. -/
def texts (ruleSet : RuleSet) : List Text :=
  ruleSet.mappings.flatMap Mapping.texts ++ ruleSet.rules.flatMap Rule.texts

example : readBack { rules := [⟨['a', nextLine, 'b'], ['v'], none⟩] } =
    { rules := [⟨"a b".toList, ['v'], none⟩] } := by decide

/-! ## Files -/

/-- Files among which a rule set can be saved at a path: some rule set can. -/
def SavableAt (path : Path) (files : Files) : Prop :=
  ∃ after, (save id path {}).perform files = (.ok (), after)

/-- Where some rule set can be saved, one that can be written is saved, and loaded again with its texts
as they are read back. -/
theorem load_save {files : Files} {path : Path} {ε : Type} (ht : files.Tree) (hs : SavableAt path files)
    (h : ruleSet.Valid) (hw : ruleSet.isWritable = true) (wrap : FileError → ε) :
    ∃ after, (ruleSet.save wrap path).perform files = (.ok (), after) ∧ after.Tree ∧
      load after path = .ok ruleSet.readBack := by
  obtain ⟨_, hs⟩ := hs
  obtain ⟨after, hsave, htree, hlook⟩ := Action.perform_replaceFileOrNone ht hs wrap ruleSet.toYaml
  refine ⟨after, hsave, htree, ?_⟩
  have hends : '\r' ∉ ruleSet.toYaml := fun hm => (isWritten_iff.1 (ruleSet.isWritten_toYaml _ hm)).2 rfl
  unfold load
  rw [Files.readText_of_look? hlook, Text.unifyLineEnds_eq hends]
  exact ofYaml_toYaml h hw

end RuleSet

end NameSlots
