import NameSlots.Proofs.Rules.Data
import NameSlots.Proofs.Yaml.Meaning
import NameSlots.Proofs.Yaml.Printing

/-!
The document of a rule set: its tokens, its nodes and its value. Mappings and rules are records, and
the lists of them are the last two entries.
-/
namespace NameSlots

open Yaml

/-! ## Records -/

def Mapping.fields (mapping : Mapping) : List Field := [("key", mapping.key), ("value", mapping.value)]

def Rule.fields (rule : Rule) : List Field :=
  ("key", rule.key) :: ("value", rule.value) :: rule.note.toList.map fun note => ("note", note)

theorem isKey_key : IsKey "key" := ⟨by decide, by decide⟩

theorem isKey_value : IsKey "value" := ⟨by decide, by decide⟩

theorem isKey_note : IsKey "note" := ⟨by decide, by decide⟩

theorem Mapping.isRecord (mapping : Mapping) : IsRecord mapping.fields := by
  refine ⟨List.cons_ne_nil _ _, ?_, ?_⟩
  · simp [fields, isKey_key, isKey_value]
  · simp [fields]

theorem Rule.isRecord (rule : Rule) : IsRecord rule.fields := by
  refine ⟨List.cons_ne_nil _ _, ?_, ?_⟩
  · cases hn : rule.note <;> simp [fields, hn, isKey_key, isKey_value, isKey_note]
  · cases hn : rule.note <;> simp [fields, hn]

theorem RuleSet.mappingLines_eq (mapping : Mapping) : mappingLines mapping = recordLines mapping.fields := by
  simp [mappingLines, recordLines, Mapping.fields]

theorem RuleSet.ruleLines_eq (rule : Rule) : ruleLines rule = recordLines rule.fields := by
  cases hn : rule.note <;> simp [ruleLines, recordLines, Rule.fields, hn]

theorem RuleSet.listLines_map {α : Type} {name : String} {item : α → Text} {fields : α → List Field}
    (h : ∀ x, item x = recordLines (fields x)) (items : List α) :
    listLines name item items = listLines name recordLines (items.map fields) := by
  have hitem : item = recordLines ∘ fields := funext h
  unfold listLines
  rw [List.isEmpty_map, List.flatMap_map, hitem]
  rfl

namespace RuleSet

variable {ruleSet : RuleSet}

/-! ## Tokens -/

def mappingRecords (ruleSet : RuleSet) : List (List Field) := ruleSet.mappings.map Mapping.fields

def ruleRecords (ruleSet : RuleSet) : List (List Field) := ruleSet.rules.map Rule.fields

theorem isRecord_mappingRecords (ruleSet : RuleSet) : ∀ fields ∈ ruleSet.mappingRecords, IsRecord fields :=
  List.forall_mem_map.2 fun mapping _ => mapping.isRecord

theorem isRecord_ruleRecords (ruleSet : RuleSet) : ∀ fields ∈ ruleSet.ruleRecords, IsRecord fields :=
  List.forall_mem_map.2 fun rule _ => rule.isRecord

/-- The document as its lines, with what follows a name set apart. -/
theorem toYaml_eq (ruleSet : RuleSet) : ruleSet.toYaml =
    "version".toList ++ ':' :: (' ' :: Text.ofInt ruleSet.version ++ '\n' :: ("slot_mode".toList ++
      ':' :: (' ' :: ruleSet.slotMode.text ++ '\n' ::
        (listLines "name_mappings" recordLines ruleSet.mappingRecords ++
          listLines "rules" recordLines ruleSet.ruleRecords)))) := by
  have hversion : "version: ".toList = "version".toList ++ [':', ' '] := rfl
  have hmode : "\nslot_mode: ".toList = '\n' :: ("slot_mode".toList ++ [':', ' ']) := rfl
  unfold toYaml
  rw [listLines_map mappingLines_eq, listLines_map ruleLines_eq, hversion, hmode]
  simp only [mappingRecords, ruleRecords, List.append_assoc, List.cons_append, List.nil_append]

def documentTokens (ruleSet : RuleSet) : List Token :=
  .blockMapping :: .key :: .scalar "version".toList true :: .value ::
    .scalar (Text.ofInt ruleSet.version) true ::
    .key :: .scalar "slot_mode".toList true :: .value :: .scalar ruleSet.slotMode.text true ::
    (.key :: .scalar "name_mappings".toList true :: .value :: listTokens ruleSet.mappingRecords ++
      (.key :: .scalar "rules".toList true :: .value :: listTokens ruleSet.ruleRecords ++
        [.blockEnd, .streamEnd]))

/-- Nothing in a record has to be escaped for its line. -/
theorem isWritten_recordLines {fields : List Field} (hkeys : ∀ field ∈ fields, IsKey field.1) :
    ∀ c ∈ recordLines fields, isWritten c = true := by
  have hline {front : String} (hfront : front.toList.all isWritten = true) {field : Field}
      (hkey : IsKey field.1) : ∀ c ∈ textLine front field.1 field.2, isWritten c = true := by
    simp only [textLine, List.forall_mem_append]
    exact ⟨⟨⟨⟨List.all_eq_true.1 hfront, isWritten_isName hkey.isName⟩, List.all_eq_true.1 (by decide)⟩,
      isWritten_writeText⟩, List.all_eq_true.1 (by decide)⟩
  cases fields with
  | nil => exact fun c hc => absurd hc List.not_mem_nil
  | cons field more =>
    obtain ⟨hkey, hmore⟩ := List.forall_mem_cons.1 hkeys
    refine List.forall_mem_append.2 ⟨hline (by decide) hkey, fun c hc => ?_⟩
    obtain ⟨field, hf, hc⟩ := List.mem_flatMap.1 hc
    exact hline (by decide) (hmore field hf) c hc

theorem isWritten_listLines (name : String) {records : List (List Field)}
    (hname : Lexing.isName name.toList = true) (hr : ∀ fields ∈ records, IsRecord fields) :
    ∀ c ∈ listLines name recordLines records, isWritten c = true := by
  unfold listLines
  split
  · exact List.forall_mem_append.2 ⟨isWritten_isName hname, List.all_eq_true.1 (by decide)⟩
  · refine List.forall_mem_append.2 ⟨List.forall_mem_append.2
      ⟨isWritten_isName hname, List.all_eq_true.1 (by decide)⟩, fun c hc => ?_⟩
    obtain ⟨fields, hf, hc⟩ := List.mem_flatMap.1 hc
    exact isWritten_recordLines (hr fields hf).keys c hc

theorem isName_slotMode (mode : SlotMode) : Lexing.isName mode.text = true := by
  cases mode <;> decide

theorem isWritten_toYaml (ruleSet : RuleSet) : ∀ c ∈ ruleSet.toYaml, isWritten c = true := by
  have hversion : ∀ c ∈ Text.ofInt ruleSet.version, isWritten c = true := fun c hc => by
    rcases mem_ofInt hc with hc | rfl
    · exact isWritten_of_isDigit hc
    · decide
  have hmode := isWritten_isName (isName_slotMode ruleSet.slotMode)
  have hmappings := isWritten_listLines "name_mappings" (by decide) ruleSet.isRecord_mappingRecords
  have hrules := isWritten_listLines "rules" (by decide) ruleSet.isRecord_ruleRecords
  rw [toYaml_eq]
  simp only [List.forall_mem_append, List.forall_mem_cons]
  exact ⟨isWritten_isName (by decide), by decide, ⟨by decide, hversion⟩, by decide,
    isWritten_isName (by decide), by decide, ⟨by decide, hmode⟩, by decide, hmappings, hrules⟩

/-- The version behind its colon. -/
theorem follows_version {line : Text} {place : Nat} {outer : List Nat} {out : List Token} (v : Int)
    (hline : LineStart 0 line) (h : Lexing.Begins 0 line 1 outer out) :
    Lexing.Follows place (' ' :: Text.ofInt v ++ '\n' :: line) 1 outer
      (.scalar (Text.ofInt v) true :: out) := by
  obtain ⟨c, run, hv⟩ := List.exists_cons_of_ne_nil (ofInt_ne_nil v)
  have hchars : ∀ d ∈ c :: run, isGap d = false ∧ d ∉ openers ∧ d ≠ ':' ∧ d ≠ '#' := by
    intro d hd
    rcases mem_ofInt (hv ▸ hd) with hd | rfl
    · obtain ⟨hgap, -, hopener, hmark⟩ := Lexing.digit hd
      simp only [List.mem_cons, not_or] at hmark
      exact ⟨hgap, hopener, hmark.2.2.1, hmark.2.2.2.1⟩
    · decide
  have hopens : Lexing.Opens c (run.headD '\n') := by
    obtain ⟨hgap, hopener, -⟩ := hchars c List.mem_cons_self
    refine ⟨hgap, hopener, fun hmark => ?_⟩
    cases v with
    | ofNat n =>
      have hmem : c ∈ Text.ofInt (.ofNat n) := hv ▸ List.mem_cons_self
      have hdigit : c.isDigit = true := Text.isDigit_ofNat n c hmem
      exact absurd (List.mem_append_left ['#', '%', '.'] hmark) (Lexing.digit hdigit).2.2.2
    | negSucc n =>
      obtain ⟨d, more, hd⟩ := List.exists_cons_of_ne_nil (Text.ofNat_ne_nil (n + 1))
      have hrun : run = d :: more := (List.cons.inj hv).2.symm.trans hd
      rw [hrun]
      exact (Lexing.digit (Text.isDigit_ofNat (n + 1) d (hd ▸ List.mem_cons_self))).1
  rw [hv]
  exact Lexing.follows_word hopens (fun d hd => ⟨(hchars d hd).1, (hchars d hd).2.2⟩) hline
    (by decide) (by omega) h

/-- The slot mode behind its colon. -/
theorem follows_slotMode {line : Text} {place : Nat} {outer : List Nat} {out : List Token}
    (mode : SlotMode) (hline : LineStart 0 line) (h : Lexing.Begins 0 line 1 outer out) :
    Lexing.Follows place (' ' :: mode.text ++ '\n' :: line) 1 outer (.scalar mode.text true :: out) := by
  obtain ⟨⟨c, run, hmode⟩, hchars, -⟩ := Lexing.isName_iff.1 (isName_slotMode mode)
  have hword : ∀ d ∈ c :: run, isGap d = false ∧ d ≠ ':' ∧ d ≠ '#' := fun d hd => by
    obtain ⟨hgap, -, -, hmark⟩ := Lexing.nameChar (hchars d (hmode ▸ hd))
    simp only [List.mem_cons, not_or] at hmark
    exact ⟨hgap, hmark.2.2.1, hmark.2.2.2.1⟩
  obtain ⟨hgap, -, hopener, hmark⟩ := Lexing.nameChar (hchars c (hmode ▸ List.mem_cons_self))
  have hopens : Lexing.Opens c (run.headD '\n') :=
    ⟨hgap, hopener, fun hm => absurd (List.mem_append_left ['#', '%', '.'] hm) hmark⟩
  rw [hmode]
  exact Lexing.follows_word hopens hword hline (by decide) (by omega) h

theorem lineStart_listLines {name : String} {records : List (List Field)} {rest : Text}
    (hn : Lexing.isName name.toList = true) :
    LineStart 0 (listLines name recordLines records ++ rest) := by
  unfold listLines
  split
  · rw [List.append_assoc]
    exact Lexing.lineStart_name hn
  · rw [List.append_assoc, List.append_assoc]
    exact Lexing.lineStart_name hn

theorem begins_toYaml : Lexing.Begins 0 ruleSet.toYaml 0 [] ruleSet.documentTokens := by
  have hversion : Lexing.isName "version".toList = true := by decide
  have hmode : Lexing.isName "slot_mode".toList = true := by decide
  have hmappings : Lexing.isName "name_mappings".toList = true := by decide
  have hrules : Lexing.isName "rules".toList = true := by decide
  have hruleLines := Lexing.begins_list "rules" hrules ruleSet.isRecord_ruleRecords
    Lexing.lineStart_nil Lexing.begins_end
  have hmappingLines := Lexing.begins_list "name_mappings" hmappings ruleSet.isRecord_mappingRecords
    (lineStart_listLines hrules) hruleLines
  have hmodeLine := Lexing.begins_name hmode (by exact isGap_space) (.inside [0])
    (follows_slotMode ruleSet.slotMode (lineStart_listLines hmappings) hmappingLines)
  have hversionLine := Lexing.begins_name hversion (by exact isGap_space) (.opens [] Nat.one_pos)
    (follows_version ruleSet.version (Lexing.lineStart_name hmode) hmodeLine)
  rw [List.append_nil] at hversionLine
  rw [toYaml_eq]
  exact hversionLine

theorem tokens_toYaml : tokens ruleSet.toYaml = (ruleSet.documentTokens, none) := by
  have hall : ruleSet.toYaml.all isPrintable = true :=
    List.all_eq_true.2 fun c hc => (isWritten_iff.1 (ruleSet.isWritten_toYaml c hc)).1
  rw [tokens, if_pos hall]
  exact begins_toYaml _ [] rfl rfl _ le_rfl

/-! ## Nodes -/

/-- The pairs of the document. Its collections are numbered in the order in which they begin. -/
def documentPairs (ruleSet : RuleSet) : List (Node × Node) :=
  [(.scalar .text "version".toList, .scalar .int (Text.ofInt ruleSet.version)),
    (.scalar .text "slot_mode".toList, .scalar .text ruleSet.slotMode.text),
    (.scalar .text "name_mappings".toList, .sequence 1 .list (recordNodes 2 ruleSet.mappingRecords)),
    (.scalar .text "rules".toList, .sequence (2 + ruleSet.mappingRecords.length) .list
      (recordNodes (2 + ruleSet.mappingRecords.length + 1) ruleSet.ruleRecords))]

def document (ruleSet : RuleSet) : Document where
  root := .mapping 0 .table ruleSet.documentPairs
  anchors := []
  collections := 2 + ruleSet.mappingRecords.length + 1 + ruleSet.ruleRecords.length

theorem blockPairs_document {fault : Option Fault} {handles : List (Text × Text)} {names : List Text}
    {anchors : List (Text × Node)} {fuel : Nat} (hf : ruleSet.documentTokens.length ≤ fuel) :
    (Reader.blockPairs (fuel + 5)).run
        ⟨ruleSet.documentTokens.tail, fault, handles, names, anchors, 1⟩ =
      .ok (ruleSet.documentPairs,
        ⟨[.streamEnd], fault, handles, names, anchors, ruleSet.document.collections⟩) := by
  have hversion : Reader.usualTag (Text.ofInt ruleSet.version) true = .int := ofForm_ofInt _
  have hmode : Reader.usualTag ruleSet.slotMode.text true = .text := by
    cases ruleSet.slotMode <;> decide
  simp only [documentTokens, List.length_cons, List.length_append, List.length_nil] at hf
  let atRules : List Token := .key :: .scalar "rules".toList true :: .value ::
    listTokens ruleSet.ruleRecords ++ [.blockEnd, .streamEnd]
  have hrules : (Reader.blockPairs (fuel + 2)).run
      ⟨atRules, fault, handles, names, anchors, 2 + ruleSet.mappingRecords.length⟩ = .ok (_, _) :=
    Reader.blockPairs_list ⟨by decide, by decide⟩ ruleSet.isRecord_ruleRecords rfl (by decide)
      (by simp only [atRules, List.length_cons, List.length_append, List.length_nil]; omega)
      (Reader.blockPairs_end rfl)
  have hmappings : (Reader.blockPairs (fuel + 3)).run ⟨.key :: .scalar "name_mappings".toList true ::
      .value :: listTokens ruleSet.mappingRecords ++ atRules, fault, handles, names, anchors, 1⟩ =
        .ok (_, _) :=
    Reader.blockPairs_list ⟨by decide, by decide⟩ ruleSet.isRecord_mappingRecords rfl (by decide)
      (by simp only [atRules, List.length_cons, List.length_append, List.length_nil]; omega)
      hrules
  exact Reader.blockPairs_scalars rfl rfl hversion (Reader.blockPairs_scalars rfl rfl hmode hmappings)

theorem read?_toYaml : Document.read? ruleSet.toYaml = .ok (some ruleSet.document) := by
  have hf : ruleSet.documentTokens.length ≤ 4 * ruleSet.documentTokens.length + 2 := by omega
  have hroot : (Reader.node .block (4 * ruleSet.documentTokens.length + 8)).run
      ⟨ruleSet.documentTokens, none, Reader.usualHandles, [], [], 0⟩ =
        .ok (ruleSet.document.root, _) :=
    Reader.node_mapping rfl (by decide) (blockPairs_document hf)
  unfold Document.read?
  rw [tokens_toYaml]
  exact Reader.document?_block hroot rfl

/-! ## Values -/

/-- The entries of the document. -/
def documentEntries (ruleSet : RuleSet) : List (Value × Value) :=
  [(.text "version".toList, .int ruleSet.version),
    (.text "slot_mode".toList, .text ruleSet.slotMode.text),
    (.text "name_mappings".toList, .list (ruleSet.mappingRecords.map recordValue)),
    (.text "rules".toList, .list (ruleSet.ruleRecords.map recordValue))]

theorem value_document (hw : ruleSet.isWritable = true) :
    ruleSet.document.value = .ok (.table ruleSet.documentEntries) := by
  let entries : List (String × Node × Value) :=
    [("version", .scalar .int (Text.ofInt ruleSet.version), .int ruleSet.version),
      ("slot_mode", .scalar .text ruleSet.slotMode.text, .text ruleSet.slotMode.text),
      ("name_mappings", .sequence 1 .list (recordNodes 2 ruleSet.mappingRecords),
        .list (ruleSet.mappingRecords.map recordValue)),
      ("rules", .sequence (2 + ruleSet.mappingRecords.length) .list
        (recordNodes (2 + ruleSet.mappingRecords.length + 1) ruleSet.ruleRecords),
          .list (ruleSet.ruleRecords.map recordValue))]
  have hreads : ∀ entry ∈ entries, ruleSet.document.Reads 1
      (ruleSet.mappingRecords.length + ruleSet.ruleRecords.length + 2 + 2) [0] entry.2.1 entry.2.2 := by
    simp only [entries, List.forall_mem_cons]
    refine ⟨⟨_, Document.part_int (of_decide_eq_true hw), rfl⟩, Document.reads_text,
      ⟨_, Document.part_sequence (by decide), Document.collection_records (isRecord_mappingRecords _)
        (by decide)⟩,
      ⟨_, Document.part_sequence ?_, Document.collection_records (isRecord_ruleRecords _) ?_⟩, by simp⟩
    · simp
    · simp
  have hnames : (entries.map Prod.fst).Nodup := by
    change ["version", "slot_mode", "name_mappings", "rules"].Nodup
    decide
  have hcollection := Document.collection_names hnames hreads
  have hfuel : ruleSet.document.collections + 2 =
      ruleSet.mappingRecords.length + ruleSet.ruleRecords.length + 2 + 2 + 1 := by
    simp only [document]
    omega
  refine bind_eq_ok.2 ⟨_, Document.part_mapping List.not_mem_nil, mapError_eq_ok.2 ?_⟩
  rw [hfuel]
  exact hcollection

theorem read_toYaml (hw : ruleSet.isWritable = true) :
    Yaml.read ruleSet.toYaml = .ok (.table ruleSet.documentEntries) :=
  bind_eq_ok.2 ⟨_, read?_toYaml, value_document hw⟩

end RuleSet

end NameSlots
