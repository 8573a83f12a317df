import NameSlots.Proofs.Yaml.Faults.Values
import NameSlots.Rules.Source

/-! Texts and files that are no rule sets. Most of them are told of in words. Those are not that cannot
be read but are there, that hold a scalar whose tag asks for a value that its text is not one of, or
an escaped code or a version beyond limits, or a key that is no text and has too many digits to be
shown. -/
namespace NameSlots.RuleSet

open Yaml (Value Document Fault Node)

/-- Of the entries of a table the first that is no mapping has a key which cannot be shown. -/
def HidesKey (table : List (Value × Value)) : Prop :=
  ∃ before n value after, table = before ++ (.int n, value) :: after ∧
    (∀ entry ∈ before, ∃ key value, entry = (.text key, .text value)) ∧ Number.isWritable n = false

/-- The table of mappings of a document, which may be the document itself. -/
inductive MappingTable (entries : List (Value × Value)) : List (Value × Value) → Prop where
  | table {table : List (Value × Value)} :
      Value.field? "name_mappings" entries = some (.table table) → MappingTable entries table
  | loop {number : Nat} :
      Value.field? "name_mappings" entries = some (.loop number) → MappingTable entries entries

/-- What is wrong is told of in words or is a value. -/
def Tells (e : RuleSetError) : Prop := e.isReported = true ∨ ∃ fault, e = .badValue fault

/-- A text has a value that cannot be read, or a key that cannot be shown. -/
inductive Escapes (text : Text) : Fault → Prop where
  | value {fault : Fault} : Yaml.read text = .error fault → ¬ fault.IsMalformed → Escapes text fault
  | key {entries table : List (Value × Value)} : Yaml.read text = .ok (.table entries) →
      MappingTable entries table → HidesKey table → Escapes text .unwritableWhole

variable {label text : Text} {entries table : List (Value × Value)} {fault : Fault} {e : RuleSetError}

/-! ## Mappings -/

theorem isShown_eq_false {key : Value} :
    key.isShown = false ↔ ∃ n, key = .int n ∧ Number.isWritable n = false := by
  cases key <;> simp [Value.isShown]

theorem badEntry_eq_badValue {key : Value} : badEntry label key = .badValue fault ↔
    fault = .unwritableWhole ∧ ∃ n, key = .int n ∧ Number.isWritable n = false := by
  rw [← isShown_eq_false]
  cases h : key.isShown <;> simp [badEntry, h, eq_comm]

theorem mappingsOf_eq_badValue : mappingsOf label table = .error (.badValue fault) ↔
    fault = .unwritableWhole ∧ HidesKey table := by
  constructor
  · intro h
    obtain ⟨before, entry, after, mappings, rfl, hmappings, hentry⟩ := mapM_eq_error.1 h
    have hbefore := exists_mapM_eq_ok.1 ⟨mappings, hmappings⟩
    split at hentry
    · cases hentry
    · next key value _ =>
      obtain ⟨rfl, n, rfl, hn⟩ := badEntry_eq_badValue.1 (Except.error.inj hentry)
      refine ⟨rfl, before, n, value, after, rfl, fun entry hm => ?_, hn⟩
      obtain ⟨mapping, hmapping⟩ := hbefore entry hm
      split at hmapping
      · exact ⟨_, _, rfl⟩
      · cases hmapping
  · rintro ⟨rfl, before, n, value, after, rfl, hbefore, hn⟩
    obtain ⟨mappings, hmappings⟩ : ∃ mappings, mappingsOf label before = .ok mappings :=
      exists_mapM_eq_ok.2 fun entry hm => by
        obtain ⟨key, value, rfl⟩ := hbefore entry hm
        exact ⟨_, rfl⟩
    exact mapM_eq_error.2 ⟨before, (.int n, value), after, mappings, rfl, hmappings,
      congrArg _ (badEntry_eq_badValue.2 ⟨rfl, n, rfl, hn⟩)⟩

/-- The mappings are made of the table of mappings where there is one. -/
theorem withMappingList_of_mappingTable (h : MappingTable entries table) :
    withMappingList label entries = (mappingsOf label table).map fun mappings =>
      Table.put (.text "name_mappings".toList) (.list mappings) entries := by
  unfold withMappingList
  cases h with
  | table h =>
    rw [h]
    exact bind_pure_comp _ _
  | loop h =>
    rw [h]
    exact bind_pure_comp _ _

theorem withMappingList_of_none (h : ∀ table, ¬ MappingTable entries table) :
    withMappingList label entries = .ok entries := by
  unfold withMappingList
  split
  · next table ht => exact (h table (.table ht)).elim
  · next number hl => exact (h entries (.loop hl)).elim
  · rfl

theorem tells_badEntry {key : Value} : Tells (badEntry label key) := by
  unfold badEntry
  split
  · exact .inl rfl
  · exact .inr ⟨_, rfl⟩

theorem tells_withMappingList : FailsOnly Tells (withMappingList label entries) := by
  by_cases h : ∃ table, MappingTable entries table
  · obtain ⟨table, h⟩ := h
    rw [withMappingList_of_mappingTable h]
    refine failsOnly_map.2 fun e he => ?_
    obtain ⟨before, entry, after, mappings, -, -, hentry⟩ := mapM_eq_error.1 he
    split at hentry
    · cases hentry
    · exact Except.error.inj hentry ▸ tells_badEntry
  · rw [withMappingList_of_none (not_exists.1 h)]
    exact failsOnly_ok _

/-! ## Documents -/

/-- Entries that have a list of mappings are a rule set, or do not have its form. -/
theorem ofEntries_eq_error (h : ofEntries label entries = .error e) :
    withMappingList label entries = .error e ∨ e = .badSchema label := by
  refine (bind_eq_error.1 h).imp_right ?_
  rintro ⟨entries, -, hchecked⟩
  split at hchecked
  · exact (Except.error.inj hchecked).symm
  · split at hchecked
    · exact (Except.error.inj hchecked).symm
    · obtain ⟨_, -, he⟩ := mapError_eq_error.1 hchecked
      exact he.symm

theorem ofEntries_eq_badValue : ofEntries label entries = .error (.badValue fault) ↔
    fault = .unwritableWhole ∧ ∃ table, MappingTable entries table ∧ HidesKey table := by
  constructor
  · intro h
    rcases ofEntries_eq_error h with hlist | hschema
    · by_cases hm : ∃ table, MappingTable entries table
      · obtain ⟨table, hm⟩ := hm
        rw [withMappingList_of_mappingTable hm] at hlist
        obtain ⟨rfl, hhides⟩ := mappingsOf_eq_badValue.1 (map_eq_error.1 hlist)
        exact ⟨rfl, table, hm, hhides⟩
      · rw [withMappingList_of_none (not_exists.1 hm)] at hlist
        cases hlist
    · cases hschema
  · rintro ⟨rfl, table, hm, hhides⟩
    refine bind_eq_error.2 (.inl ?_)
    rw [withMappingList_of_mappingTable hm]
    exact map_eq_error.2 (mappingsOf_eq_badValue.2 ⟨rfl, hhides⟩)

theorem tells_ofEntries : FailsOnly Tells (ofEntries label entries) := by
  intro e he
  rcases ofEntries_eq_error he with hlist | rfl
  · exact tells_withMappingList e hlist
  · exact .inl rfl

theorem not_mappingTable_nil : ¬ MappingTable [] table := by
  rintro (h | h) <;> cases h

/-- The fault of a text that is not reported is that of a value which cannot be read, or of a key
which cannot be shown. -/
theorem ofYaml_eq_badValue : ofYaml label text = .error (.badValue fault) ↔ Escapes text fault := by
  unfold ofYaml
  constructor
  · intro h
    split at h
    · cases h
    · next fault hno hread =>
      obtain rfl := RuleSetError.badValue.inj (Except.error.inj h)
      exact .value hread fun ⟨what, hwhat⟩ => hno what hwhat
    · obtain ⟨-, table, hm, -⟩ := ofEntries_eq_badValue.1 h
      exact (not_mappingTable_nil hm).elim
    · next entries hread =>
      obtain ⟨rfl, table, hm, hhides⟩ := ofEntries_eq_badValue.1 h
      exact .key hread hm hhides
    · cases h
  · intro h
    cases h with
    | value hread hno =>
      rw [hread]
      cases fault with
      | malformed what => exact (hno ⟨what, rfl⟩).elim
      | _ => rfl
    | key hread hm hhides =>
      rw [hread]
      exact ofEntries_eq_badValue.2 ⟨rfl, _, hm, hhides⟩

theorem tells_ofYaml : FailsOnly Tells (ofYaml label text) := by
  unfold ofYaml
  split
  · exact failsOnly_error.2 (.inl rfl)
  · exact failsOnly_error.2 (.inr ⟨_, rfl⟩)
  · exact tells_ofEntries
  · exact tells_ofEntries
  · exact failsOnly_error.2 (.inl rfl)

/-- A text that is no rule set is not reported where it has such a value or key. -/
theorem isReported_of_ofYaml (h : ofYaml label text = .error e) :
    e.isReported = false ↔ ∃ fault, Escapes text fault := by
  constructor
  · intro he
    rcases tells_ofYaml e h with hreported | ⟨fault, rfl⟩
    · rw [he] at hreported
      cases hreported
    · exact ⟨fault, ofYaml_eq_badValue.1 h⟩
  · rintro ⟨fault, hescapes⟩
    rw [ofYaml_eq_badValue.2 hescapes] at h
    exact Except.error.inj h ▸ rfl

/-- Not reported are a text with the wrong tokens, a text with a scalar that does not fit its tag, and a
table of mappings with a key that has too many digits. -/
theorem Escapes.source (h : Escapes text fault) :
    ((Yaml.tokens text).2 = some fault ∧ fault.IsLexical) ∨
      (∃ doc node, Document.read? text = .ok (some doc) ∧ doc.Reaches node ∧
        doc.Misfits node fault ∧ (doc.resolve node).tag ∈ [.bool, .int, .float, .time]) ∨
      ∃ entries table, Yaml.read text = .ok (.table entries) ∧ MappingTable entries table ∧
        HidesKey table := by
  cases h with
  | value hread hno =>
    rcases Yaml.read_eq_error hread with hmalformed | htokens | ⟨doc, node, hdoc, hnode, hmisfits⟩
    · exact (hno hmalformed).elim
    · exact .inl htokens
    · exact .inr (.inl ⟨doc, node, hdoc, hnode, hmisfits, hmisfits.tag hno⟩)
  | key hread hm hhides => exact .inr (.inr ⟨_, _, hread, hm, hhides⟩)

/-- No time is in the thirteenth month. -/
example : ofYaml label "version: 2024-13-45\n".toList = .error (.badValue .monthRange) := by
  have htokens : Yaml.tokens "version: 2024-13-45\n".toList = ([.blockMapping, .key,
      .scalar "version".toList true, .value, .scalar "2024-13-45".toList true, .blockEnd,
      .streamEnd], none) := by cbv
  have hread : Yaml.read "version: 2024-13-45\n".toList = .error .monthRange := by
    rw [Yaml.read, Document.read?, htokens]
    rfl
  rw [ofYaml, hread]

/-! ## Files -/

/-- A file that is no rule set is not reported where it is there and cannot be read, or has such a value
or key. -/
theorem isReported_of_load {files : Files} {path : Path} (h : load files path = .error e) :
    e.isReported = false ↔
      (∃ why, files.readText path = .error why ∧ why ≠ .notFound) ∨
        ∃ text fault, files.readText path = .ok text ∧ Escapes text fault := by
  unfold load at h
  split at h
  · next text hread =>
    rw [isReported_of_ofYaml h, hread]
    constructor
    · rintro ⟨fault, hescapes⟩
      exact .inr ⟨text, fault, rfl, hescapes⟩
    · rintro (⟨why, hwhy, -⟩ | ⟨other, fault, hother, hescapes⟩)
      · cases hwhy
      · exact ⟨fault, Except.ok.inj hother ▸ hescapes⟩
  · next hread =>
    cases h
    simp [hread, RuleSetError.isReported]
  · next why hwhy hread =>
    cases h
    rw [hread]
    exact ⟨fun _ => .inl ⟨why, rfl, hwhy⟩, fun _ => rfl⟩

end NameSlots.RuleSet
