import NameSlots.Proofs.Json.Reading
import NameSlots.Proofs.Json.Writing
import NameSlots.Proofs.Schema.Check
import NameSlots.Proofs.Text.Utf8

/-! A store is read back from its text, with its sets and the fields in them in order. -/
namespace NameSlots

/-! ## Numbers that text can hold -/

namespace Number

/-- The digits that are read at the front of a text are decimal ones. -/
theorem digits_lt (afterDigit : Bool) (t : Text) : ∀ d ∈ (digits afterDigit t).1, d < 10 := by
  induction t generalizing afterDigit with
  | nil => simp [digits]
  | cons c rest ih =>
    have hdigit {d : Nat} (h : Unicode.digitValue? c = some d) : d < 10 := by
      obtain ⟨start, hf, rfl⟩ := Option.map_eq_some_iff.1 h
      have hin := List.find?_some hf
      simp only [Bool.and_eq_true, decide_eq_true_eq] at hin
      omega
    unfold digits
    split
    · next d hd => exact List.forall_mem_cons.2 ⟨hdigit hd, ih true⟩
    · split
      · split
        · exact ih false
        · simp
      · simp

theorem ofDigits_lt {ds : List Nat} (h : ∀ d ∈ ds, d < 10) : ofDigits ds < 10 ^ ds.length := by
  have hfold (n : Nat) : ds.foldl (fun n d => 10 * n + d) n < (n + 1) * 10 ^ ds.length := by
    induction ds generalizing n with
    | nil => simp
    | cons d ds ih =>
      obtain ⟨hd, hds⟩ := List.forall_mem_cons.1 h
      have hnext := ih hds (10 * n + d)
      have hle : 10 * n + d + 1 ≤ 10 * (n + 1) := by omega
      have hmul := Nat.mul_le_mul_right (10 ^ ds.length) hle
      rw [List.foldl_cons, List.length_cons, Nat.pow_succ]
      calc _ < _ := hnext
        _ ≤ _ := hmul
        _ = (n + 1) * (10 ^ ds.length * 10) := by ring
  simpa [ofDigits] using hfold 0

theorem whole_length {t : Text} {n : Int} (h : whole t = .ok n) :
    (Text.ofNat n.natAbs).length ≤ maxDigits := by
  unfold whole at h
  dsimp only at h
  have hlt := digits_lt false (sign (t.dropWhile isMargin)).2
  generalize digits false (sign (t.dropWhile isMargin)).2 = found at h hlt
  split at h
  · simp at h
  · split at h
    · simp at h
    · next hmax =>
      split at h
      · have hn : n.natAbs = ofDigits found.1 := by
          rw [← Except.ok.inj h]
          split <;> omega
        rw [hn, Text.length_ofNat_le (by decide)]
        exact Nat.lt_of_lt_of_le (ofDigits_lt hlt)
          (Nat.pow_le_pow_right (by decide) (Nat.le_of_not_lt hmax))
      · simp at h

end Number

/-- The whole part of a number has few digits. -/
theorem Double.truncate?_length {x : Double} {n : Int} (hx : x.Normal) (h : x.truncate? = some n) :
    (Text.ofNat n.natAbs).length ≤ Number.maxDigits := by
  obtain ⟨units, hu, rfl⟩ := Option.map_eq_some_iff.1 h
  have habs (k : Nat) : (if x.isNegative then -(k : Int) else k).natAbs = k := by
    split <;> omega
  dsimp only
  rw [habs, Text.length_ofNat_le (by decide)]
  cases x with
  | nan => simp [units?] at hu
  | infinite negative => simp [units?] at hu
  | finite negative m e =>
    obtain ⟨hm, he, -⟩ := hx
    obtain rfl : m * 2 ^ e = units := by simpa [units?] using hu
    have hbig : 2 ^ 53 * 2 ^ maxExponent ≤ 10 ^ Number.maxDigits := by decide +kernel
    have hle : m * 2 ^ e ≤ m * 2 ^ maxExponent :=
      Nat.mul_le_mul_left _ (Nat.pow_le_pow_right (by decide) he)
    have hlt : m * 2 ^ maxExponent < 2 ^ 53 * 2 ^ maxExponent :=
      Nat.mul_lt_mul_of_pos_right hm (Nat.pow_pos (by decide))
    generalize 10 ^ Number.maxDigits = most at *
    generalize 2 ^ maxExponent = scale at *
    exact Nat.lt_of_le_of_lt (Nat.div_le_self _ _) (by omega)

/-! ## Records -/

namespace Json

variable {fields : List (Text × Json)} {entries : List (String × Json)} {value : Json}

theorem record_names (entries : List (String × Json)) :
    (entries.map fun (name, value) => (name.toList, value)).map Prod.fst =
      (entries.map Prod.fst).map String.toList := by
  simp

theorem nodup_record (h : (entries.map Prod.fst).Nodup) :
    ((entries.map fun (name, value) => (name.toList, value)).map Prod.fst).Nodup := by
  rw [record_names]
  exact h.map fun _ _ => String.toList_inj.1

theorem wellFormed_record (hn : (entries.map Prod.fst).Nodup)
    (h : ∀ entry ∈ entries, entry.2.WellFormed) : (record entries).WellFormed :=
  .object (nodup_record hn) (List.forall_mem_map.2 h)

theorem lookup_record (entries : List (String × Json)) (name : String) :
    (entries.map fun (name, value) => (name.toList, value)).lookup name.toList =
      entries.lookup name := by
  induction entries with
  | nil => rfl
  | cons entry entries ih =>
    rw [List.map_cons, Table.lookup_cons, Table.lookup_cons, ih]
    simp only [String.toList_inj]

/-- The fields of a record with its fields in order. -/
theorem sorted_record (entries : List (String × Json)) (hn : (entries.map Prod.fst).Nodup) :
    ∃ ordered, (record entries).sorted = .object ordered ∧
      ∀ name : String, ordered.lookup name.toList = (entries.lookup name).map sorted := by
  refine ⟨_, sorted_object _, fun name => ?_⟩
  rw [Table.lookup_perm (nodup_sortFields ?_) (sortFields_perm _),
    Table.lookup_map sorted, lookup_record]
  rw [List.map_map]
  exact nodup_record hn

/-- Records whose values differ in the order of their fields alone. -/
theorem sorted_record_congr {others : List (String × Json)}
    (h : (entries.map fun entry => (entry.1, entry.2.sorted)) =
      others.map fun entry => (entry.1, entry.2.sorted)) :
    (record entries).sorted = (record others).sorted := by
  have hfields (entries : List (String × Json)) :
      ((entries.map fun (name, value) => (name.toList, value)).map
          fun field => (field.1, field.2.sorted)) =
        (entries.map fun entry => (entry.1, entry.2.sorted)).map
          fun (name, value) => (name.toList, value) := by
    simp
  unfold record
  rw [sorted_object, sorted_object, hfields, hfields, h]

theorem WellFormed.lookup (h : WellFormed (.object fields)) {name : Text}
    (hl : fields.lookup name = some value) : value.WellFormed := by
  cases h with
  | object _ hall => exact hall _ (Table.mem_of_lookup hl)

theorem WellFormed.lookup_getD (h : WellFormed (.object fields)) (name : Text) {other : Json}
    (ho : other.WellFormed) : ((fields.lookup name).getD other).WellFormed := by
  cases hl : fields.lookup name with
  | none => exact ho
  | some value => exact h.lookup hl

end Json

/-! ## Sets that text can hold -/

theorem Mapping.sorted_toJson (mapping : Mapping) : mapping.toJson.sorted = mapping.toJson := by
  unfold toJson Json.record
  rw [Json.sorted_object, Json.sortFields_of_pairwise]
  · rfl
  · simp [Text.le]

theorem Mapping.wellFormed_toJson (mapping : Mapping) : mapping.toJson.WellFormed :=
  Json.wellFormed_record (by simp) (by simp [Json.WellFormed.string])

namespace NameSet

/-- The set with the fields of its name and its note in order. -/
def sorted (set : NameSet) : NameSet := { set with name := set.name.sorted, note := set.note.sorted }

/-- A set as a file can hold it. -/
structure WellFormed (set : NameSet) : Prop where
  name : set.name.WellFormed
  note : set.note.WellFormed
  keys : ∀ mapping ∈ set.mappings, mapping.key ≠ []

variable {set : NameSet} {path : Path} {name : Text} {data : Json}

theorem sorted_sorted (set : NameSet) : set.sorted.sorted = set.sorted := by
  simp [sorted, Json.sorted_sorted]

theorem sorted_toJson (set : NameSet) : set.sorted.toJson.sorted = set.toJson.sorted :=
  Json.sorted_record_congr (by simp [sorted, Json.sorted_sorted])

theorem wellFormed_toJson (h : set.WellFormed) : set.toJson.WellFormed := by
  refine Json.wellFormed_record (by simp) ?_
  simp only [List.forall_mem_cons]
  exact ⟨h.name, .array (List.forall_mem_map.2 fun mapping _ => mapping.wellFormed_toJson), h.note,
    by simp⟩

/-- A set is read from its data. -/
theorem ofJson_sorted (h : set.WellFormed) (path : Path) (name : Text) :
    ofJson path name set.toJson.sorted = .ok set.sorted := by
  have hmap : (set.mappings.map Mapping.toJson).map Json.sorted = set.mappings.map Mapping.toJson := by
    rw [List.map_map]
    exact List.map_congr_left fun mapping _ => mapping.sorted_toJson
  have hcheck : (set.mappings.map Mapping.toJson).mapM Mapping.check = .ok set.mappings := by
    have hall := mapM_map_ok (g := Mapping.toJson) (h := id)
      fun mapping hm => Mapping.check_toJson (h.keys mapping hm)
    rwa [List.map_id] at hall
  obtain ⟨fields, hf, hl⟩ := Json.sorted_record [("name", set.name),
    ("mappings", .array (set.mappings.map Mapping.toJson)), ("note", set.note)] (by simp)
  unfold toJson
  rw [hf, ofJson]
  simp only [hl]
  simp [List.lookup_cons, Json.sorted_array, hmap, Json.parts?, hcheck, sorted]

/-- What is read is a set that a file can hold. -/
theorem ofJson_wellFormed (h : ofJson path name data = .ok set) (hd : data.WellFormed) :
    set.WellFormed := by
  unfold ofJson at h
  split at h
  · next fields =>
    split at h
    · simp at h
    · next items hitems =>
      split at h
      · simp at h
      · next mappings hm =>
        obtain rfl := Except.ok.inj h
        exact ⟨hd.lookup_getD _ (Json.WellFormed.string name), hd.lookup_getD _ Json.WellFormed.null,
          forall_mem_of_mapM hm fun _ _ _ hc => Mapping.key_ne_nil hc⟩
  · simp at h

end NameSet

/-! ## Stores that text can hold -/

namespace Store

/-- The store with its sets and the fields in them in order. -/
def sorted (store : Store) : Store :=
  { store with sets := (Json.sortFields store.sets).map fun (name, set) => (name, set.sorted) }

/-- A store as a file can hold it. -/
structure WellFormed (store : Store) : Prop where
  version : (Text.ofNat store.version.natAbs).length ≤ Number.maxDigits
  names : (store.sets.map Prod.fst).Nodup
  sets : ∀ entry ∈ store.sets, entry.2.WellFormed

variable {store left : Store} {set : NameSet} {path : Path} {name key : Text} {data : Json}
  {content : Text} {mapping : Mapping}

theorem wellFormed_toJson (h : store.WellFormed) : store.toJson.WellFormed := by
  refine Json.wellFormed_record (by simp) ?_
  simp only [List.forall_mem_cons]
  refine ⟨.int h.version, .object ?_ ?_, by simp⟩
  · rw [List.map_map]
    exact h.names
  · exact List.forall_mem_map.2 fun entry hm => NameSet.wellFormed_toJson (h.sets entry hm)

theorem ofJson_sorted (h : store.WellFormed) (path : Path) :
    ofJson path store.toJson.sorted = .ok store.sorted := by
  have hsets : Json.sortFields ((store.sets.map fun (name, set) => (name, set.toJson)).map
      fun field => (field.1, field.2.sorted)) =
        (Json.sortFields store.sets).map fun (name, set) => (name, set.toJson.sorted) := by
    rw [List.map_map]
    exact Json.sortFields_map (fun set : NameSet => set.toJson.sorted) store.sets
  have hread : readSets path (.object ((Json.sortFields store.sets).map
      fun (name, set) => (name, set.toJson.sorted))) = .ok store.sorted.sets := by
    refine mapM_map_ok fun entry hm => ?_
    have hwell := h.sets entry ((Json.sortFields_perm _).mem_iff.1 hm)
    exact bind_eq_ok.2 ⟨_, NameSet.ofJson_sorted hwell path entry.1, rfl⟩
  obtain ⟨fields, hf, hl⟩ := Json.sorted_record [("version", .int store.version),
    ("sets", .object (store.sets.map fun (name, set) => (name, set.toJson)))] (by simp)
  unfold toJson
  rw [hf, ofJson]
  simp only [hl]
  refine bind_eq_ok.2 ⟨store.sorted.sets, ?_, bind_eq_ok.2 ⟨store.version, ?_, rfl⟩⟩
  · have hlookup : [("version", Json.int store.version),
        ("sets", .object (store.sets.map fun (name, set) => (name, set.toJson)))].lookup "sets" =
          some (.object (store.sets.map fun (name, set) => (name, set.toJson))) := rfl
    rw [hlookup, Option.map_some, Option.getD_some, Json.sorted_object, hsets]
    exact hread
  · simp [Json.sorted, readVersion]

theorem sorted_toJson (store : Store) : store.sorted.toJson.sorted = store.toJson.sorted := by
  have hsets (sets : List (Text × NameSet)) :
      (Json.object (sets.map fun (name, set) => (name, set.toJson))).sorted =
        .object ((Json.sortFields sets).map fun entry => (entry.1, entry.2.toJson.sorted)) := by
    rw [Json.sorted_object, List.map_map]
    exact congrArg Json.object (Json.sortFields_map (fun set : NameSet => set.toJson.sorted) sets)
  have hordered : Json.sortFields store.sorted.sets = store.sorted.sets :=
    Json.sortFields_of_pairwise (List.pairwise_map.2 (Json.sortFields_pairwise store.sets))
  refine Json.sorted_record_congr ?_
  simp only [List.map_cons, List.map_nil, hsets, hordered]
  simp [sorted, NameSet.sorted_toJson]

theorem readVersion_length {n : Int} (h : readVersion data = .ok n) (hd : data.WellFormed) :
    (Text.ofNat n.natAbs).length ≤ Number.maxDigits := by
  cases hd with
  | null => simp [readVersion] at h
  | bool b =>
    obtain rfl := Except.ok.inj h
    cases b <;> decide
  | int hn =>
    obtain rfl := Except.ok.inj h
    exact hn
  | @float x hx =>
    have ht : x.truncate? = some n := by
      unfold readVersion at h
      split at h <;> simp_all
      split at h <;> simp_all
    exact Double.truncate?_length hx ht
  | string s =>
    unfold readVersion at h
    split at h <;> simp_all
    split at h
    · next hw =>
      obtain rfl := Except.ok.inj h
      exact Number.whole_length hw
    · simp at h
    · simp at h
  | array _ => simp [readVersion] at h
  | object _ _ => simp [readVersion] at h

theorem readSets_wellFormed {sets : List (Text × NameSet)} (h : readSets path data = .ok sets)
    (hd : data.WellFormed) :
    (sets.map Prod.fst).Nodup ∧ ∀ entry ∈ sets, entry.2.WellFormed := by
  cases hd with
  | object hn hall =>
    refine ⟨?_, forall_mem_of_mapM h fun field hf entry he => ?_⟩
    · rw [map_of_mapM h fun field entry he => ?_]
      · exact hn
      · obtain ⟨set, -, he⟩ := bind_eq_ok.1 he
        rw [← Except.ok.inj he]
    · obtain ⟨set, hs, he⟩ := bind_eq_ok.1 he
      rw [← Except.ok.inj he]
      exact NameSet.ofJson_wellFormed hs (hall field hf)
  | _ => simp [readSets] at h

/-- What is read is a store that a file can hold. -/
theorem ofJson_wellFormed (h : ofJson path data = .ok store) (hd : data.WellFormed) :
    store.WellFormed := by
  unfold ofJson at h
  split at h
  · next fields =>
    obtain ⟨sets, hsets, h⟩ := bind_eq_ok.1 h
    obtain ⟨version, hversion, h⟩ := bind_eq_ok.1 h
    obtain rfl := Except.ok.inj h
    obtain ⟨hnames, hall⟩ := readSets_wellFormed hsets
      (hd.lookup_getD _ (Json.WellFormed.object List.nodup_nil (by simp)))
    have hone : (Json.int 1).WellFormed := Json.WellFormed.int (by decide)
    exact ⟨readVersion_length hversion (hd.lookup_getD _ hone), hnames, hall⟩
  · simp at h

theorem ofText_wellFormed (h : ofText path content = .ok store) : store.WellFormed := by
  unfold ofText at h
  split at h
  · next hr => exact ofJson_wellFormed h (Json.read_wellFormed hr)
  · simp at h
  · simp at h

/-- A store is read from its text. -/
theorem ofText_compact (h : store.WellFormed) (path : Path) :
    ofText path store.toJson.compact = .ok store.sorted := by
  unfold ofText
  rw [Json.compact, Json.read_write Json.compact_blank (wellFormed_toJson h)]
  exact ofJson_sorted h path

theorem wellFormed_empty : ({} : Store).WellFormed := ⟨by decide, List.nodup_nil, by simp⟩

theorem wellFormed_sorted (h : store.WellFormed) : store.sorted.WellFormed := by
  refine ⟨h.version, ?_, List.forall_mem_map.2 fun entry hm => ?_⟩
  · have hn := Json.nodup_sortFields h.names
    rwa [sorted, List.map_map]
  · have hset := h.sets entry ((Json.sortFields_perm _).mem_iff.1 hm)
    exact ⟨Json.wellFormed_sorted hset.name, Json.wellFormed_sorted hset.note, hset.keys⟩

/-! ## Changes -/

theorem wellFormed_put (h : store.WellFormed) (hs : set.WellFormed) (name : Text) :
    (store.put name set).WellFormed := by
  refine ⟨h.version, Table.nodup_put h.names, fun entry hm => ?_⟩
  rcases Table.mem_put hm with rfl | hm
  · exact hs
  · exact h.sets entry hm

theorem wellFormed_get? (h : store.WellFormed) (hg : store.get? name = some set) :
    set.WellFormed := h.sets _ (Table.mem_of_lookup hg)

theorem mem_putMapping {other : Mapping} {mappings : List Mapping}
    (h : other ∈ NameSlots.putMapping mapping mappings) : other = mapping ∨ other ∈ mappings := by
  induction mappings with
  | nil => simpa [NameSlots.putMapping] using h
  | cons first rest ih =>
    unfold NameSlots.putMapping at h
    split at h
    · exact (List.mem_cons.1 h).imp_right (List.mem_cons_of_mem _)
    · rcases List.mem_cons.1 h with rfl | h
      · exact Or.inr (List.mem_cons_self ..)
      · exact (ih h).imp_right (List.mem_cons_of_mem _)

theorem wellFormed_withMapping (h : store.WellFormed) (hk : mapping.key ≠ []) (name : Text) :
    (store.withMapping name mapping).WellFormed := by
  have hset : ((store.get? name).getD { name := .string name }).WellFormed := by
    cases hg : store.get? name with
    | none => exact ⟨.string name, .null, by simp⟩
    | some set => exact wellFormed_get? h hg
  refine ⟨hset.name, hset.note, fun other hm => ?_⟩
  rcases mem_putMapping hm with rfl | hm
  · exact hk
  · exact hset.keys other hm

theorem wellFormed_dropMappings? (h : store.WellFormed)
    (hd : store.dropMappings? name key = some left) : left.WellFormed := by
  obtain ⟨set, hg, hd⟩ := Option.bind_eq_some_iff.1 hd
  have hset := wellFormed_get? h hg
  dsimp only at hd
  split at hd
  · simp at hd
  · obtain rfl := Option.some.inj hd
    have hleft : NameSet.WellFormed
        { set with mappings := set.mappings.filter (·.key ≠ key) } :=
      ⟨hset.name, hset.note, fun mapping hm => hset.keys mapping (List.mem_filter.1 hm).1⟩
    exact wellFormed_put h hleft name

theorem wellFormed_drop? (h : store.WellFormed) (hd : store.drop? name = some left) :
    left.WellFormed := by
  unfold drop? at hd
  split at hd
  · simp at hd
  · obtain rfl := Option.some.inj hd
    exact ⟨h.version, Table.nodup_drop h.names,
      fun entry hm => h.sets entry (List.mem_filter.1 hm).1⟩

end Store

end NameSlots
