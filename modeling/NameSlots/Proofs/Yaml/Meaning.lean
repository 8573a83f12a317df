import NameSlots.Proofs.Number.Whole
import NameSlots.Proofs.Results
import NameSlots.Proofs.Table
import NameSlots.Proofs.Yaml.Records
import NameSlots.Yaml.Meaning

/-! The values of scalars, and of lists of records. -/
namespace NameSlots.Yaml

/-- The value of a record: a table of its texts as they are read. -/
def recordValue (fields : List Field) : Value :=
  .table (fields.map fun field => (.text field.1.toList, .text (readBack field.2)))

/-! ## Whole numbers -/

section

variable {n : Nat} {t : Text}

theorem splitAll_of_not_mem {mark : Char} (h : mark ∉ t) : Text.splitAll mark t = [t] := by
  induction t with
  | nil => rfl
  | cons c t ih =>
    rw [List.mem_cons, not_or] at h
    rw [Text.splitAll, if_neg (Ne.symm h.1), ih h.2]

theorem isUnsignedInt_ofNat (n : Nat) : Tag.isUnsignedInt (Text.ofNat n) = true := by
  rcases Nat.eq_zero_or_pos n with rfl | hn
  · rfl
  · have hhead := Text.head_ofNat hn
    have hdigits := Text.isDigit_ofNat n
    unfold Tag.isUnsignedInt
    split
    · next h => simp [h] at hhead
    · next h => simp [h] at hhead
    · next h => simp [h] at hhead
    · cases ht : Text.ofNat n with
      | nil => exact absurd ht (Text.ofNat_ne_nil n)
      | cons c t =>
        rw [ht] at hdigits
        obtain ⟨hc, hdigits⟩ := List.forall_mem_cons.1 hdigits
        have hall : t.all Tag.isDigitOrScore = true :=
          List.all_eq_true.2 fun d hd => by simp [Tag.isDigitOrScore, hdigits d hd]
        simp [Tag.isGrouped, hc, hall]

theorem unsignedInt_ofNat (h : (Text.ofNat n).length ≤ Number.maxDigits) :
    Scalar.unsignedInt (Text.ofNat n) = .ok n := by
  rcases Nat.eq_zero_or_pos n with rfl | hn
  · rfl
  · have hhead := Text.head_ofNat hn
    have hcolon : ':' ∉ Text.ofNat n := fun hm => absurd (Text.isDigit_ofNat n _ hm) (by decide)
    unfold Scalar.unsignedInt
    split
    · next ht => exact absurd ht (Text.ofNat_ne_nil n)
    · next ht => simp [ht] at hhead
    · next ht => simp [ht] at hhead
    · next ht => simp [ht] at hhead
    · next ht => simp [ht] at hhead
    · rw [splitAll_of_not_mem hcolon]
      simp [Scalar.wholePart, Number.whole_ofNat h, pure, Except.pure, bind, Except.bind]

theorem mem_ofInt {v : Int} {c : Char} (h : c ∈ Text.ofInt v) : c.isDigit = true ∨ c = '-' := by
  cases v with
  | ofNat n => exact Or.inl (Text.isDigit_ofNat n c h)
  | negSucc n =>
    rcases List.mem_cons.1 h with rfl | h
    · exact Or.inr rfl
    · exact Or.inl (Text.isDigit_ofNat _ c h)

theorem ofInt_ne_nil (v : Int) : Text.ofInt v ≠ [] := by
  cases v with
  | ofNat n => exact Text.ofNat_ne_nil n
  | negSucc n => exact List.cons_ne_nil _ _

theorem dropSign_ofInt (v : Int) : Tag.dropSign (Text.ofInt v) = Text.ofNat v.natAbs := by
  cases v with
  | negSucc n => rfl
  | ofNat n =>
    have hdigits := Text.isDigit_ofNat n
    change Tag.dropSign (Text.ofNat n) = Text.ofNat n
    unfold Tag.dropSign
    split
    · next ht => exact absurd (hdigits '+' (by simp [ht])) (by decide)
    · next ht => exact absurd (hdigits '-' (by simp [ht])) (by decide)
    · rfl

/-- A whole number has the form of one. -/
theorem ofForm_ofInt (v : Int) : Tag.ofForm (Text.ofInt v) = .int := by
  have hchars {c : Char} (hc : c ∈ Text.ofInt v) : c.isDigit = true ∨ c = '-' := mem_ofInt hc
  have hlast : Tag.dropLastBreak (Text.ofInt v) = Text.ofInt v := by
    rw [Tag.dropLastBreak, if_neg]
    intro h
    exact absurd (hchars (List.mem_of_mem_getLast? (beq_iff_eq.1 h))) (by decide)
  have hword (words : List Text) (hw : words.all (·.any fun c => !(c.isDigit || c == '-')) = true) :
      Text.ofInt v ∉ words := by
    intro hm
    obtain ⟨c, hc, hno⟩ := List.any_eq_true.1 (List.all_eq_true.1 hw _ hm)
    rcases hchars hc with hdigit | rfl
    · simp [hdigit] at hno
    · simp at hno
  have hempty : (Text.ofInt v).isEmpty = false := by simpa using ofInt_ne_nil v
  have hint : Tag.isUnsignedInt (Tag.dropSign (Text.ofInt v)) = true := by
    rw [dropSign_ofInt, isUnsignedInt_ofNat]
  unfold Tag.ofForm
  rw [hlast]
  simp [hempty, hint, hword Tag.nullWords (by decide), hword Tag.trueWords (by decide),
    hword Tag.falseWords (by decide)]

theorem readInt_ofInt {v : Int} (h : (Text.ofNat v.natAbs).length ≤ Number.maxDigits) :
    Scalar.readInt (Text.ofInt v) = .ok v := by
  have hfilter : (Text.ofInt v).filter (· != '_') = Text.ofInt v := by
    refine List.filter_eq_self.2 fun c hc => ?_
    rcases mem_ofInt hc with hc | rfl
    · rw [bne_iff_ne]
      rintro rfl
      exact absurd hc (by decide)
    · decide
  unfold Scalar.readInt
  rw [hfilter]
  refine bind_eq_ok.2 ⟨(v.natAbs : Int), by rw [dropSign_ofInt, unsignedInt_ofNat h], ?_⟩
  rw [pure_eq_ok]
  cases v with
  | negSucc n =>
    have hhead : (Text.ofInt (.negSucc n)).head? = some '-' := rfl
    rw [if_pos hhead]
    rfl
  | ofNat n =>
    have hhead : (Text.ofInt (.ofNat n)).head? ≠ some '-' := fun hh =>
      absurd (Text.isDigit_ofNat n '-' (List.mem_of_mem_head? hh)) (by decide)
    rw [if_neg hhead]
    rfl

end

namespace Document

variable {doc : Document} {t : Text} {around : List Nat} {number depth fuel : Nat}

theorem gather_ok {α : Type} (values : List α) : gather (values.map .ok) = .ok values := by
  unfold gather
  rw [List.foldl_map, List.foldl_fixed' (fun _ => rfl) values]
  simp [List.filterMap_map, Function.comp_def, Except.toOption]

theorem part_text : doc.part around (.scalar .text t) = .ok (.done (.text t)) := rfl

theorem part_int {v : Int} (h : (Text.ofNat v.natAbs).length ≤ Number.maxDigits) :
    doc.part around (.scalar .int (Text.ofInt v)) = .ok (.done (.int v)) := by
  have hvalue : doc.scalarValue? (.scalar .int (Text.ofInt v)) = .ok (some (.int v)) := by
    change some <$> (Value.int <$> Scalar.readInt (Text.ofInt v)) = _
    rw [readInt_ofInt h]
    rfl
  exact bind_eq_ok.2 ⟨_, hvalue, rfl⟩

theorem part_mapping {pairs : List (Node × Node)} (h : number ∉ around) :
    doc.part around (.mapping number .table pairs) = .ok (.later (.mapping number .table pairs)) := by
  change (pure (if number ∈ around then _ else _) : Except Fault Part) = _
  rw [if_neg h]
  rfl

theorem part_sequence {items : List Node} (h : number ∉ around) :
    doc.part around (.sequence number .list items) = .ok (.later (.sequence number .list items)) := by
  change (pure (if number ∈ around then _ else _) : Except Fault Part) = _
  rw [if_neg h]
  rfl

/-- Pairs of which no key asks for a merge are the pairs of their mapping. -/
theorem flatPairs_eq {pairs : List (Node × Node)} (h : ∀ pair ∈ pairs, ∃ t, pair.1 = .scalar .text t) :
    doc.flatPairs (fuel + 1) [] number pairs = .ok pairs := by
  have hmerge : ∀ pair ∈ pairs, ((doc.resolve pair.1).tag == .merge) = false := fun pair hp => by
    obtain ⟨t, ht⟩ := h pair hp
    rw [ht]
    rfl
  have hkey : ∀ pair ∈ pairs, (doc.plainKey pair.1, pair.2) = pair := fun pair hp => by
    obtain ⟨t, ht⟩ := h pair hp
    rw [Prod.ext_iff, ht]
    exact ⟨rfl, rfl⟩
  have hparts : pairs.partition (fun pair => (doc.resolve pair.1).tag == .merge) = ([], pairs) := by
    rw [List.partition_eq_filter_filter, List.filter_eq_nil_iff.2 fun pair hp => by simp [hmerge pair hp],
      List.filter_eq_self.2 fun pair hp => by simp [hmerge pair hp]]
  have hown : pairs.map (fun pair => (doc.plainKey pair.1, pair.2)) = pairs :=
    (List.map_congr_left hkey).trans (List.map_id pairs)
  unfold flatPairs
  rw [hparts]
  change (if number ∈ [] then _ else _ : Except Fault (List (Node × Node))) = _
  rw [if_neg List.not_mem_nil]
  exact congrArg Except.ok hown

theorem text_beq (s t : Text) : (Value.text s == Value.text t) = (s == t) := rfl

/-- Texts under names that differ are a table as they are. -/
theorem ofPairs_names {entries : List (String × Value)} (hn : (entries.map Prod.fst).Nodup) :
    Table.ofPairs (entries.map fun entry => (Value.text entry.1.toList, entry.2)) =
      entries.map fun entry => (Value.text entry.1.toList, entry.2) := by
  rw [Table.ofPairs_map (fun name : String => Value.text name.toList) fun a b => ?_,
    Table.ofPairs_eq_self hn]
  rw [text_beq, Bool.eq_iff_iff, beq_iff_eq, beq_iff_eq, String.toList_inj]

/-- What becomes of a part of a collection. -/
def finish (doc : Document) (depth fuel : Nat) (around : List Nat) : Part → Except DeepFault Value
  | .done value => .ok value
  | .later inner => doc.collection depth fuel around inner

/-- A node has a value as a part of a collection. -/
def Reads (doc : Document) (depth fuel : Nat) (around : List Nat) (node : Node) (value : Value) : Prop :=
  ∃ part, doc.part around node = .ok part ∧ doc.finish depth fuel around part = .ok value

theorem reads_text : doc.Reads depth fuel around (.scalar .text t) (.text t) := ⟨_, part_text, rfl⟩

/-- The entries of a table with names as keys. -/
theorem exists_entryParts {entries : List (String × Node × Value)}
    (h : ∀ entry ∈ entries, doc.Reads depth fuel around entry.2.1 entry.2.2) :
    ∃ parts, (entries.map fun entry => (Node.scalar .text entry.1.toList, entry.2.1)).mapM
        (doc.entryParts around) = .ok parts ∧
      parts.map Prod.fst = entries.map (fun entry => Value.text entry.1.toList) ∧
      parts.map (fun part => doc.finish depth fuel around part.2) =
        (entries.map fun entry => entry.2.2).map .ok := by
  induction entries with
  | nil => exact ⟨[], rfl, rfl, rfl⟩
  | cons entry entries ih =>
    obtain ⟨⟨part, hpart, hvalue⟩, hentries⟩ := List.forall_mem_cons.1 h
    obtain ⟨parts, hparts, hkeys, hvalues⟩ := ih hentries
    have hentry : doc.entryParts around (.scalar .text entry.1.toList, entry.2.1) =
        .ok (.text entry.1.toList, part) := bind_eq_ok.2 ⟨_, part_text, bind_eq_ok.2 ⟨_, hpart, rfl⟩⟩
    exact ⟨_ :: parts, mapM_cons_eq_ok.2 ⟨_, _, hentry, hparts, rfl⟩, congrArg _ hkeys,
      congrArg₂ List.cons hvalue hvalues⟩

/-- A table whose keys are names that differ. -/
theorem collection_names {entries : List (String × Node × Value)} (hn : (entries.map Prod.fst).Nodup)
    (h : ∀ entry ∈ entries, doc.Reads (depth + 1) fuel (number :: around) entry.2.1 entry.2.2) :
    doc.collection depth (fuel + 1) around (.mapping number .table
        (entries.map fun entry => (Node.scalar .text entry.1.toList, entry.2.1))) =
      .ok (.table (entries.map fun entry => (Value.text entry.1.toList, entry.2.2))) := by
  obtain ⟨parts, hparts, hkeys, hvalues⟩ := exists_entryParts h
  have hgather := gather_ok (entries.map fun entry => entry.2.2)
  rw [← hvalues] at hgather
  refine bind_eq_ok.2 ⟨parts, mapError_eq_ok.2 (bind_eq_ok.2 ⟨_, flatPairs_eq ?_, hparts⟩),
    bind_eq_ok.2 ⟨_, hgather, ?_⟩⟩
  · intro pair hp
    obtain ⟨entry, -, rfl⟩ := List.mem_map.1 hp
    exact ⟨_, rfl⟩
  · have hnames : ((entries.map fun entry => (entry.1, entry.2.2)).map Prod.fst).Nodup := by
      rwa [List.map_map]
    have hofPairs := ofPairs_names hnames
    rw [List.map_map] at hofPairs
    rw [hkeys, List.zip_map']
    exact congrArg (fun entries => Except.ok (Value.table entries)) hofPairs

theorem collection_record {fields : List Field} (hn : (fields.map Prod.fst).Nodup) :
    doc.collection depth (fuel + 1) around (recordNode number fields) = .ok (recordValue fields) := by
  let entries : List (String × Node × Value) := fields.map fun field =>
    (field.1, .scalar .text (readBack field.2), .text (readBack field.2))
  have hn' : (entries.map Prod.fst).Nodup := by rwa [List.map_map]
  have hreads : ∀ entry ∈ entries, doc.Reads (depth + 1) fuel (number :: around) entry.2.1 entry.2.2 :=
    List.forall_mem_map.2 fun field _ => reads_text
  have hcollection := collection_names hn' hreads
  rw [List.map_map, List.map_map] at hcollection
  exact hcollection

/-- Records with higher numbers than the collections around them are read as values of their own. -/
theorem exists_recordParts {records : List (List Field)} (hr : ∀ fields ∈ records, IsRecord fields)
    {start : Nat} (hout : ∀ n ∈ around, n < start) :
    ∃ parts, (recordNodes start records).mapM (doc.part around) = .ok parts ∧
      parts.map (doc.finish depth (fuel + 1) around) = (records.map recordValue).map .ok := by
  induction records generalizing start with
  | nil => exact ⟨[], rfl, rfl⟩
  | cons fields records ih =>
    obtain ⟨hfields, hrecords⟩ := List.forall_mem_cons.1 hr
    obtain ⟨parts, hparts, hvalues⟩ := ih hrecords fun n hn => Nat.lt_succ_of_lt (hout n hn)
    have hnot : start ∉ around := fun hm => absurd (hout start hm) (Nat.lt_irrefl start)
    exact ⟨_ :: parts, mapM_cons_eq_ok.2 ⟨_, _, part_mapping hnot, hparts, rfl⟩,
      congrArg₂ List.cons (collection_record hfields.nodup) hvalues⟩

/-- The value of a list of records with higher numbers than the list and what it is in. -/
theorem collection_records {records : List (List Field)} (hr : ∀ fields ∈ records, IsRecord fields)
    {start : Nat} (hout : ∀ n ∈ number :: around, n < start) :
    doc.collection depth (fuel + 2) around (.sequence number .list (recordNodes start records)) =
      .ok (.list (records.map recordValue)) := by
  obtain ⟨parts, hparts, hvalues⟩ := exists_recordParts
    hr hout
  have hgather := gather_ok (records.map recordValue)
  rw [← hvalues] at hgather
  refine bind_eq_ok.2 ⟨_, mapError_eq_ok.2 hparts, ?_⟩
  change Value.list <$> gather (parts.map (doc.finish (depth + 1) (fuel + 1) (number :: around))) = _
  rw [hgather]
  rfl

end Document
end NameSlots.Yaml
