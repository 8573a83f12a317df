import NameSlots.Proofs.Yaml.Lexer
import NameSlots.Proofs.Yaml.Node
import NameSlots.Rules.Source

/-!
Lists of records as rule sets are written: a record is a list of texts under names, its lines become
its tokens, and they become its node.
-/
namespace NameSlots.Yaml

/-- A text under a name. -/
abbrev Field := String × Text

/-- A name that is a plain text as a key. -/
structure IsKey (name : String) : Prop where
  isName : Lexing.isName name.toList = true
  form : Tag.ofForm name.toList = .text

/-- A record: its keys are names, and each stands in it once. -/
structure IsRecord (fields : List Field) : Prop where
  ne_nil : fields ≠ []
  keys : ∀ field ∈ fields, IsKey field.1
  nodup : (fields.map Prod.fst).Nodup

/-! ## Lines -/

/-- The lines of a record as an item of a list. -/
def recordLines : List Field → Text
  | [] => []
  | (name, t) :: more =>
    RuleSet.textLine "- " name t ++ more.flatMap fun field => RuleSet.textLine "  " field.1 field.2

/-! ## Tokens -/

/-- The token of a text that was written and is read. -/
def textToken (t : Text) : Token := .scalar (readBack t) (allowsPlain t)

def fieldTokens (field : Field) : List Token :=
  [.key, .scalar field.1.toList true, .value, textToken field.2]

def recordTokens (fields : List Field) : List Token :=
  .blockEntry :: .blockMapping :: fields.flatMap fieldTokens ++ [.blockEnd]

def listTokens (records : List (List Field)) : List Token :=
  if records.isEmpty then [.flowSequence, .flowSequenceEnd] else records.flatMap recordTokens

namespace Lexing

variable {name : Text} {rest line w : Text} {out : List Token} {column : Nat}

theorem lineStart_name (h : isName name = true) : LineStart column (name ++ rest) := by
  obtain ⟨⟨c, more, rfl⟩, hchars, -⟩ := isName_iff.1 h
  obtain ⟨hgap, hwide, -, hmarks⟩ := nameChar (hchars c List.mem_cons_self)
  obtain ⟨-, hspace, -, hbreak⟩ := isGap_eq_false_iff.1 hgap
  refine ⟨?_, ?_, fun _ mark hm => ?_⟩
  · rintro _ ⟨⟩
    exact ⟨hspace, fun he => hmarks (by simp [he]), hbreak⟩
  · rintro ⟨⟩
    exact absurd hwide (by decide)
  · have hne : c ≠ mark := fun he => hmarks (by subst he; simp_all)
    simp [List.replicate, hne]

theorem lineStart_entry : LineStart column ('-' :: ' ' :: rest) := by
  refine ⟨?_, ?_, fun _ mark _ he => ?_⟩
  · rintro _ ⟨⟩
    decide
  · rintro ⟨⟩
  · simp only [List.replicate, List.take_succ_cons, List.cons.injEq] at he
    exact absurd (he.1.trans he.2.1.symm) (by decide)

theorem lineStart_nil : LineStart column [] := ⟨by simp, by simp, by simp [List.replicate]⟩

/-- The other texts of a record after the first one, behind the colon of which this is. -/
theorem follows_fields {k place : Nat} {t : Text} {more : List Field}
    (hkeys : ∀ field ∈ more, IsKey field.1) (hline : LineStart 0 rest) (hplace : 2 ≤ place)
    (h : Begins 0 rest 3 [1, 0] out) :
    Follows place (' ' :: writeText RuleSet.textIndent k t ++
        '\n' :: ((more.flatMap fun field => RuleSet.textLine "  " field.1 field.2) ++ rest)) 3 [1, 0]
      (textToken t :: more.flatMap fieldTokens ++ out) := by
  induction more generalizing k place t with
  | nil =>
    exact follows_text t k hline (by decide) (by decide) (by decide) (by omega) h
  | cons field more ih =>
    obtain ⟨name, text⟩ := field
    obtain ⟨hkey, hmore⟩ := List.forall_mem_cons.1 hkeys
    have hrest := begins_name hkey.isName (by exact isGap_space) (.inside [1, 0])
      (ih (k := ("  ".toList ++ name.toList ++ ": ".toList).length) (t := text) hmore
        (by omega))
    have hindent : 3 ≤ RuleSet.textIndent ∧ RuleSet.textIndent < foldColumn := by decide
    have hplace' : 3 ≤ place + 1 := by omega
    have := follows_text t k (lineStart_name hkey.isName) (by decide) hindent.1 hindent.2 hplace' hrest
    simpa [RuleSet.textLine, fieldTokens, textToken, List.replicate] using this

theorem begins_record {fields : List Field} (hr : IsRecord fields) (hline : LineStart 0 rest)
    (h : Begins 0 rest 1 [0] out) :
    Begins 0 (recordLines fields ++ rest) 1 [0] (recordTokens fields ++ out) := by
  obtain ⟨hne, hkeys, -⟩ := hr
  obtain ⟨⟨name, text⟩, more, rfl⟩ := List.exists_cons_of_ne_nil hne
  obtain ⟨hkey, hmore⟩ := List.forall_mem_cons.1 hkeys
  obtain ⟨⟨c, w, hname⟩, -, -⟩ := isName_iff.1 hkey.isName
  have hstart : LineStart 2 (name.toList ++ w) := lineStart_name hkey.isName
  have hplace : 2 ≤ 2 + name.toList.length + 1 := by omega
  have hfields := follows_fields (k := ("- ".toList ++ name.toList ++ ": ".toList).length)
    (t := text) hmore hline hplace (begins_unwind hline (by decide) h)
  have hfirst := begins_name hkey.isName (by exact isGap_space) (.opens [0] (by decide)) hfields
  rw [hname] at hfirst hstart
  have := begins_entry (hstart.head c rfl) (by simpa using hstart.order) hfirst
  simpa [recordLines, recordTokens, RuleSet.textLine, fieldTokens, textToken, hname] using this

theorem lineStart_records {records : List (List Field)} (hr : ∀ fields ∈ records, IsRecord fields)
    (hline : LineStart 0 rest) : LineStart 0 (records.flatMap recordLines ++ rest) := by
  cases records with
  | nil => exact hline
  | cons fields records =>
    obtain ⟨⟨name, text⟩, more, rfl⟩ := List.exists_cons_of_ne_nil (hr fields List.mem_cons_self).ne_nil
    exact lineStart_entry

theorem begins_records {records : List (List Field)} (hr : ∀ fields ∈ records, IsRecord fields)
    (hline : LineStart 0 rest) (h : Begins 0 rest 1 [0] out) :
    Begins 0 (records.flatMap recordLines ++ rest) 1 [0] (records.flatMap recordTokens ++ out) := by
  induction records with
  | nil => exact h
  | cons fields records ih =>
    obtain ⟨hfields, hrecords⟩ := List.forall_mem_cons.1 hr
    rw [List.flatMap_cons, List.flatMap_cons, List.append_assoc, List.append_assoc]
    exact begins_record hfields (lineStart_records hrecords hline) (ih hrecords)

/-- A list of records under a name of the outermost block. -/
theorem begins_list (name : String) {records : List (List Field)} (hn : isName name.toList = true)
    (hr : ∀ fields ∈ records, IsRecord fields) (hline : LineStart 0 rest) (h : Begins 0 rest 1 [0] out) :
    Begins 0 (RuleSet.listLines name recordLines records ++ rest) 1 [0]
      (.key :: .scalar name.toList true :: .value :: listTokens records ++ out) := by
  cases hempty : records.isEmpty with
  | true =>
    have hplace : 1 ≤ 0 + name.toList.length + 1 + 2 := by omega
    have hbrackets := follows_brackets hplace fun place => follows_lineEnd hline h
    have := begins_name hn (by exact isGap_space) (.inside [0]) hbrackets
    simpa [RuleSet.listLines, listTokens, hempty] using this
  | false =>
    have := begins_name hn (by exact isGap_lineFeed) (.inside [0])
      (follows_lineEnd (lineStart_records hr hline) (begins_records hr hline h))
    simpa [RuleSet.listLines, listTokens, hempty] using this

end Lexing

/-! ## Nodes -/

def fieldNodes (field : Field) : Node × Node :=
  (.scalar .text field.1.toList, .scalar .text (readBack field.2))

def recordNode (number : Nat) (fields : List Field) : Node :=
  .mapping number .table (fields.map fieldNodes)

/-- The nodes of records, numbered from one on. -/
def recordNodes : (number : Nat) → List (List Field) → List Node
  | _, [] => []
  | number, fields :: records => recordNode number fields :: recordNodes (number + 1) records

namespace Reader

variable {reading : Reading} {rest : List Token} {token : Token} {fuel : Nat}

/-- A text that is read is a text by its form, as it stands plain only where it has that form. -/
theorem usualTag_text (t : Text) : usualTag (readBack t) (allowsPlain t) = .text := by
  cases h : allowsPlain t with
  | false => rfl
  | true =>
    have hback : readBack t = t := by simp [readBack, h]
    rw [hback]
    exact (allowsPlain_iff.1 h).1

theorem blockPairs_fields {fields : List Field} (hkeys : ∀ field ∈ fields, IsKey field.1)
    (h : reading.tokens = fields.flatMap fieldTokens ++ .blockEnd :: rest)
    (hf : reading.tokens.length < fuel) :
    (blockPairs fuel).run reading = .ok (fields.map fieldNodes, { reading with tokens := rest }) := by
  induction fields generalizing reading fuel with
  | nil =>
    obtain ⟨fuel, rfl⟩ := Nat.exists_eq_succ_of_ne_zero (Nat.ne_zero_of_lt hf)
    exact blockPairs_end h
  | cons field fields ih =>
    obtain ⟨hkey, hmore⟩ := List.forall_mem_cons.1 hkeys
    have htokens : reading.tokens = .key :: .scalar field.1.toList true :: .value ::
        textToken field.2 :: (fields.flatMap fieldTokens ++ .blockEnd :: rest) := h
    have hlen := congrArg List.length htokens
    simp only [List.length_cons] at hlen
    obtain ⟨fuel, rfl⟩ : ∃ more, fuel = more + 2 := ⟨fuel - 2, by omega⟩
    have hpairs := @ih { reading with tokens := fields.flatMap fieldTokens ++ .blockEnd :: rest }
      (fuel + 1) hmore rfl (by dsimp only; omega)
    have := blockPairs_pair htokens (by simp [textToken]) (node_scalar rfl) hpairs
    rw [this, usualTag_text, List.map_cons, fieldNodes]
    change Except.ok ((Node.scalar (Tag.ofForm field.1.toList) field.1.toList, _) :: _, _) = _
    rw [hkey.form]

theorem node_record {fields : List Field} (hr : IsRecord fields)
    (h : reading.tokens = .blockMapping :: fields.flatMap fieldTokens ++ .blockEnd :: rest)
    (hf : reading.tokens.length < fuel) :
    (node .block fuel).run reading = .ok (recordNode reading.collections fields,
      { reading with tokens := rest, collections := reading.collections + 1 }) := by
  obtain ⟨fuel, rfl⟩ := Nat.exists_eq_succ_of_ne_zero (Nat.ne_zero_of_lt hf)
  have hlen := congrArg List.length h
  simp only [List.cons_append, List.length_cons] at hlen
  have hpairs : (blockPairs fuel).run { reading with
      tokens := fields.flatMap fieldTokens ++ .blockEnd :: rest
      collections := reading.collections + 1 } = .ok (fields.map fieldNodes, { reading with
        tokens := rest, collections := reading.collections + 1 }) :=
    blockPairs_fields hr.keys rfl (by dsimp only; omega)
  exact node_mapping h (by decide) hpairs

theorem looseItems_records {records : List (List Field)} (hr : ∀ fields ∈ records, IsRecord fields)
    (h : reading.tokens = records.flatMap recordTokens ++ token :: rest) (ht : token ≠ .blockEntry)
    (hf : reading.tokens.length < fuel) :
    (looseItems fuel).run reading = .ok (recordNodes reading.collections records, { reading with
      tokens := token :: rest, collections := reading.collections + records.length }) := by
  induction records generalizing reading fuel with
  | nil =>
    obtain ⟨fuel, rfl⟩ := Nat.exists_eq_succ_of_ne_zero (Nat.ne_zero_of_lt hf)
    rw [looseItems_end h ht]
    have h' : reading.tokens = token :: rest := h
    obtain ⟨tokens, fault, handles, names, anchors, collections⟩ := reading
    subst h'
    rfl
  | cons fields records ih =>
    obtain ⟨hfields, hrecords⟩ := List.forall_mem_cons.1 hr
    obtain ⟨fuel, rfl⟩ := Nat.exists_eq_succ_of_ne_zero (Nat.ne_zero_of_lt hf)
    have htokens : reading.tokens = .blockEntry :: .blockMapping :: (fields.flatMap fieldTokens ++
        .blockEnd :: (records.flatMap recordTokens ++ token :: rest)) := by
      rw [h]
      simp [recordTokens]
    have hlen := congrArg List.length htokens
    simp only [List.length_cons, List.length_append] at hlen
    let mid := records.flatMap recordTokens ++ token :: rest
    have hitem : (node .block fuel).run { reading with
        tokens := .blockMapping :: (fields.flatMap fieldTokens ++ .blockEnd :: mid) } =
          .ok (recordNode reading.collections fields, { reading with
            tokens := mid, collections := reading.collections + 1 }) :=
      node_record hfields rfl (by
        simp only [mid, List.length_cons, List.length_append]
        omega)
    have hitems : (looseItems fuel).run { reading with
        tokens := mid, collections := reading.collections + 1 } =
          .ok (recordNodes (reading.collections + 1) records, { reading with
            tokens := token :: rest, collections := reading.collections + 1 + records.length }) :=
      ih hrecords rfl (by
        simp only [mid, List.length_cons, List.length_append]
        omega)
    rw [looseItems_item htokens (by simp) hitem hitems, recordNodes, List.length_cons, Nat.add_assoc,
      Nat.add_comm 1]

/-- The list of records behind a key. -/
theorem node_list {records : List (List Field)} (hr : ∀ fields ∈ records, IsRecord fields)
    (h : reading.tokens = listTokens records ++ token :: rest) (ht : token ≠ .blockEntry)
    (hf : reading.tokens.length < fuel) :
    (node .pairPart (fuel + 1)).run reading = .ok (.sequence reading.collections .list
      (recordNodes (reading.collections + 1) records), { reading with
        tokens := token :: rest, collections := reading.collections + 1 + records.length }) := by
  cases records with
  | nil =>
    obtain ⟨fuel, rfl⟩ := Nat.exists_eq_succ_of_ne_zero (Nat.ne_zero_of_lt hf)
    exact node_brackets h
  | cons fields records =>
    have htokens : reading.tokens = .blockEntry :: (.blockMapping :: fields.flatMap fieldTokens ++
        [.blockEnd] ++ (records.flatMap recordTokens ++ token :: rest)) := by
      rw [h]
      simp [listTokens, recordTokens]
    exact node_looseItems htokens (looseItems_records hr h ht hf)

/-- A list of records in a block, with the key before it. -/
theorem blockPairs_list {name : String} {records : List (List Field)} {pairs : List (Node × Node)}
    {last : Reading} (hn : IsKey name) (hr : ∀ fields ∈ records, IsRecord fields)
    (h : reading.tokens = .key :: .scalar name.toList true :: .value :: listTokens records ++
      token :: rest)
    (ht : token ≠ .blockEntry) (hf : reading.tokens.length < fuel)
    (hpairs : (blockPairs (fuel + 1)).run { reading with
      tokens := token :: rest, collections := reading.collections + 1 + records.length } =
        .ok (pairs, last)) :
    (blockPairs (fuel + 2)).run reading = .ok ((.scalar .text name.toList,
      .sequence reading.collections .list (recordNodes (reading.collections + 1) records)) :: pairs,
        last) := by
  obtain ⟨first, more, hlist, hfirst⟩ : ∃ first more, listTokens records = first :: more ∧
      first ∉ [.key, .value, .blockEnd] := by
    cases records with
    | nil => exact ⟨_, _, rfl, by decide⟩
    | cons fields records => exact ⟨_, _, rfl, by decide⟩
  have hkey : usualTag name.toList true = .text := hn.form
  rw [hlist] at h
  have hlen := congrArg List.length h
  simp only [List.cons_append, List.length_cons] at hlen
  have hvalue : (node .pairPart (fuel + 1)).run { reading with
      tokens := listTokens records ++ token :: rest } = .ok (.sequence reading.collections .list
        (recordNodes (reading.collections + 1) records), { reading with
          tokens := token :: rest, collections := reading.collections + 1 + records.length }) :=
    node_list hr rfl ht (by
      rw [hlist]
      simp only [List.cons_append, List.length_cons]
      omega)
  rw [hlist] at hvalue
  have := blockPairs_pair h hfirst hvalue hpairs
  rwa [hkey] at this

end Reader

end NameSlots.Yaml
