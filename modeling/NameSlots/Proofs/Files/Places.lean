import NameSlots.Files.Basic
import NameSlots.Proofs.Results
import NameSlots.Proofs.Table
import NameSlots.Proofs.Text.Lines
import NameSlots.Proofs.Text.Utf8

/-! Where paths lead when files are written, moved and dropped. Directories stay directories, so a
path that has led to a place leads there still. -/
namespace NameSlots

namespace Path

/-- The path of something in a directory. -/
def child (path : Path) (name : Text) : Path := { path with names := path.names ++ [name] }

variable {p q : Path} {name other : Text}

/-- What leads to a path is what its names start with. -/
theorem mem_chain : p ∈ q.chain ↔ p.absolute = q.absolute ∧ p.names <+: q.names := by
  unfold chain
  rw [List.mem_map]
  constructor
  · rintro ⟨n, -, rfl⟩
    exact ⟨rfl, List.take_prefix n q.names⟩
  · rintro ⟨ha, hp⟩
    refine ⟨p.names.length, List.mem_range.2 (Nat.lt_succ_of_le hp.length_le), ?_⟩
    rw [← List.prefix_iff_eq_take.1 hp, ← ha]

theorem self_mem_chain (p : Path) : p ∈ p.chain := mem_chain.2 ⟨rfl, List.prefix_rfl⟩

theorem mem_chain_child : p ∈ (q.child name).chain ↔ p = q.child name ∨ p ∈ q.chain := by
  rw [mem_chain, mem_chain]
  change _ ∧ p.names <+: q.names ++ [name] ↔ _
  rw [List.prefix_concat_iff]
  constructor
  · rintro ⟨ha, hp | hp⟩
    · refine Or.inl ?_
      cases p
      simp_all [child]
    · exact Or.inr ⟨ha, hp⟩
  · rintro (rfl | ⟨ha, hp⟩)
    · exact ⟨rfl, Or.inl rfl⟩
    · exact ⟨ha, Or.inr hp⟩

theorem chain_child (path : Path) (name : Text) :
    (path.child name).chain = path.chain ++ [path.child name] := by
  have hfront : (List.range (path.names.length + 1)).map
      (fun n => { path with names := (path.names ++ [name]).take n }) = path.chain := by
    refine List.map_congr_left fun n hn => ?_
    rw [List.take_append_of_le_length (Nat.lt_succ_iff.1 (List.mem_range.1 hn))]
  have hlength : (path.child name).names.length + 1 = path.names.length + 1 + 1 := by simp [Path.child]
  rw [chain, hlength, List.range_succ, List.map_append]
  refine congrArg₂ _ hfront ?_
  simp [Path.child, List.take_of_length_le]

theorem child_inj (h : q.child name = q.child other) : name = other := by
  have hnames : q.names ++ [name] = q.names ++ [other] := congrArg Path.names h
  simpa using hnames

/-- Of two names in one directory neither leads to the other. -/
theorem child_not_mem_chain (h : name ≠ other) : q.child name ∉ (q.child other).chain := by
  intro hm
  rcases mem_chain_child.1 hm with he | hm
  · exact h (child_inj he)
  · have hl := (mem_chain.1 hm).2.length_le
    simp only [child, List.length_append, List.length_singleton] at hl
    omega

end Path

/-- The content of a file. -/
def Entry.content? : Entry → Option Bytes
  | .file content => some content
  | .directory => none

namespace Files

variable {files after : Files} {path place dir : Path} {entry : Entry} {name : Text}

/-- Whether something is at a path or below it. -/
def Reaches (files : Files) (path : Path) : Prop := ∃ entry ∈ files.entries, path ∈ entry.1.chain

theorem entryAt?_of_lookup (h : files.entries.lookup path = some entry) :
    files.entryAt? path = some entry := by
  simp only [entryAt?, h]

theorem any_eq_true_iff :
    (files.entries.any fun (other, _) => path ∈ other.chain) = true ↔ files.Reaches path := by
  simp only [List.any_eq_true, decide_eq_true_eq, Reaches]

/-- Where nothing stands there is a directory if something is below. -/
theorem entryAt?_of_none (h : files.entries.lookup path = none) :
    files.entryAt? path = some .directory ↔ path.names = [] ∨ files.Reaches path := by
  rw [← any_eq_true_iff, ← List.isEmpty_iff, ← Bool.or_eq_true]
  simp only [entryAt?, h]
  split
  · next hd => simp only [hd]
  · next hd => simp [hd]

theorem lookup_ne_file (h : files.entryAt? path = some .directory) {content : Bytes} :
    files.entries.lookup path ≠ some (.file content) := by
  intro hl
  rw [entryAt?_of_lookup hl] at h
  cases h

/-! ## Directories that stay -/

/-- Every directory is one afterwards. -/
def Keeps (files after : Files) : Prop :=
  ∀ path, files.entryAt? path = some .directory → after.entryAt? path = some .directory

theorem Keeps.rfl : files.Keeps files := fun _ h => h

theorem Keeps.trans {last : Files} (h : files.Keeps after) (h' : after.Keeps last) :
    files.Keeps last := fun path hp => h' path (h path hp)

theorem follow_append (files : Files) (at_ : Path) (names more : List Text) :
    files.follow at_ (names ++ more) =
      files.follow at_ names >>= fun place => files.follow place more := by
  induction names generalizing at_ with
  | nil => exact rfl
  | cons name names ih =>
    simp only [List.cons_append, follow]
    split
    · exact rfl
    · exact rfl
    · split <;> exact ih _

/-- A path leads where it led as long as directories stay. -/
theorem Keeps.follow (h : files.Keeps after) {at_ : Path} {names : List Text}
    (hf : files.follow at_ names = .ok place) : after.follow at_ names = .ok place := by
  induction names generalizing at_ with
  | nil => exact hf
  | cons name names ih =>
    unfold Files.follow at hf ⊢
    cases hd : files.entryAt? at_ with
    | none => simp [hd] at hf
    | some entry =>
      cases entry with
      | file content => simp [hd] at hf
      | directory =>
        rw [hd] at hf
        rw [h at_ hd]
        dsimp only at hf ⊢
        split at hf
        · next hu =>
          rw [if_pos hu]
          exact ih hf
        · next hu =>
          rw [if_neg hu]
          exact ih hf

theorem Keeps.locate (h : files.Keeps after) (hl : files.locate path = .ok place) :
    after.locate path = .ok place := h.follow hl

/-- What leads to a place, but for the place itself, are directories. -/
theorem follow_above {at_ : Path} {names : List Text} (hf : files.follow at_ names = .ok place)
    (ha : ∀ p ∈ at_.chain, p ≠ at_ → files.entryAt? p = some .directory) :
    ∀ p ∈ place.chain, p ≠ place → files.entryAt? p = some .directory := by
  induction names generalizing at_ with
  | nil =>
    obtain rfl := Except.ok.inj hf
    exact ha
  | cons name names ih =>
    unfold follow at hf
    cases hd : files.entryAt? at_ with
    | none => simp [hd] at hf
    | some entry =>
      cases entry with
      | file content => simp [hd] at hf
      | directory =>
        rw [hd] at hf
        dsimp only at hf
        have hall : ∀ p ∈ at_.chain, files.entryAt? p = some .directory := by
          intro p hp
          by_cases he : p = at_
          · rw [he, hd]
          · exact ha p hp he
        split at hf
        · refine ih hf fun p hp _ => hall p ?_
          obtain ⟨hab, hpre⟩ := Path.mem_chain.1 hp
          exact Path.mem_chain.2 ⟨hab, hpre.trans (List.dropLast_prefix _)⟩
        · refine ih hf fun p hp hne => hall p ?_
          exact (Path.mem_chain_child.1 hp).resolve_left hne

theorem locate_above (hl : files.locate path = .ok place) :
    ∀ p ∈ place.chain, p ≠ place → files.entryAt? p = some .directory := by
  refine follow_above hl fun p hp hne => ?_
  obtain ⟨ha, hpre⟩ := Path.mem_chain.1 hp
  refine (hne ?_).elim
  cases p
  simp_all

/-- A name after a path leads into the directory that the path leads to. -/
theorem locate_child (hl : files.locate path = .ok dir) (hd : files.entryAt? dir = some .directory)
    (hn : name ≠ Path.up) : files.locate (path.child name) = .ok (dir.child name) := by
  change files.follow _ (path.names ++ [name]) = _
  rw [follow_append]
  refine bind_eq_ok.2 ⟨dir, hl, ?_⟩
  rw [follow, hd]
  dsimp only
  rw [if_neg hn]
  rfl

/-- A name beside a path leads into the directory of the path. -/
theorem locate_sibling (hl : files.locate path.parent = .ok dir)
    (hd : files.entryAt? dir = some .directory) (hn : name ≠ Path.up) :
    files.locate (path.sibling name) = .ok (dir.child name) := locate_child hl hd hn

/-! ## Entries that change -/

theorem lookup_put (files : Files) (place : Path) (entry : Entry) (path : Path) :
    (files.put place entry).entries.lookup path =
      if path = place then some entry else files.entries.lookup path :=
  Table.lookup_put ..

theorem lookup_drop (files : Files) (place path : Path) : (files.drop place).entries.lookup path =
    if path = place then none else files.entries.lookup path :=
  Table.lookup_drop ..

theorem entryAt?_put_self (files : Files) (place : Path) (entry : Entry) :
    (files.put place entry).entryAt? place = some entry :=
  entryAt?_of_lookup (by rw [lookup_put, if_pos rfl])

theorem reaches_put : (files.put place entry).Reaches path ↔
    files.Reaches path ∨ path ∈ place.chain := by
  have hkeys := Table.keys_put place entry files.entries
  have hmem (p : Path) : p ∈ (files.put place entry).entries.map Prod.fst ↔
      p ∈ files.entries.map Prod.fst ∨ p = place := by
    change p ∈ (Table.put place entry files.entries).map Prod.fst ↔ _
    rw [hkeys]
    split
    · next hm =>
      constructor
      · exact Or.inl
      · rintro (h | rfl)
        · exact h
        · exact hm
    · simp
  have hreaches (files : Files) :
      files.Reaches path ↔ ∃ p ∈ files.entries.map Prod.fst, path ∈ p.chain := by
    simp [Reaches]
  rw [hreaches, hreaches]
  constructor
  · rintro ⟨p, hp, hc⟩
    rcases (hmem p).1 hp with hp | rfl
    · exact Or.inl ⟨p, hp, hc⟩
    · exact Or.inr hc
  · rintro (⟨p, hp, hc⟩ | hc)
    · exact ⟨p, (hmem p).2 (Or.inl hp), hc⟩
    · exact ⟨place, (hmem place).2 (Or.inr rfl), hc⟩

theorem entryAt?_put_of_not_mem (h : path ∉ place.chain) :
    (files.put place entry).entryAt? path = files.entryAt? path := by
  have hne : path ≠ place := by
    rintro rfl
    exact h (Path.self_mem_chain path)
  have hlookup := lookup_put files place entry path
  rw [if_neg hne] at hlookup
  have hiff : (files.put place entry).Reaches path ↔ files.Reaches path ∨ path ∈ place.chain :=
    reaches_put
  simp only [h, or_false] at hiff
  cases hl : files.entries.lookup path with
  | some found =>
    rw [entryAt?_of_lookup (hlookup.trans hl), entryAt?_of_lookup hl]
  | none =>
    simp only [← any_eq_true_iff] at hiff
    simp only [entryAt?, hlookup, hl, Bool.eq_iff_iff.2 hiff]

/-- Where a file is put there is no directory that was none, as those above it were there. -/
theorem entryAt?_of_put_file {content : Bytes}
    (ha : ∀ p ∈ place.chain, p ≠ place → files.entryAt? p = some .directory)
    (h : (files.put place (.file content)).entryAt? path = some .directory) :
    files.entryAt? path = some .directory := by
  by_cases hm : path ∈ place.chain
  · refine ha path hm ?_
    rintro rfl
    rw [entryAt?_put_self] at h
    cases h
  · rwa [entryAt?_put_of_not_mem hm] at h

/-- Directories are kept where nothing comes or goes but at one place, which is none of them, and where
what stood below a directory still has something below it. -/
theorem keeps_of_lookup (h : files.entryAt? place ≠ some .directory)
    (hlookup : ∀ path, path ≠ place → after.entries.lookup path = files.entries.lookup path)
    (hreaches : ∀ path, path ≠ place → files.Reaches path → after.Reaches path) : files.Keeps after := by
  intro path hp
  have hne : path ≠ place := by
    rintro rfl
    exact h hp
  cases hl : files.entries.lookup path with
  | some found =>
    rw [entryAt?_of_lookup hl] at hp
    rw [entryAt?_of_lookup ((hlookup path hne).trans hl), hp]
  | none =>
    rw [entryAt?_of_none ((hlookup path hne).trans hl)]
    exact ((entryAt?_of_none hl).1 hp).imp_right (hreaches path hne)

theorem keeps_put (entry : Entry) (h : files.entryAt? place ≠ some .directory) :
    files.Keeps (files.put place entry) :=
  keeps_of_lookup h (fun path hne => by rw [lookup_put, if_neg hne])
    fun _ _ hr => reaches_put.2 (Or.inl hr)

/-- A file is dropped, and something else is in its directory. -/
theorem keeps_drop {other : Text} (h : files.entryAt? (dir.child name) ≠ some .directory)
    (hl : files.entries.lookup (dir.child other) = some entry) (hne : name ≠ other) :
    files.Keeps (files.drop (dir.child name)) := by
  have hother : (dir.child other, entry) ∈ (files.drop (dir.child name)).entries := by
    refine List.mem_filter.2 ⟨Table.mem_of_lookup hl, ?_⟩
    rw [bne_iff_ne]
    exact fun he => hne (Path.child_inj he).symm
  refine keeps_of_lookup h (fun path hnot => by rw [lookup_drop, if_neg hnot]) ?_
  rintro path hnot ⟨found, hf, hc⟩
  by_cases he : found.1 = dir.child name
  · rw [he] at hc
    have hin := (Path.mem_chain_child.1 hc).resolve_left hnot
    exact ⟨_, hother, Path.mem_chain_child.2 (Or.inr hin)⟩
  · exact ⟨found, List.mem_filter.2 ⟨hf, bne_iff_ne.2 he⟩, hc⟩

/-! ## Contents -/

/-- The content of the file at a place. -/
def content? (files : Files) (place : Path) : Option Bytes :=
  (files.entries.lookup place).bind Entry.content?

theorem content?_eq_some {content : Bytes} :
    files.content? place = some content ↔ files.entryAt? place = some (.file content) := by
  unfold content?
  cases hl : files.entries.lookup place with
  | some entry =>
    rw [entryAt?_of_lookup hl]
    cases entry <;> simp [Entry.content?]
  | none =>
    simp only [entryAt?, hl]
    split <;> simp

theorem content?_eq_none (h : ∀ content, files.entryAt? place ≠ some (.file content)) :
    files.content? place = none :=
  Option.eq_none_iff_forall_ne_some.2 fun content hc => h content (content?_eq_some.1 hc)

theorem content?_put (files : Files) (place : Path) (entry : Entry) (path : Path) :
    (files.put place entry).content? path =
      if path = place then entry.content? else files.content? path := by
  unfold content?
  rw [lookup_put]
  by_cases h : path = place <;> simp [h]

theorem content?_drop (files : Files) (place path : Path) :
    (files.drop place).content? path = if path = place then none else files.content? path := by
  unfold content?
  rw [lookup_drop]
  by_cases h : path = place <;> simp [h]

/-- Files with the same contents at the same places. -/
def SameContents (files after : Files) : Prop := ∀ place, after.content? place = files.content? place

theorem SameContents.rfl : files.SameContents files := fun _ => Eq.refl _

theorem SameContents.trans {last : Files} (h : files.SameContents after) (h' : after.SameContents last) :
    files.SameContents last := fun place => (h' place).trans (h place)

theorem sameContents_put_directory (h : files.entryAt? place = none) :
    files.SameContents (files.put place .directory) := by
  intro path
  rw [content?_put]
  split
  · next he =>
    subst he
    exact (content?_eq_none (by simp [h])).symm
  · exact Eq.refl _

/-! ## Nothing below a file -/

/-- Files and directories of which no file has anything below it. -/
def Tree (files : Files) : Prop :=
  ∀ entry ∈ files.entries, ∀ path ∈ entry.1.chain, path ≠ entry.1 →
    ∀ content, files.entries.lookup path ≠ some (.file content)

theorem Tree.put (h : files.Tree) (entry : Entry)
    (hp : files.entryAt? place ≠ some .directory)
    (ha : ∀ p ∈ place.chain, p ≠ place → files.entryAt? p = some .directory) :
    (files.put place entry).Tree := by
  intro found hf path hc hne content
  rw [lookup_put]
  have hfound : found.1 = place ∨ found ∈ files.entries :=
    (Table.mem_put hf).imp_left fun he => congrArg Prod.fst he
  split
  · next he =>
    subst he
    rcases hfound with rfl | hm
    · exact (hne rfl).elim
    · -- what is below the place makes a directory of it, unless a file stood there
      intro _
      cases hl : files.entries.lookup path with
      | none => exact hp ((entryAt?_of_none hl).2 (Or.inr ⟨found, hm, hc⟩))
      | some stands =>
        cases stands with
        | directory => exact hp (entryAt?_of_lookup hl)
        | file content => exact h found hm path hc hne content hl
  · rcases hfound with rfl | hm
    · exact lookup_ne_file (ha path hc hne)
    · exact h found hm path hc hne content

theorem Tree.drop (h : files.Tree) : (files.drop place).Tree := by
  intro found hf path hc hne content
  rw [lookup_drop]
  split
  · simp
  · exact h found (List.mem_filter.1 hf).1 path hc hne content

/-- Where a file was dropped there is nothing. -/
theorem Tree.entryAt?_drop (h : files.Tree) {content : Bytes} (hn : place.names ≠ [])
    (hl : files.entries.lookup place = some (.file content)) :
    (files.drop place).entryAt? place = none := by
  have hlookup := lookup_drop files place place
  rw [if_pos rfl] at hlookup
  have hnot : ¬ (files.drop place).Reaches place := by
    rintro ⟨found, hf, hc⟩
    obtain ⟨hm, hne⟩ := List.mem_filter.1 hf
    exact h found hm place hc (Ne.symm (by simpa using hne)) content hl
  rw [← any_eq_true_iff, Bool.not_eq_true] at hnot
  simp [entryAt?, hlookup, hn, hnot]

/-! ## Writing and moving -/

theorem write_eq_ok {content : Bytes} : files.write path content = .ok after ↔
    ∃ place, files.locate path = .ok place ∧ files.entryAt? place ≠ some .directory ∧
      after = files.put place (.file content) := by
  unfold write
  rw [bind_eq_ok]
  refine exists_congr fun place => and_congr_right fun _ => ?_
  split
  · next hd => simp [hd]
  · next hd =>
    constructor
    · intro h
      exact ⟨hd, (Except.ok.inj h).symm⟩
    · rintro ⟨-, rfl⟩
      rfl

theorem move_eq_ok {source target : Path} : files.move source target = .ok after ↔
    ∃ content start place, files.read source = .ok content ∧ files.locate source = .ok start ∧
      files.locate target = .ok place ∧ files.entryAt? place ≠ some .directory ∧
      after = if start = place then files.put place (.file content)
        else (files.put place (.file content)).drop start := by
  unfold move
  simp only [bind_eq_ok, write_eq_ok, Except.ok.injEq]
  constructor
  · rintro ⟨content, hr, start, hs, place, hp, moved, ⟨place', hp', hd, rfl⟩, h⟩
    obtain rfl : place = place' := Except.ok.inj (hp.symm.trans hp')
    exact ⟨content, start, place, hr, hs, hp, hd, h.symm⟩
  · rintro ⟨content, start, place, hr, hs, hp, hd, h⟩
    exact ⟨content, hr, start, hs, place, hp, _, ⟨place, hp, hd, rfl⟩, h.symm⟩

/-- The files after a file was written under one name in a directory and moved to another one. -/
def moved (files : Files) (dir : Path) (draft name : Text) (content : Bytes) : Files :=
  ((files.put (dir.child draft) (.file content)).put (dir.child name) (.file content)).drop
    (dir.child draft)

theorem content?_moved (files : Files) (dir : Path) (draft name : Text) (content : Bytes) (place : Path) :
    (files.moved dir draft name content).content? place =
      if place = dir.child draft then none
      else if place = dir.child name then some content else files.content? place := by
  unfold moved
  rw [content?_drop, content?_put, content?_put]
  by_cases h : place = dir.child draft
  · rw [if_pos h, if_pos h]
  · rw [if_neg h, if_neg h, if_neg h]
    rfl

/-- Moving a file in a directory leaves nothing of its draft. -/
theorem moved_spec {draft : Text} (content : Bytes) (ht : files.Tree)
    (ha : ∀ p ∈ dir.chain, files.entryAt? p = some .directory) (hne : draft ≠ name)
    (hd : files.entryAt? (dir.child draft) ≠ some .directory)
    (hn : files.entryAt? (dir.child name) ≠ some .directory) :
    files.Keeps (files.moved dir draft name content) ∧
      (files.moved dir draft name content).Tree ∧
      (files.moved dir draft name content).entryAt? (dir.child name) = some (.file content) ∧
      (files.moved dir draft name content).entryAt? (dir.child draft) = none := by
  have habove (name : Text) : ∀ p ∈ (dir.child name).chain, p ≠ dir.child name →
      files.entryAt? p = some .directory :=
    fun p hp he => ha p ((Path.mem_chain_child.1 hp).resolve_left he)
  have hkeeps := keeps_put (.file content) hd
  have htree := ht.put (.file content) hd (habove draft)
  have hfree : (files.put (dir.child draft) (.file content)).entryAt? (dir.child name) =
      files.entryAt? (dir.child name) :=
    entryAt?_put_of_not_mem (Path.child_not_mem_chain hne.symm)
  rw [← hfree] at hn
  have hkeeps' := keeps_put (.file content) hn
  have htree' := htree.put (.file content) hn
    fun p hp he => hkeeps p (habove name p hp he)
  have hother : dir.child draft ≠ dir.child name := fun he => hne (Path.child_inj he)
  have hdraft : ((files.put (dir.child draft) (.file content)).put (dir.child name)
      (.file content)).entries.lookup (dir.child draft) = some (.file content) := by
    rw [lookup_put, if_neg hother, lookup_put, if_pos rfl]
  have hplace : ((files.put (dir.child draft) (.file content)).put (dir.child name)
      (.file content)).entries.lookup (dir.child name) = some (.file content) := by
    rw [lookup_put, if_pos rfl]
  have hkeeps'' := keeps_drop (by simp [entryAt?_of_lookup hdraft]) hplace hne
  refine ⟨hkeeps.trans (hkeeps'.trans hkeeps''), htree'.drop, ?_, ?_⟩
  · apply entryAt?_of_lookup
    unfold moved
    rw [lookup_drop, if_neg hother.symm, hplace]
  · exact htree'.entryAt?_drop (by simp [Path.child]) hdraft

/-! ## Making directories -/

theorem makeAll_spec {paths : List Path} (h : files.makeAll paths = .ok after) :
    files.Keeps after ∧ (files.Tree → after.Tree) ∧
      ∀ path ∈ paths, ∃ place, after.locate path = .ok place ∧
        after.entryAt? place = some .directory := by
  induction paths generalizing files with
  | nil =>
    obtain rfl := Except.ok.inj h
    exact ⟨Keeps.rfl, id, by simp⟩
  | cons path paths ih =>
    rw [makeAll] at h
    obtain ⟨place, hl, h⟩ := bind_eq_ok.1 h
    cases he : files.entryAt? place with
    | none =>
      rw [he] at h
      obtain ⟨hk, ht, hall⟩ := ih h
      have hput : files.Keeps (files.put place .directory) := keeps_put _ (by simp [he])
      refine ⟨hput.trans hk, fun h => ht (h.put _ (by simp [he]) (locate_above hl)), ?_⟩
      exact List.forall_mem_cons.2 ⟨⟨place, (hput.trans hk).locate hl,
        hk place (entryAt?_put_self ..)⟩, hall⟩
    | some entry =>
      cases entry with
      | file content => simp [he] at h
      | directory =>
        rw [he] at h
        obtain ⟨hk, ht, hall⟩ := ih h
        exact ⟨hk, ht, List.forall_mem_cons.2 ⟨⟨place, hk.locate hl, hk place he⟩, hall⟩⟩

/-- Making directories changes no file. -/
theorem makeAll_sameContents {paths : List Path} (h : files.makeAll paths = .ok after) :
    files.SameContents after := by
  induction paths generalizing files with
  | nil =>
    obtain rfl := Except.ok.inj h
    exact SameContents.rfl
  | cons path paths ih =>
    rw [makeAll] at h
    obtain ⟨place, -, h⟩ := bind_eq_ok.1 h
    cases he : files.entryAt? place with
    | none =>
      rw [he] at h
      exact (sameContents_put_directory he).trans (ih h)
    | some entry =>
      cases entry with
      | file content => simp [he] at h
      | directory =>
        rw [he] at h
        exact ih h

theorem makeAll_append {front rest : List Path} (h : files.makeAll front = .ok mid) :
    files.makeAll (front ++ rest) = mid.makeAll rest := by
  induction front generalizing files with
  | nil => rw [← Except.ok.inj h, List.nil_append]
  | cons path front ih =>
    rw [makeAll] at h
    obtain ⟨place, hl, h⟩ := bind_eq_ok.1 h
    cases he : files.entryAt? place with
    | none =>
      rw [he] at h
      simpa [makeAll, hl, he, bind, Except.bind] using ih h
    | some entry =>
      cases entry with
      | file content => simp [he] at h
      | directory =>
        rw [he] at h
        simpa [makeAll, hl, he, bind, Except.bind] using ih h

/-- Where all directories are there, none is made. -/
theorem makeAll_self {paths : List Path} (h : ∀ path ∈ paths, ∃ place,
    files.locate path = .ok place ∧ files.entryAt? place = some .directory) :
    files.makeAll paths = .ok files := by
  induction paths with
  | nil => rfl
  | cons path paths ih =>
    obtain ⟨⟨place, hl, hd⟩, hall⟩ := List.forall_mem_cons.1 h
    rw [makeAll]
    refine bind_eq_ok.2 ⟨place, hl, ?_⟩
    rw [hd]
    exact ih hall

/-! ## Reading -/

variable {content : Bytes} {text : Text}

theorem look?_of_locate (hl : files.locate path = .ok place) :
    files.look? path = files.entryAt? place := by
  simp only [look?, hl]

theorem read_of_look? (h : files.look? path = some (.file content)) :
    files.read path = .ok content := by
  unfold look? at h
  split at h
  · next hl => exact bind_eq_ok.2 ⟨_, hl, by rw [h]⟩
  · simp at h

theorem read_of_directory (h : files.look? path = some .directory) :
    files.read path = .error .isDirectory := by
  unfold look? at h
  split at h
  · next place hl =>
    unfold read
    rw [hl]
    simp [bind, Except.bind, h]
  · simp at h

/-- A text is read as it was written, but for its line ends. -/
theorem readText_of_look? (h : files.look? path = some (.file (Utf8.encode text))) :
    files.readText path = .ok (Text.unifyLineEnds text) := by
  unfold readText
  refine bind_eq_ok.2 ⟨_, read_of_look? h, ?_⟩
  rw [Utf8.decode_encode]

theorem look?_of_stat? {written : Text} {content : Bytes}
    (h : files.stat? written = some (.file content)) :
    files.look? (Path.ofText written) = some (.file content) := by
  unfold stat? at h
  split at h
  · simp at h
  · split at h
    · next found hlook =>
      dsimp only at h
      split at h
      · simp at h
      · rw [hlook, h]
    · exact h

theorem locate_of_look? {entry : Entry} (h : files.look? path = some entry) :
    ∃ place, files.locate path = .ok place := by
  unfold look? at h
  split at h
  · next place hl => exact ⟨place, hl⟩
  · simp at h

/-- A file whose place has the content it had is there still. -/
theorem look?_of_content? (hk : files.Keeps after) (hl : files.locate path = .ok place)
    (h : files.look? path = some (.file content)) (hc : after.content? place = files.content? place) :
    after.look? path = some (.file content) := by
  rw [look?_of_locate hl] at h
  rw [look?_of_locate (hk.locate hl)]
  rw [content?_eq_some.2 h] at hc
  exact content?_eq_some.1 hc

/-! ## Paths without names that lead up -/

theorem locate_plain (hp : Path.up ∉ path.names) (hl : files.locate path = .ok place) : place = path := by
  have hfollow : ∀ (names : List Text) (start : Path), Path.up ∉ names →
      files.follow start names = .ok place → place = { start with names := start.names ++ names } := by
    intro names
    induction names with
    | nil =>
      intro start _ h
      rw [← Except.ok.inj h, List.append_nil]
    | cons name names ih =>
      intro start hup h
      rw [List.mem_cons, not_or] at hup
      unfold follow at h
      split at h
      · cases h
      · cases h
      · rw [if_neg (Ne.symm hup.1)] at h
        rw [ih _ hup.2 h, List.append_assoc, List.singleton_append]
  exact hfollow path.names { path with names := [] } hp hl

/-- Names of which none leads up lead through the directories that they name. -/
theorem follow_plain {start : Path} {names : List Text} (hp : Path.up ∉ names)
    (hd : ∀ n < names.length,
      files.entryAt? { start with names := start.names ++ names.take n } = some .directory) :
    files.follow start names = .ok { start with names := start.names ++ names } := by
  induction names generalizing start with
  | nil => rw [follow, List.append_nil]
  | cons name names ih =>
    rw [List.mem_cons, not_or] at hp
    have hstart : files.entryAt? start = some .directory := by
      simpa using hd 0 (Nat.succ_pos _)
    unfold follow
    rw [hstart]
    dsimp only
    rw [if_neg (Ne.symm hp.1), ih hp.2, List.append_assoc, List.singleton_append]
    intro n hn
    simpa using hd (n + 1) (Nat.succ_lt_succ hn)

/-- What leads to an entry are directories. -/
theorem Tree.above {found : Path × Entry} (ht : files.Tree) (hm : found ∈ files.entries)
    (hc : path ∈ found.1.chain) (hne : path ≠ found.1) : files.entryAt? path = some .directory := by
  cases hl : files.entries.lookup path with
  | none => exact (entryAt?_of_none hl).2 (.inr ⟨found, hm, hc⟩)
  | some stands =>
    cases stands with
    | directory => exact entryAt?_of_lookup hl
    | file content => exact (ht found hm path hc hne content hl).elim

/-- What stands at a path of which no name leads up is found there. -/
theorem look?_plain (ht : files.Tree) (hp : Path.up ∉ path.names)
    (h : files.entryAt? path = some entry) : files.look? path = some entry := by
  have hreaches : path.names = [] ∨ files.Reaches path := by
    cases hl : files.entries.lookup path with
    | some found => exact .inr ⟨_, Table.mem_of_lookup hl, Path.self_mem_chain path⟩
    | none =>
      have hdir : files.entryAt? path = some .directory := by
        simp only [entryAt?, hl] at h ⊢
        grind
      exact (entryAt?_of_none hl).1 hdir
  have hlocate : files.locate path = .ok path := by
    refine follow_plain hp fun n hn => ?_
    rcases hreaches with hnil | ⟨found, hm, hc⟩
    · simp [hnil] at hn
    · obtain ⟨habs, hstart⟩ := Path.mem_chain.1 hc
      refine ht.above hm (Path.mem_chain.2 ⟨habs, (List.take_prefix n _).trans hstart⟩) fun he => ?_
      have hlength := hstart.length_le
      rw [← he, List.nil_append, List.length_take] at hlength
      omega
  rw [look?_of_locate hlocate, h]

/-- Making directories makes nothing at a path that is on the way to none of them. -/
theorem entryAt?_makeAll {paths : List Path} (h : files.makeAll paths = .ok after)
    (hp : ∀ other ∈ paths, Path.up ∉ other.names ∧ path ∉ other.chain) :
    after.entryAt? path = files.entryAt? path := by
  induction paths generalizing files with
  | nil => rw [Except.ok.inj h]
  | cons other paths ih =>
    obtain ⟨⟨hup, hother⟩, hrest⟩ := List.forall_mem_cons.1 hp
    rw [makeAll] at h
    obtain ⟨place, hl, hmade⟩ := bind_eq_ok.1 h
    rw [locate_plain hup hl] at hmade
    split at hmade
    · exact ih hmade hrest
    · cases hmade
    · rw [ih hmade hrest, entryAt?_put_of_not_mem hother]

end Files

end NameSlots
