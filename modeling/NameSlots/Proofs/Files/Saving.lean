import NameSlots.Files.Atomic
import NameSlots.Proofs.Files.Action
import NameSlots.Proofs.Files.Places

/-! A file that is written beside its place and moved there is in its place, and can be written again. -/
namespace NameSlots

namespace Files

variable {path dir : Path} {draft : Text} {files made drafted after : Files} {content : Bytes}

/-- Files in which the directory of a path is there and nothing stands in the way of it, nor of a draft
beside it. -/
structure Ready (target : Path) (beside : Text) (files : Files) (dir : Path) : Prop where
  tree : files.Tree
  ways : ∀ path ∈ target.parent.chain, ∃ place, files.locate path = .ok place ∧
    files.entryAt? place = some .directory
  home : files.locate target.parent = .ok dir
  directory : files.entryAt? dir = some .directory
  path : target = target.sibling target.name
  name : target.name ≠ Path.up
  place : files.entryAt? (dir.child target.name) ≠ some .directory
  draft : files.entryAt? (dir.child beside) ≠ some .directory

/-- A path without a name, or with one that leads up, leads to a directory. -/
theorem locate_up (hw : ∀ above ∈ path.parent.chain, ∃ place, files.locate above = .ok place ∧
      files.entryAt? place = some .directory) {place : Path}
    (hl : files.locate path = .ok place)
    (h : path.names = [] ∨ path.name = Path.up) :
    files.entryAt? place = some .directory := by
  obtain ⟨dir, hdir, hd⟩ := hw _ (Path.self_mem_chain _)
  rcases List.eq_nil_or_concat path.names with hn | ⟨names, name, hn⟩
  · have hpath : path.parent = path := by
      unfold Path.parent
      rw [hn]
      exact (congrArg (fun names => { path with names }) hn).symm
    rw [hpath, hl] at hdir
    rw [Except.ok.inj hdir, hd]
  · rw [List.concat_eq_append] at hn
    have hup : name = Path.up := by
      rcases h with h | h
      · simp [h] at hn
      · simpa [Path.name, hn] using h
    have hparent : path.parent = { path with names } := by
      simp [Path.parent, hn]
    unfold Files.locate at hl hdir
    rw [hn, Files.follow_append] at hl
    rw [hparent] at hdir
    obtain ⟨mid, hmid, hl⟩ := bind_eq_ok.1 hl
    rw [hdir] at hmid
    obtain rfl := Except.ok.inj hmid
    rw [Files.follow, hd, hup] at hl
    obtain rfl : dir.parent = place := by simpa [Files.follow] using hl
    by_cases hroot : dir.parent = dir
    · rw [hroot, hd]
    · have hin : dir.parent ∈ dir.chain :=
        Path.mem_chain.2 ⟨rfl, List.dropLast_prefix _⟩
      have hdir : files.locate { path with names } = .ok dir := hdir
      exact Files.locate_above hdir _ hin hroot

/-- Where a directory is there a path in it leads somewhere. -/
theorem locate_of_parent (hl : files.locate path.parent = .ok dir)
    (hd : files.entryAt? dir = some .directory) : ∃ place, files.locate path = .ok place := by
  rcases List.eq_nil_or_concat path.names with hn | ⟨names, name, hn⟩
  · exact ⟨{ path with names := [] }, by unfold Files.locate; rw [hn]; rfl⟩
  · have hpath : path = path.parent.child name := by
      obtain ⟨absolute, _⟩ := path
      simp_all [Path.parent, Path.child]
    have hfollow : files.locate path = files.follow dir [name] := by
      change files.follow _ path.names = _
      rw [hn, List.concat_eq_append, follow_append]
      have hparent : files.follow { path with names := [] } names = .ok dir := by
        have hnames : path.parent.names = names := by simp [Path.parent, hn]
        rw [← hnames]
        exact hl
      rw [hparent]
      rfl
    rw [hfollow]
    unfold follow
    rw [hd]
    by_cases hup : name = Path.up
    · exact ⟨dir.parent, by simp [hup, follow]⟩
    · exact ⟨dir.child name, by simp [hup, follow, Path.child]⟩

/-- Where no directory stands at a path, once those on the way to it are made, nothing stands in the way
of a file. -/
theorem ready_of_made (ht : files.Tree) (hmake : files.makeDirectory path.parent = .ok made)
    (hhome : made.locate path.parent = .ok dir) (hplace : made.look? path ≠ some .directory)
    (hfree : made.entryAt? (dir.child draft) ≠ some .directory) : made.Ready path draft dir := by
  obtain ⟨-, hkeep, hw⟩ := makeAll_spec hmake
  obtain ⟨other, hother, hd⟩ := hw _ (Path.self_mem_chain _)
  obtain rfl : dir = other := Except.ok.inj (hhome.symm.trans hother)
  obtain ⟨place, hl⟩ := locate_of_parent hhome hd
  rw [look?_of_locate hl] at hplace
  have hname : ¬ (path.names = [] ∨ path.name = Path.up) := fun hn => hplace (locate_up hw hl hn)
  rw [not_or] at hname
  have hpath : path = path.sibling path.name := by
    unfold Path.sibling Path.name
    rw [List.getLast?_eq_some_getLast hname.1, Option.getD_some, List.dropLast_append_getLast]
  have hsibling := locate_sibling hhome hd hname.2
  rw [← hpath, hl] at hsibling
  rw [Except.ok.inj hsibling] at hplace
  exact ⟨hkeep ht, hw, hhome, hd, hpath, hname.2, hplace, hfree⟩

/-- A file is not moved to where a directory stood before it was written. -/
theorem look?_of_moved {source : Path} (hwrite : files.write source content = .ok drafted)
    (hmove : drafted.move source path = .ok after) : files.look? path ≠ some .directory := by
  intro hd
  obtain ⟨place, hl⟩ := locate_of_look? hd
  rw [look?_of_locate hl] at hd
  obtain ⟨start, -, hfree, rfl⟩ := write_eq_ok.1 hwrite
  have hkeeps := keeps_put (.file content) hfree
  obtain ⟨moved, -, target, -, -, htarget, hnone, -⟩ := move_eq_ok.1 hmove
  obtain rfl : place = target := Except.ok.inj ((hkeeps.locate hl).symm.trans htarget)
  exact hnone (hkeeps place hd)

/-- Where a file was written its directory is there, and nothing stood in its way. -/
theorem ready_of_written (ht : files.Tree) (hmake : files.makeDirectory path.parent = .ok made)
    (hup : draft ≠ Path.up) (hwrite : made.write (path.sibling draft) content = .ok drafted)
    (hmove : drafted.move (path.sibling draft) path = .ok after) : ∃ dir, made.Ready path draft dir := by
  obtain ⟨-, -, hw⟩ := makeAll_spec hmake
  obtain ⟨dir, hhome, hd⟩ := hw _ (Path.self_mem_chain _)
  obtain ⟨start, hl, hfree, -⟩ := write_eq_ok.1 hwrite
  obtain rfl : start = dir.child draft := Except.ok.inj (hl.symm.trans (locate_sibling hhome hd hup))
  exact ⟨dir, ready_of_made ht hmake hhome (look?_of_moved hwrite hmove) hfree⟩

/-- Whether paths lead to two places, also once the directories on the way to the first one are made. -/
def Apart (files : Files) (path other : Path) : Prop :=
  ∀ made, files.makeDirectory path.parent = .ok made → made.locate other ≠ made.locate path

/-- Files that all stand in the working directory. -/
def Flat (files : Files) : Prop :=
  ∀ entry ∈ files.entries, ∃ name content, entry = (⟨false, [name]⟩, .file content)

namespace Flat

theorem entryAt?_ne (h : files.Flat) (name : Text) :
    files.entryAt? ⟨false, [name]⟩ ≠ some .directory := by
  intro hd
  cases hl : files.entries.lookup ⟨false, [name]⟩ with
  | some entry =>
    obtain ⟨other, content, he⟩ := h _ (Table.mem_of_lookup hl)
    rw [entryAt?_of_lookup hl, (Prod.mk.inj he).2] at hd
    cases hd
  | none =>
    rcases (entryAt?_of_none hl).1 hd with hn | ⟨entry, hm, hc⟩
    · cases hn
    · obtain ⟨other, content, rfl⟩ := h entry hm
      obtain ⟨-, hprefix⟩ := Path.mem_chain.1 hc
      obtain rfl : name = other := by simpa using hprefix
      simpa using List.lookup_eq_none_iff.1 hl _ hm

theorem root (h : files.Flat) : files.entryAt? {} = some .directory := by
  have hl : files.entries.lookup {} = none := by
    refine List.lookup_eq_none_iff.2 fun entry hm => ?_
    obtain ⟨name, content, rfl⟩ := h entry hm
    simp
  exact (entryAt?_of_none hl).2 (.inl rfl)

theorem tree (h : files.Flat) : files.Tree := by
  intro entry hm path hc hne content hl
  obtain ⟨name, found, rfl⟩ := h entry hm
  obtain ⟨other, found', he⟩ := h _ (Table.mem_of_lookup hl)
  obtain ⟨rfl, -⟩ := Prod.mk.inj he
  obtain ⟨-, hprefix⟩ := Path.mem_chain.1 hc
  obtain rfl : other = name := by simpa using hprefix
  exact hne rfl

/-- Nothing stands in the way of a file in the working directory. -/
theorem ready (h : files.Flat) (name : Text) (hn : name ≠ Path.up) (beside : Text) :
    files.Ready ⟨false, [name]⟩ beside {} where
  tree := h.tree
  ways := fun path hp => ⟨{}, by
    obtain rfl : path = {} := by simpa [Path.parent, Path.chain] using hp
    exact ⟨rfl, h.root⟩⟩
  home := rfl
  directory := h.root
  path := rfl
  name := hn
  place := h.entryAt?_ne name
  draft := h.entryAt?_ne beside

end Flat

namespace Ready

theorem above (hr : files.Ready path draft dir) : ∀ p ∈ dir.chain, files.entryAt? p = some .directory := by
  intro p hp
  by_cases he : p = dir
  · rw [he, hr.directory]
  · exact locate_above hr.home p hp he

theorem locate_draft (hr : files.Ready path draft dir) (hup : draft ≠ Path.up) :
    files.locate (path.sibling draft) = .ok (dir.child draft) :=
  locate_sibling hr.home hr.directory hup

theorem locate_path (hr : files.Ready path draft dir) : files.locate path = .ok (dir.child path.name) := by
  have hl := locate_sibling hr.home hr.directory hr.name
  rwa [← hr.path] at hl

theorem write_draft (hr : files.Ready path draft dir) (hup : draft ≠ Path.up) (content : Bytes) :
    files.write (path.sibling draft) content = .ok (files.put (dir.child draft) (.file content)) :=
  write_eq_ok.2 ⟨_, hr.locate_draft hup, hr.draft, rfl⟩

theorem move_draft (hr : files.Ready path draft dir) (hup : draft ≠ Path.up) (hne : draft ≠ path.name)
    (content : Bytes) : (files.put (dir.child draft) (.file content)).move (path.sibling draft) path =
      .ok (files.moved dir draft path.name content) := by
  have hkeeps := keeps_put (.file content) hr.draft
  have hread : (files.put (dir.child draft) (.file content)).read (path.sibling draft) = .ok content := by
    apply read_of_look?
    rw [look?_of_locate (hkeeps.locate (hr.locate_draft hup)), entryAt?_put_self]
  have hfree : (files.put (dir.child draft) (.file content)).entryAt? (dir.child path.name) ≠
      some .directory := by
    rw [entryAt?_put_of_not_mem (Path.child_not_mem_chain hne.symm)]
    exact hr.place
  refine move_eq_ok.2 ⟨content, _, _, hread, hkeeps.locate (hr.locate_draft hup),
    hkeeps.locate hr.locate_path, hfree, ?_⟩
  rw [if_neg fun he => hne (Path.child_inj he)]
  rfl

/-- After a file was written it is in its place, and can be written again. -/
theorem moved (hr : files.Ready path draft dir) (hne : draft ≠ path.name) (content : Bytes) :
    (files.moved dir draft path.name content).Ready path draft dir ∧
      (files.moved dir draft path.name content).look? path = some (.file content) := by
  obtain ⟨hall, htree, hplace, hdraft⟩ := moved_spec content hr.tree hr.above hne hr.draft hr.place
  refine ⟨⟨htree, fun above ha => ?_, hall.locate hr.home,
    hall _ hr.directory, hr.path, hr.name, by simp [hplace], by simp [hdraft]⟩, ?_⟩
  · obtain ⟨place, hl, hd⟩ := hr.ways above ha
    exact ⟨place, hall.locate hl, hall _ hd⟩
  · rw [look?_of_locate (hall.locate hr.locate_path), hplace]

/-- Where nothing stands in its way a file is written, and then it can be written again. -/
theorem written (hr : files.Ready path draft dir) (hup : draft ≠ Path.up) (hne : draft ≠ path.name)
    (content : Bytes) :
    ∃ drafted after, files.write (path.sibling draft) content = .ok drafted ∧
      drafted.move (path.sibling draft) path = .ok after ∧ after.Ready path draft dir ∧
      after.look? path = some (.file content) :=
  ⟨_, _, hr.write_draft hup content, hr.move_draft hup hne content, hr.moved hne content⟩

end Ready

/-! ## Names beside a path -/

/-- The name of a new file beside a path. -/
def temporaryText (path : Path) (n : Nat) : Text := path.name ++ '.' :: Text.ofNat n ++ ".tmp".toList

theorem length_temporaryText (path : Path) (n : Nat) :
    path.name.length + 4 < (temporaryText path n).length := by
  simp only [temporaryText, List.length_append, List.length_cons]
  change _ < _ + (_ + 1) + 4
  omega

theorem temporaryText_ne_up (path : Path) (n : Nat) : temporaryText path n ≠ Path.up := by
  intro h
  have hlen := length_temporaryText path n
  rw [h] at hlen
  change _ < 2 at hlen
  omega

/-- A path beside another one has a name of its own. -/
theorem temporary_spec (files : Files) (path : Path) : ∃ draft, files.temporary path = path.sibling draft ∧
    draft ≠ Path.up ∧ draft ≠ path.name := by
  refine ⟨temporaryText path _, rfl, temporaryText_ne_up path _, fun h => ?_⟩
  have hlen := length_temporaryText path (((List.range files.entries.length).find? fun n =>
    (files.look? (temporaryName path n)).isNone).getD files.entries.length)
  rw [h] at hlen
  omega

end Files

namespace Action

open Files

variable {ε δ : Type} {wrap : FileError → ε} {path : Path} {t : Text} {files after : Files}

theorem perform_writeBeside_eq_ok {draft : Path} :
    (writeBeside wrap draft path t).perform files = (.ok (), after) ↔
      ∃ drafted, files.write draft (Utf8.encode t) = .ok drafted ∧
        drafted.move draft path = .ok after := by
  constructor
  · intro h
    obtain ⟨_, drafted, hwrite, hmove⟩ := perform_bind_eq_ok.1 h
    exact ⟨drafted, perform_change_eq_ok.1 hwrite, perform_change_eq_ok.1 hmove⟩
  · rintro ⟨drafted, hwrite, hmove⟩
    exact perform_bind_eq_ok.2 ⟨(), drafted, perform_change_eq_ok.2 hwrite, perform_change_eq_ok.2 hmove⟩

theorem perform_replaceFileOrNone_eq_ok :
    (replaceFileOrNone wrap path t).perform files = (.ok (), after) ↔
      ∃ made drafted, files.makeDirectory path.parent = .ok made ∧
        made.write (made.temporary path) (Utf8.encode t) = .ok drafted ∧
        drafted.move (made.temporary path) path = .ok after := by
  constructor
  · intro h
    obtain ⟨_, made, hmake, h⟩ := perform_bind_eq_ok.1 h
    rw [perform_change_eq_ok] at hmake
    obtain ⟨_, _, hfiles, h⟩ := perform_bind_eq_ok.1 h
    cases hfiles
    have h := (perform_tryCatch_eq_ok fun e mid => perform_bind_throw_ne_ok _ e mid).1 h
    obtain ⟨drafted, hwrite, hmove⟩ := perform_writeBeside_eq_ok.1 h
    exact ⟨made, drafted, hmake, hwrite, hmove⟩
  · rintro ⟨made, drafted, hmake, hwrite, hmove⟩
    have hwritten : (writeBeside wrap (made.temporary path) path t).perform made = (.ok (), after) :=
      perform_writeBeside_eq_ok.2 ⟨drafted, hwrite, hmove⟩
    exact perform_bind_eq_ok.2 ⟨(), made, perform_change_eq_ok.2 hmake, perform_bind_eq_ok.2
      ⟨made, made, rfl, perform_tryCatch_of_ok hwritten⟩⟩

/-- Where a text can be written as a whole, any text can. -/
theorem perform_replaceFileOrNone (ht : files.Tree)
    (h : (replaceFileOrNone wrap path t).perform files = (.ok (), after)) (wrap' : FileError → δ)
    (text : Text) :
    ∃ after, (replaceFileOrNone wrap' path text).perform files = (.ok (), after) ∧ after.Tree ∧
      after.look? path = some (.file (Utf8.encode text)) := by
  obtain ⟨made, drafted, hmake, hwrite, hmove⟩ := perform_replaceFileOrNone_eq_ok.1 h
  obtain ⟨draft, hdraft, hup, hne⟩ := made.temporary_spec path
  rw [hdraft] at hwrite hmove
  obtain ⟨dir, hready⟩ := ready_of_written ht hmake hup hwrite hmove
  obtain ⟨drafted, after, hwrite, hmove, hready, hlook⟩ := hready.written hup hne (Utf8.encode text)
  rw [← hdraft] at hwrite hmove
  exact ⟨after, perform_replaceFileOrNone_eq_ok.2 ⟨made, drafted, hmake, hwrite, hmove⟩, hready.tree, hlook⟩

end Action

end NameSlots
