import NameSlots.Proofs.Files.Failing

/-!
A file that is written as a whole. What is written beside its place is moved there or dropped again, so that
no other file changes.
-/
namespace NameSlots

namespace Files

variable {files made after : Files} {path place : Path} {content : Bytes}

/-! ## Where files can be put -/

/-- A directory can be made where no file stands. -/
theorem exists_makeAll_one (hl : files.locate path = .ok place) (hfree : files.content? place = none) :
    ∃ made, files.makeAll [path] = .ok made := by
  cases he : files.entryAt? place with
  | none =>
    refine ⟨files.put place .directory, bind_eq_ok.2 ⟨place, hl, ?_⟩⟩
    rw [he]
    rfl
  | some entry =>
    cases entry with
    | directory =>
      refine ⟨files, bind_eq_ok.2 ⟨place, hl, ?_⟩⟩
      rw [he, makeAll]
    | file content => cases hfree.symm.trans (content?_eq_some.2 he)

/-- Directories can be made where no file stands on the way. -/
theorem exists_makeDirectory (hup : Path.up ∉ path.names)
    (hfree : ∀ above ∈ path.chain, files.content? above = none) :
    ∃ made, files.makeDirectory path = .ok made := by
  obtain ⟨absolute, names⟩ := path
  induction names using List.reverseRecOn with
  | nil => exact exists_makeAll_one rfl (hfree _ (Path.self_mem_chain _))
  | append_singleton names name ih =>
    have hdir : Path.up ∉ names := fun hm => hup (List.mem_append_left _ hm)
    have hname : name ≠ Path.up := fun he => hup (List.mem_append_right _ (by simp [he]))
    change ∀ above ∈ (Path.child ⟨absolute, names⟩ name).chain, _ at hfree
    change ∃ made, files.makeAll (Path.child ⟨absolute, names⟩ name).chain = _
    rw [Path.chain_child] at hfree ⊢
    obtain ⟨hfront, hlast⟩ := List.forall_mem_append.1 hfree
    obtain ⟨mid, hmid⟩ := ih hdir hfront
    obtain ⟨-, -, hways⟩ := makeAll_spec hmid
    obtain ⟨dir, hl, hd⟩ := hways _ (Path.self_mem_chain _)
    obtain rfl := locate_plain hdir hl
    rw [makeAll_append hmid]
    refine exists_makeAll_one (locate_child hl hd hname) ?_
    rw [makeAll_sameContents hmid, hlast _ (List.mem_singleton_self _)]

/-- Files among which a file can be put at a path: the directories on the way to it can be made, and
then none stands at the path itself. -/
def Replaceable (path : Path) (files : Files) : Prop :=
  ∃ made, files.makeDirectory path.parent = .ok made ∧ made.look? path ≠ some .directory

/-- A file can be put at a path of which no name leads up where no file stands on the way to it and no
directory at it. -/
theorem replaceable_iff (ht : files.Tree) (hup : Path.up ∉ path.names) (hn : path.names ≠ []) :
    files.Replaceable path ↔
      (∀ above ∈ path.parent.chain, files.content? above = none) ∧
        files.entryAt? path ≠ some .directory := by
  have hparent : Path.up ∉ path.parent.names := fun hm => hup (List.mem_of_mem_dropLast hm)
  have habove {above : Path} (hm : above ∈ path.parent.chain) :
      Path.up ∉ above.names ∧ path ∉ above.chain := by
    have hstart := (Path.mem_chain.1 hm).2
    refine ⟨fun hu => hparent (hstart.subset hu), fun hc => ?_⟩
    have hlength := (Path.mem_chain.1 hc).2.length_le.trans hstart.length_le
    have hpos := List.length_pos_iff.2 hn
    simp only [Path.parent, List.length_dropLast] at hlength
    omega
  constructor
  · rintro ⟨made, hmake, hplace⟩
    obtain ⟨hkeeps, htree, hways⟩ := makeAll_spec hmake
    refine ⟨fun above hm => ?_, fun hd => hplace (look?_plain (htree ht) hup (hkeeps _ hd))⟩
    obtain ⟨place, hl, hd⟩ := hways above hm
    obtain rfl := locate_plain (habove hm).1 hl
    rw [← makeAll_sameContents hmake]
    exact content?_eq_none (by simp [hd])
  · rintro ⟨hfree, hplace⟩
    obtain ⟨made, hmake⟩ := exists_makeDirectory hparent hfree
    refine ⟨made, hmake, fun hd => hplace ?_⟩
    obtain ⟨place, hl⟩ := locate_of_look? hd
    rw [look?_of_locate hl, locate_plain hup hl] at hd
    rw [← entryAt?_makeAll hmake fun _ => habove, hd]

/-! ## Files that were put -/

/-- Files after one was put at a path: it holds the content, every other file is as it was, and
directories are directories still. -/
structure Written (path : Path) (content : Bytes) (files after : Files) : Prop where
  content : after.look? path = some (.file content)
  others : ∀ place, after.locate path ≠ .ok place → after.content? place = files.content? place
  keeps : files.Keeps after
  tree : after.Tree

/-- Once the directories on the way to it were made a file is put at its path through a new one. -/
theorem written_of_made (ht : files.Tree) (hmake : files.makeDirectory path.parent = .ok made)
    (hplace : made.look? path ≠ some .directory) (content : Bytes) :
    ∃ drafted after, made.write (made.temporary path) content = .ok drafted ∧
      drafted.move (made.temporary path) path = .ok after ∧ files.Written path content after := by
  obtain ⟨hkeeps, -, hways⟩ := makeAll_spec hmake
  obtain ⟨dir, hhome, hd⟩ := hways _ (Path.self_mem_chain _)
  obtain ⟨draft, hdraft, hup, hunused⟩ := temporary_unused hhome hd
  have hne : draft ≠ path.name := by
    obtain ⟨other, hother, -, hne⟩ := made.temporary_spec path
    rw [hdraft] at hother
    have hsame : draft = other := by simpa [Path.sibling] using hother
    exact hsame ▸ hne
  have hr : made.Ready path draft dir := ready_of_made ht hmake hhome hplace (by simp [hunused])
  obtain ⟨hready, hlook⟩ := hr.moved hne content
  obtain ⟨hkept, -⟩ := moved_spec content hr.tree hr.above hne hr.draft hr.place
  rw [hdraft]
  refine ⟨_, _, hr.write_draft hup content, hr.move_draft hup hne content, hlook, fun place hp => ?_,
    hkeeps.trans hkept, hready.tree⟩
  have hother : place ≠ dir.child path.name := by
    rintro rfl
    exact hp hready.locate_path
  rw [content?_moved, if_neg hother, ← makeAll_sameContents hmake place]
  split
  · next hplaced =>
    -- at the path of the new file there was nothing before either
    rw [hplaced]
    exact (content?_eq_none (by simp [hunused])).symm
  · rfl

end Files

namespace Action

open Files

variable {ε : Type} {wrap : FileError → ε} {path : Path} {t : Text} {files after : Files}

/-- A file that is written as a whole is put at its path. -/
theorem written_of_replaceFileOrNone (ht : files.Tree)
    (h : (replaceFileOrNone wrap path t).perform files = (.ok (), after)) :
    files.Replaceable path ∧ files.Written path (Utf8.encode t) after := by
  obtain ⟨made, drafted, hmake, hwrite, hmove⟩ := perform_replaceFileOrNone_eq_ok.1 h
  have hplace := look?_of_moved hwrite hmove
  obtain ⟨drafted', after', hwrite', hmove', hwritten⟩ := written_of_made ht hmake hplace (Utf8.encode t)
  obtain rfl : drafted' = drafted := Except.ok.inj (hwrite'.symm.trans hwrite)
  obtain rfl : after' = after := Except.ok.inj (hmove'.symm.trans hmove)
  exact ⟨⟨made, hmake, hplace⟩, hwritten⟩

/-- Wherever one can be put a file is written as a whole. -/
theorem exists_replaceFileOrNone (ht : files.Tree) (h : files.Replaceable path) (wrap : FileError → ε)
    (t : Text) : ∃ after, (replaceFileOrNone wrap path t).perform files = (.ok (), after) := by
  obtain ⟨made, hmake, hplace⟩ := h
  obtain ⟨drafted, after, hwrite, hmove, -⟩ := written_of_made ht hmake hplace (Utf8.encode t)
  exact ⟨after, perform_replaceFileOrNone_eq_ok.2 ⟨made, drafted, hmake, hwrite, hmove⟩⟩

end Action

end NameSlots
