import NameSlots.Names.StoreFile
import NameSlots.Proofs.Files.Action
import NameSlots.Proofs.Files.Saving

/-! A store that was saved is in its file, and can be saved again. -/
namespace NameSlots

open NameSlots.Action

namespace StoreFile

variable {file : StoreFile} {files after made : Files} {dir : Path} {store : Store}

/-- Files among which a store can be saved: some store can. -/
def Writable (file : StoreFile) (files : Files) : Prop :=
  ∃ after, (file.save {}).perform files = (.ok (), after)

/-- The name of what is written first. -/
def draftName (file : StoreFile) : Text := file.path.name ++ ".tmp".toList

/-- Files in which the directory of a store is there and nothing stands in the way of it. -/
abbrev Ready (file : StoreFile) (files : Files) (dir : Path) : Prop :=
  files.Ready file.path file.draftName dir

theorem draftName_ne_up (file : StoreFile) : file.draftName ≠ Path.up := by
  intro h
  have hl := congrArg List.length h
  simp only [draftName, List.length_append] at hl
  change _ + 4 = 2 at hl
  omega

theorem draftName_ne_name (file : StoreFile) : file.draftName ≠ file.path.name := by
  intro h
  have hl := congrArg List.length h
  simp only [draftName, List.length_append] at hl
  change _ + 4 = _ at hl
  omega

/-- Where nothing stands in its way a store is saved. -/
theorem Ready.save_eq (hr : file.Ready made dir)
    (hmake : files.makeDirectory file.path.parent = .ok made) (store : Store) :
    (file.save store).perform files = (.ok (),
      made.moved dir file.draftName file.path.name (Utf8.encode store.toJson.compact)) :=
  perform_bind_eq_ok.2 ⟨(), made, perform_change_eq_ok.2 hmake, perform_bind_eq_ok.2 ⟨(), _,
    perform_change_eq_ok.2 (hr.write_draft file.draftName_ne_up _),
    perform_change_eq_ok.2 (hr.move_draft file.draftName_ne_up file.draftName_ne_name _)⟩⟩

theorem Ready.writable (hr : file.Ready files dir) : file.Writable files :=
  ⟨_, hr.save_eq (Files.makeAll_self hr.ways) {}⟩

/-- Where a store was saved its directory can be made, and then nothing stood in its way. -/
theorem save_eq_ok (ht : files.Tree) (h : (file.save store).perform files = (.ok (), after)) :
    ∃ made dir, files.makeDirectory file.path.parent = .ok made ∧ file.Ready made dir ∧
      after = made.moved dir file.draftName file.path.name (Utf8.encode store.toJson.compact) := by
  obtain ⟨_, made, hmake, hrest⟩ := perform_bind_eq_ok.1 h
  obtain ⟨_, written, hwrite, hmove⟩ := perform_bind_eq_ok.1 hrest
  rw [perform_change_eq_ok] at hmake hwrite hmove
  obtain ⟨dir, hready⟩ := Files.ready_of_written ht hmake file.draftName_ne_up hwrite hmove
  rw [Ready.save_eq hready hmake] at h
  exact ⟨made, dir, hmake, hready, (Prod.mk.inj h).2.symm⟩

/-- A store that can be saved at all can be saved whatever it holds, and then again. -/
theorem save_spec (ht : files.Tree) (hw : file.Writable files) (store : Store) :
    ∃ after, (file.save store).perform files = (.ok (), after) ∧ after.Tree ∧
      file.Writable after ∧
      after.look? file.path = some (.file (Utf8.encode store.toJson.compact)) := by
  obtain ⟨_, hw⟩ := hw
  obtain ⟨made, dir, hmake, hr, -⟩ := save_eq_ok ht hw
  obtain ⟨hready, hlook⟩ := hr.moved file.draftName_ne_name (Utf8.encode store.toJson.compact)
  exact ⟨_, hr.save_eq hmake store, hready.tree, Ready.writable hready, hlook⟩

/-- Files after something was written to the file of a store, and to no other one; its draft is gone. -/
structure Wrote (file : StoreFile) (files after : Files) (dir : Path) : Prop where
  keeps : files.Keeps after
  made : ∃ made, files.makeDirectory file.path.parent = .ok made ∧
    made.locate file.path = .ok (dir.child file.path.name) ∧
    made.locate file.draft = .ok (dir.child file.draftName)
  gone : after.entryAt? (dir.child file.draftName) = none
  others : ∀ place, place ≠ dir.child file.path.name → place ≠ dir.child file.draftName →
    after.content? place = files.content? place

/-- Saving a store changes its file alone. -/
theorem wrote_of_save (ht : files.Tree) (h : (file.save store).perform files = (.ok (), after)) :
    ∃ dir, file.Wrote files after dir := by
  obtain ⟨made, dir, hmake, hr, rfl⟩ := save_eq_ok ht h
  obtain ⟨hkeeps, -, -, hgone⟩ := Files.moved_spec (Utf8.encode store.toJson.compact) hr.tree hr.above
    file.draftName_ne_name hr.draft hr.place
  refine ⟨dir, (Files.makeAll_spec hmake).1.trans hkeeps,
    ⟨made, hmake, hr.locate_path, hr.locate_draft file.draftName_ne_up⟩, hgone, fun place hp hd => ?_⟩
  rw [Files.content?_moved, if_neg hd, if_neg hp]
  exact Files.makeAll_sameContents hmake place

/-- Another file than that of the store is as it was, unless it was where the draft was written. -/
theorem Wrote.look? (hw : file.Wrote files after dir) {path : Path} {content : Bytes}
    (ha : files.Apart file.path path) (hlook : files.look? path = some (.file content)) :
    after.look? path = some (.file content) ∨
      ¬ files.Apart file.draft path ∧ after.look? path = none := by
  obtain ⟨place, hl⟩ := Files.locate_of_look? hlook
  obtain ⟨made, hmake, hpath, hdraft⟩ := hw.made
  have hplace : made.locate path = .ok place := (Files.makeAll_spec hmake).1.locate hl
  by_cases hd : place = dir.child file.draftName
  · refine .inr ⟨fun ha => ?_, ?_⟩
    · have hparent : file.draft.parent = file.path.parent := by
        simp [draft, Path.sibling, Path.parent]
      exact ha made (by rw [hparent, hmake]) (by rw [hplace, hdraft, hd])
    · rw [Files.look?_of_locate (hw.keeps.locate hl), hd, hw.gone]
  · have hne : place ≠ dir.child file.path.name := by
      intro he
      exact ha made hmake (by rw [hplace, hpath, he])
    exact .inl (Files.look?_of_content? hw.keeps hl hlook (hw.others place hne hd))

end StoreFile

end NameSlots
