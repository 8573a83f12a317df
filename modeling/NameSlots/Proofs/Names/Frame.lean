import NameSlots.Proofs.Files.Failing
import NameSlots.Proofs.Names.Canonical

/-! A call on the store of a file changes no other file, and that one only where it tells so. -/
namespace NameSlots

open NameSlots.Action

namespace StoreFile

variable {file : StoreFile} {files mid after made : Files} {store : Store} {c : Call}
  {result : Except StoreError Found} {e : StoreError}

theorem reads_load (file : StoreFile) : Reads file.load := fun files => by rw [load_eq]

/-- A directory is no store. -/
theorem not_directory_of_load (h : (file.load.perform files).1 = .ok store) :
    files.look? file.path ≠ some .directory := by
  intro hd
  have hread : files.readText file.path = .error .isDirectory := by
    unfold Files.readText
    rw [Files.read_of_directory hd]
    rfl
  rw [load_eq, hread, hd] at h
  cases h

/-! ## What a store that cannot be saved leaves -/

/-- What is left of a store that could not be saved. -/
abbrev LeavesStore (file : StoreFile) : Files → Files → Prop :=
  LeavesAtMost file.path fun _ => file.draft

theorem leaves_save (store : Store) : Leaves file.LeavesStore (file.save store) :=
  leaves_writeBeside (fun _ => ⟨file.draftName, rfl⟩) fun _ => rfl

theorem makes_save (store : Store) : Leaves (fun files after => after = files ∨
    files.makeDirectory file.path.parent = .ok after ∨
      files.Stranded file.path (fun _ => file.draft) after) (file.save store) :=
  makes_writeBeside (fun _ => ⟨file.draftName, rfl⟩) fun _ => rfl

theorem save_error (h : (file.save store).perform files = (.error e, after)) : ∃ why, e = .file why := by
  unfold save at h
  simp only [perform_bind, perform_change] at h
  grind

/-! ## Files in which only that of a store changes -/

/-- No file is where the draft of a store is written. -/
def Undrafted (file : StoreFile) (files : Files) : Prop :=
  ∀ made content, files.makeDirectory file.path.parent = .ok made →
    made.look? file.draft ≠ some (.file content)

/-- No directory turns up at the place of a store when those on the way to it are made. -/
def Settled (file : StoreFile) (files : Files) : Prop :=
  ∀ made, files.makeDirectory file.path.parent = .ok made →
    made.look? file.path = some .directory → files.look? file.path = some .directory

/-- Files among which nothing keeps the draft of a store from its place but what was there before. -/
structure Clear (file : StoreFile) (files : Files) : Prop where
  settled : file.Settled files
  undrafted : file.Undrafted files

/-- Files of which no other one changed than that of a store. -/
structure Framed (file : StoreFile) (files after : Files) : Prop where
  keeps : files.Keeps after
  others : ∀ place, after.locate file.path ≠ .ok place → after.content? place = files.content? place

/-- Files after a store was written to its file: nothing is left beside it, and it can be written again. -/
structure Replaced (file : StoreFile) (files after : Files) (store : Store) : Prop where
  framed : file.Framed files after
  content : after.look? file.path = some (.file (Utf8.encode store.toJson.compact))
  draft : after.look? file.draft = none
  tree : after.Tree
  clear : file.Clear after

/-- How a call left the files: it replaced the store and told so, or changed nothing, or could not
write the file, or could not move it to a place where a directory turned up. -/
inductive Left (file : StoreFile) (files after : Files) (c : Call) :
    Except StoreError Found → Prop where
  | replaced {store new : Store} {found : Found} :
      (file.load.perform files).1 = .ok store → c.effect store = (found, some new) →
      c.wrote (.ok found) = true → file.Replaced files after new → Left file files after c (.ok found)
  | same {result : Except StoreError Found} : c.wrote result = false → after = files →
      Left file files after c result
  | unwritten {why : FileError} : files.makeDirectory file.path.parent = .ok after →
      Left file files after c (.error (.file why))
  | stranded {why : FileError} : files.look? file.path ≠ some .directory →
      files.Stranded file.path (fun _ => file.draft) after → Left file files after c (.error (.file why))

theorem Framed.rfl : file.Framed files files := ⟨.rfl, fun _ _ => Eq.refl _⟩

theorem Framed.trans (h : file.Framed files mid) (h' : file.Framed mid after) :
    file.Framed files after := by
  refine ⟨h.keeps.trans h'.keeps, fun place hplace => ?_⟩
  rw [h'.others place hplace, h.others place fun hl => hplace (h'.keeps.locate hl)]

/-- Where all directories on the way to a store are there, what can turn up in them is there. -/
theorem clear_of_self (h : files.makeDirectory file.path.parent = .ok files)
    (hd : ∀ content, files.look? file.draft ≠ some (.file content)) : file.Clear files := by
  refine ⟨fun made hmake hplace => ?_, fun made content hmake => ?_⟩
  · rwa [← Except.ok.inj (h.symm.trans hmake)] at hplace
  · rw [← Except.ok.inj (h.symm.trans hmake)]
    exact hd content

theorem clear_of_made (hclear : file.Clear files)
    (h : files.makeDirectory file.path.parent = .ok made) : file.Clear made :=
  clear_of_self (Files.makeAll_self (Files.makeAll_spec h).2.2) fun content =>
    hclear.undrafted made content h

theorem replaced_of_save (ht : files.Tree) (hfree : file.Undrafted files)
    (h : (file.save store).perform files = (.ok (), after)) : file.Replaced files after store := by
  obtain ⟨made, dir, hmake, hr, rfl⟩ := save_eq_ok ht h
  obtain ⟨hready, hlook⟩ := hr.moved file.draftName_ne_name (Utf8.encode store.toJson.compact)
  obtain ⟨hkeeps, -, -, hgone⟩ := Files.moved_spec (Utf8.encode store.toJson.compact) hr.tree hr.above
    file.draftName_ne_name hr.draft hr.place
  have hsame := Files.makeAll_sameContents hmake
  have hdraft : files.content? (dir.child file.draftName) = none := by
    rw [← hsame]
    exact Files.content?_eq_none fun content he => hfree made content hmake
      ((Files.look?_of_locate (hr.locate_draft file.draftName_ne_up)).trans he)
  have hnone := (Files.look?_of_locate (hready.locate_draft file.draftName_ne_up)).trans hgone
  refine ⟨⟨(Files.makeAll_spec hmake).1.trans hkeeps, fun place hplace => ?_⟩, hlook, hnone,
    hready.tree, clear_of_self (Files.makeAll_self hready.ways) fun content hfile => ?_⟩
  · have hne : place ≠ dir.child file.path.name := by
      rintro rfl
      exact hplace hready.locate_path
    rw [Files.content?_moved, if_neg hne]
    split
    · next hd => rw [hd, hdraft]
    · exact hsame place
  · cases hnone.symm.trans hfile

/-- Nothing is left beside a place where no directory turns up. -/
theorem Settled.not_stranded (hs : file.Settled files) (hd : files.look? file.path ≠ some .directory) :
    ¬ files.Stranded file.path (fun _ => file.draft) after := by
  rintro ⟨made, content, hmake, hwrite, hplace⟩
  refine hd (hs made hmake ?_)
  obtain ⟨start, hstart, hfree, rfl⟩ := Files.write_eq_ok.1 hwrite
  obtain ⟨-, -, hways⟩ := Files.makeAll_spec hmake
  obtain ⟨dir, hl, hd⟩ := hways _ (Path.self_mem_chain _)
  obtain ⟨place, hpath⟩ := Files.locate_of_parent hl hd
  rw [Files.look?_of_locate ((Files.keeps_put _ hfree).locate hpath)] at hplace
  rw [Files.look?_of_locate hpath]
  exact Files.entryAt?_of_put_file (Files.locate_above hstart) hplace

/-! ## Calls -/

/-- A call replaces the store and tells so, or it leaves the files as they were, or all of them and
some more directories, or what it wrote first, where the file system turns it down. -/
theorem left_of_call (ht : files.Tree) (hfree : file.Undrafted files)
    (h : (file.call c).perform files = (result, after)) : file.Left files after c result := by
  cases hr : c.refusal? with
  | some e =>
    rw [call_of_refusal hr] at h
    cases h
    exact .same (c.wrote_error e) rfl
  | none =>
    rw [call_eq hr] at h
    cases hload : (file.load.perform files).1 with
    | error e =>
      rw [perform_bind_of_error (Prod.ext hload (reads_load file files))] at h
      cases h
      exact .same (c.wrote_error e) rfl
    | ok store =>
      rw [perform_bind_of_ok (Prod.ext hload (reads_load file files))] at h
      have hwrote := c.wrote_effect store
      cases heffect : c.effect store with
      | mk found left =>
        rw [heffect] at h hwrote
        cases left with
        | none =>
          cases h
          exact .same hwrote rfl
        | some new =>
          cases hsave : (file.save new).perform files with
          | mk saved mid =>
            rw [finish, perform_bind, hsave] at h
            cases saved with
            | ok _ =>
              cases h
              exact .replaced hload heffect hwrote (replaced_of_save ht hfree hsave)
            | error e =>
              cases h
              obtain ⟨why, rfl⟩ := save_error hsave
              rcases makes_save new files _ after hsave with rfl | hmake | hstranded
              · exact .same (c.wrote_error _) rfl
              · exact .unwritten hmake
              · exact .stranded (not_directory_of_load hload) hstranded

theorem Left.framed (hs : file.Settled files) (h : file.Left files after c result) :
    file.Framed files after := by
  cases h with
  | replaced _ _ _ hreplaced => exact hreplaced.framed
  | same _ hsame => exact hsame ▸ .rfl
  | unwritten hmake => exact ⟨(Files.makeAll_spec hmake).1, fun place _ => Files.makeAll_sameContents hmake place⟩
  | stranded hd hstranded => exact (hs.not_stranded hd hstranded).elim

/-- After a call the files are such that the next one can be done on them. -/
theorem Left.clear (ht : files.Tree) (hclear : file.Clear files) (h : file.Left files after c result) :
    after.Tree ∧ file.Clear after := by
  cases h with
  | replaced _ _ _ hreplaced => exact ⟨hreplaced.tree, hreplaced.clear⟩
  | same _ hsame => exact hsame ▸ ⟨ht, hclear⟩
  | unwritten hmake => exact ⟨(Files.makeAll_spec hmake).2.1 ht, clear_of_made hclear hmake⟩
  | stranded hd hstranded => exact (hclear.settled.not_stranded hd hstranded).elim

theorem Left.same_of_not_wrote (h : file.Left files after c result) (hw : c.wrote result = false) :
    ((∀ why, result ≠ .error (.file why)) → after = files) ∧
      (file.Settled files → files.SameContents after) := by
  cases h with
  | replaced _ _ hwrote _ =>
    rw [hwrote] at hw
    cases hw
  | same _ hsame => exact hsame ▸ ⟨fun _ => rfl, fun _ => .rfl⟩
  | unwritten hmake => exact ⟨fun hfile => (hfile _ rfl).elim, fun _ => Files.makeAll_sameContents hmake⟩
  | stranded hd hstranded =>
    exact ⟨fun hfile => (hfile _ rfl).elim, fun hs => (hs.not_stranded hd hstranded).elim⟩

/-- Calls one after the other change no other file than that of the store, and if none of them wrote
not that one either. -/
theorem run_frame (calls : List Call) (ht : files.Tree) (hclear : file.Clear files) :
    file.Framed files (file.run calls files).2 ∧
      (wroteAny calls (file.run calls files).1 = false →
        files.SameContents (file.run calls files).2) := by
  induction calls generalizing files with
  | nil => exact ⟨.rfl, fun _ => .rfl⟩
  | cons c calls ih =>
    cases hcall : (file.call c).perform files with
    | mk result mid =>
      have hleft := left_of_call ht hclear.undrafted hcall
      obtain ⟨htree, hclear'⟩ := hleft.clear ht hclear
      obtain ⟨hframed, hsame⟩ := ih htree hclear'
      rw [run_cons hcall]
      refine ⟨(hleft.framed hclear.settled).trans hframed, fun hw => ?_⟩
      obtain ⟨hfirst, hrest⟩ : c.wrote result = false ∧
          wroteAny calls (file.run calls mid).1 = false := by simpa [wroteAny] using hw
      exact ((hleft.same_of_not_wrote hfirst).2 hclear.settled).trans (hsame hrest)

end StoreFile

end NameSlots
