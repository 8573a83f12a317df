import Mathlib.Data.Finset.Card
import NameSlots.Proofs.Files.Saving
import NameSlots.Proofs.Text.Numeral

/-! What is left of a file that could not be written. -/
namespace NameSlots

namespace Files

variable {files made after drafted : Files} {path dir entry : Path} {name other draft : Text}
  {content : Bytes}

/-! ## Unused names -/

theorem temporaryText_injective (path : Path) : Function.Injective (temporaryText path) := by
  intro m n h
  have htail : Text.ofNat m ++ ".tmp".toList = Text.ofNat n ++ ".tmp".toList := by
    simpa [temporaryText] using h
  rw [← Text.numeral_ofNat m, List.append_cancel_right htail, Text.numeral_ofNat]

/-- Of the names in one directory only one leads to a path. -/
theorem eq_of_mem_chain (h : dir.child name ∈ entry.chain) (h' : dir.child other ∈ entry.chain) :
    name = other := by
  obtain ⟨-, hp⟩ := Path.mem_chain.1 h
  obtain ⟨-, hp'⟩ := Path.mem_chain.1 h'
  have hlen : (dir.child name).names.length = (dir.child other).names.length := by simp [Path.child]
  have hnames := (List.prefix_of_prefix_length_le hp hp' hlen.le).eq_of_length hlen
  simpa [Path.child] using hnames

theorem entryAt?_of_not_reaches (h : ¬ files.Reaches (dir.child name)) : files.entryAt? (dir.child name) = none := by
  have hlookup : files.entries.lookup (dir.child name) = none := by
    refine List.lookup_eq_none_iff.2 fun entry hm => ?_
    rw [bne_iff_ne]
    intro he
    exact h ⟨entry, hm, he ▸ Path.self_mem_chain _⟩
  rw [← any_eq_true_iff, Bool.not_eq_true] at h
  simp only [entryAt?, hlookup]
  rw [h, Bool.or_false, if_neg (by simp [Path.child])]

/-- Of more names than there are entries one is unused. -/
theorem exists_unused (files : Files) (dir : Path) {names : Nat → Text} (hn : Function.Injective names) :
    ∃ n ≤ files.entries.length, ¬ files.Reaches (dir.child (names n)) := by
  by_contra hall
  have hused : ∀ n, ∃ entry, n ≤ files.entries.length →
      entry ∈ files.entries ∧ dir.child (names n) ∈ entry.1.chain := by
    intro n
    by_cases hle : n ≤ files.entries.length
    · obtain ⟨entry, hm, hc⟩ := not_not.1 fun hr => hall ⟨n, hle, hr⟩
      exact ⟨entry, fun _ => ⟨hm, hc⟩⟩
    · exact ⟨({}, .directory), fun h => (hle h).elim⟩
  choose entry hentry using hused
  have hcard : files.entries.toFinset.card < (Finset.range (files.entries.length + 1)).card := by
    rw [Finset.card_range]
    exact Nat.lt_succ_of_le (List.toFinset_card_le _)
  have hmaps : ∀ n ∈ Finset.range (files.entries.length + 1), entry n ∈ files.entries.toFinset :=
    fun n hm => List.mem_toFinset.2 (hentry n (Nat.lt_succ_iff.1 (Finset.mem_range.1 hm))).1
  obtain ⟨m, hm, n, hn', hne, hsame⟩ := Finset.exists_ne_map_eq_of_card_lt_of_maps_to hcard hmaps
  have hc := (hentry m (Nat.lt_succ_iff.1 (Finset.mem_range.1 hm))).2
  have hc' := (hentry n (Nat.lt_succ_iff.1 (Finset.mem_range.1 hn'))).2
  rw [hsame] at hc
  exact hne (hn (eq_of_mem_chain hc hc'))

/-- At the path of a new file there is nothing. -/
theorem temporary_unused (hl : files.locate path.parent = .ok dir)
    (hd : files.entryAt? dir = some .directory) :
    ∃ draft, files.temporary path = path.sibling draft ∧ draft ≠ Path.up ∧
      files.entryAt? (dir.child draft) = none := by
  have hlook (n : Nat) : files.look? (temporaryName path n) =
      files.entryAt? (dir.child (temporaryText path n)) :=
    look?_of_locate (locate_sibling hl hd (temporaryText_ne_up path n))
  refine ⟨temporaryText path _, rfl, temporaryText_ne_up path _, ?_⟩
  cases hfind : (List.range files.entries.length).find? fun n =>
      (files.look? (temporaryName path n)).isNone with
  | some n =>
    have hnone := List.find?_some hfind
    rw [hlook] at hnone
    rw [Option.getD_some]
    exact Option.isNone_iff_eq_none.1 hnone
  | none =>
    obtain ⟨n, hle, hn⟩ := exists_unused files dir (temporaryText_injective path)
    have hlast : n = files.entries.length := by
      by_contra hne
      have hused := List.find?_eq_none.1 hfind n (List.mem_range.2 (by omega))
      rw [hlook, entryAt?_of_not_reaches hn] at hused
      exact hused rfl
    rw [Option.getD_none, ← hlast]
    exact entryAt?_of_not_reaches hn

/-! ## Writing that fails -/

/-- Nothing but a directory stands in the way of a file that was written beside its place. -/
theorem move_eq_error {e : FileError} (hl : files.locate path.parent = .ok dir)
    (hd : files.entryAt? dir = some .directory)
    (hwrite : files.write (path.sibling draft) content = .ok drafted)
    (hmove : drafted.move (path.sibling draft) path = .error e) :
    drafted.look? path = some .directory := by
  obtain ⟨start, hstart, hfree, rfl⟩ := write_eq_ok.1 hwrite
  have hkeeps := keeps_put (.file content) hfree
  obtain ⟨place, hplace⟩ := locate_of_parent (hkeeps.locate hl) (hkeeps dir hd)
  rw [look?_of_locate hplace]
  have hread : (files.put start (.file content)).read (path.sibling draft) = .ok content := by
    apply read_of_look?
    rw [look?_of_locate (hkeeps.locate hstart), entryAt?_put_self]
  by_contra hplaced
  have hmoved := move_eq_ok.2 ⟨content, start, place, hread, hkeeps.locate hstart, hplace, hplaced, rfl⟩
  rw [hmoved] at hmove
  cases hmove

/-- Files among which a file was left beside its place, which turned out to be a directory once the
directories on the way to it were made. -/
def Stranded (target : Path) (draft : Files → Path) (files after : Files) : Prop :=
  ∃ made content, files.makeDirectory target.parent = .ok made ∧
    made.write (draft made) content = .ok after ∧ after.look? target = some .directory

/-- All other files are as they were. -/
theorem Stranded.others {target : Path} {draft : Files → Path} (h : files.Stranded target draft after) :
    ∃ place, ∀ other, other ≠ place → after.content? other = files.content? other := by
  obtain ⟨made, content, hmake, hwrite, -⟩ := h
  obtain ⟨place, -, -, rfl⟩ := write_eq_ok.1 hwrite
  refine ⟨place, fun other hne => ?_⟩
  rw [content?_put, if_neg hne]
  exact makeAll_sameContents hmake other

/-- A path at which there is a directory once the one on the way to it is made. -/
example : Stranded (Path.ofText "d/../d".toList) (fun _ => Path.ofText "d/../d.tmp".toList) {}
    ⟨[(Path.ofText ['d'], .directory), (Path.ofText "d.tmp".toList, .file [])]⟩ :=
  ⟨⟨[(Path.ofText ['d'], .directory)]⟩, [], by rfl, by rfl, by rfl⟩

end Files

namespace Action

open Files

variable {ε : Type} {wrap : FileError → ε} {path : Path} {t : Text} {files made after : Files} {e : ε}

/-- Where a file cannot be written beside its place nothing is left of it, and where it cannot be moved
there it stays beside a directory. -/
theorem perform_writeBeside_eq_error {dir : Path} {draft : Text}
    (hl : files.locate path.parent = .ok dir) (hd : files.entryAt? dir = some .directory)
    (h : (writeBeside wrap (path.sibling draft) path t).perform files = (.error e, after)) :
    after = files ∨ files.write (path.sibling draft) (Utf8.encode t) = .ok after ∧
      after.look? path = some .directory := by
  unfold writeBeside at h
  cases hwrite : files.write (path.sibling draft) (Utf8.encode t) with
  | error why =>
    rw [perform_bind_of_error (perform_change_of_error hwrite)] at h
    exact .inl (Prod.mk.inj h).2.symm
  | ok drafted =>
    rw [perform_bind_of_ok (perform_change_of_ok hwrite)] at h
    cases hmove : drafted.move (path.sibling draft) path with
    | ok moved =>
      rw [perform_change_of_ok hmove] at h
      cases h
    | error why =>
      rw [perform_change_of_error hmove] at h
      obtain ⟨-, rfl⟩ := Prod.mk.inj h
      exact .inr ⟨rfl, move_eq_error hl hd hwrite hmove⟩

/-- What a file that could not be written leaves: nothing, or what was written first. -/
def LeavesAtMost (target : Path) (draft : Files → Path) (files after : Files) : Prop :=
  files.SameContents after ∨ files.Stranded target draft after

/-- A file that is written beside its place, once the directories on the way to it were made, leaves the
files as they were, or those directories, or what was written first. -/
theorem makes_writeBeside {draft : Files → Path} (hdraft : ∀ made, ∃ name, draft made = path.sibling name)
    {next : Action ε Unit}
    (hnext : ∀ made, next.perform made = (writeBeside wrap (draft made) path t).perform made) :
    Leaves (fun files after => after = files ∨ files.makeDirectory path.parent = .ok after ∨
      files.Stranded path draft after) (change wrap (·.makeDirectory path.parent) >>= fun _ => next) := by
  intro files e after h
  cases hmake : files.makeDirectory path.parent with
  | error why =>
    rw [perform_bind_of_error (perform_change_of_error hmake)] at h
    exact .inl (Prod.mk.inj h).2.symm
  | ok made =>
    rw [perform_bind_of_ok (perform_change_of_ok hmake), hnext] at h
    obtain ⟨-, -, hways⟩ := makeAll_spec hmake
    obtain ⟨dir, hl, hd⟩ := hways _ (Path.self_mem_chain _)
    obtain ⟨name, hname⟩ := hdraft made
    rw [hname] at h
    rcases perform_writeBeside_eq_error hl hd h with rfl | ⟨hwrite, htarget⟩
    · exact .inr (.inl rfl)
    · exact .inr (.inr ⟨made, _, hmake, hname ▸ hwrite, htarget⟩)

theorem leaves_writeBeside {draft : Files → Path} (hdraft : ∀ made, ∃ name, draft made = path.sibling name)
    {next : Action ε Unit}
    (hnext : ∀ made, next.perform made = (writeBeside wrap (draft made) path t).perform made) :
    Leaves (LeavesAtMost path draft) (change wrap (·.makeDirectory path.parent) >>= fun _ => next) := by
  refine (makes_writeBeside hdraft hnext).mono fun files after h => ?_
  rcases h with rfl | hmake | hstranded
  · exact .inl .rfl
  · exact .inl (makeAll_sameContents hmake)
  · exact .inr hstranded

theorem leaves_replaceFile (wrap : FileError → ε) (path : Path) (t : Text) :
    Leaves (LeavesAtMost path (·.temporary path)) (replaceFile wrap path t) :=
  leaves_writeBeside (fun made => by
    obtain ⟨draft, hdraft, -⟩ := made.temporary_spec path
    exact ⟨draft, hdraft⟩) fun _ => rfl

/-- A file that could not be written as a whole leaves no trace. -/
theorem leaves_replaceFileOrNone (wrap : FileError → ε) (path : Path) (t : Text) :
    Leaves SameContents (replaceFileOrNone wrap path t) := by
  intro files e after h
  unfold replaceFileOrNone at h
  cases hmake : files.makeDirectory path.parent with
  | error why =>
    rw [perform_bind_of_error (perform_change_of_error hmake)] at h
    obtain ⟨-, rfl⟩ := Prod.mk.inj h
    exact .rfl
  | ok made =>
    obtain ⟨-, -, hways⟩ := makeAll_spec hmake
    obtain ⟨dir, hl, hd⟩ := hways _ (Path.self_mem_chain _)
    obtain ⟨draft, hdraft, hup, hunused⟩ := temporary_unused hl hd
    have hplace := locate_sibling hl hd hup
    have hfiles : (Action.files : Action ε Files).perform made = (.ok made, made) := rfl
    rw [perform_bind_of_ok (perform_change_of_ok hmake), perform_bind_of_ok hfiles, hdraft,
      perform_tryCatch] at h
    refine (makeAll_sameContents hmake).trans fun other => ?_
    cases hwrite : (writeBeside wrap (path.sibling draft) path t).perform made with
    | mk result mid =>
      rw [hwrite] at h
      cases result with
      | ok _ => cases h
      | error why =>
        -- whatever was written by then is at the draft's place, and nothing else is
        have hmid : mid.locate (path.sibling draft) = .ok (dir.child draft) ∧
            ∀ other, other ≠ dir.child draft → mid.content? other = made.content? other := by
          rcases perform_writeBeside_eq_error hl hd hwrite with rfl | ⟨hput, -⟩
          · exact ⟨hplace, fun _ _ => rfl⟩
          · obtain ⟨start, hstart, hfree, rfl⟩ := write_eq_ok.1 hput
            obtain rfl : start = dir.child draft := Except.ok.inj (hstart.symm.trans hplace)
            refine ⟨(keeps_put _ hfree).locate hplace, fun other hne => ?_⟩
            rw [content?_put, if_neg hne]
        simp only [perform_bind, perform_change, hmid.1] at h
        obtain ⟨-, rfl⟩ := Prod.mk.inj h
        rw [content?_drop]
        split
        · next he =>
          rw [he]
          exact (content?_eq_none (by simp [hunused])).symm
        · next hne => exact hmid.2 other hne

end Action

end NameSlots
