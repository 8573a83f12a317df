import NameSlots.Proofs.Cli.Sets
import NameSlots.Proofs.Names.Frame
import NameSlots.Proofs.Names.Refusal

/-! Commands that fail: what they say, and what they leave of the files. -/
namespace NameSlots

open NameSlots.Action

/-! ## Stores -/

namespace StoreFile

variable (file : StoreFile) (name : Text)

theorem reads_get? : Reads (file.get? name) := (reads_load file).bind fun _ => reads_pure _

theorem leaves_load_bind {α : Type} {next : Store → Action StoreError α}
    (h : ∀ store, Leaves file.LeavesStore (next store)) : Leaves file.LeavesStore (file.load >>= next) :=
  (reads_load file).bind_leaves (fun _ => .inl .rfl) h

theorem leaves_put (mappings : List Mapping) (note : Json) :
    Leaves file.LeavesStore (file.put name mappings note) :=
  leaves_load_bind file fun _ => leaves_save _

theorem leaves_putMapping (key value : Text) : Leaves file.LeavesStore (file.putMapping name key value) :=
  (reads_ofExcept _ _).bind_leaves (fun _ => .inl .rfl) fun _ =>
    leaves_load_bind file fun _ => (leaves_save _).bind fun _ _ => ⟨_, rfl⟩

/-- Where nothing is dropped nothing is written. -/
theorem saveIfAny_spec (left : Option Store) : Leaves file.LeavesStore (file.saveIfAny left) ∧
    ∀ files after, (file.saveIfAny left).perform files = (.ok false, after) → after = files := by
  cases left with
  | none => exact ⟨(reads_pure _).leaves fun _ => .inl .rfl, fun _ _ h => (Prod.mk.inj h).2.symm⟩
  | some store =>
    refine ⟨(leaves_save store).bind fun _ _ => ⟨_, rfl⟩, fun files after h => ?_⟩
    obtain ⟨_, _, -, h⟩ := perform_bind_eq_ok.1 h
    cases congrArg Prod.fst h

/-- What drops something from a store leaves the files as they are if there is nothing to drop. -/
theorem dropping_spec (drop? : Store → Option Store) :
    Leaves file.LeavesStore (file.load >>= fun store => file.saveIfAny (drop? store)) ∧
      ∀ files after, (file.load >>= fun store => file.saveIfAny (drop? store)).perform files =
        (.ok false, after) → after = files := by
  refine ⟨leaves_load_bind file fun store => (saveIfAny_spec file _).1, fun files after h => ?_⟩
  obtain ⟨store, mid, hload, hsave⟩ := perform_bind_eq_ok.1 h
  have hmid : mid = files := by
    have hreads := reads_load file files
    rwa [hload] at hreads
  rw [(saveIfAny_spec file _).2 mid after hsave, hmid]

end StoreFile

namespace Cli

variable {files after : Files} {writes : Option (Path × (Files → Path))}

/-! ## Commands that leave no more than they may -/

/-- The path at which a command puts a file that it writes beside it first, and the path beside it.
Commands that write rule sets are not among these: they leave no trace. -/
def Command.writes? : Command → Option (Path × (Files → Path))
  | .resolve request => request.out.map fun out => (out, (·.temporary out))
  | .names store (.put _ _ _) | .names store (.remove _ _) | .names store (.bring _ _ _) =>
    some (store, fun _ => (StoreFile.mk store).draft)
  | _ => none

/-- All files as they were, or what was written beside a path that cannot be replaced. -/
def LeavesOf (writes : Option (Path × (Files → Path))) (files after : Files) : Prop :=
  files.SameContents after ∨
    ∃ target draft, writes = some (target, draft) ∧ files.Stranded target draft after

theorem leavesOf_self (files : Files) : LeavesOf writes files files := .inl .rfl

theorem leavesOf_some {ε α : Type} {action : Action ε α} {target : Path} {draft : Files → Path}
    (h : Leaves (LeavesAtMost target draft) action) : Leaves (LeavesOf (some (target, draft))) action :=
  h.mono fun _ _ hl => hl.imp_right fun hs => ⟨target, draft, rfl, hs⟩

/-- A command that succeeds does not exit with 1, and one that fails leaves no more than it may. -/
structure Tidy (writes : Option (Path × (Files → Path))) (action : Run Printed) : Prop where
  exit : ∀ files printed after, action.perform files = (.ok printed, after) → printed.exit ≠ 1
  leaves : Leaves (LeavesOf writes) action

theorem tidy_pure {printed : Printed} (h : printed.exit ≠ 1) : Tidy writes (pure printed) where
  exit := by
    intro files other after hrun
    cases hrun
    exact h
  leaves := by
    intro files e after hrun
    cases hrun

theorem tidy_throw (e : CommandError) : Tidy writes (throw e) where
  exit := by
    intro files printed after hrun
    cases hrun
  leaves := (reads_throw e).leaves leavesOf_self

section

variable {α : Type} {action : Run α} {next : α → Run Printed}

theorem exit_bind (writes : Option (Path × (Files → Path))) (ht : ∀ x, Tidy writes (next x))
    (files : Files) (printed : Printed) (after : Files)
    (hrun : (action >>= next).perform files = (.ok printed, after)) : printed.exit ≠ 1 := by
  obtain ⟨x, mid, -, hlast⟩ := perform_bind_eq_ok.1 hrun
  exact (ht x).exit mid printed after hlast

theorem Tidy.reads (h : Reads action) (ht : ∀ x, Tidy writes (next x)) : Tidy writes (action >>= next) where
  exit := exit_bind writes ht
  leaves := h.bind_leaves leavesOf_self fun x => (ht x).leaves

theorem Tidy.last (h : Leaves (LeavesOf writes) action) {printed : α → Printed}
    (hp : ∀ x, (printed x).exit ≠ 1) : Tidy writes (action >>= fun x => pure (printed x)) where
  exit := exit_bind writes fun x => tidy_pure (hp x)
  leaves := h.bind fun _ _ => ⟨_, rfl⟩

end

/-! ## Reading -/

theorem reads_ruleSet (path : Path) : Reads (Run.ruleSet path) := by
  intro files
  have hfiles : (Action.files : Run Files).perform files = (.ok files, files) := rfl
  unfold Run.ruleSet
  rw [perform_bind_of_ok hfiles]
  cases RuleSet.load files path <;> rfl

theorem reads_set (store : Path) (name : Text) : Reads (Run.set store name) := by
  have hget : Reads (Run.onStore ((StoreFile.mk store).get? name)) :=
    (StoreFile.reads_get? _ name).adapt _
  refine hget.bind fun found => ?_
  cases found with
  | none => exact reads_throw _
  | some set => exact reads_pure _

theorem reads_setMappings (choice : SetChoice) : Reads (Run.setMappings choice) := by
  unfold Run.setMappings
  split
  · exact (reads_set _ _).bind fun _ => reads_pure _
  · exact reads_say _

theorem reads_mappings (sources : Sources) : Reads (Run.mappings sources) := by
  unfold Run.mappings
  dsimp only
  split
  · split
    · exact reads_pure _
    · exact reads_throw _
  · exact (reads_ruleSet _).bind fun _ => reads_pure _
  · exact reads_setMappings _
  · exact reads_say _

theorem reads_inputs (request : ResolveCommand) : Reads (Run.inputs request) := by
  unfold Run.inputs
  split
  · exact reads_pure _
  · exact (reads_ask _ _).map _
  · exact reads_pure _

/-! ## Commands -/

theorem matchExit_ne_one (isMatched : Bool) : Run.matchExit isMatched ≠ 1 := by
  cases isMatched <;> decide

theorem tidy_parse (key : Text) (json : Bool) : Tidy writes (Run.parse key json) :=
  .reads (reads_ofExcept _ _) fun _ => tidy_pure (show 0 ≠ 1 by decide)

theorem tidy_matching (request : MatchCommand) : Tidy writes (Run.matching request) :=
  .reads (reads_slotMode _) fun _ => .reads (reads_mappings _) fun _ =>
    .reads (reads_ofExcept _ _) fun result => tidy_pure (matchExit_ne_one result.isMatched)

theorem tidy_resolve (request : ResolveCommand) :
    Tidy (Command.writes? (.resolve request)) (Run.resolve request) := by
  have hwrite (data : Json) : Leaves (LeavesOf (Command.writes? (.resolve request)))
      (request.out.forM fun path => Action.writeJson CommandError.file path data) := by
    rw [Command.writes?]
    cases request.out with
    | none => exact (reads_pure _).leaves leavesOf_self
    | some path => exact leavesOf_some (leaves_replaceFile CommandError.file path data.compact)
  unfold Run.resolve
  dsimp only
  split
  · exact tidy_throw _
  · refine .reads (reads_optionMode _) fun mode => .reads (reads_ruleSet _) fun ruleSet => ?_
    split <;> refine .reads ?_ fun table => .reads (reads_inputs _) fun inputs =>
      .reads (reads_ofExcept _ _) fun outcomes => .last (hwrite _) fun _ => matchExit_ne_one _
    · exact (reads_setMappings _).map some
    · exact reads_pure _

theorem tidy_put (store : Path) (name key value : Text) :
    Tidy (Command.writes? (.names store (.put name key value))) (Run.put store name key value) := by
  unfold Run.put
  split
  · exact tidy_throw _
  · exact .last (leavesOf_some ((StoreFile.leaves_putMapping _ name key value).adapt _)) fun _ =>
      show 0 ≠ 1 by decide

/-- What drops something from a store fails where there is nothing to drop. -/
theorem tidy_dropping (file : StoreFile) (drop? : Store → Option Store) :
    Tidy (some (file.path, fun _ => file.draft)) (do
      let removed ← Run.onStore (file.load >>= fun store => file.saveIfAny (drop? store))
      if removed then pure (.text 0 "INFO: removed".toList) else Run.say "nothing to remove.") := by
  obtain ⟨hleaves, hfalse⟩ := StoreFile.dropping_spec file drop?
  constructor
  · refine exit_bind none fun removed => ?_
    split
    · exact tidy_pure (show 0 ≠ 1 by decide)
    · exact tidy_throw _
  · intro files e after h
    rw [perform_bind, perform_onStore] at h
    cases hrun : (file.load >>= fun store => file.saveIfAny (drop? store)).perform files with
    | mk result mid =>
      rw [hrun] at h
      cases result with
      | error why =>
        obtain ⟨-, rfl⟩ := Prod.mk.inj h
        exact leavesOf_some hleaves files why mid hrun
      | ok removed =>
        cases removed with
        | true => cases h
        | false =>
          obtain ⟨-, rfl⟩ := Prod.mk.inj h
          exact hfalse files mid hrun ▸ leavesOf_self mid

theorem tidy_remove (store : Path) (name : Text) (key : Option Text) :
    Tidy (Command.writes? (.names store (.remove name key))) (Run.remove store name key) := by
  cases key with
  | none => exact tidy_dropping ⟨store⟩ (·.drop? name)
  | some key => exact tidy_dropping ⟨store⟩ (·.dropMappings? name key)

theorem tidy_bring (store : Path) (name : Text) (path : Path) (note : Option Text) :
    Tidy (Command.writes? (.names store (.bring name path note))) (Run.bring store name path note) :=
  .reads (reads_ruleSet path) fun _ =>
    .last (leavesOf_some ((StoreFile.leaves_put _ name _ _).adapt _)) fun _ => show 0 ≠ 1 by decide

theorem leaves_saveRuleSet (ruleSet : RuleSet) (out : Path) :
    Leaves Files.SameContents (Run.saveRuleSet ruleSet out) := by
  unfold Run.saveRuleSet
  split
  · exact leaves_replaceFileOrNone _ _ _
  · intro files e after h
    cases hmake : files.makeDirectory out.parent with
    | error why =>
      rw [perform_bind_of_error (perform_change_of_error hmake)] at h
      obtain ⟨-, rfl⟩ := Prod.mk.inj h
      exact .rfl
    | ok made =>
      rw [perform_bind_of_ok (perform_change_of_ok hmake)] at h
      obtain ⟨-, rfl⟩ := Prod.mk.inj h
      exact Files.makeAll_sameContents hmake

theorem tidy_write (store : Path) (name : Text) (out : Path) (other : Option Path) :
    Tidy writes (Run.write store name out other) := by
  refine .reads (reads_set store name) fun set => ?_
  cases other <;> refine .reads ?_ fun base =>
    .last ((leaves_saveRuleSet _ out).mono fun _ _ => .inl) fun _ => show 0 ≠ 1 by decide
  · exact reads_pure _
  · exact reads_ruleSet _

theorem tidy_list (store : Path) : Tidy writes (Run.list store) := by
  have hlist : Reads (Run.onStore (StoreFile.mk store).list) :=
    ((StoreFile.reads_load ⟨store⟩).bind fun _ => reads_pure _).adapt _
  refine .reads hlist fun sets => tidy_pure ?_
  split <;> exact (show 0 ≠ 1 by decide)

theorem tidy_mappingsOf (store : Path) (name : Text) : Tidy writes (Run.mappingsOf store name) :=
  .reads (reads_set store name) fun _ => tidy_pure (show 0 ≠ 1 by decide)

theorem tidy_perform (command : Command) : Tidy command.writes? command.perform := by
  cases command with
  | parse key json => exact tidy_parse key json
  | matching request => exact tidy_matching request
  | expand value given => exact tidy_pure (show 0 ≠ 1 by decide)
  | resolve request => exact tidy_resolve request
  | names store request =>
    cases request with
    | list => exact tidy_list store
    | «show» name => exact tidy_mappingsOf store name
    | put name key value => exact tidy_put store name key value
    | remove name key => exact tidy_remove store name key
    | bring name path note => exact tidy_bring store name path note
    | write name out other => exact tidy_write store name out other

/-! ## Command lines -/

/-- A command line that fails, with words or without them, changes no file, but for one that it leaves
beside a path at which a directory turns out to be. -/
theorem run_failing {arguments : List Text} {result : Except CommandError Printed}
    (h : (run arguments).perform files = (result, after))
    (hfail : ∀ printed, result = .ok printed → printed.exit = 1) :
    ∃ command, Command.ofArguments? files arguments = some command ∧
      LeavesOf command.writes? files after := by
  have hfiles : (Action.files : Run Files).perform files = (.ok files, files) := rfl
  unfold run at h
  rw [perform_bind_of_ok hfiles] at h
  cases hcommand : Command.ofArguments? files arguments with
  | none =>
    rw [hcommand] at h
    cases h
    have hexit := hfail _ rfl
    cases hexit
  | some command =>
    rw [hcommand] at h
    dsimp only at h
    rw [perform_tryCatch] at h
    refine ⟨command, rfl, ?_⟩
    cases hrun : command.perform.perform files with
    | mk done mid =>
      rw [hrun] at h
      cases done with
      | ok printed =>
        cases h
        exact ((tidy_perform command).exit files printed after hrun (hfail printed rfl)).elim
      | error why =>
        have hafter : mid = after := by cases why <;> exact (Prod.mk.inj h).2
        exact (tidy_perform command).leaves files why after (hafter ▸ hrun)

/-! ## Stores that cannot be read -/

/-- A command about the sets of a store that cannot be read, which nothing else turns down before, says
why, or ends without words where that is not told. -/
theorem run_names_of_load_error {arguments : List Text} {store : Path} {request : NamesCommand}
    {e : StoreError} (hcommand : Command.ofArguments? files arguments = some (.names store request))
    (hload : ((StoreFile.mk store).load.perform files).1 = .error e)
    (hput : ∀ name key value, request = .put name key value → key ≠ [])
    (hbring : ∀ name path note, request = .bring name path note →
      ∃ ruleSet, RuleSet.load files path = .ok ruleSet) :
    (run arguments).perform files =
      (if e.isReported then .ok (.error e.message) else .error (.store e), files) := by
  let told : CommandError := if e.isReported then .said e.message else .store e
  have hgoes {α : Type} {next : Store → Action StoreError α} :
      (Run.onStore ((StoreFile.mk store).load >>= next)).perform files = (.error told, files) := by
    rw [perform_onStore, perform_bind_of_error (Prod.ext hload (StoreFile.reads_load _ files))]
    rfl
  have hset (name : Text) : (Run.set store name).perform files = (.error told, files) :=
    perform_bind_of_error hgoes
  have hfails : (Run.names store request).perform files = (.error told, files) := by
    cases request with
    | list => exact perform_bind_of_error hgoes
    | «show» name => exact perform_bind_of_error (hset name)
    | put name key value =>
      have hkey := hput name key value rfl
      change (Run.put store name key value).perform files = _
      unfold Run.put StoreFile.putMapping
      rw [if_neg (by simpa using hkey), Mapping.ofTexts_eq, if_neg hkey]
      exact perform_bind_of_error hgoes
    | remove name key => cases key <;> exact perform_bind_of_error hgoes
    | bring name path note =>
      obtain ⟨ruleSet, hrules⟩ := hbring name path note rfl
      exact (perform_bind_of_ok (perform_ruleSet hrules)).trans (perform_bind_of_error hgoes)
    | write name out other => exact perform_bind_of_error (hset name)
  have hfiles : (Action.files : Run Files).perform files = (.ok files, files) := rfl
  unfold run
  rw [perform_bind_of_ok hfiles, hcommand]
  dsimp only
  rw [perform_tryCatch, show Command.perform (.names store request) = Run.names store request from rfl,
    hfails]
  by_cases he : e.isReported = true <;> simp only [told, he] <;> rfl

end Cli

end NameSlots
