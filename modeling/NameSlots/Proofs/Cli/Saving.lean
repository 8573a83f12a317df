import NameSlots.Proofs.Cli.Failing
import NameSlots.Proofs.Files.Replacing

/-! A rule set is saved as a whole or not at all. -/
namespace NameSlots

namespace Cli

open Files NameSlots.Action

/-- A rule set is saved if its version can be written and a file can be put at its path; then the file
holds its whole document and all others are as they were. Otherwise all files are. -/
theorem saveRuleSet_whole_or_not (ruleSet : RuleSet) (out : Path) {files : Files} (ht : files.Tree) :
    (ruleSet.isWritable = true ∧ files.Replaceable out ∧
      ∃ after, (Run.saveRuleSet ruleSet out).perform files = (.ok (), after) ∧
        files.Written out (Utf8.encode ruleSet.toYaml) after) ∨
    (¬ (ruleSet.isWritable = true ∧ files.Replaceable out) ∧
      ∃ e after, (Run.saveRuleSet ruleSet out).perform files = (.error e, after) ∧
        files.SameContents after) := by
  cases hrun : (Run.saveRuleSet ruleSet out).perform files with
  | mk result after =>
  cases result with
  | error e =>
    refine .inr ⟨fun ⟨hw, hplace⟩ => ?_, e, after, rfl, leaves_saveRuleSet ruleSet out files e after hrun⟩
    obtain ⟨saved, hsave⟩ := exists_replaceFileOrNone ht hplace CommandError.file ruleSet.toYaml
    rw [Run.saveRuleSet, if_pos hw, RuleSet.save, hsave] at hrun
    cases hrun
  | ok done =>
    by_cases hw : ruleSet.isWritable = true
    · rw [Run.saveRuleSet, if_pos hw] at hrun
      obtain ⟨hplace, hwritten⟩ := written_of_replaceFileOrNone ht hrun
      exact .inl ⟨hw, hplace, after, rfl, hwritten⟩
    · rw [Run.saveRuleSet, if_neg hw] at hrun
      exact (perform_bind_throw_ne_ok _ _ _ (congrArg Prod.fst hrun)).elim

/-- A rule set is saved where the directory of its path is missing, and is not where the path leads back
to the directory that was made for it. -/
theorem saveRuleSet_beside_file :
    (∃ after, (Run.saveRuleSet {} (Path.ofText "d/r".toList)).perform
        ⟨[(Path.ofText ['k'], .file [1])]⟩ = (.ok (), after) ∧
      Files.Written (Path.ofText "d/r".toList) (Utf8.encode (RuleSet.toYaml {}))
        ⟨[(Path.ofText ['k'], .file [1])]⟩ after) ∧
    ∃ e after, (Run.saveRuleSet {} (Path.ofText "d/../d".toList)).perform
        ⟨[(Path.ofText ['k'], .file [1])]⟩ = (.error e, after) ∧
      Files.SameContents ⟨[(Path.ofText ['k'], .file [1])]⟩ after := by
  have ht : Files.Tree ⟨[(Path.ofText ['k'], .file [1])]⟩ :=
    Flat.tree fun entry hm => ⟨['k'], [1], List.mem_singleton.1 hm⟩
  have hplace : Files.Replaceable (Path.ofText "d/r".toList) ⟨[(Path.ofText ['k'], .file [1])]⟩ :=
    ⟨_, rfl, by decide⟩
  constructor
  · rcases saveRuleSet_whole_or_not {} (Path.ofText "d/r".toList) ht with ⟨-, -, hsaved⟩ | ⟨hnot, -⟩
    · exact hsaved
    · exact (hnot ⟨by decide, hplace⟩).elim
  · rcases saveRuleSet_whole_or_not {} (Path.ofText "d/../d".toList) ht with
      ⟨-, ⟨made, hmake, hnot⟩, -⟩ | ⟨-, hfails⟩
    · obtain rfl := Except.ok.inj hmake
      exact (hnot (by decide)).elim
    · exact hfails

end Cli

end NameSlots
