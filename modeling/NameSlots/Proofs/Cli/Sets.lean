import NameSlots.Proofs.Cli.Commands
import NameSlots.Proofs.Names.Runs
import NameSlots.Proofs.Rules.Source

/-! Commands about the sets of a store. The mappings of a rule set that were brought into a store resolve
inputs as they do in the rule set. -/
namespace NameSlots

open NameSlots.Action

/-! ## Putting a set into a store -/

namespace StoreFile

variable {file : StoreFile} {files : Files} {store : Store} {s : Text}

/-- A set that is put into a store is found there with its mappings, and all other sets are as they were. -/
theorem Holds.put (h : file.Holds files store) {mappings : List Mapping} {note : Json}
    (hm : ∀ mapping ∈ mappings, mapping.key ≠ []) (hn : note.WellFormed) (name : Text) :
    ∃ after last dir, (file.put name mappings note).perform files = (.ok (), after) ∧
      file.Holds after last ∧ file.Wrote files after dir ∧ last.version = store.version ∧
      ∀ other, (last.get? other).map NameSet.sorted =
        if other = name then some { name := .string name, mappings, note := note.sorted }
        else (store.get? other).map NameSet.sorted := by
  let new := store.put name { name := .string name, mappings, note }
  have hnew : new.WellFormed := Store.wellFormed_put h.wellFormed ⟨.string name, hn, hm⟩ name
  obtain ⟨after, hsave, htree, hwritable, hlook⟩ := save_spec h.tree h.writable new
  obtain ⟨dir, hwrote⟩ := wrote_of_save h.tree hsave
  have hput : (file.put name mappings note).perform files = (file.save new).perform files := by
    unfold StoreFile.put
    rw [perform_bind_of_ok h.load]
  refine ⟨after, new.sorted, dir, hput.trans hsave,
    ⟨htree, hwritable, load_of_look? hnew hlook, Store.wellFormed_sorted hnew⟩, hwrote, rfl,
    fun other => ?_⟩
  rw [← Store.lookup_memory, Store.memory_sorted hnew, Store.memory_put, Memory.lookup_put,
    Store.lookup_memory]
  rfl

end StoreFile

namespace Cli

variable {files after : Files} {choices : List Choice} {option : String} {r s name : Text}
  {note : Option Text}

/-! ## Options -/

theorem perform_onStore {α : Type} (action : Action StoreError α) (files : Files) :
    (Run.onStore action).perform files = ((action.perform files).1.mapError
      fun e => if e.isReported then .said e.message else .store e, (action.perform files).2) :=
  perform_adapt ..

theorem reads_say {α : Type} (message : String) : Reads (Run.say message : Run α) := reads_throw _

theorem reads_slotMode (written : Text) : Reads (Run.slotMode written) := by
  unfold Run.slotMode
  split
  · exact reads_pure _
  · exact reads_say _

theorem reads_optionMode (written : Option Text) : Reads (written.mapM Run.slotMode) := by
  cases written with
  | none => exact reads_pure _
  | some t => exact (reads_slotMode t).map some

end Cli
end NameSlots
