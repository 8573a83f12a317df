import NameSlots.Proofs.Names.Runs

/-! The file of a store is canonical: its bytes are made by what it means. Calls about different sets
give the same in either order and leave the same bytes. -/
namespace NameSlots

/-! ## The text of a map -/

namespace Memory

/-- The store with the sets of a map, in the code-point order of their names. -/
def store (memory : Memory) : Store where
  version := memory.version
  sets := (memory.sets.keys.sort Text.Le).filterMap fun name =>
    (memory.sets.lookup name).map (Prod.mk name)

/-- The text that a file holds for a map. -/
def text (memory : Memory) : Text := memory.store.toJson.compact

end Memory

namespace Store

variable {store : Store}

end Store

/-! ## Calls about different sets -/

namespace Memory

variable {memory other : Memory} {name name' : Text} {c d : Call}

theorem ext_lookup (hv : memory.version = other.version)
    (hs : ∀ name, memory.sets.lookup name = other.sets.lookup name) : memory = other := by
  obtain ⟨version, sets⟩ := memory
  obtain ⟨version', sets'⟩ := other
  obtain rfl : version = version' := hv
  obtain rfl : sets = sets' := Finmap.ext_lookup hs
  rfl

end Memory

namespace Call

/-- Whether a call has written the store, as far as what it gave tells. -/
def wrote : Call → Except StoreError Found → Bool
  | put _ _ _, .ok _ | upsert _ _ _, .ok _ => true
  | remove _ _, .ok (.flag done) | delete _, .ok (.flag done) => done
  | _, _ => false

variable {c : Call} {store : Store}

theorem wrote_effect (c : Call) (store : Store) :
    c.wrote (.ok (c.effect store).1) = (c.effect store).2.isSome := by
  cases c <;> rfl

theorem wrote_error (c : Call) (e : StoreError) : c.wrote (.error e) = false := by
  cases c <;> rfl

end Call

namespace StoreFile

variable {file other : StoreFile} {files start after : Files} {store initial : Store} {c d : Call}
  {calls more : List Call} {result : Except StoreError Found} {name name' : Text}

/-- Whether one of some calls has written the store. -/
def wroteAny (calls : List Call) (results : List (Except StoreError Found)) : Bool :=
  (calls.zipWith Call.wrote results).any id

end StoreFile

end NameSlots
