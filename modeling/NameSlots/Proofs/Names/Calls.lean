import NameSlots.Proofs.Names.Memory

/-! What a call on the store of a file does, said once: it gives up, or it reads the store, tells what
it finds there and saves the store that it leaves, if that is another one. -/
namespace NameSlots

namespace Call

/-- Why a call gives up before it reads the store. -/
def refusal? : Call → Option StoreError
  | put _ [] _ => some Memory.emptyKey
  | _ => none

/-- What a call gives on a store, and the store that it saves if it changes anything. -/
def effect (store : Store) : Call → Found × Option Store
  | get name => (.set (store.get? name), none)
  | list => (.sets store.list, none)
  | put name key value =>
    (.set (some (store.withMapping name ⟨key, value⟩)), some (store.putMapping name ⟨key, value⟩))
  | remove name key => (.flag (store.dropMappings? name key).isSome, store.dropMappings? name key)
  | delete name => (.flag (store.drop? name).isSome, store.drop? name)
  | upsert name mappings note =>
    (.nothing, some (store.put name { name := .string name, mappings, note }))

variable {c : Call} {e : StoreError} {store new : Store}

theorem refusal?_eq_some : c.refusal? = some e ↔
    (∃ name value, c = .put name [] value) ∧ e = Memory.emptyKey := by
  cases c with
  | put name key value => cases key <;> simp [refusal?, eq_comm]
  | _ => simp [refusal?]

theorem key_ne_nil_of_refusal? {name key value : Text} (h : (put name key value).refusal? = none) :
    key ≠ [] := by
  rintro rfl
  simp [refusal?] at h

/-- What a call saves is a store that a file can hold. -/
theorem effect_wellFormed (h : store.WellFormed) (hc : c.WellFormed) (hr : c.refusal? = none)
    (hn : (c.effect store).2 = some new) : new.WellFormed := by
  cases c with
  | get | list => simp [effect] at hn
  | put name key value =>
    obtain rfl := Option.some.inj hn
    have hset : (store.withMapping name ⟨key, value⟩).WellFormed :=
      Store.wellFormed_withMapping h (key_ne_nil_of_refusal? hr) name
    exact Store.wellFormed_put h hset name
  | remove name key => exact Store.wellFormed_dropMappings? h hn
  | delete name => exact Store.wellFormed_drop? h hn
  | upsert name mappings note =>
    obtain rfl := Option.some.inj hn
    have hset : NameSet.WellFormed { name := .string name, mappings, note } :=
      ⟨.string name, hc.2, hc.1⟩
    exact Store.wellFormed_put h hset name

end Call

/-! ## The effect on a map -/

theorem Store.withMapping_sorted (store : Store) (name : Text) (mapping : Mapping) :
    (store.withMapping name mapping).sorted = store.memory.withMapping name mapping := by
  unfold withMapping Memory.withMapping
  rw [lookup_memory]
  cases store.get? name with
  | none => simp [NameSet.sorted, putMapping_eq, Json.sorted]
  | some set => simp [NameSet.sorted, putMapping_eq]

theorem length_filter_key (mappings : List Mapping) (key : Text) :
    (mappings.filter (·.key ≠ key)).length = mappings.length ↔
      ¬ ∃ mapping ∈ mappings, mapping.key = key := by
  simp [List.length_filter_eq_length_iff]

namespace Memory

variable {c : Call} {e : StoreError}

theorem call_of_refusal (h : c.refusal? = some e) (memory : Memory) :
    call c memory = (.error e, memory) := by
  obtain ⟨⟨name, value, rfl⟩, rfl⟩ := Call.refusal?_eq_some.1 h
  rfl

/-- A call does to the map of a store what it does to the store. -/
theorem call_memory {store : Store} (hs : store.WellFormed) (h : c.refusal? = none) :
    call c store.memory = (.ok (c.effect store).1.sorted,
      ((c.effect store).2.map Store.memory).getD store.memory) := by
  cases c with
  | get name =>
    rw [call, Store.lookup_memory]
    rfl
  | list =>
    rw [call, ← Store.list_memory hs]
    rfl
  | put name key value =>
    rw [call, if_neg (Call.key_ne_nil_of_refusal? h)]
    simp only [Call.effect, Store.putMapping, Store.memory_put, Store.withMapping_sorted,
      Option.map_some, Option.getD_some, Found.sorted]
  | remove name key =>
    rw [call, Store.lookup_memory]
    simp only [Call.effect, Store.dropMappings?]
    cases store.get? name with
    | none => rfl
    | some set =>
      have hiff := length_filter_key set.mappings key
      simp only [Option.bind_eq_bind, Option.bind_some, Option.map_some]
      by_cases hk : ∃ mapping ∈ set.mappings, mapping.key = key
      · rw [if_neg fun hl => hiff.1 hl hk, Option.map_some, Option.getD_some, Store.memory_put]
        exact if_pos hk
      · rw [if_pos (hiff.2 hk)]
        exact if_neg hk
  | delete name =>
    have hmem : name ∈ store.memory.sets ↔ (store.get? name).isSome := by
      rw [← Finmap.lookup_isSome, Store.lookup_memory, Option.isSome_map]
    rw [call]
    simp only [Call.effect, Store.drop?, hmem]
    cases store.get? name with
    | none => rfl
    | some set =>
      simp only [Option.isSome_some, if_true, Option.isNone_some, Bool.false_eq_true, if_false,
        Option.map_some, Option.getD_some, Store.memory_drop]
      rfl
  | upsert name mappings note =>
    simp only [call, Call.effect, Option.map_some, Option.getD_some, Store.memory_put]
    rfl

end Memory

/-! ## The action on a file -/

namespace StoreFile

variable {file : StoreFile} {c : Call} {e : StoreError}

/-- Saves the store that a call leaves, if there is one, and gives what the call gives. -/
def finish (file : StoreFile) : Found × Option Store → Action StoreError Found
  | (found, none) => pure found
  | (found, some new) => do
    file.save new
    pure found

theorem call_of_refusal (h : c.refusal? = some e) : file.call c = throw e := by
  obtain ⟨⟨name, value, rfl⟩, rfl⟩ := Call.refusal?_eq_some.1 h
  simp only [call, putMapping, Mapping.ofTexts_eq, if_true]
  rfl

theorem call_eq (h : c.refusal? = none) :
    file.call c = file.load >>= fun store => file.finish (c.effect store) := by
  cases c with
  | get name => simp [call, get?, Call.effect, finish]
  | list => simp [call, list, Call.effect, finish]
  | put name key value =>
    have hk := Call.key_ne_nil_of_refusal? h
    simp [call, putMapping, Call.effect, finish, Mapping.ofTexts_eq, hk, Action.ofExcept]
  | remove name key =>
    simp only [call, dropMappings, Call.effect, map_bind]
    refine bind_congr fun store => ?_
    cases store.dropMappings? name key <;> simp [saveIfAny, finish]
  | delete name =>
    simp only [call, drop, Call.effect, map_bind]
    refine bind_congr fun store => ?_
    cases store.drop? name <;> simp [saveIfAny, finish]
  | upsert name mappings note => simp [call, put, Call.effect, finish]

end StoreFile

end NameSlots
