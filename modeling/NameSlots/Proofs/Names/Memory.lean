import Mathlib.Data.Finmap
import Mathlib.Data.Finset.Sort
import NameSlots.Proofs.Names.StoreData

/-! What a store means: a finite map from names to sets with a version, and what every call on a
store does to it. -/
namespace NameSlots

/-! ## Calls and what they give -/

/-- A call on a store. -/
inductive Call where
  | get (name : Text)
  | list
  | put (name key value : Text)
  | remove (name key : Text)
  | delete (name : Text)
  | upsert (name : Text) (mappings : List Mapping) (note : Json)

namespace Call

/-- A call with mappings and a note that there can be. -/
def WellFormed : Call → Prop
  | upsert _ mappings note => (∀ mapping ∈ mappings, mapping.key ≠ []) ∧ note.WellFormed
  | _ => True

/-- The name of the set that a call may change. -/
def target? : Call → Option Text
  | get _ | list => none
  | put name _ _ | remove name _ | delete name | upsert name _ _ => some name

/-- Whether a call puts another set in place of one, or none. -/
def replaces (name : Text) : Call → Bool
  | delete other | upsert other _ _ => other == name
  | _ => false

end Call

/-- What a call on a store gives. -/
inductive Found where
  | set (found : Option NameSet)
  | sets (all : List NameSet)
  | flag (done : Bool)
  | nothing

/-- What a call gives with the fields of all values in order. -/
def Found.sorted : Found → Found
  | .set found => .set (found.map NameSet.sorted)
  | .sets all => .sets (all.map NameSet.sorted)
  | .flag done => .flag done
  | .nothing => .nothing

/-- Does a call on the store of a file. -/
def StoreFile.call (file : StoreFile) : Call → Action StoreError Found
  | .get name => .set <$> file.get? name
  | .list => .sets <$> file.list
  | .put name key value => (.set ∘ some) <$> file.putMapping name key value
  | .remove name key => .flag <$> file.dropMappings name key
  | .delete name => .flag <$> file.drop name
  | .upsert name mappings note => (fun _ => .nothing) <$> file.put name mappings note

/-! ## The map -/

/-- Sets by name, with a version. The fields of all values are in order. -/
structure Memory where
  version : Int
  sets : Finmap fun _ : Text => NameSet

/-- Mappings with one in place of the first one of its key, or after all of them. -/
def overwrite (mapping : Mapping) (mappings : List Mapping) : List Mapping :=
  match mappings.findIdx? (·.key = mapping.key) with
  | some index => mappings.set index mapping
  | none => mappings ++ [mapping]

namespace Memory

/-- The sets in code-point order of their names. -/
def list (memory : Memory) : List NameSet :=
  (memory.sets.keys.sort Text.Le).filterMap memory.sets.lookup

/-- The set of a name with a mapping in it; a set that is missing is new. -/
def withMapping (memory : Memory) (name : Text) (mapping : Mapping) : NameSet :=
  let set := (memory.sets.lookup name).getD { name := .string name }
  { set with mappings := overwrite mapping set.mappings }

def put (memory : Memory) (name : Text) (set : NameSet) : Memory :=
  { memory with sets := memory.sets.insert name set }

/-- Why there can be no mapping of an empty key. -/
def emptyKey : StoreError := .invalid [⟨.textTooShort, [.name "key".toList], .string []⟩]

/-- What a call gives, and the map after it. -/
def call : Call → Memory → Except StoreError Found × Memory
  | .get name, memory => (.ok (.set (memory.sets.lookup name)), memory)
  | .list, memory => (.ok (.sets memory.list), memory)
  | .put name key value, memory =>
    if key = [] then (.error emptyKey, memory)
    else
      let set := memory.withMapping name ⟨key, value⟩
      (.ok (.set (some set)), memory.put name set)
  | .remove name key, memory =>
    match memory.sets.lookup name with
    | none => (.ok (.flag false), memory)
    | some set =>
      if ∃ mapping ∈ set.mappings, mapping.key = key then
        (.ok (.flag true),
          memory.put name { set with mappings := set.mappings.filter (·.key ≠ key) })
      else (.ok (.flag false), memory)
  | .delete name, memory =>
    if name ∈ memory.sets then (.ok (.flag true), { memory with sets := memory.sets.erase name })
    else (.ok (.flag false), memory)
  | .upsert name mappings note, memory =>
    (.ok .nothing, memory.put name { name := .string name, mappings, note := note.sorted })

variable {memory : Memory} {name : Text} {set : NameSet} {c : Call}

theorem lookup_put (memory : Memory) (name other : Text) (set : NameSet) :
    (memory.put name set).sets.lookup other =
      if other = name then some set else memory.sets.lookup other := by
  by_cases h : other = name
  · rw [if_pos h, h]
    exact Finmap.lookup_insert _
  · rw [if_neg h]
    exact Finmap.lookup_insert_of_ne _ h

/-- No call changes the version. -/
theorem call_version (c : Call) (memory : Memory) : (call c memory).2.version = memory.version := by
  cases c with
  | get | list | upsert => rfl
  | put name key value =>
    simp only [call]
    split <;> rfl
  | remove name key =>
    simp only [call]
    split
    · rfl
    · split <;> rfl
  | delete name =>
    simp only [call]
    split <;> rfl

/-- A call leaves all sets alone but the one it is about. -/
theorem call_other (h : c.target? ≠ some name) (memory : Memory) :
    (call c memory).2.sets.lookup name = memory.sets.lookup name := by
  have hput {other : Text} (h : some other ≠ some name) (set : NameSet) :
      (memory.put other set).sets.lookup name = memory.sets.lookup name := by
    rw [lookup_put, if_neg]
    rintro rfl
    exact h rfl
  cases c with
  | get | list => rfl
  | upsert other mappings note => exact hput h _
  | put other key value =>
    simp only [call]
    split
    · rfl
    · exact hput h _
  | remove other key =>
    simp only [call]
    split
    · rfl
    · split
      · exact hput h _
      · rfl
  | delete other =>
    simp only [call]
    split
    · refine Finmap.lookup_erase_ne ?_
      rintro rfl
      exact h rfl
    · rfl

/-- A set keeps its name and its note unless it is deleted or put anew. -/
theorem call_keeps (hc : c.replaces name = false) (hl : memory.sets.lookup name = some set) :
    ∃ after, (call c memory).2.sets.lookup name = some after ∧ after.name = set.name ∧
      after.note = set.note := by
  by_cases ht : c.target? = some name
  · cases c with
    | get | list => simp [Call.target?] at ht
    | put other key value =>
      obtain rfl : other = name := by simpa [Call.target?] using ht
      simp only [call]
      split
      · exact ⟨set, hl, rfl, rfl⟩
      · exact ⟨_, by rw [lookup_put, if_pos rfl], by simp [withMapping, hl], by simp [withMapping, hl]⟩
    | remove other key =>
      obtain rfl : other = name := by simpa [Call.target?] using ht
      simp only [call, hl]
      split
      · exact ⟨{ set with mappings := set.mappings.filter (·.key ≠ key) },
          by rw [lookup_put, if_pos rfl], rfl, rfl⟩
      · exact ⟨set, hl, rfl, rfl⟩
    | delete other => simp_all [Call.target?, Call.replaces]
    | upsert other mappings note => simp_all [Call.target?, Call.replaces]
  · exact ⟨set, by rw [call_other ht, hl], rfl, rfl⟩

end Memory

/-! ## The map of a store -/

theorem putMapping_eq (mapping : Mapping) (mappings : List Mapping) :
    putMapping mapping mappings = overwrite mapping mappings := by
  induction mappings with
  | nil => rfl
  | cons first rest ih =>
    unfold putMapping overwrite
    by_cases h : first.key = mapping.key
    · simp [h, List.findIdx?_cons]
    · rw [if_neg h, ih, overwrite, List.findIdx?_cons]
      simp only [h, decide_false, Bool.false_eq_true, if_false]
      cases rest.findIdx? (·.key = mapping.key) <;> rfl

namespace Store

/-- What a store means. -/
def memory (store : Store) : Memory where
  version := store.version
  sets := (store.sets.map fun entry => (⟨entry.1, entry.2.sorted⟩ : Σ _ : Text, NameSet)).toFinmap

variable {store : Store} {name : Text}

theorem lookup_memory (store : Store) (name : Text) :
    store.memory.sets.lookup name = (store.get? name).map NameSet.sorted := by
  unfold memory get?
  rw [Finmap.dlookup_list_toFinmap]
  induction store.sets with
  | nil => rfl
  | cons entry sets ih =>
    obtain ⟨other, set⟩ := entry
    rw [List.map_cons, Table.lookup_cons]
    by_cases h : name = other
    · subst h
      simp
    · rw [List.dlookup_cons_ne _ _ h, ih, if_neg h]

theorem memory_ext {m : Memory} (hv : store.version = m.version)
    (hs : ∀ name, (store.get? name).map NameSet.sorted = m.sets.lookup name) : store.memory = m := by
  obtain ⟨version, sets⟩ := m
  have hsets : store.memory.sets = sets :=
    Finmap.ext_lookup fun name => (lookup_memory store name).trans (hs name)
  rw [← hsets, ← show store.version = version from hv]
  rfl

theorem memory_put (store : Store) (name : Text) (set : NameSet) :
    (store.put name set).memory = store.memory.put name set.sorted := by
  refine memory_ext rfl fun other => ?_
  rw [Memory.lookup_put, lookup_memory]
  unfold get? put
  rw [Table.lookup_put]
  split <;> rfl

theorem memory_drop (store : Store) (name : Text) :
    ({ store with sets := Table.drop name store.sets } : Store).memory =
      { store.memory with sets := store.memory.sets.erase name } := by
  refine memory_ext rfl fun other => ?_
  unfold get?
  dsimp only
  rw [Table.lookup_drop]
  by_cases h : other = name
  · subst h
    rw [if_pos rfl, Finmap.lookup_erase]
    rfl
  · rw [if_neg h, Finmap.lookup_erase_ne h, lookup_memory]
    rfl

/-- What a store means does not depend on the order of its sets. -/
theorem memory_sorted (h : store.WellFormed) : store.sorted.memory = store.memory := by
  refine memory_ext rfl fun name => ?_
  have hn : ((Json.sortFields store.sets).map Prod.fst).Nodup := Json.nodup_sortFields h.names
  rw [lookup_memory]
  unfold get? sorted
  dsimp only
  rw [Table.lookup_map NameSet.sorted,
    Table.lookup_perm hn (Json.sortFields_perm store.sets), Option.map_map]
  congr 1
  funext set
  exact set.sorted_sorted

theorem keys_memory (store : Store) :
    store.memory.sets.keys = (store.sets.map Prod.fst).toFinset := by
  ext name
  rw [Finmap.mem_keys, memory, Finmap.mem_list_toFinmap]
  simp

/-- The names of a store in order. -/
theorem names_memory (h : store.WellFormed) :
    store.memory.sets.keys.sort Text.Le = (Json.sortFields store.sets).map Prod.fst := by
  have hn : ((Json.sortFields store.sets).map Prod.fst).Nodup := Json.nodup_sortFields h.names
  have hsorted : ((Json.sortFields store.sets).map Prod.fst).Pairwise Text.Le :=
    List.pairwise_map.2 (Json.sortFields_pairwise store.sets)
  refine List.Perm.eq_of_pairwise' (Finset.pairwise_sort _ _) hsorted ?_
  refine (List.perm_ext_iff_of_nodup (Finset.sort_nodup _ _) hn).2 fun name => ?_
  rw [Finset.mem_sort, keys_memory, List.mem_toFinset]
  exact (((Json.sortFields_perm store.sets).map Prod.fst).mem_iff).symm

theorem lookup_memory_of_mem (h : store.WellFormed) {entry : Text × NameSet}
    (hm : entry ∈ Json.sortFields store.sets) :
    store.memory.sets.lookup entry.1 = some entry.2.sorted := by
  have hn : ((Json.sortFields store.sets).map Prod.fst).Nodup := Json.nodup_sortFields h.names
  rw [lookup_memory, get?, ← Table.lookup_perm hn (Json.sortFields_perm _),
    Table.lookup_eq_some_of_mem hn hm]
  rfl

/-- The sets of a store in the order of their names. -/
theorem list_memory (h : store.WellFormed) :
    store.list.map NameSet.sorted = store.memory.list := by
  have hlookup : ∀ entry ∈ Json.sortFields store.sets,
      (store.memory.sets.lookup ∘ Prod.fst) entry = some entry.2.sorted :=
    fun entry hm => lookup_memory_of_mem h hm
  unfold Memory.list
  rw [names_memory h, List.filterMap_map, List.filterMap_congr hlookup]
  rw [list, List.map_map, List.filterMap_eq_map']
  rfl

end Store

end NameSlots
