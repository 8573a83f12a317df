import Mathlib
import NameSlots.Proofs.Json.Line
import NameSlots.Proofs.Names.Calls
import NameSlots.Proofs.Names.Saving

/-! Calls on the store of a file give what the same calls on a map in memory give, call after call. -/
namespace NameSlots

open NameSlots.Action

/-! ## Steps one after the other -/

/-- The results of steps and the state after them. -/
def runAll {σ κ ρ : Type} (step : κ → σ → ρ × σ) : List κ → σ → List ρ × σ
  | [], state => ([], state)
  | first :: rest, state =>
    let (result, state) := step first state
    let (results, state) := runAll step rest state
    (result :: results, state)

section

variable {σ τ κ ρ ρ' : Type} {calls : List κ}

/-- Where every step of one machine is one of another, so is every run. -/
theorem runAll_simulates (step : κ → σ → ρ × σ) (step' : κ → τ → ρ' × τ) (R : σ → τ → Prop)
    (shown : ρ → ρ') (P : κ → Prop)
    (hstep : ∀ c s t, P c → R s t → shown (step c s).1 = (step' c t).1 ∧
      R (step c s).2 (step' c t).2)
    (hp : ∀ c ∈ calls, P c) {s : σ} {t : τ} (hr : R s t) :
    (runAll step calls s).1.map shown = (runAll step' calls t).1 ∧
      R (runAll step calls s).2 (runAll step' calls t).2 := by
  induction calls generalizing s t with
  | nil => exact ⟨rfl, hr⟩
  | cons c calls ih =>
    obtain ⟨hc, hcalls⟩ := List.forall_mem_cons.1 hp
    obtain ⟨hshown, hnext⟩ := hstep c s t hc hr
    obtain ⟨hrest, hlast⟩ := ih hcalls hnext
    refine ⟨?_, hlast⟩
    rw [runAll, List.map_cons, hshown, hrest]
    rfl

/-- What every step keeps, every run keeps. -/
theorem runAll_keeps (step : κ → σ → ρ × σ) (Q : σ → Prop) (P : κ → Prop)
    (hstep : ∀ c s, P c → Q s → Q (step c s).2) (hp : ∀ c ∈ calls, P c) {s : σ} (hq : Q s) : Q (runAll step calls s).2 := by
  induction calls generalizing s with
  | nil => exact hq
  | cons c calls ih =>
    obtain ⟨hc, hcalls⟩ := List.forall_mem_cons.1 hp
    exact ih hcalls (hstep c s hc hq)

end

/-! ## Runs on a map -/

namespace Memory

variable {calls : List Call} {memory : Memory} {name : Text} {set : NameSet}

/-- What calls give one after the other, and the map after them. -/
def run (calls : List Call) (memory : Memory) : List (Except StoreError Found) × Memory :=
  runAll call calls memory

theorem run_version (calls : List Call) (memory : Memory) :
    (run calls memory).2.version = memory.version :=
  runAll_keeps call (fun after => after.version = memory.version) (fun _ => True)
    (fun c after _ hv => (call_version c after).trans hv) (fun _ _ => trivial) rfl

/-- A set that no call is about stays as it is. -/
theorem run_other (h : ∀ call ∈ calls, call.target? ≠ some name) (memory : Memory) :
    (run calls memory).2.sets.lookup name = memory.sets.lookup name :=
  runAll_keeps call (fun after => after.sets.lookup name = memory.sets.lookup name)
    (fun c => c.target? ≠ some name) (fun _ after hc hl => (call_other hc after).trans hl) h rfl

/-- A set that is neither deleted nor put anew keeps its name and its note. -/
theorem run_keeps (hl : memory.sets.lookup name = some set)
    (h : ∀ call ∈ calls, call.replaces name = false) :
    ∃ after, (run calls memory).2.sets.lookup name = some after ∧ after.name = set.name ∧
      after.note = set.note := by
  refine runAll_keeps call (fun memory => ∃ after, memory.sets.lookup name = some after ∧
    after.name = set.name ∧ after.note = set.note) (fun c => c.replaces name = false)
    (fun c memory hc hs => ?_) h ⟨set, hl, rfl, rfl⟩
  obtain ⟨set, hs, hname, hnote⟩ := hs
  obtain ⟨after, ha, hname', hnote'⟩ := call_keeps hc hs
  exact ⟨after, ha, hname'.trans hname, hnote'.trans hnote⟩

end Memory

/-! ## Runs on a file -/

namespace StoreFile

variable {file : StoreFile} {files after : Files} {store new : Store} {text : Text} {c : Call}
  {result : Except StoreError Found}

/-! ## Loading -/

/-- Loading leaves the files as they are. -/
theorem load_eq (file : StoreFile) (files : Files) : file.load.perform files =
    (if (files.look? file.path).isNone then .ok ({} : Store)
      else match files.readText file.path with
        | .ok content => Store.ofText file.path content
        | .error e => .error (.file e), files) := by
  unfold load
  rw [perform_bind]
  change ((if (files.look? file.path).isNone then pure ({} : Store) else _) : Action _ _).perform files = _
  split
  · rfl
  · rw [perform_bind, perform_ask]
    cases files.readText file.path with
    | error e => rfl
    | ok content =>
      dsimp only
      rw [perform_ofExcept]
      cases Store.ofText file.path content <;> rfl

theorem load_wellFormed (h : (file.load.perform files).1 = .ok store) : store.WellFormed := by
  rw [load_eq] at h
  dsimp only at h
  split at h
  · rw [← Except.ok.inj h]
    exact Store.wellFormed_empty
  · split at h
    · exact Store.ofText_wellFormed h
    · simp at h

/-- A store that was written is loaded, with its sets and the fields in them in order. -/
theorem load_of_look? (hs : store.WellFormed)
    (h : files.look? file.path = some (.file (Utf8.encode store.toJson.compact))) :
    file.load.perform files = (.ok store.sorted, files) := by
  have hr : '\r' ∉ store.toJson.compact := by
    intro hm
    have := Json.printable_compact store.toJson _ hm
    revert this
    decide
  rw [load_eq, Files.readText_of_look? h, Text.unifyLineEnds_eq hr, h]
  exact congrArg (·, files) (Store.ofText_compact hs file.path)

/-! ## Calls -/

/-- Files that hold a store, and among which another one can be saved. -/
structure Holds (file : StoreFile) (files : Files) (store : Store) : Prop where
  tree : files.Tree
  writable : file.Writable files
  load : file.load.perform files = (.ok store, files)
  wellFormed : store.WellFormed

/-- What a call leaves is saved, and is in the file then; if it leaves nothing, so are the files. -/
theorem Holds.finish (h : file.Holds files store) (found : Found) {left : Option Store}
    (hl : ∀ new, left = some new → new.WellFormed) :
    ∃ after, (file.finish (found, left)).perform files = (.ok found, after) ∧
      file.Holds after ((left.map Store.sorted).getD store) ∧ (left = none → after = files) ∧
      ∀ new, left = some new →
        after.look? file.path = some (.file (Utf8.encode new.toJson.compact)) := by
  cases left with
  | none => exact ⟨files, rfl, h, fun _ => rfl, by simp⟩
  | some new =>
    have hn := hl new rfl
    obtain ⟨after, hsave, htree, hwritable, hlook⟩ := save_spec h.tree h.writable new
    have hholds : file.Holds after new.sorted :=
      ⟨htree, hwritable, load_of_look? hn hlook, Store.wellFormed_sorted hn⟩
    refine ⟨after, perform_bind_of_ok hsave, hholds, by simp, fun other ho => ?_⟩
    rw [← Option.some.inj ho, hlook]

theorem Holds.perform_call (h : file.Holds files store) (hr : c.refusal? = none) :
    (file.call c).perform files = (file.finish (c.effect store)).perform files := by
  rw [call_eq hr, perform_bind_of_ok h.load]

/-- What a call does agrees with what it does to a map. -/
def Agrees (file : StoreFile) (files : Files) (store : Store) (call : Call) : Prop :=
  ∃ result after new, (file.call call).perform files = (result, after) ∧ file.Holds after new ∧
    (result.map Found.sorted, new.memory) = Memory.call call store.memory

/-- Every call does to the store of a file what it does to a map. -/
theorem Holds.call (h : file.Holds files store) (hc : c.WellFormed) :
    file.Agrees files store c := by
  cases hr : c.refusal? with
  | some e =>
    refine ⟨_, files, store, by rw [call_of_refusal hr]; rfl, h, ?_⟩
    rw [Memory.call_of_refusal hr]
    rfl
  | none =>
    have hleft : ∀ new, (c.effect store).2 = some new → new.WellFormed :=
      fun new => Call.effect_wellFormed h.wellFormed hc hr
    obtain ⟨after, hfinish, hholds, -⟩ := h.finish (c.effect store).1 hleft
    refine ⟨_, after, _, (h.perform_call hr).trans hfinish, hholds, ?_⟩
    rw [Memory.call_memory h.wellFormed hr]
    cases hl : (c.effect store).2 with
    | none => rfl
    | some new =>
      rw [Option.map_some, Option.getD_some, Option.map_some, Option.getD_some,
        Store.memory_sorted (hleft new hl)]
      rfl

/-- Does calls one after the other, each on what the file holds then. -/
def run (file : StoreFile) (calls : List Call) (files : Files) :
    List (Except StoreError Found) × Files :=
  runAll (fun call => (file.call call).perform) calls files

theorem run_cons (h : (file.call c).perform files = (result, after)) (calls : List Call) :
    file.run (c :: calls) files =
      (result :: (file.run calls after).1, (file.run calls after).2) := by
  unfold run
  rw [runAll, h]

theorem holds_of_load (htree : files.Tree) (hwritable : file.Writable files)
    (hload : (file.load.perform files).1 = .ok store) : file.Holds files store := by
  have hloads : file.load.perform files = (.ok store, files) := by
    refine Prod.ext hload ?_
    rw [load_eq]
  exact ⟨htree, hwritable, hloads, load_wellFormed hload⟩

/-- A run of calls does to the store of a file what it does to a map. -/
theorem Holds.run {calls : List Call} (h : file.Holds files store)
    (hcalls : ∀ call ∈ calls, call.WellFormed) :
    (file.run calls files).1.map (Except.map Found.sorted) = (Memory.run calls store.memory).1 ∧
      ∃ last, file.Holds (file.run calls files).2 last ∧
        last.memory = (Memory.run calls store.memory).2 :=
  runAll_simulates (fun call => (file.call call).perform) Memory.call
    (fun files memory => ∃ store, file.Holds files store ∧ store.memory = memory)
    (Except.map Found.sorted) Call.WellFormed (fun c files memory hc hr => by
      obtain ⟨store, hs, rfl⟩ := hr
      obtain ⟨result, after, new, hcall, hnew, hagrees⟩ := hs.call hc
      rw [hcall, ← hagrees]
      exact ⟨rfl, new, hnew, rfl⟩) hcalls ⟨store, h, rfl⟩

/-- Calls on the store of a file give what they give on a map, whatever came before, and leave the
file with what they leave in the map. Nothing in it is lost on the way: the version stays, every set
that no call is about stays, and every set that is neither deleted nor put anew keeps its name and
its note. -/
theorem run_memory (file : StoreFile) {files : Files} {store : Store} {calls : List Call}
    (htree : files.Tree) (hwritable : file.Writable files)
    (hload : (file.load.perform files).1 = .ok store) (hcalls : ∀ call ∈ calls, call.WellFormed) :
    (file.run calls files).1.map (Except.map Found.sorted) = (Memory.run calls store.memory).1 ∧
      (∃ last, file.load.perform (file.run calls files).2 = (.ok last, (file.run calls files).2) ∧
        last.memory = (Memory.run calls store.memory).2) ∧
      (Memory.run calls store.memory).2.version = store.version ∧
      (∀ name, (∀ call ∈ calls, call.target? ≠ some name) →
        (Memory.run calls store.memory).2.sets.lookup name = store.memory.sets.lookup name) ∧
      ∀ name set, store.memory.sets.lookup name = some set →
        (∀ call ∈ calls, call.replaces name = false) →
          ∃ left, (Memory.run calls store.memory).2.sets.lookup name = some left ∧
            left.name = set.name ∧ left.note = set.note := by
  obtain ⟨hresults, last, hlast, hmemory⟩ := (holds_of_load htree hwritable hload).run hcalls
  exact ⟨hresults, ⟨last, hlast.load, hmemory⟩, Memory.run_version calls store.memory,
    fun name hn => Memory.run_other hn store.memory,
    fun name set hs hn => Memory.run_keeps hs hn⟩

/-- A file with one set, of which the fields are not in order, is read, written and read again. -/
theorem run_memory_unordered :
    let file : StoreFile := ⟨{ names := ["names.json".toList] }⟩
    let content := "\x7b\"version\":\"2\",\"sets\":\x7b\"b\":\x7b\"note\":\x7b\"y\":[],\"x\":5\x7d\x7d\x7d\x7d".toList
    let files : Files := ⟨[(file.path, .file (Utf8.encode content))]⟩
    let store : Store := {
      version := 2
      sets := [("b".toList, {
        name := .text "b"
        note := .record [("y", .array []), ("x", .int 5)] })] }
    let calls : List Call := [.put "a".toList "k".toList "v".toList, .put "a".toList [] "w".toList,
      .remove "b".toList "k".toList, .list]
    files.Tree ∧ file.Writable files ∧ (file.load.perform files).1 = .ok store ∧
      (∀ call ∈ calls, call.WellFormed) ∧
      (file.run calls files).1.map (Except.map Found.sorted) = [
        .ok (.set (some { name := .text "a", mappings := [⟨"k".toList, "v".toList⟩] })),
        .error Memory.emptyKey,
        .ok (.flag false),
        .ok (.sets [
          { name := .text "a", mappings := [⟨"k".toList, "v".toList⟩] },
          { name := .text "b"
            note := .record [("x", .int 5), ("y", .array [])] }])] := by
  intro file content files store calls
  have hflat : files.Flat := List.forall_mem_singleton.2 ⟨_, _, rfl⟩
  have hready : file.Ready files {} :=
    hflat.ready "names.json".toList (by decide) file.draftName
  have hlook : files.look? file.path = some (.file (Utf8.encode content)) := rfl
  have hread : Store.ofText file.path content = .ok store := by
    simp only [file, content, store]
    cbv
  have hload : (file.load.perform files).1 = .ok store := by
    rw [load_eq, Files.readText_of_look? hlook, Text.unifyLineEnds_eq (by decide), hlook]
    exact hread
  have hcalls : ∀ call ∈ calls, call.WellFormed := by simp [calls, Call.WellFormed]
  refine ⟨hflat.tree, hready.writable, hload, hcalls, ?_⟩
  refine (run_memory file hflat.tree hready.writable hload hcalls).1.trans ?_
  simp only [calls, store]
  cbv

end StoreFile

end NameSlots
