import NameSlots.Proofs.Names.Runs

/-! What a store that cannot be read is told of. Most of what may be wrong with the file of a store is
reported in words. Three things are not: mappings of a set that have no parts, a version that is null, a
list or a table, and one that is infinite. -/
namespace NameSlots

open NameSlots.Action

/-- Whether a result is missing for a reason that is not reported in words. -/
def Unreported {α : Type} (result : Except StoreError α) : Prop :=
  ∃ e, result = .error e ∧ e.isReported = false

section

variable {α β : Type} {a : Except StoreError α} {f : α → Except StoreError β} {e : StoreError} {x : α}
  {xs : List α}

@[simp] theorem unreported_ok : ¬ Unreported (.ok x) := by simp [Unreported]

@[simp] theorem unreported_error : Unreported (.error e : Except StoreError α) ↔ e.isReported = false := by
  simp [Unreported]

theorem unreported_bind : Unreported (a >>= f) ↔ Unreported a ∨ ∃ x, a = .ok x ∧ Unreported (f x) := by
  cases a with
  | error e => simp [bind, Except.bind]
  | ok x => simp [bind, Except.bind]

/-- The first one that fails tells why there is no list. -/
theorem unreported_mapM : Unreported (xs.mapM f) ↔ ∃ before x after ys, xs = before ++ x :: after ∧
    before.mapM f = .ok ys ∧ Unreported (f x) := by
  simp only [Unreported, mapM_eq_error]
  constructor
  · rintro ⟨e, ⟨before, x, after, ys, hxs, hys, hx⟩, he⟩
    exact ⟨before, x, after, ys, hxs, hys, e, hx, he⟩
  · rintro ⟨before, x, after, ys, hxs, hys, e, hx, he⟩
    exact ⟨e, ⟨before, x, after, ys, hxs, hys, hx⟩, he⟩

end

/-! ## Values -/

/-- A set whose mappings are null, a truth value or a number. -/
def NameSet.NoMappings : Json → Prop
  | .object fields => ((fields.lookup "mappings".toList).getD (.array [])).parts? = none
  | _ => False

theorem NameSet.unreported_ofJson {path : Path} {name : Text} {item : Json} :
    Unreported (ofJson path name item) ↔ NoMappings item := by
  cases item with
  | object fields =>
    simp only [ofJson, NoMappings]
    split
    · next hparts =>
      rw [hparts]
      simp [StoreError.isReported]
    · next items hparts =>
      rw [hparts]
      split <;> simp [StoreError.isReported]
  | _ => simp [ofJson, NoMappings, StoreError.isReported]

namespace Store

/-- A version that is null, a list or a table, or infinite. -/
def NoVersion : Json → Prop
  | .null | .array _ | .object _ | .float (.infinite _) => True
  | _ => False

theorem unreported_readVersion {data : Json} : Unreported (readVersion data) ↔ NoVersion data := by
  cases data with
  | null | bool | int | array | object => simp [readVersion, NoVersion, StoreError.isReported]
  | float x =>
    cases x with
    | nan => simp [readVersion, NoVersion, StoreError.isReported]
    | infinite negative =>
      have hread : readVersion (.float (.infinite negative)) = .error .endlessVersion := rfl
      rw [hread]
      simp [NoVersion, StoreError.isReported]
    | finite negative mantissa exponent =>
      have hread : ∃ n, readVersion (.float (.finite negative mantissa exponent)) = .ok n := ⟨_, rfl⟩
      obtain ⟨n, hread⟩ := hread
      rw [hread]
      simp [NoVersion]
  | string t =>
    simp only [readVersion, NoVersion, iff_false]
    split <;> simp [StoreError.isReported]

/-- The fields of a store that cannot be read, of which it is not said why. -/
inductive Strays (path : Path) (fields : List (Text × Json)) : Prop where
  /-- The sets before one can be read, but this one has no mappings. -/
  | mappings (before after : List (Text × Json)) (name : Text) (item : Json)
      (sets : List (Text × NameSet))
      (split : (fields.lookup "sets".toList).getD (.object []) = .object (before ++ (name, item) :: after))
      (read : readSets path (.object before) = .ok sets)
      (stray : NameSet.NoMappings item)
  /-- All sets can be read, but there is no version. -/
  | version (sets : List (Text × NameSet))
      (read : readSets path ((fields.lookup "sets".toList).getD (.object [])) = .ok sets)
      (stray : NoVersion ((fields.lookup "version".toList).getD (.int 1)))

variable {path : Path} {data : Json} {content : Text} {fields : List (Text × Json)}

theorem unreported_readSets : Unreported (readSets path data) ↔ ∃ before name item after sets,
    data = .object (before ++ (name, item) :: after) ∧ readSets path (.object before) = .ok sets ∧
      NameSet.NoMappings item := by
  cases data with
  | object fields =>
    have hitem (name : Text) (item : Json) : Unreported (do
        let set ← NameSet.ofJson path name item
        pure (name, set)) ↔ NameSet.NoMappings item := by
      rw [unreported_bind, NameSet.unreported_ofJson]
      simp [pure, Except.pure]
    simp only [readSets]
    rw [unreported_mapM]
    simp only [hitem, Prod.exists, Json.object.injEq]
  | _ => simp [readSets, StoreError.isReported]

theorem unreported_ofJson : Unreported (ofJson path data) ↔
    ∃ fields, data = .object fields ∧ Strays path fields := by
  cases data with
  | object fields =>
    rw [ofJson, unreported_bind, unreported_readSets]
    simp only [unreported_bind, unreported_readVersion, Json.object.injEq, exists_eq_left']
    constructor
    · rintro (⟨before, name, item, after, sets, hsplit, hread, hstray⟩ | ⟨sets, hread, hstray | ⟨_, _, h⟩⟩)
      · exact .mappings before after name item sets hsplit hread hstray
      · exact .version sets hread hstray
      · exact (unreported_ok h).elim
    · intro h
      cases h with
      | mappings before after name item sets hsplit hread hstray =>
        exact .inl ⟨before, name, item, after, sets, hsplit, hread, hstray⟩
      | version sets hread hstray => exact .inr ⟨sets, hread, .inl hstray⟩
  | _ => simp [ofJson, StoreError.isReported]

theorem unreported_ofText : Unreported (ofText path content) ↔
    ∃ fields, Json.read content = .ok (.object fields) ∧ Strays path fields := by
  unfold ofText
  split
  · next data hread => simp [unreported_ofJson, hread]
  · next hread => simp [hread, StoreError.isReported]
  · next hread => simp [hread, StoreError.isReported]

end Store

/-! ## Files -/

namespace StoreFile

variable {file : StoreFile} {files : Files} {content : Bytes} {c : Call}

/-- The bytes of a store that cannot be read, of which it is not said why. -/
def Strays (file : StoreFile) (content : Bytes) : Prop :=
  ∃ text fields, Utf8.decode content = .ok text ∧
    Json.read (Text.unifyLineEnds text) = .ok (.object fields) ∧ Store.Strays file.path fields

theorem unreported_load (hlook : files.look? file.path = some (.file content)) :
    Unreported (file.load.perform files).1 ↔ file.Strays content := by
  have hread := Files.read_of_look? hlook
  rw [load_eq]
  simp only [hlook, Option.isNone_some, Bool.false_eq_true, if_false]
  unfold Files.readText Strays
  rw [hread]
  cases hdecode : Utf8.decode content with
  | error fault => simp [bind, Except.bind, hdecode, StoreError.isReported]
  | ok text => simp [bind, Except.bind, hdecode, Store.unreported_ofText]

/-- Whatever the file of a store holds, a call gives a result or tells why it does not, but for the bytes
of a store of which that is not said. -/
theorem unreported_call (htree : files.Tree) (hwritable : file.Writable files)
    (hlook : files.look? file.path = some (.file content)) (hc : c.WellFormed) :
    Unreported ((file.call c).perform files).1 ↔ c.refusal? = none ∧ file.Strays content := by
  rw [← unreported_load hlook]
  cases hr : c.refusal? with
  | some e =>
    obtain ⟨-, rfl⟩ := Call.refusal?_eq_some.1 hr
    rw [call_of_refusal hr]
    change Unreported (.error Memory.emptyKey) ↔ _
    simp [Memory.emptyKey, StoreError.isReported]
  | none =>
    cases hload : (file.load.perform files).1 with
    | error e =>
      have hcall : (file.call c).perform files = (.error e, (file.load.perform files).2) := by
        rw [call_eq hr]
        exact perform_bind_of_error (Prod.ext hload rfl)
      rw [hcall]
      simp
    | ok store =>
      obtain ⟨result, after, new, hcall, -, hagrees⟩ :=
        (holds_of_load htree hwritable hload).call hc
      rw [Memory.call_memory (load_wellFormed hload) hr] at hagrees
      cases result with
      | error e => cases congrArg Prod.fst hagrees
      | ok found =>
        rw [hcall]
        simp

/-- Mappings that are null, of which nothing is said. -/
example : Store.Strays {} [("sets".toList, .record [("a", .record [("mappings", .null)])])] :=
  .mappings [] [] _ _ [] rfl rfl rfl

end StoreFile

end NameSlots
