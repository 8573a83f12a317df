import NameSlots.Json.Reader
import NameSlots.Json.Writer
import NameSlots.Proofs.Number.Rounding
import NameSlots.Proofs.Results
import NameSlots.Proofs.Table
import NameSlots.Proofs.Text.Order

/-! Values with their fields in order, and values that JSON text can hold. -/
namespace NameSlots

namespace Json

/-! ## Fields in order -/

theorem sortFields_perm {α : Type} (fields : List (Text × α)) : (sortFields fields).Perm fields :=
  List.mergeSort_perm _ _

theorem sortFields_pairwise {α : Type} (fields : List (Text × α)) :
    (sortFields fields).Pairwise fun a b => Text.le a.1 b.1 = true := by
  have htrans (a b c : Text × α) (hab : Text.le a.1 b.1 = true) (hbc : Text.le b.1 c.1 = true) :
      Text.le a.1 c.1 = true := Text.le_trans hab hbc
  have htotal (a b : Text × α) : (Text.le a.1 b.1 || Text.le b.1 a.1) = true := Text.le_total a.1 b.1
  exact List.pairwise_mergeSort htrans htotal fields

theorem sortFields_map {α β : Type} (f : α → β) (fields : List (Text × α)) :
    sortFields (fields.map fun field => (field.1, f field.2)) =
      (sortFields fields).map fun field => (field.1, f field.2) := by
  have hmap := List.map_mergeSort (r := fun a b : Text × α => Text.le a.1 b.1)
    (s := fun a b : Text × β => Text.le a.1 b.1) (f := fun field => (field.1, f field.2))
    (l := fields) fun _ _ _ _ => rfl
  exact hmap.symm

theorem sortFields_of_pairwise {α : Type} {fields : List (Text × α)}
    (h : fields.Pairwise fun a b => Text.le a.1 b.1 = true) : sortFields fields = fields :=
  List.mergeSort_of_pairwise h

theorem nodup_sortFields {α : Type} {fields : List (Text × α)} (h : (fields.map Prod.fst).Nodup) :
    ((sortFields fields).map Prod.fst).Nodup :=
  ((sortFields_perm fields).map Prod.fst).nodup_iff.2 h

mutual

/-- The value with the fields of its objects in the order of their names. -/
def sorted : Json → Json
  | .null => .null
  | .bool b => .bool b
  | .int n => .int n
  | .float x => .float x
  | .string s => .string s
  | .array items => .array (sortedItems items)
  | .object fields => .object (sortFields (sortedFields fields))

def sortedItems : List Json → List Json
  | [] => []
  | item :: rest => sorted item :: sortedItems rest

def sortedFields : List (Text × Json) → List (Text × Json)
  | [] => []
  | (name, value) :: rest => (name, sorted value) :: sortedFields rest

end

/-- A property of all values by what they are made of. -/
@[elab_as_elim]
theorem induct {P : Json → Prop} (null : P .null) (bool : ∀ b, P (.bool b)) (int : ∀ n, P (.int n))
    (float : ∀ x, P (.float x)) (string : ∀ s, P (.string s))
    (array : ∀ items, (∀ item ∈ items, P item) → P (.array items))
    (object : ∀ fields, (∀ field ∈ fields, P field.2) → P (.object fields)) (value : Json) :
    P value :=
  match value with
  | .null => null
  | .bool b => bool b
  | .int n => int n
  | .float x => float x
  | .string s => string s
  | .array items =>
    array items fun item _ => induct null bool int float string array object item
  | .object fields =>
    object fields fun field _ => induct null bool int float string array object field.2
termination_by sizeOf value
decreasing_by
  · have := List.sizeOf_lt_of_mem ‹item ∈ items›
    simp only [Json.array.sizeOf_spec]
    omega
  · have hm := List.sizeOf_lt_of_mem ‹field ∈ fields›
    obtain ⟨name, value⟩ := field
    simp only [Json.object.sizeOf_spec, Prod.mk.sizeOf_spec] at *
    omega

theorem sortedItems_eq (items : List Json) : sortedItems items = items.map sorted := by
  induction items with
  | nil => rfl
  | cons item items ih => rw [sortedItems, ih, List.map_cons]

theorem sortedFields_eq (fields : List (Text × Json)) :
    sortedFields fields = fields.map fun field => (field.1, field.2.sorted) := by
  induction fields with
  | nil => rfl
  | cons field fields ih => rw [sortedFields, ih, List.map_cons]

theorem sorted_array (items : List Json) : (array items).sorted = array (items.map sorted) := by
  rw [sorted, sortedItems_eq]

theorem sorted_object (fields : List (Text × Json)) : (object fields).sorted =
    object (sortFields (fields.map fun field => (field.1, field.2.sorted))) := by
  rw [sorted, sortedFields_eq]

/-- Fields that are in order stay as they are. -/
theorem sorted_sorted (value : Json) : value.sorted.sorted = value.sorted := by
  induction value using induct with
  | array items ih =>
    rw [sorted_array, sorted_array, List.map_map]
    exact congrArg array (List.map_congr_left ih)
  | object fields ih =>
    have hfields : ((fields.map fun field => (field.1, field.2.sorted)).map
        fun field => (field.1, field.2.sorted)) =
          fields.map fun field => (field.1, field.2.sorted) := by
      rw [List.map_map]
      exact List.map_congr_left fun field hf => congrArg (Prod.mk field.1) (ih field hf)
    rw [sorted_object, sorted_object, ← sortFields_map, hfields,
      sortFields_of_pairwise (sortFields_pairwise _)]
  | _ => rfl

/-! ## Values that text can hold -/

/-- A value as text can hold it: every name once in an object, numbers of doubles in their one form,
and no more digits than a whole number may have. -/
inductive WellFormed : Json → Prop where
  | null : WellFormed .null
  | bool (b : Bool) : WellFormed (.bool b)
  | int {n : Int} : (Text.ofNat n.natAbs).length ≤ Number.maxDigits → WellFormed (.int n)
  | float {x : Double} : x.Normal → WellFormed (.float x)
  | string (s : Text) : WellFormed (.string s)
  | array {items : List Json} : (∀ item ∈ items, WellFormed item) → WellFormed (.array items)
  | object {fields : List (Text × Json)} : (fields.map Prod.fst).Nodup →
      (∀ field ∈ fields, WellFormed field.2) → WellFormed (.object fields)

theorem wellFormed_sorted {value : Json} (h : value.WellFormed) : value.sorted.WellFormed := by
  induction h with
  | array _ ih =>
    rw [sorted_array]
    exact .array (List.forall_mem_map.2 ih)
  | @object fields hn _ ih =>
    rw [sorted_object]
    refine .object (nodup_sortFields ?_) fun field hf => ?_
    · rwa [List.map_map]
    · have hm := (sortFields_perm _).mem_iff.1 hf
      obtain ⟨source, hs, rfl⟩ := List.mem_map.1 hm
      exact ih source hs
  | null => exact .null
  | bool b => exact .bool b
  | int hn => exact .int hn
  | float hx => exact .float hx
  | string s => exact .string s

end Json

end NameSlots
