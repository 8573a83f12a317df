import NameSlots.Proofs.Results
import NameSlots.Names.StoreFile

/-! What checks take: the data that a value is written as checks as the value. -/
namespace NameSlots

namespace Check

variable {α β γ : Type} {f : Checked (α → β)} {c : Checked α} {x : α} {y : β} {check : Check α}
  {encode : α → Json} {fields : Fields} {build : Fields → Checked α} {names : List String}

theorem also_eq_ok : also f c = .ok y ↔ ∃ g x, f = .ok g ∧ c = .ok x ∧ g x = y := by
  cases f <;> cases c <;> simp [also]

theorem under_eq_ok {step : Step} : under step c = .ok x ↔ c = .ok x := by
  cases c <;> simp [under]

theorem required_eq_ok {name : String} : required fields name check = .ok x ↔
    ∃ value, fields.lookup name.toList = some value ∧ check value = .ok x := by
  unfold required
  cases fields.lookup name.toList <;> simp [under_eq_ok, fail]

theorem record_eq_ok {title : String} {data : Json} : record title names build data = .ok x ↔
    ∃ fields, data = .object fields ∧ build fields = .ok x ∧ extras names fields = [] := by
  cases data with
  | object fields =>
    cases h : build fields with
    | error issues => simp [record, h]
    | ok found =>
      cases he : extras names fields with
      | nil => simp [record, h, he]
      | cons issue issues => simp [record, h, he]
  | _ => simp [record, fail]

theorem items_map {xs : List γ} {write : γ → Json} {read : γ → α}
    (h : ∀ x ∈ xs, check (write x) = .ok (read x)) (index : Nat) :
    items check index (xs.map write) = .ok (xs.map read) := by
  induction xs generalizing index with
  | nil => rfl
  | cons x xs ih =>
    obtain ⟨hx, hxs⟩ := List.forall_mem_cons.1 h
    exact also_eq_ok.2 ⟨_, xs.map read, also_eq_ok.2 ⟨_, read x, rfl, under_eq_ok.2 hx, rfl⟩, ih hxs _, rfl⟩

theorem list_map {xs : List α} (h : ∀ x ∈ xs, check (encode x) = .ok x) :
    list check (.array (xs.map encode)) = .ok xs := by
  have hread : items check 0 (xs.map encode) = .ok (xs.map id) := items_map h 0
  rwa [List.map_id] at hread

/-- What the default and every checked value have, the value of a field has. -/
theorem of_optional {name : String} {default : α} {P : α → Prop}
    (h : optional fields name default check = .ok x) (hd : P default)
    (hc : ∀ data y, check data = .ok y → P y) : P x := by
  unfold optional at h
  split at h
  · exact hc _ _ (under_eq_ok.1 h)
  · cases h
    exact hd

theorem forall_mem_of_items {P : α → Prop} {xs : List α} (hc : ∀ data y, check data = .ok y → P y) (index : Nat)
    {all : List Json} (h : items check index all = .ok xs) : ∀ x ∈ xs, P x := by
  induction all generalizing index xs with
  | nil =>
    cases h
    simp
  | cons item rest ih =>
    obtain ⟨put, ys, hput, hys, rfl⟩ := also_eq_ok.1 h
    obtain ⟨_, y, hcons, hy, rfl⟩ := also_eq_ok.1 hput
    cases hcons
    exact List.forall_mem_cons.2 ⟨hc _ _ (under_eq_ok.1 hy), ih _ hys⟩

theorem forall_mem_of_list {P : α → Prop} {xs : List α} {data : Json} (hc : ∀ data y, check data = .ok y → P y)
    (h : list check data = .ok xs) : ∀ x ∈ xs, P x := by
  cases data with
  | array all => exact forall_mem_of_items hc 0 h
  | _ => simp [list, fail] at h

theorem nonemptyText_ne_nil {data : Json} {t : Text} (h : nonemptyText data = .ok t) : t ≠ [] := by
  rintro rfl
  unfold nonemptyText at h
  split at h <;> simp_all [fail]

end Check

namespace Mapping

theorem check_toJson {mapping : Mapping} (h : mapping.key ≠ []) :
    check mapping.toJson = .ok mapping := by
  obtain ⟨key, value⟩ := mapping
  cases key with
  | nil => exact (h rfl).elim
  | cons c key => rfl

theorem key_ne_nil {data : Json} {mapping : Mapping} (h : check data = .ok mapping) :
    mapping.key ≠ [] := by
  obtain ⟨fields, -, h, -⟩ := Check.record_eq_ok.1 h
  obtain ⟨g, value, hg, -, rfl⟩ := Check.also_eq_ok.1 h
  obtain ⟨make, key, hm, hk, rfl⟩ := Check.also_eq_ok.1 hg
  obtain ⟨found, -, hk⟩ := Check.required_eq_ok.1 hk
  cases hm
  exact Check.nonemptyText_ne_nil hk

theorem ofTexts_eq (key value : Text) : ofTexts key value =
    if key = [] then .error [⟨.textTooShort, [.name "key".toList], .string []⟩]
    else .ok ⟨key, value⟩ := by
  cases key <;> rfl

end Mapping
end NameSlots
