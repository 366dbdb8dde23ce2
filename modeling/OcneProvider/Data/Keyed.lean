import Mathlib.Data.List.Nodup
import Mathlib.Data.List.Perm.Basic

/-! Lists whose items are told apart by a key, and the two ways to change one item of them: to take away the first that
a test selects, and to put another in its place. -/

namespace OcneProvider.Data.Keyed

open List

/-- A test for one key finds the item that has it. -/
theorem find?_eq_some_of_nodup {α : Type*} {κ : Type} {key : α → κ} {selected : α → Bool} {items : List α} {item : α}
    {wanted : κ} (apart : (items.map key).Nodup) (tests : ∀ item, selected item = true ↔ key item = wanted) :
    items.find? selected = some item ↔ item ∈ items ∧ key item = wanted := by
  refine ⟨fun found => ⟨mem_of_find?_eq_some found, (tests item).mp (find?_some found)⟩, ?_⟩
  rintro ⟨mem, isKey⟩
  cases found : items.find? selected with
  | none => exact absurd ((tests item).mpr isKey) (find?_eq_none.mp found item mem)
  | some other =>
    have same : key other = key item := ((tests other).mp (find?_some found)).trans isKey.symm
    rw [inj_on_of_nodup_map apart (mem_of_find?_eq_some found) mem same]

variable {α κ : Type} {key : α → κ} {selected : α → Bool} {items : List α}

/-- Puts an item in the place of the first that is selected, or at the end. -/
def put (selected : α → Bool) (item : α) : List α → List α
  | [] => [item]
  | first :: rest => if selected first then item :: rest else first :: put selected item rest

theorem put_perm (selected : α → Bool) (item : α) (items : List α) :
    (put selected item items).Perm (item :: items.eraseP selected) := by
  induction items with
  | nil => exact .refl _
  | cons first rest ih =>
    cases chosen : selected first with
    | true => simp [put, chosen]
    | false =>
      simp only [put, chosen, Bool.false_eq_true, if_false, eraseP_cons_of_neg, not_false_eq_true]
      exact (ih.cons first).trans (.swap item first _)

theorem mem_put {item other : α} : other ∈ put selected item items ↔ other = item ∨ other ∈ items.eraseP selected :=
  (put_perm selected item items).mem_iff.trans mem_cons

/-- A test for one key takes away all that has the key. -/
theorem mem_eraseP_iff_of_nodup (apart : (items.map key).Nodup) {wanted : κ}
    (tests : ∀ item ∈ items, selected item = true ↔ key item = wanted) {item : α} :
    item ∈ items.eraseP selected ↔ item ∈ items ∧ key item ≠ wanted := by
  induction items with
  | nil => simp
  | cons first rest ih =>
    simp only [map_cons, nodup_cons, mem_map, not_exists, not_and] at apart
    have later := ih apart.2 fun other mem => tests other (mem_cons_of_mem _ mem)
    by_cases chosen : selected first = true
    · have same : key first = wanted := (tests first mem_cons_self).mp chosen
      rw [eraseP_cons_of_pos chosen, mem_cons]
      constructor
      · exact fun mem => ⟨.inr mem, fun other => apart.1 item mem (other.trans same.symm)⟩
      · rintro ⟨rfl | mem, other⟩
        · exact absurd same other
        · exact mem
    · have other : key first ≠ wanted := fun same => chosen ((tests first mem_cons_self).mpr same)
      rw [eraseP_cons_of_neg chosen, mem_cons, mem_cons, later]
      constructor
      · rintro (rfl | ⟨mem, differs⟩)
        · exact ⟨.inl rfl, other⟩
        · exact ⟨.inr mem, differs⟩
      · rintro ⟨rfl | mem, differs⟩
        · exact .inl rfl
        · exact .inr ⟨mem, differs⟩

theorem mem_eraseP_or_find? {item : α} (mem : item ∈ items) :
    item ∈ items.eraseP selected ∨ items.find? selected = some item := by
  induction items with
  | nil => cases mem
  | cons first rest ih =>
    by_cases chosen : selected first = true
    · rw [eraseP_cons_of_pos chosen, find?_cons_of_pos chosen]
      rcases mem_cons.mp mem with rfl | mem
      · exact .inr rfl
      · exact .inl mem
    · rw [eraseP_cons_of_neg chosen, find?_cons_of_neg chosen, mem_cons]
      rcases mem_cons.mp mem with rfl | mem
      · exact .inl (.inl rfl)
      · exact (ih mem).imp_left .inr

theorem key_ne_of_find? (apart : (items.map key).Nodup) {found other : α} (first : items.find? selected = some found)
    (mem : other ∈ items.eraseP selected) : key other ≠ key found := by
  induction items with
  | nil => cases mem
  | cons head rest ih =>
    simp only [map_cons, nodup_cons, mem_map, not_exists, not_and] at apart
    by_cases chosen : selected head = true
    · rw [find?_cons_of_pos chosen, Option.some.injEq] at first
      rw [eraseP_cons_of_pos chosen] at mem
      exact first ▸ apart.1 other mem
    · rw [find?_cons_of_neg chosen] at first
      rw [eraseP_cons_of_neg chosen, mem_cons] at mem
      rcases mem with rfl | mem
      · exact fun same => apart.1 found (mem_of_find?_eq_some first) same.symm
      · exact ih apart.2 first mem

end OcneProvider.Data.Keyed
