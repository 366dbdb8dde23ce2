import Mathlib.Data.List.Forall2

/-! Lists that are related item by item. -/

namespace OcneProvider.Data.Pairs
open List

variable {α β γ : Type} {R : α → β → Prop} {S : β → γ → Prop} {T : α → γ → Prop} {first : List α} {second : List β}

theorem exists_right (pairs : Forall₂ R first second) {item : α} (mem : item ∈ first) : ∃ other ∈ second, R item other := by
  induction pairs with
  | nil => cases mem
  | cons related _ ih =>
    rcases mem_cons.mp mem with rfl | mem
    · exact ⟨_, mem_cons_self, related⟩
    · obtain ⟨other, found, related⟩ := ih mem
      exact ⟨other, mem_cons_of_mem _ found, related⟩

theorem exists_left (pairs : Forall₂ R first second) {item : β} (mem : item ∈ second) : ∃ other ∈ first, R other item :=
  exists_right (R := flip R) (Forall₂.flip pairs) mem

theorem trans {third : List γ} (pairs : Forall₂ R first second) (others : Forall₂ S second third)
    (both : ∀ a b c, R a b → S b c → T a c) : Forall₂ T first third := by
  induction pairs generalizing third with
  | nil =>
    cases others
    exact .nil
  | cons related _ ih =>
    cases others with
    | cons next rest => exact .cons (both _ _ _ related next) (ih rest)

theorem map_right {change : α → β} (related : ∀ item ∈ first, R item (change item)) : Forall₂ R first (first.map change) := by
  rw [forall₂_map_right_iff, forall₂_same]
  exact related

end OcneProvider.Data.Pairs
