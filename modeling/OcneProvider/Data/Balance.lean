import Mathlib.Logic.Function.Basic
import Mathlib.Data.Set.Basic

/-! Counts that are within one of each other: what may be added to and taken from them. -/

namespace OcneProvider.Data.Balance

variable {ι : Type} {places : Set ι} {before after : ι → Nat} {chosen : ι}

/-- No place has more than one more than any other. -/
def Balanced (places : Set ι) (count : ι → Nat) : Prop :=
  ∀ first ∈ places, ∀ second ∈ places, count first ≤ count second + 1

theorem balanced_congr (same : ∀ place ∈ places, after place = before place) :
    Balanced places after ↔ Balanced places before := by
  constructor
  · intro balanced first isFirst second isSecond
    rw [← same first isFirst, ← same second isSecond]
    exact balanced first isFirst second isSecond
  · intro balanced first isFirst second isSecond
    rw [same first isFirst, same second isSecond]
    exact balanced first isFirst second isSecond

theorem Balanced.add (balanced : Balanced places before) (least : ∀ place ∈ places, before chosen ≤ before place)
    (here : after chosen = before chosen + 1) (elsewhere : ∀ place, place ≠ chosen → after place = before place) :
    Balanced places after := by
  intro first isFirst second isSecond
  have bound := balanced first isFirst second isSecond
  by_cases isChosen : first = chosen
  · subst isChosen
    by_cases same : second = first
    · subst same
      omega
    · have enough := least second isSecond
      rw [here, elsewhere second same]
      omega
  · rw [elsewhere first isChosen]
    by_cases same : second = chosen
    · subst same
      omega
    · rwa [elsewhere second same]

theorem Balanced.remove (balanced : Balanced places before) (most : ∀ place ∈ places, before place ≤ before chosen)
    (here : before chosen = after chosen + 1) (elsewhere : ∀ place, place ≠ chosen → after place = before place) :
    Balanced places after := by
  intro first isFirst second isSecond
  have bound := balanced first isFirst second isSecond
  by_cases isChosen : first = chosen
  · subst isChosen
    by_cases same : second = first
    · subst same
      omega
    · rw [elsewhere second same]
      omega
  · rw [elsewhere first isChosen]
    by_cases same : second = chosen
    · subst same
      have enough := most first isFirst
      omega
    · rwa [elsewhere second same]

end OcneProvider.Data.Balance
