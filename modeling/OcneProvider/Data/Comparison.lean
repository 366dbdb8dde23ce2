import Mathlib.Order.Defs.LinearOrder
import Mathlib.Order.Basic
import OcneProvider.Data.Sorted

/-! Comparisons that can leave two items unordered, and how larger ones are made from smaller ones. -/

namespace OcneProvider.Data.Comparison
open Sorted

inductive Answer where
  | less
  | equal
  | greater
  | unordered
  deriving DecidableEq

/-- The answer to the question the other way round. -/
def Answer.swap : Answer → Answer
  | .less => .greater
  | .equal => .equal
  | .greater => .less
  | .unordered => .unordered

/-- The first answer that tells two items apart. -/
def Answer.orElse (first second : Answer) : Answer :=
  if first = .equal then second else first

theorem Answer.orElse_eq_equal {first second : Answer} :
    first.orElse second = .equal ↔ first = .equal ∧ second = .equal := by
  unfold orElse
  split <;> simp_all

variable {α κ : Type}

/-- What makes a comparison a partial order, up to the items it finds equal. -/
structure Lawful (compare : α → α → Answer) : Prop where
  refl : ∀ item, compare item item = .equal
  swap : ∀ first second, compare second first = (compare first second).swap
  congr : ∀ {first second}, compare first second = .equal → ∀ third, compare first third = compare second third
  trans : ∀ {first second third}, compare first second = .less → compare second third = .less →
    compare first third = .less

namespace Lawful

variable {compare : α → α → Answer} (lawful : Lawful compare) {first second third : α}
include lawful

theorem symm (same : compare first second = .equal) : compare second first = .equal := by
  rw [lawful.swap, same]
  rfl

theorem congr_right (same : compare first second = .equal) (third : α) : compare third first = compare third second := by
  rw [lawful.swap first third, lawful.swap second third, lawful.congr same]

theorem orElse_trans {later later' later'' : Answer} (rest : later = .less → later' = .less → later'' = .less)
    (less : (compare first second).orElse later = .less) (more : (compare second third).orElse later' = .less) :
    (compare first third).orElse later'' = .less := by
  unfold Answer.orElse at less more ⊢
  split at less
  next equal =>
    rw [lawful.congr equal]
    split at more
    next equal' => rw [if_pos equal', rest less more]
    next apart => rw [if_neg apart, more]
  next apart =>
    split at more
    next equal' => rw [← lawful.congr_right equal', if_neg apart, less]
    next => rw [lawful.trans less more, if_neg (by decide)]

end Lawful

theorem Lawful.on {β : Type} {compare : β → β → Answer} (lawful : Lawful compare) (part : α → β) :
    Lawful fun first second => compare (part first) (part second) where
  refl _ := lawful.refl _
  swap _ _ := lawful.swap _ _
  congr same _ := lawful.congr same _
  trans less more := lawful.trans less more

def byKey [LinearOrder κ] (key : α → κ) (first second : α) : Answer :=
  if key first < key second then .less else if key first = key second then .equal else .greater

theorem byKey_eq_less [LinearOrder κ] {key : α → κ} {first second : α} :
    byKey key first second = .less ↔ key first < key second := by
  unfold byKey
  split_ifs <;> simp_all

theorem byKey_eq_equal [LinearOrder κ] {key : α → κ} {first second : α} :
    byKey key first second = .equal ↔ key first = key second := by
  unfold byKey
  split_ifs with less same
  · simp [less.ne]
  · simp [same]
  · simp [same]

theorem byKey_lawful [LinearOrder κ] (key : α → κ) : Lawful (byKey key) where
  refl item := byKey_eq_equal.mpr rfl
  swap first second := by
    rcases lt_trichotomy (key first) (key second) with less | same | greater
    · simp [byKey, less, less.not_gt, less.ne', Answer.swap]
    · simp [byKey, same, Answer.swap]
    · simp [byKey, greater, greater.not_gt, greater.ne', Answer.swap]
  congr same third := by simp only [byKey, byKey_eq_equal.mp same]
  trans less later := byKey_eq_less.mpr ((byKey_eq_less.mp less).trans (byKey_eq_less.mp later))

/-- The comparison that only tells whether two keys are the same. -/
def byEquality [DecidableEq κ] (key : α → κ) (first second : α) : Answer :=
  if key first = key second then .equal else .unordered

theorem byEquality_lawful [DecidableEq κ] (key : α → κ) : Lawful (byEquality key) where
  refl item := if_pos rfl
  swap first second := by
    by_cases same : key first = key second
    · simp [byEquality, same, Answer.swap]
    · simp [byEquality, same, Ne.symm same, Answer.swap]
  congr := by
    intro first second same third
    have keys : key first = key second := by
      by_contra differs
      simp [byEquality, differs] at same
    simp only [byEquality, keys]
  trans := by
    intro first second third less
    unfold byEquality at less
    split at less <;> cases less

theorem trivial_lawful : Lawful fun _ _ : α => Answer.equal where
  refl _ := rfl
  swap _ _ := rfl
  congr _ _ := rfl
  trans less := by cases less

theorem Lawful.andThen {compare later : α → α → Answer} (lawful : Lawful compare) (lawful' : Lawful later) :
    Lawful fun first second => (compare first second).orElse (later first second) where
  refl item := by simp [Answer.orElse, lawful.refl, lawful'.refl]
  swap first second := by
    rw [lawful.swap first second, lawful'.swap first second]
    cases compare first second <;> rfl
  congr := by
    intro first second same third
    obtain ⟨equal, equal'⟩ := Answer.orElse_eq_equal.mp same
    simp only [lawful.congr equal, lawful'.congr equal']
  trans := lawful.orElse_trans lawful'.trans

/-- Items that pass a test come first, each kind compared in its own way. -/
def split (test : α → Bool) (low high : α → α → Answer) (first second : α) : Answer :=
  if test first && !test second then .less
  else if !test first && test second then .greater
  else if test first && test second then low first second
  else high first second

theorem split_lawful (test : α → Bool) {low high : α → α → Answer} (lawful : Lawful low) (lawful' : Lawful high) :
    Lawful (split test low high) where
  refl item := by cases passes : test item <;> simp [split, passes, lawful.refl, lawful'.refl]
  swap first second := by
    unfold split
    cases test first <;> cases test second
    · exact lawful'.swap first second
    · rfl
    · rfl
    · exact lawful.swap first second
  congr := by
    intro first second same third
    unfold split at same ⊢
    cases passes : test first <;> cases passes' : test second <;> simp only [passes, passes'] at same ⊢
    · cases test third
      · exact lawful'.congr same third
      · rfl
    · cases same
    · cases same
    · cases test third
      · rfl
      · exact lawful.congr same third
  trans := by
    intro first second third less more
    unfold split at less more ⊢
    cases passes : test first <;> cases passes' : test second <;> cases passes'' : test third <;>
      simp only [passes, passes', passes''] at less more ⊢
    · exact lawful'.trans less more
    · cases more
    · cases less
    · cases less
    · rfl
    · cases more
    · rfl
    · exact lawful.trans less more

/-- Lists are compared item by item; a list is less than its continuations. -/
def lists (compare : α → α → Answer) : List α → List α → Answer
  | [], [] => .equal
  | [], _ :: _ => .less
  | _ :: _, [] => .greater
  | first :: rest, second :: rest' => (compare first second).orElse (lists compare rest rest')

theorem lists_lawful {compare : α → α → Answer} (lawful : Lawful compare) : Lawful (lists compare) where
  refl items := by
    induction items with
    | nil => rfl
    | cons item rest ih => simp [lists, lawful.refl, Answer.orElse, ih]
  swap first second := by
    induction first generalizing second with
    | nil => cases second <;> rfl
    | cons item rest ih =>
      cases second with
      | nil => rfl
      | cons item' rest' =>
        unfold lists
        rw [lawful.swap item item', ih rest']
        cases compare item item' <;> rfl
  congr := by
    intro first second same third
    induction first generalizing second third with
    | nil => cases second with
      | nil => rfl
      | cons => cases same
    | cons item rest ih =>
      cases second with
      | nil => cases same
      | cons item' rest' =>
        obtain ⟨equal, equal'⟩ := Answer.orElse_eq_equal.mp same
        cases third with
        | nil => rfl
        | cons third others =>
          unfold lists
          rw [lawful.congr equal, ih equal']
  trans := by
    intro first second third less more
    induction first generalizing second third with
    | nil =>
      cases third with
      | nil => cases second <;> cases more
      | cons => rfl
    | cons item rest ih =>
      cases second with
      | nil => cases less
      | cons item' rest' =>
        cases third with
        | nil => cases more
        | cons item'' rest'' => exact lawful.orElse_trans ih less more

theorem lists_append {compare : α → α → Answer} (lawful : Lawful compare) (shared rest rest' : List α) :
    lists compare (shared ++ rest) (shared ++ rest') = lists compare rest rest' := by
  induction shared with
  | nil => rfl
  | cons item shared ih => simp [lists, lawful.refl, Answer.orElse, ih]

/-- Items of which no two are unordered can be sorted by a lawful comparison. -/
theorem orders_of_lawful {compare : α → α → Answer} (lawful : Lawful compare) {less : α → α → Bool} {items : List α}
    (isLess : ∀ first second, less first second = true ↔ compare first second = .less)
    (comparable : ∀ first ∈ items, ∀ second ∈ items, compare first second ≠ .unordered) : Orders less items where
  irrefl item _ := by
    rw [Bool.eq_false_iff, Ne, isLess, lawful.refl]
    decide
  trans first _ second _ third _ before before' := by
    rw [isLess] at before before' ⊢
    exact lawful.trans before before'
  transApart first isFirst second isSecond third _ apart apart' := by
    rw [Bool.eq_false_iff, Ne, isLess] at apart apart' ⊢
    intro before
    -- The second is not after the first, so it is before the third as the first is.
    have swapped := lawful.swap first second
    have known := comparable first isFirst second isSecond
    cases answer : compare first second with
    | less => exact apart answer
    | equal => exact apart' ((lawful.congr answer third).symm.trans before)
    | greater =>
      rw [answer] at swapped
      exact apart' (lawful.trans swapped before)
    | unordered => exact known answer

end OcneProvider.Data.Comparison
