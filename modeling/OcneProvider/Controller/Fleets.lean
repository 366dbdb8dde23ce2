import Mathlib.Data.Multiset.MapFold
import Mathlib.Data.Multiset.UnionInter
import Mathlib.Logic.Relation

/-! The machines of a control plane by who owns them and whether they are being
deleted: what a pass of a controller and what anyone else may change about them. -/

namespace OcneProvider.Controller.Fleets

open Multiset

structure Member where
  name : String
  owned : Bool
  /-- Whether the machine has a controller, be it its owner or not. -/
  controlled : Bool
  deleting : Bool
  deriving DecidableEq

abbrev Fleet := Multiset Member

namespace Fleet

def claimed (member : Member) : Bool := member.owned || !member.controlled

def staying (member : Member) : Bool := member.owned && !member.deleting

def Distinct (fleet : Fleet) : Prop := (fleet.map Member.name).Nodup

structure Settled (fleet : Fleet) : Prop where
  owned : ∀ member ∈ fleet, member.owned = true
  controlled : ∀ member ∈ fleet, member.controlled = true
  kept : ∀ member ∈ fleet, member.deleting = false

def adopt (names : String → Bool) (fleet : Fleet) : Fleet :=
  fleet.map fun member => if names member.name then { member with owned := true, controlled := true } else member

def startDeletion (name : String) (fleet : Fleet) : Fleet :=
  fleet.map fun member => if member.name = name then { member with deleting := true } else member

def remove (name : String) (fleet : Fleet) : Fleet :=
  fleet.filter (·.name ≠ name)

/-- Adoptions, or one creation or deletion in a settled fleet whose size allows it. -/
inductive Pass (mayGrow mayShrink : Nat → Prop) (fleet : Fleet) : Fleet → Prop
  | adopt (names : String → Bool)
      (free : ∀ member ∈ fleet, names member.name = true → member.controlled = false) :
      Pass mayGrow mayShrink fleet (fleet.adopt names)
  | create (name : String) (settled : fleet.Settled) (grow : mayGrow fleet.card) :
      Pass mayGrow mayShrink fleet (⟨name, true, true, false⟩ ::ₘ fleet)
  | startDeletion (name : String) (settled : fleet.Settled) (shrink : mayShrink fleet.card) :
      Pass mayGrow mayShrink fleet (fleet.startDeletion name)
  | remove (name : String) (settled : fleet.Settled) (shrink : mayShrink fleet.card) :
      Pass mayGrow mayShrink fleet (fleet.remove name)

/-- Others create no machine and change no owner; they may issue deletions or not. -/
def Event (deletions : Prop) (fleet next : Fleet) : Prop :=
  ∀ after ∈ next, ∃ before ∈ fleet, after.name = before.name ∧ after.owned = before.owned ∧
    after.controlled = before.controlled ∧
    (after.deleting = before.deleting ∨ deletions ∧ after.deleting = true)

section Counts

variable {fleet next : Fleet} {mayGrow mayShrink : Nat → Prop} {deletions : Prop}

@[simp] theorem adopt_none : fleet.adopt (fun _ => false) = fleet := by
  simp [adopt]

theorem Pass.refl (fleet : Fleet) : Pass mayGrow mayShrink fleet fleet := by
  have pass : Pass mayGrow mayShrink fleet (fleet.adopt fun _ => false) := .adopt _ (by simp)
  rwa [adopt_none] at pass

theorem adopt_adopt (first second : String → Bool) :
    (fleet.adopt first).adopt second = fleet.adopt fun name => first name || second name := by
  unfold adopt
  rw [map_map]
  apply map_congr rfl
  intro mem _
  by_cases one : first mem.name = true
  · by_cases two : second mem.name = true <;> simp [one, two]
  · by_cases two : second mem.name = true <;> simp [one, two]

theorem Settled.countP_claimed (settled : fleet.Settled) : fleet.countP (claimed · = true) = fleet.card := by
  apply countP_eq_card.mpr
  intro member mem
  simp [claimed, settled.owned member mem]

theorem Settled.countP_staying (settled : fleet.Settled) : fleet.countP (staying · = true) = fleet.card := by
  apply countP_eq_card.mpr
  intro member mem
  simp [staying, settled.owned member mem, settled.kept member mem]

theorem Settled.countP_deleting (settled : fleet.Settled) : fleet.countP (·.deleting = true) = 0 := by
  apply countP_eq_zero.mpr
  intro member mem
  simp [settled.kept member mem]

theorem countP_owned_le_claimed : fleet.countP (·.owned = true) ≤ fleet.countP (claimed · = true) := by
  simp only [countP_eq_card_filter]
  apply card_le_card
  apply monotone_filter_right
  intro mem owned
  simp [claimed, show mem.owned = true from owned]

theorem Distinct.countP_name_le_one (apart : fleet.Distinct) (name : String) : fleet.countP (·.name = name) ≤ 1 := by
  have once := nodup_iff_count_le_one.mp apart name
  rw [count_map] at once
  simpa only [countP_eq_card_filter, eq_comm] using once

variable {p : Member → Bool} (name : String)

theorem countP_map_eq {change : Member → Member} (same : ∀ member ∈ fleet, p (change member) = p member) :
    (fleet.map change).countP (p · = true) = fleet.countP (p · = true) := by
  rw [countP_map, countP_eq_card_filter]
  congr 1
  apply filter_congr
  intro member mem
  rw [same member mem]

theorem countP_claimed_adopt {names : String → Bool}
    (free : ∀ member ∈ fleet, names member.name = true → member.controlled = false) :
    (fleet.adopt names).countP (claimed · = true) = fleet.countP (claimed · = true) := by
  apply countP_map_eq
  intro member mem
  split
  · simp [claimed, free member mem ‹_›]
  · rfl

theorem countP_claimed_startDeletion :
    (fleet.startDeletion name).countP (claimed · = true) = fleet.countP (claimed · = true) := by
  apply countP_map_eq
  intro member mem
  split <;> rfl

theorem countP_remove_le (p : Member → Prop) [DecidablePred p] :
    (fleet.remove name).countP p ≤ fleet.countP p :=
  countP_le_of_le p (filter_le _ _)

theorem Pass.countP_claimed_le {bound : Nat} (pass : Pass mayGrow mayShrink fleet next)
    (limit : ∀ size ≤ bound, mayGrow size → size < bound) (held : fleet.countP (claimed · = true) ≤ bound) :
    next.countP (claimed · = true) ≤ bound := by
  cases pass with
  | adopt names free => rwa [countP_claimed_adopt free]
  | create name settled grow =>
    rw [settled.countP_claimed] at held
    rw [countP_cons_of_pos (p := (claimed · = true)) _ rfl, settled.countP_claimed]
    exact limit _ held grow
  | startDeletion name settled shrink => rwa [countP_claimed_startDeletion]
  | remove name settled shrink => exact (countP_remove_le name _).trans held

theorem Event.countP_le (event : Event deletions fleet next) (apart : next.Distinct)
    (kept : ∀ before ∈ fleet, ∀ after ∈ next, after.name = before.name → after.owned = before.owned →
      after.controlled = before.controlled → (after.deleting = before.deleting ∨ deletions ∧ after.deleting = true) →
      p after = true → p before = true) : next.countP (p · = true) ≤ fleet.countP (p · = true) := by
  have names : (next.filter (p · = true)).map Member.name ⊆ (fleet.filter (p · = true)).map Member.name := by
    intro name found
    obtain ⟨after, mem, rfl⟩ := mem_map.mp found
    obtain ⟨member, holds⟩ := mem_filter.mp mem
    obtain ⟨before, earlier, name, owned, controlled, deleting⟩ := event after member
    exact mem_map.mpr ⟨before, mem_filter.mpr
      ⟨earlier, kept before earlier after member name owned controlled deleting holds⟩, name.symm⟩
  have once : ((next.filter (p · = true)).map Member.name).Nodup :=
    nodup_of_le (map_le_map (filter_le _ _)) apart
  have fewer := card_le_card ((le_iff_subset once).mpr names)
  simpa [countP_eq_card_filter] using fewer

theorem Event.countP_claimed_le (event : Event deletions fleet next) (apart : next.Distinct) :
    next.countP (claimed · = true) ≤ fleet.countP (claimed · = true) := by
  apply event.countP_le apart
  intro before _ after _ _ owned controlled _ holds
  simpa [claimed, owned, controlled] using holds

theorem Event.countP_deleting_le (event : Event False fleet next) (apart : next.Distinct) :
    next.countP (·.deleting = true) ≤ fleet.countP (·.deleting = true) := by
  apply event.countP_le apart
  intro before _ after _ _ _ _ deleting holds
  rcases deleting with same | ⟨impossible, _⟩
  · rwa [← same]
  · exact impossible.elim

theorem countP_deleting_startDeletion (settled : fleet.Settled) (name : String) :
    (fleet.startDeletion name).countP (·.deleting = true) = fleet.countP (·.name = name) := by
  unfold startDeletion
  rw [countP_map, countP_eq_card_filter]
  congr 1
  apply filter_congr
  intro member mem
  by_cases named : member.name = name <;> simp [named, settled.kept member mem]

theorem Pass.countP_deleting_le (pass : Pass mayGrow mayShrink fleet next) (apart : fleet.Distinct)
    (held : fleet.countP (·.deleting = true) ≤ 1) : next.countP (·.deleting = true) ≤ 1 := by
  cases pass with
  | adopt names free =>
    have same : (fleet.adopt names).countP (·.deleting = true) = fleet.countP (·.deleting = true) := by
      apply countP_map_eq
      intro member mem
      split <;> rfl
    rwa [same]
  | create name settled grow =>
    rw [countP_cons_of_neg _ (by simp), settled.countP_deleting]
    exact Nat.zero_le 1
  | startDeletion name settled shrink =>
    rw [countP_deleting_startDeletion settled]
    exact apart.countP_name_le_one name
  | remove name settled shrink => exact (countP_remove_le name _).trans held

theorem Settled.card_le_startDeletion (settled : fleet.Settled) (apart : fleet.Distinct) (name : String) :
    fleet.card ≤ (fleet.startDeletion name).countP (staying · = true) + 1 := by
  have others : (fleet.startDeletion name).countP (staying · = true) = fleet.countP (¬ ·.name = name) := by
    unfold startDeletion
    rw [countP_map, countP_eq_card_filter]
    congr 1
    apply filter_congr
    intro member mem
    by_cases named : member.name = name <;>
      simp [staying, named, settled.kept member mem, settled.owned member mem]
  have split := card_eq_countP_add_countP (·.name = name) fleet
  have once := apart.countP_name_le_one name
  omega

theorem Settled.card_le_remove (settled : fleet.Settled) (apart : fleet.Distinct) (name : String) :
    fleet.card ≤ (fleet.remove name).countP (staying · = true) + 1 := by
  have others : (fleet.remove name).countP (staying · = true) = fleet.countP (¬ ·.name = name) := by
    unfold remove
    rw [countP_filter]
    apply countP_congr rfl
    intro member mem
    simp [staying, settled.kept member mem, settled.owned member mem]
  have split := card_eq_countP_add_countP (·.name = name) fleet
  have once := apart.countP_name_le_one name
  omega

end Counts

end Fleet

end OcneProvider.Controller.Fleets
