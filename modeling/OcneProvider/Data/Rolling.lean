import Mathlib.Data.Finset.Card
import Mathlib.Data.List.Count
import Mathlib.Tactic.Linarith

/-! Rolling replacement of a crew: one item is added or removed at a time, with a surge of at most
one, until all are up to date and there are as many as wanted. -/

namespace OcneProvider.Data.Rolling

open Finset

structure Item (β : Type) where
  name : β
  outdated : Bool
  marked : Bool
  deriving DecidableEq

variable {β : Type}

def Item.new (name : β) : Item β := ⟨name, false, false⟩

/-- The items to be removed first have the highest rank. -/
def Item.rank (item : Item β) : Nat :=
  (if item.marked then 2 else 0) + if item.outdated then 1 else 0

theorem Item.rank_new (name : β) : (Item.new name).rank = 0 := rfl

theorem Item.rank_pos_of_outdated {item : Item β} (outdated : item.outdated = true) : 0 < item.rank := by
  simp [Item.rank, outdated]

abbrev Crew (β : Type) := Finset (Item β)

def removedBefore (removed : Nat → List β) (round : Nat) : List β :=
  (List.range round).flatMap removed

theorem removedBefore_succ (removed : Nat → List β) (round : Nat) :
    removedBefore removed (round + 1) = removedBefore removed round ++ removed round := by
  simp [removedBefore, List.range_succ]

namespace Crew

variable [DecidableEq β] (wanted surge : Nat) (crew : Crew β)

def HasOutdated : Prop := ∃ item ∈ crew, item.outdated = true

instance : Decidable (HasOutdated crew) :=
  inferInstanceAs (Decidable (∃ item ∈ crew, item.outdated = true))

def special : Crew β := crew.filter (0 < ·.rank)

def Distinct : Prop := Set.InjOn Item.name (crew : Set (Item β))

def MayGrow : Prop :=
  HasOutdated crew ∧ crew.card < wanted + surge ∨ ¬ HasOutdated crew ∧ crew.card < wanted

def MayShrink : Prop :=
  HasOutdated crew ∧ wanted + surge ≤ crew.card ∨ ¬ HasOutdated crew ∧ wanted < crew.card

def Finished : Prop := ¬ HasOutdated crew ∧ crew.card = wanted

/-- One round, with the names of the items it removes. -/
inductive Step : List β → Crew β → Prop
  | grow (name : β) (free : ∀ item ∈ crew, item.name ≠ name) (fewer : MayGrow wanted surge crew) :
      Step [] (insert (.new name) crew)
  | shrink (item : Item β) (present : item ∈ crew) (first : ∀ other ∈ crew, other.rank ≤ item.rank)
      (more : MayShrink wanted surge crew) : Step [item.name] (crew.erase item)
  | rest (finished : Finished wanted crew) : Step [] crew

/-- A bound on the rounds to come. -/
def remaining : Nat :=
  if HasOutdated crew then (special crew).card * (wanted + surge + 2) + (wanted + surge - crew.card)
  else (wanted - crew.card) + (crew.card - wanted)

/-- A bound on the removals to come. -/
def budget : Nat :=
  (special crew).card + if HasOutdated crew then 0 else crew.card - wanted

section Changes

variable {crew} {item : Item β} {name : β}

theorem card_insert_new (free : ∀ item ∈ crew, item.name ≠ name) : (insert (Item.new name) crew).card = crew.card + 1 :=
  card_insert_of_notMem fun mem => free _ mem rfl

theorem hasOutdated_insert_new : HasOutdated (insert (Item.new name) crew) ↔ HasOutdated crew := by
  simp [HasOutdated, Item.new]

theorem special_insert_new : special (insert (Item.new name) crew) = special crew := by
  simp [special, filter_insert, Item.rank_new]

theorem special_erase : special (crew.erase item) = (special crew).erase item :=
  filter_erase _ _ _

theorem HasOutdated.of_erase (outdated : HasOutdated (crew.erase item)) : HasOutdated crew := by
  obtain ⟨other, mem, old⟩ := outdated
  exact ⟨other, mem_of_mem_erase mem, old⟩

omit [DecidableEq β] in
/-- As long as something is outdated, what is removed first is outdated or marked. -/
theorem rank_pos_of_first (first : ∀ other ∈ crew, other.rank ≤ item.rank) (outdated : HasOutdated crew) :
    0 < item.rank := by
  obtain ⟨other, mem, old⟩ := outdated
  exact (Item.rank_pos_of_outdated old).trans_le (first other mem)

theorem card_special_erase (mem : item ∈ crew) (ranked : 0 < item.rank) :
    (special (crew.erase item)).card + 1 = (special crew).card := by
  rw [special_erase]
  exact card_erase_add_one (mem_filter.mpr ⟨mem, ranked⟩)

theorem card_special_erase_le : (special (crew.erase item)).card ≤ (special crew).card := by
  rw [special_erase]
  exact card_le_card (erase_subset _ _)

end Changes

section Steps

variable {wanted surge crew} {next : Crew β} {removed : List β}

variable (step : Step wanted surge crew removed next)
include step

theorem Step.card_le (few : crew.card ≤ wanted + surge) : next.card ≤ wanted + surge := by
  cases step with
  | grow name free fewer =>
    rw [card_insert_new free]
    rcases fewer with ⟨_, fewer⟩ | ⟨_, fewer⟩ <;> omega
  | shrink item mem _ _ => exact (card_erase_le).trans few
  | rest _ => exact few

theorem Step.distinct (apart : Distinct crew) : Distinct next := by
  cases step with
  | grow name free fewer =>
    intro one isOne other isOther same
    rw [mem_coe, mem_insert] at isOne isOther
    rcases isOne with rfl | isOne <;> rcases isOther with rfl | isOther
    · rfl
    · exact absurd same.symm (free other isOther)
    · exact absurd same (free one isOne)
    · exact apart isOne isOther same
  | shrink item mem _ _ => exact apart.mono (by simp)
  | rest _ => exact apart

omit step in
theorem card_erase_le_wanted {item : Item β} (mem : item ∈ crew) (small : surge ≤ 1)
    (few : crew.card ≤ wanted + surge) : (crew.erase item).card ≤ wanted := by
  rw [card_erase_of_mem mem]
  omega

/-- Every round but the last ones brings the end nearer. -/
theorem Step.remaining_lt (small : surge ≤ 1)
    (few : crew.card ≤ wanted + surge) (unfinished : ¬ Finished wanted crew) :
    remaining wanted surge next < remaining wanted surge crew := by
  cases step with
  | grow name free fewer =>
    simp only [remaining, hasOutdated_insert_new, special_insert_new, card_insert_new free]
    rcases fewer with ⟨outdated, fewer⟩ | ⟨current, fewer⟩
    · rw [if_pos outdated, if_pos outdated]
      omega
    · rw [if_neg current, if_neg current]
      omega
  | shrink item mem first more =>
    have size := card_erase_add_one mem
    rcases more with ⟨outdated, full⟩ | ⟨current, more⟩
    · have fewer := card_special_erase mem (rank_pos_of_first first outdated)
      have one : (special crew).card * (wanted + surge + 2) =
          (special (crew.erase item)).card * (wanted + surge + 2) + (wanted + surge + 2) := by
        rw [← fewer, Nat.succ_mul]
      simp only [remaining, if_pos outdated]
      split <;> omega
    · have still : ¬ HasOutdated (crew.erase item) := fun outdated => current outdated.of_erase
      simp only [remaining, if_neg current, if_neg still]
      omega
  | rest done => exact absurd done unfinished

omit step in
omit [DecidableEq β] in
theorem Finished.not_mayGrow (done : Finished wanted crew) : ¬ MayGrow wanted surge crew := by
  rintro (⟨outdated, _⟩ | ⟨_, fewer⟩)
  · exact done.1 outdated
  · exact absurd done.2 fewer.ne

omit step in
omit [DecidableEq β] in
theorem Finished.not_mayShrink (done : Finished wanted crew) : ¬ MayShrink wanted surge crew := by
  rintro (⟨outdated, _⟩ | ⟨_, more⟩)
  · exact done.1 outdated
  · exact absurd done.2 more.ne'

theorem Step.of_finished (done : Finished wanted crew) : removed = [] ∧ next = crew := by
  cases step with
  | grow name free fewer => exact absurd fewer done.not_mayGrow
  | shrink item mem first more => exact absurd more done.not_mayShrink
  | rest _ => exact ⟨rfl, rfl⟩

theorem Step.hasOutdated (outdated : HasOutdated next) : HasOutdated crew := by
  cases step with
  | grow name free fewer => exact hasOutdated_insert_new.mp outdated
  | shrink item mem first more => exact outdated.of_erase
  | rest done => exact outdated

theorem Step.nonempty (some : 1 ≤ crew.card) (positive : 1 ≤ wanted) (enough : surge = 0 → 2 ≤ wanted) : 1 ≤ next.card := by
  cases step with
  | grow name free fewer =>
    rw [card_insert_new free]
    omega
  | shrink item mem first more =>
    rw [card_erase_of_mem mem]
    rcases more with ⟨_, full⟩ | ⟨_, more⟩ <;> omega
  | rest done => exact some

theorem Step.budget_le (small : surge ≤ 1)
    (few : crew.card ≤ wanted + surge) : removed.length + budget wanted next ≤ budget wanted crew := by
  cases step with
  | grow name free fewer =>
    simp only [budget, hasOutdated_insert_new, special_insert_new, card_insert_new free, List.length_nil]
    rcases fewer with ⟨outdated, fewer⟩ | ⟨current, fewer⟩
    · rw [if_pos outdated]
      omega
    · rw [if_neg current]
      omega
  | shrink item mem first more =>
    have size := card_erase_add_one mem
    simp only [budget, List.length_singleton]
    rcases more with ⟨outdated, full⟩ | ⟨current, more⟩
    · have fewer := card_special_erase mem (rank_pos_of_first first outdated)
      split <;> omega
    · have still : ¬ HasOutdated (crew.erase item) := fun outdated => current outdated.of_erase
      have fewer : (special (crew.erase item)).card ≤ (special crew).card := card_special_erase_le
      rw [if_neg current, if_neg still]
      omega
  | rest _ => simp

structure Waiting (item : Item β) (earlier : List β) (crew : Crew β) : Prop where
  present : item ∈ crew
  never : earlier.count item.name = 0

/-- Removed once; its name is left to new items, which are never removed. -/
structure Replaced (wanted : Nat) (item : Item β) (earlier : List β) (crew : Crew β) : Prop where
  absent : item ∉ crew
  once : earlier.count item.name = 1
  others : ∀ other ∈ crew, other.name = item.name → other.rank = 0
  tight : HasOutdated crew ∨ crew.card ≤ wanted

theorem Step.of_waiting {item : Item β} {earlier : List β}
    (small : surge ≤ 1) (few : crew.card ≤ wanted + surge) (distinct : crew.Distinct) (waiting : Waiting item earlier crew) :
    Waiting item (earlier ++ removed) next ∨ Replaced wanted item (earlier ++ removed) next := by
  obtain ⟨mem, never⟩ := waiting
  cases step with
  | grow name free fewer => exact .inl ⟨mem_insert_of_mem mem, by simpa using never⟩
  | shrink first isFirst highest more =>
    by_cases same : first = item
    · subst same
      refine .inr ⟨notMem_erase _ _, by simp [never], fun other isOther named => ?_,
        .inr (card_erase_le_wanted mem small few)⟩
      obtain ⟨differs, isOther⟩ := mem_erase.mp isOther
      exact absurd (distinct isOther mem named) differs
    · have apart : first.name ≠ item.name := fun named => same (distinct isFirst mem named)
      exact .inl ⟨mem_erase.mpr ⟨fun is => same is.symm, mem⟩, by simp [never, apart]⟩
  | rest done => exact .inl ⟨mem, by simpa using never⟩

theorem Step.of_replaced {item : Item β} {earlier : List β}
    (small : surge ≤ 1) (few : crew.card ≤ wanted + surge) (outdated : item.outdated = true)
    (replaced : Replaced wanted item earlier crew) : Replaced wanted item (earlier ++ removed) next := by
  obtain ⟨absent, once, others, tight⟩ := replaced
  cases step with
  | grow name free fewer =>
    refine ⟨?_, by simpa using once, fun other isOther named => ?_, ?_⟩
    · rw [mem_insert, not_or]
      refine ⟨?_, absent⟩
      rintro rfl
      cases outdated
    · rcases mem_insert.mp isOther with rfl | isOther
      · rfl
      · exact others other isOther named
    · rw [hasOutdated_insert_new, card_insert_new free]
      rcases fewer with ⟨old, _⟩ | ⟨_, fewer⟩
      · exact .inl old
      · exact .inr fewer
  | shrink first isFirst highest more =>
    rcases more with ⟨old, _⟩ | ⟨current, more⟩
    · have ranked := rank_pos_of_first highest old
      have apart : first.name ≠ item.name := fun named => by
        have none := others first isFirst named
        omega
      exact ⟨fun is => absent (mem_of_mem_erase is), by simp [once, apart],
        fun other isOther => others other (mem_of_mem_erase isOther),
        .inr (card_erase_le_wanted isFirst small few)⟩
    · rcases tight with old | tight
      · exact absurd old current
      · omega
  | rest done => exact ⟨absent, by simpa using once, others, tight⟩

end Steps

end Crew

structure Rounds [DecidableEq β] (wanted surge : Nat) (crew : Nat → Crew β) (removed : Nat → List β) : Prop where
  step : ∀ round, (crew round).Step wanted surge (removed round) (crew (round + 1))
  small : surge ≤ 1
  few : (crew 0).card ≤ wanted + surge
  distinct : (crew 0).Distinct

namespace Rounds
open Crew

variable [DecidableEq β] {wanted surge : Nat} {crew : Nat → Crew β} {removed : Nat → List β} {round : Nat}
variable (rounds : Rounds wanted surge crew removed)
include rounds

theorem card_le (round : Nat) : (crew round).card ≤ wanted + surge := by
  induction round with
  | zero => exact rounds.few
  | succ round ih => exact (rounds.step round).card_le ih

theorem distinct_at (round : Nat) : (crew round).Distinct := by
  induction round with
  | zero => exact rounds.distinct
  | succ round ih => exact (rounds.step round).distinct ih

theorem finished_or_remaining_le (round : Nat) :
    Finished wanted (crew round) ∨ remaining wanted surge (crew round) + round ≤ remaining wanted surge (crew 0) := by
  induction round with
  | zero => exact .inr le_rfl
  | succ round ih =>
    by_cases done : Finished wanted (crew round)
    · rw [((rounds.step round).of_finished done).2]
      exact .inl done
    · have nearer := (rounds.step round).remaining_lt rounds.small (rounds.card_le round) done
      exact .inr (by have bound := ih.resolve_left done; omega)

theorem finished_of_remaining_le (enough : remaining wanted surge (crew 0) ≤ round) : Finished wanted (crew round) := by
  by_contra unfinished
  have bound := (rounds.finished_or_remaining_le round).resolve_left unfinished
  have nearer := (rounds.step round).remaining_lt rounds.small (rounds.card_le round) unfinished
  omega

theorem length_removedBefore_le (round : Nat) :
    (removedBefore removed round).length + budget wanted (crew round) ≤ budget wanted (crew 0) := by
  induction round with
  | zero => simp [removedBefore]
  | succ round ih =>
    have paid := (rounds.step round).budget_le rounds.small (rounds.card_le round)
    rw [removedBefore_succ, List.length_append]
    omega

theorem outdated_removed_once {item : Item β} (start : item ∈ crew 0) (outdated : item.outdated = true) (round : Nat) :
    Waiting item (removedBefore removed round) (crew round) ∨
      Replaced wanted item (removedBefore removed round) (crew round) := by
  induction round with
  | zero => exact .inl ⟨start, by simp [removedBefore]⟩
  | succ round ih =>
    have step := rounds.step round
    rw [removedBefore_succ]
    rcases ih with waiting | replaced
    · exact step.of_waiting rounds.small (rounds.card_le round) (rounds.distinct_at round) waiting
    · exact .inr (step.of_replaced rounds.small (rounds.card_le round) outdated replaced)

/-- In the end every item outdated at the start has been removed exactly once. -/
theorem count_removedBefore {item : Item β} (start : item ∈ crew 0) (outdated : item.outdated = true)
    (done : Finished wanted (crew round)) : (removedBefore removed round).count item.name = 1 := by
  rcases rounds.outdated_removed_once start outdated round with waiting | replaced
  · exact absurd ⟨item, waiting.present, outdated⟩ done.1
  · exact replaced.once

end Rounds

end OcneProvider.Data.Rolling
